import PwdNow.Daemon.Symbolic

/-!
# Daemon — deleting a folder

`folders::delete` of `daemon/src/vault/folders.rs`, on tables where every statement enforces that
`credentials.folder_id` references `folders(id)`. There is no transaction: the credentials are moved
or deleted first, and the deletion of the folder may still fail.
-/

namespace PwdNow.Daemon

open Kit Kit.Fallible List

/-- `credentials.folder_id REFERENCES folders(id)`. -/
def Database.ForeignKey (db : Database) : Prop :=
  ∀ row ∈ db.credentials, ∀ f ∈ row.folderId, ∃ folder ∈ db.folders, folder.id = f

namespace Folders

def foreignKeyFailed : Failure := .err (.database "FOREIGN KEY constraint failed")

/-- The row with the folder `target` in the place of `id`. -/
def moveRow (id target : String) (row : CredentialRow) : CredentialRow :=
  if row.folderId = some id then { row with folderId := some target } else row

/-- `UPDATE credentials SET folder_id=?1 WHERE folder_id=?2`: rows that change need their new
folder, and the statement fails as a whole. -/
def moveCredentials (target id : String) : Fallible Failure Database Unit := fun db =>
  if db.credentials.any (·.folderId = some id) ∧ ¬ db.folders.any (·.id = target) then
    (.error foreignKeyFailed, db)
  else (.ok (), { db with credentials := db.credentials.map (moveRow id target) })

/-- `DELETE FROM credentials WHERE folder_id=?1`. -/
def deleteCredentials (id : String) : Fallible Failure Database Unit :=
  modify fun db => { db with credentials := db.credentials.filter (·.folderId ≠ some id) }

/-- `DELETE FROM folders WHERE id=?1`, which fails while a credential is in the folder; returns the
number of rows that are gone. -/
def deleteRow (id : String) : Fallible Failure Database Nat := fun db =>
  if db.folders.any (·.id = id) ∧ db.credentials.any (·.folderId = some id) then
    (.error foreignKeyFailed, db)
  else (.ok (db.folders.countP (·.id = id)), { db with folders := db.folders.filter (·.id ≠ id) })

/-- What is done with the credentials of the folder. -/
def emptyFolder (id : String) : Option String → Fallible Failure Database Unit
  | some target => moveCredentials target id
  | none => deleteCredentials id

/-- `folders::delete`: no transaction around the statements. -/
def delete (id : String) (moveCredentialsTo : Option String) : Fallible Failure Database Unit := do
  emptyFolder id moveCredentialsTo
  let changed ← deleteRow id
  if changed = 0 then throw (.err (.database "Query returned no rows")) else pure ()

/-- The credentials once the folder is emptied. -/
def conserved (id : String) (rows : List CredentialRow) : Option String → List CredentialRow
  | some target => rows.map (moveRow id target)
  | none => rows.filter (·.folderId ≠ some id)

variable {db : Database} {id : String} {dest : Option String} {row : CredentialRow}

theorem emptyFolder_cases :
    emptyFolder id dest db = (.error foreignKeyFailed, db) ∨
      (emptyFolder id dest db = (.ok (), { db with credentials := conserved id db.credentials dest }) ∧
        ∀ target, dest = some target → (∃ row ∈ db.credentials, row.folderId = some id) →
          ∃ folder ∈ db.folders, folder.id = target) := by
  cases dest with
  | none => exact .inr ⟨rfl, fun _ h => by cases h⟩
  | some target =>
    simp only [emptyFolder, moveCredentials]
    split_ifs with h
    · exact .inl rfl
    · refine .inr ⟨rfl, fun _ htarget hany => ?_⟩
      cases htarget
      simpa [hany] using h

theorem conserved_of_none_in (h : ∀ row ∈ db.credentials, row.folderId ≠ some id) :
    conserved id db.credentials dest = db.credentials := by
  cases dest with
  | none => simpa [conserved] using h
  | some target =>
    refine (map_congr_left fun row hrow => ?_).trans (map_id _)
    exact if_neg (h row hrow)

/-- A credential that is still in the folder was moved from the folder to itself. -/
theorem conserved_of_still_in (hrow : row ∈ conserved id db.credentials dest)
    (hid : row.folderId = some id) : conserved id db.credentials dest = db.credentials := by
  cases dest with
  | none => simp [conserved, hid] at hrow
  | some target =>
    obtain ⟨row', -, rfl⟩ := mem_map.mp hrow
    have htarget : target = id := by
      by_cases hin : row'.folderId = some id
      · simpa [moveRow, hin] using hid
      · rw [moveRow, if_neg hin] at hid
        exact absurd hid hin
    subst htarget
    refine (map_congr_left fun row _ => ?_).trans (map_id _)
    unfold moveRow
    split_ifs with hin
    · rw [← hin]
      rfl
    · rfl

theorem folder_of_conserved (hfk : db.ForeignKey)
    (htarget : ∀ target, dest = some target → (∃ row ∈ db.credentials, row.folderId = some id) →
      ∃ folder ∈ db.folders, folder.id = target) (hrow : row ∈ conserved id db.credentials dest)
    {f : String} (hf : row.folderId = some f) : ∃ folder ∈ db.folders, folder.id = f := by
  cases dest with
  | none => exact hfk row (mem_filter.mp hrow).1 f hf
  | some target =>
    obtain ⟨row', hrow', rfl⟩ := mem_map.mp hrow
    by_cases hin : row'.folderId = some id
    · rw [moveRow, if_pos hin] at hf
      cases hf
      exact htarget f rfl ⟨row', hrow', hin⟩
    · rw [moveRow, if_neg hin] at hf
      exact hfk row' hrow' f hf

/-- **Deleting a folder conserves the credentials.** -/
theorem delete_conserves (hfk : db.ForeignKey) (id : String) (dest : Option String) :
    (∀ e db', delete id dest db = (.error e, db') → db' = db) ∧
      ∀ db', delete id dest db = (.ok (), db') → db'.ForeignKey ∧ db' = { db with
          credentials := conserved id db.credentials dest
          folders := db.folders.filter (·.id ≠ id) } := by
  rcases emptyFolder_cases with hrun | ⟨hrun, htarget⟩
  · rw [delete, bind_run_error hrun]
    refine ⟨fun _ _ h => ?_, fun _ h => ?_⟩
    · exact (Prod.mk.inj h).2.symm
    · cases (Prod.mk.inj h).1
  rw [delete, bind_run_ok hrun]
  by_cases hstill : ∃ row ∈ conserved id db.credentials dest, row.folderId = some id
  · -- the folder was to be moved to itself: the rows are as they were, and the deletion fails
    obtain ⟨row, hrow, hid⟩ := hstill
    have hsame := conserved_of_still_in hrow hid
    rw [hsame] at hrow ⊢
    have hfailed : deleteRow id db = (.error foreignKeyFailed, db) := by
      obtain ⟨folder, hfolder, hf⟩ := hfk row hrow id hid
      exact if_pos ⟨any_eq_true.mpr ⟨folder, hfolder, by simp [hf]⟩,
        any_eq_true.mpr ⟨row, hrow, by simp [hid]⟩⟩
    rw [bind_run_error hfailed]
    refine ⟨fun _ _ h => ?_, fun _ h => ?_⟩
    · exact (Prod.mk.inj h).2.symm
    · cases (Prod.mk.inj h).1
  · have hdeleted : deleteRow id { db with credentials := conserved id db.credentials dest } =
        (.ok (db.folders.countP (·.id = id)), { db with
          credentials := conserved id db.credentials dest
          folders := db.folders.filter (·.id ≠ id) }) :=
      if_neg fun h => hstill (by simpa using h.2)
    rw [bind_run_ok hdeleted]
    split_ifs with hcount
    · -- no such folder, and so no credential in it
      have hmissing : ∀ folder ∈ db.folders, folder.id ≠ id := by
        simpa [countP_eq_zero] using hcount
      have hnone : ∀ row ∈ db.credentials, row.folderId ≠ some id := by
        intro row hrow hid
        obtain ⟨folder, hfolder, hf⟩ := hfk row hrow id hid
        exact hmissing folder hfolder hf
      refine ⟨fun _ _ h => ?_, fun _ h => ?_⟩
      · rw [← (Prod.mk.inj h).2, conserved_of_none_in hnone,
          filter_eq_self.mpr (by simpa using hmissing)]
      · cases (Prod.mk.inj h).1
    · refine ⟨fun _ _ h => ?_, fun _ h => ?_⟩
      · cases (Prod.mk.inj h).1
      · obtain rfl := (Prod.mk.inj h).2
        refine ⟨fun row hrow f hf => ?_, rfl⟩
        obtain ⟨folder, hfolder, rfl⟩ := folder_of_conserved hfk htarget hrow hf
        have hkept : folder.id ≠ id := fun hid => hstill ⟨row, hrow, hid ▸ hf⟩
        exact ⟨folder, mem_filter.mpr ⟨hfolder, decide_eq_true hkept⟩, rfl⟩

/-- One credential in the first of two folders. -/
def twoFolders : Database :=
  { symbolicDb with
    folders := [⟨"a", none, none, 0, 0, 0⟩, ⟨"b", none, none, 1, 0, 0⟩]
    credentials := [⟨"c", some "a", [], [], [], [], [], none, none, none, 0, 0⟩] }

theorem delete_conserves_twoFolders :
    twoFolders.ForeignKey ∧ (delete "a" (some "b") twoFolders).1 = .ok () ∧
      (delete "a" (some "b") twoFolders).2.ForeignKey := by
  have hfk : twoFolders.ForeignKey := by simp [twoFolders, Database.ForeignKey]
  exact ⟨hfk, rfl, ((delete_conserves hfk "a" (some "b")).2 _ rfl).1⟩

end Folders

end PwdNow.Daemon
