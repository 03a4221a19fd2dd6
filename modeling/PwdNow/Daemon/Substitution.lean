import PwdNow.Daemon.Symbolic

/-!
# Daemon — credentials moved to other rows

`seal_blob` names the vault and the credential in the associated data and stores it beside the
ciphertext; `get` opens the ciphertext with what is stored (`daemon/src/vault/credentials.rs`). So
the table is a map of ids to blobs (`tableAfter_represents`), and columns moved to another row are
read there.
-/

namespace PwdNow.Daemon.Credentials

open Kit List

inductive WriteKind where
  | add | update
  deriving DecidableEq

/-- A call of `add` or `update`, with what it draws: the data key, the nonces, and for `add` the
id. -/
structure Write where
  kind : WriteKind
  draws : Draws
  now : Int
  id : String
  folderId : Option String
  blob : Bytes

variable (P : Primitives) (J : Serde) (vmk : Block 32) (key : Block 64) (vaultUuid : String)

def write (db : Database) (w : Write) : Result Database :=
  match w.kind with
  | .add => add P J w.draws w.now w.id db vmk key vaultUuid w.folderId w.blob
  | .update => update P J w.draws w.now db vmk key vaultUuid w.id w.folderId w.blob

/-- A write that fails leaves the table as it is. -/
def writeStep (db : Database) (w : Write) : Database :=
  match write P J vmk key vaultUuid db w with
  | .ok db' => db'
  | .error _ => db

def tableAfter (writes : List Write) : Database :=
  run (writeStep P J vmk key vaultUuid) .empty writes

/-! ## What the table is for -/

/-- The blob stored under each id. -/
abbrev Contents := String → Option Bytes

namespace Contents

/-- `add` takes a new id, `update` one that is there; a blob that is no JSON is not stored. -/
def write (c : Contents) (w : Write) : Contents :=
  match J.parseCredential w.blob, w.kind, c w.id with
  | .ok _, .add, none => Function.update c w.id (some w.blob)
  | .ok _, .update, some _ => Function.update c w.id (some w.blob)
  | _, _, _ => c

def empty : Contents := fun _ => none

def after (writes : List Write) : Contents := run (write J) empty writes

end Contents

/-- Some write sealed `blob` for `id`. -/
def SealedFor (writes : List Write) (id : String) (blob : Bytes) : Prop :=
  ∃ w ∈ writes, w.id = id ∧ w.blob = blob

/-- The rows hold the contents. -/
def Represents (db : Database) (c : Contents) : Prop :=
  ∀ id, Option.Rel (Holds P vmk) (db.credentials.find? (·.id = id)) (c id)

variable {P J vmk key vaultUuid}

/-! ## One write -/

variable {w : Write} {fields : CredentialFields}

theorem sealedRow_of_parse (vmk : Block 32) (key : Block 64) (vaultUuid : String)
    (hparse : J.parseCredential w.blob = .ok fields) :
    ∃ row, sealedRow P J w.draws w.now w.id vmk key vaultUuid w.folderId w.blob = .ok row ∧
      row.id = w.id ∧ Holds P vmk row w.blob := by
  have hok : ∃ row, sealedRow P J w.draws w.now w.id vmk key vaultUuid w.folderId w.blob =
      .ok row := by
    rw [sealedRow, computeBlindIndices, hparse]
    exact ⟨_, rfl⟩
  obtain ⟨row, hrow⟩ := hok
  obtain ⟨hid, hsealed⟩ := sealedRow_eq_ok hrow
  exact ⟨row, hrow, hid, w.draws, hsealed⟩

variable (db : Database)

theorem writeStep_of_parse_error {msg : String} (hparse : J.parseCredential w.blob = .error msg) :
    writeStep P J vmk key vaultUuid db w = db := by
  have hsealed : sealedRow P J w.draws w.now w.id vmk key vaultUuid w.folderId w.blob =
      fail (.crypto "invalid JSON blob") := by
    rw [sealedRow, computeBlindIndices, hparse]
  unfold writeStep write add update
  cases w.kind <;> rw [hsealed] <;> rfl

theorem find_writeStep_add (hparse : J.parseCredential w.blob = .ok fields) (hkind : w.kind = .add)
    :
    ∃ sealed : CredentialRow, Holds P vmk sealed w.blob ∧ ∀ id,
      (writeStep P J vmk key vaultUuid db w).credentials.find? (·.id = id) =
        (db.credentials.find? (·.id = id)).or (if w.id = id then some sealed else none) := by
  obtain ⟨sealed, hsealed, hid, hholds⟩ := sealedRow_of_parse (P := P) vmk key vaultUuid hparse
  refine ⟨sealed, hholds, fun id => ?_⟩
  by_cases htaken : db.credentials.any (·.id = w.id)
  · -- the primary key refuses the row
    have hstep : writeStep P J vmk key vaultUuid db w = db := by
      rw [writeStep, write, hkind]
      simp only [add, hsealed, bind, Except.bind, if_pos htaken]
      rfl
    rw [hstep]
    split
    · next heq =>
      subst heq
      obtain ⟨row, hrow⟩ :=
        Option.isSome_iff_exists.mp (find?_isSome.mpr (any_eq_true.mp htaken))
      rw [hrow]
      rfl
    · rw [Option.or_none]
  · have hstep : (writeStep P J vmk key vaultUuid db w).credentials = db.credentials ++ [sealed] := by
      rw [writeStep, write, hkind]
      simp only [add, hsealed, bind, Except.bind, if_neg htaken]
      rfl
    rw [hstep, find?_append, find?_singleton, hid]
    simp only [decide_eq_true_eq]

theorem find_writeStep_update (hparse : J.parseCredential w.blob = .ok fields)
    (hkind : w.kind = .update) :
    ∃ sealed : CredentialRow, Holds P vmk sealed w.blob ∧ ∀ id,
      (writeStep P J vmk key vaultUuid db w).credentials.find? (·.id = id) =
        (db.credentials.find? (·.id = id)).map fun row =>
          if row.id = w.id then { sealed with createdAt := row.createdAt } else row := by
  obtain ⟨sealed, hsealed, hid, hholds⟩ := sealedRow_of_parse (P := P) vmk key vaultUuid hparse
  have hok : ∃ db',
      update P J w.draws w.now db vmk key vaultUuid w.id w.folderId w.blob = .ok db' := by
    rw [update, hsealed]
    exact ⟨_, rfl⟩
  obtain ⟨db', hupdate⟩ := hok
  have hstep : writeStep P J vmk key vaultUuid db w = db' := by
    rw [writeStep, write, hkind]
    simp only [hupdate]
  refine ⟨sealed, hholds, fun id => ?_⟩
  obtain ⟨sealed', hsealed', hfind⟩ := find_update hupdate id
  obtain rfl : sealed = sealed' := Except.ok.inj (hsealed.symm.trans hsealed')
  rw [hstep, hfind]

variable (c : Contents)

namespace Contents

variable {w : Write}

theorem write_of_parse_error {msg : String} (hparse : J.parseCredential w.blob = .error msg) :
    c.write J w = c := by
  rw [write, hparse]

theorem write_add (hparse : J.parseCredential w.blob = .ok fields) (hkind : w.kind = .add)
    (id : String) : c.write J w id = (c id).or (if w.id = id then some w.blob else none) := by
  rw [write, hparse, hkind]
  by_cases hid : w.id = id
  · subst hid
    cases hold : c w.id with
    | none => simp
    | some old => simp [hold]
  · rw [if_neg hid, Option.or_none]
    cases c w.id with
    | none => exact Function.update_of_ne (Ne.symm hid) _ _
    | some old => rfl

theorem write_update (hparse : J.parseCredential w.blob = .ok fields) (hkind : w.kind = .update)
    (id : String) : c.write J w id = (c id).map fun blob => if id = w.id then w.blob else blob := by
  rw [write, hparse, hkind]
  by_cases hid : id = w.id
  · subst hid
    cases hold : c w.id with
    | none => simp [hold]
    | some old => simp
  · simp only [if_neg hid, Option.map_id']
    cases c w.id with
    | none => rfl
    | some old => exact Function.update_of_ne hid _ _

end Contents

variable {row : CredentialRow} {blob : Bytes}

theorem Holds.createdAt (h : Holds P vmk row blob) (ts : Int) :
    Holds P vmk { row with createdAt := ts } blob := h

variable {db : Database} {c : Contents}

theorem Represents.cases (h : Represents P vmk db c) (id : String) :
    (db.credentials.find? (·.id = id) = none ∧ c id = none) ∨
      ∃ row blob, db.credentials.find? (·.id = id) = some row ∧ row.id = id ∧ c id = some blob ∧
        Holds P vmk row blob := by
  have hrel := h id
  cases hrow : db.credentials.find? (·.id = id) with
  | none =>
    rw [hrow] at hrel
    cases hblob : c id with
    | none => exact .inl ⟨rfl, rfl⟩
    | some blob =>
      rw [hblob] at hrel
      cases hrel
  | some row =>
    rw [hrow] at hrel
    have hid : row.id = id := by simpa using find?_some hrow
    cases hblob : c id with
    | none =>
      rw [hblob] at hrel
      cases hrel
    | some blob =>
      rw [hblob] at hrel
      cases hrel with
      | some hholds => exact .inr ⟨row, blob, rfl, hid, rfl, hholds⟩

/-- **One write keeps the table and the map together.** -/
theorem represents_writeStep (h : Represents P vmk db c) (w : Write) :
    Represents P vmk (writeStep P J vmk key vaultUuid db w) (c.write J w) := by
  intro id
  cases hparse : J.parseCredential w.blob with
  | error msg =>
    rw [writeStep_of_parse_error db hparse, c.write_of_parse_error hparse]
    exact h id
  | ok fields =>
    cases hkind : w.kind with
    | add =>
      obtain ⟨sealed, hholds, hfind⟩ := find_writeStep_add db hparse hkind
      rw [hfind, c.write_add hparse hkind]
      -- a row that is there is found first
      rcases h.cases id with ⟨hrow, hblob⟩ | ⟨row, blob, hrow, -, hblob, hold⟩
      · rw [hrow, hblob]
        split
        · exact .some hholds
        · exact .none
      · rw [hrow, hblob]
        exact .some hold
    | update =>
      obtain ⟨sealed, hholds, hfind⟩ := find_writeStep_update db hparse hkind
      rw [hfind, c.write_update hparse hkind]
      rcases h.cases id with ⟨hrow, hblob⟩ | ⟨row, blob, hrow, hid, hblob, hold⟩
      · rw [hrow, hblob]
        exact .none
      · rw [hrow, hblob, Option.map_some, Option.map_some, hid]
        split
        · exact .some (hholds.createdAt _)
        · exact .some hold

/-- **The table is a map of ids to blobs.** -/
theorem tableAfter_represents (writes : List Write) :
    Represents P vmk (tableAfter P J vmk key vaultUuid writes) (Contents.after J writes) := by
  have hempty : Represents P vmk .empty .empty := fun _ => .none
  exact run_related (R := Represents P vmk) (fun _ _ w h => represents_writeStep h w) hempty writes

/-! ## Columns moved to other rows -/

variable {writes : List Write} {source : String → String} {id : String}

/-- The five sealed columns of the two rows are the same. -/
structure SameSealed (row row' : CredentialRow) : Prop where
  encryptedDek : row.encryptedDek = row'.encryptedDek
  dekNonce : row.dekNonce = row'.dekNonce
  ciphertext : row.ciphertext = row'.ciphertext
  ctNonce : row.ctNonce = row'.ctNonce
  ctAad : row.ctAad = row'.ctAad

/-- Each row of `db'` has the sealed columns that `db` has under the id `source` says. -/
def Moved (source : String → String) (db db' : Database) : Prop :=
  ∀ row' ∈ db'.credentials, ∃ row, db.credentials.find? (·.id = source row'.id) = some row ∧
    SameSealed row' row

theorem Holds.of_sameSealed {row' : CredentialRow} (h : Holds P vmk row blob)
    (hsame : SameSealed row' row) : Holds P vmk row' blob := by
  obtain ⟨draws, hdn, hcn, hdek, hct⟩ := h
  refine ⟨draws, hsame.dekNonce.trans hdn, hsame.ctNonce.trans hcn, hsame.encryptedDek.trans hdek, ?_⟩
  rw [hsame.ciphertext, hct, hsame.ctAad]

theorem get_moved (hP : P.Ideal) {db' : Database}
    (hmoved : Moved source (tableAfter P J vmk key vaultUuid writes) db')
    (hid : ∃ row ∈ db'.credentials, row.id = id) :
    ∃ blob, Contents.after J writes (source id) = some blob ∧ get P db' vmk id = .ok blob := by
  have hfound : (db'.credentials.find? (·.id = id)).isSome := by
    simpa [find?_isSome] using hid
  obtain ⟨row', hrow'⟩ := Option.isSome_iff_exists.mp hfound
  have hid' : row'.id = id := by simpa using find?_some hrow'
  obtain ⟨row, hrow, hsame⟩ := hmoved row' (mem_of_find?_eq_some hrow')
  rw [hid'] at hrow
  have hrep : Represents P vmk (tableAfter P J vmk key vaultUuid writes) (Contents.after J writes) :=
    tableAfter_represents writes
  rcases hrep.cases (source id) with ⟨hnone, -⟩ | ⟨row₀, blob, hrow₀, -, hblob, hholds⟩
  · rw [hrow] at hnone
    cases hnone
  · obtain rfl : row = row₀ := Option.some.inj (hrow.symm.trans hrow₀)
    exact ⟨blob, hblob, get_of_holds hP hrow' (hholds.of_sameSealed hsame)⟩

/-- **When ciphertexts are bound to their row.** In a table of moved columns `get` fails or returns
a blob sealed for the id exactly when, if the table has the id, the blob last stored where the
columns come from was sealed for it as well. -/
theorem get_moved_iff (hP : P.Ideal) {writes : List Write} {source : String → String}
    {db' : Database} (hmoved : Moved source (tableAfter P J vmk key vaultUuid writes) db')
    (id : String) :
    ((∃ e, get P db' vmk id = .error e) ∨
        ∃ blob, get P db' vmk id = .ok blob ∧ SealedFor writes id blob) ↔
      ((∃ row ∈ db'.credentials, row.id = id) →
        ∀ blob ∈ Contents.after J writes (source id), SealedFor writes id blob) := by
  by_cases hid : ∃ row ∈ db'.credentials, row.id = id
  · -- a row is always read, as what was sealed where its columns came from
    obtain ⟨blob, hblob, hget⟩ := get_moved hP hmoved hid
    constructor
    · rintro (⟨e, herr⟩ | ⟨blob', hget', hsealed⟩) - stored hstored
      · rw [hget] at herr
        cases herr
      · rw [hget] at hget'
        cases hget'
        rw [hblob] at hstored
        cases hstored
        exact hsealed
    · intro hall
      exact .inr ⟨blob, hget, hall hid blob hblob⟩
  · refine iff_of_true (.inl ?_) (fun h => absurd h hid)
    have hnone : db'.credentials.find? (·.id = id) = none := by
      simpa [find?_eq_none] using hid
    rw [get, hnone]
    exact ⟨_, rfl⟩

/-! ### Two rows exchanged -/

/-- Every row gets the sealed columns of the row that `source` names. -/
def moveSealed (source : String → String) (db : Database) : Database :=
  { db with credentials := db.credentials.map fun row =>
      match db.credentials.find? (·.id = source row.id) with
      | some origin =>
        { row with
          encryptedDek := origin.encryptedDek
          dekNonce := origin.dekNonce
          ciphertext := origin.ciphertext
          ctNonce := origin.ctNonce
          ctAad := origin.ctAad }
      | none => row }

theorem moved_moveSealed
    (h : ∀ row ∈ db.credentials, (db.credentials.find? (·.id = source row.id)).isSome) :
    Moved source db (moveSealed source db) := by
  intro row' hrow'
  obtain ⟨row, hrow, rfl⟩ := mem_map.mp hrow'
  obtain ⟨origin, horigin⟩ := Option.isSome_iff_exists.mp (h row hrow)
  rw [horigin]
  exact ⟨origin, horigin, ⟨rfl, rfl, rfl, rfl, rfl⟩⟩

/-- Every blob is a credential without fields to index. -/
def blobSerde : Serde := { spelledSerde with parseCredential := fun _ => .ok ⟨none, none, none⟩ }

def writeOf (kind : WriteKind) (id : String) (blob : Bytes) : Write :=
  ⟨kind, ⟨.replicate 32 1, .replicate 12 1, .replicate 24 1⟩, 0, id, none, blob⟩

def exchange (id : String) : String := if id = "a" then "b" else "a"

def smallTable (writes : List Write) : Database :=
  tableAfter symbolic blobSerde symbolicVmk (.replicate 64 1) "vault" writes

theorem smallTable_moved (hids : (smallTable writes).credentials.map (·.id) = ["a", "b"]) :
    Moved exchange (smallTable writes) (moveSealed exchange (smallTable writes)) := by
  apply moved_moveSealed
  intro row hrow
  have hid : row.id ∈ ["a", "b"] := by
    rw [← hids]
    exact mem_map_of_mem hrow
  have hexchange : exchange row.id ∈ (smallTable writes).credentials.map (·.id) := by
    rw [hids]
    rcases mem_pair.mp hid with ha | hb
    · rw [ha]
      decide
    · rw [hb]
      decide
  simpa [find?_isSome] using hexchange

theorem moveSealed_ids :
    (moveSealed source db).credentials.map (·.id) = db.credentials.map (·.id) := by
  rw [moveSealed, map_map]
  refine map_congr_left fun row _ => ?_
  rw [Function.comp_apply]
  split <;> rfl

/-- `b` was last sealed with what had been sealed for `a`. -/
theorem get_moved_iff_shared :
    let writes := [writeOf .add "a" [1], writeOf .add "b" [2], writeOf .update "b" [1]]
    (∃ e, get symbolic (moveSealed exchange (smallTable writes)) symbolicVmk "a" = .error e) ∨
      ∃ blob, get symbolic (moveSealed exchange (smallTable writes)) symbolicVmk "a" = .ok blob ∧
        SealedFor writes "a" blob := by
  intro writes
  refine (get_moved_iff symbolic_ideal (smallTable_moved rfl) "a").mpr ?_
  rintro - blob hblob
  cases hblob
  exact ⟨writeOf .add "a" [1], mem_cons_self, rfl, rfl⟩

/-- Exchanged, `a` is read as what was sealed for `b`. -/
theorem exchanged_accepted :
    let writes := [writeOf .add "a" [1], writeOf .add "b" [2]]
    Moved exchange (smallTable writes) (moveSealed exchange (smallTable writes)) ∧
      get symbolic (moveSealed exchange (smallTable writes)) symbolicVmk "a" = .ok [2] ∧
      ¬ SealedFor writes "a" [2] := by
  intro writes
  have hmoved : Moved exchange (smallTable writes) (moveSealed exchange (smallTable writes)) :=
    smallTable_moved rfl
  have hid : "a" ∈ (moveSealed exchange (smallTable writes)).credentials.map (·.id) := by
    rw [moveSealed_ids]
    exact mem_cons_self
  obtain ⟨blob, hblob, hget⟩ := get_moved symbolic_ideal hmoved (mem_map.mp hid)
  cases hblob
  refine ⟨hmoved, hget, ?_⟩
  rintro ⟨w, hw, hwid, hwblob⟩
  rcases mem_pair.mp hw with rfl | rfl
  · cases hwblob
  · exact absurd hwid (by decide)

/-! ## Deletions as well -/

/-- No row with that id is no error. -/
def delete (db : Database) (id : String) : Database :=
  { db with credentials := db.credentials.filter (·.id ≠ id) }

inductive Change where
  | write (w : Write)
  | delete (id : String)

def changeStep (P : Primitives) (J : Serde) (vmk : Block 32) (key : Block 64) (vaultUuid : String)
    (db : Database) : Change → Database
  | .write w => writeStep P J vmk key vaultUuid db w
  | .delete id => delete db id

def Contents.change (J : Serde) (c : Contents) : Change → Contents
  | .write w => c.write J w
  | .delete id => Function.update c id none

theorem represents_delete (h : Represents P vmk db c) (id : String) :
    Represents P vmk (delete db id) (Function.update c id none) := by
  intro id'
  show Option.Rel (Holds P vmk) ((db.credentials.filter _).find? _) _
  rw [find?_filter]
  by_cases hid : id' = id
  · subst hid
    rw [Function.update_self, find?_eq_none.mpr (by simp)]
    exact .none
  · -- a row with another id passes the filter
    have hpasses : ∀ row : CredentialRow,
        (!decide (row.id = id) && decide (row.id = id')) = decide (row.id = id') := by
      intro row
      by_cases hrow : row.id = id' <;> simp [hrow, hid]
    simpa [Function.update_of_ne hid, hpasses] using h id'

end PwdNow.Daemon.Credentials
