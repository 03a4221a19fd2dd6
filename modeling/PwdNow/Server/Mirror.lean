import PwdNow.Server.Interchange

/-!
# Server — the migration mirror

`DualWriteVaultRepository`: the file repository answers, and Postgres is to follow it. Writes are
repeated on the secondary, updates by copying the properties that the primary's user has now;
`withUserTransaction` is not repeated at all.
-/

namespace PwdNow.Server

open Kit PgRepo Fallible List
open DualRepo hiding step
open FileRepo hiding call

/-- What a callback may do to a user whose update is mirrored by copying: no property is removed. -/
structure Extends (u u' : RepoUser) : Prop where
  id : u'.id = u.id
  emailHash : u'.emailHash = u.emailHash
  storable : u'.Storable
  present : ∀ key ∉ pgFields, u.field key ≠ none → u'.field key ≠ none

/-- The secondary can follow the call. -/
def Mirrorable (seen : List Uid) (f : FileRepo) : RepoCall → Prop
  | .insertUser user => user.id ∉ seen ∧ user.Storable
  | .updateUserById id fn => ∀ u ret u', f.findUserById id = some u → fn u = .ok (ret, u') →
      isFalse ret = true ∨ Extends u u'
  -- the row goes with its items, the files stay
  | .deleteUserById id => ∀ name, f.file id name = none
  | .withUserTransaction fn => (saved isFalse fn f.users).getD f.users = f.users
  -- the row goes, the user stays
  | .deleteUserData uid => ¬ f.Has uid
  | _ => True

structure Mirrored (P : PgNode) (seen : List Uid) (s : DualRepo) : Prop where
  agrees : Agrees P seen s.primary s.secondary
  storable : ∀ u ∈ s.primary.users, u.Storable
  files : ∀ uid, ¬ s.primary.Has uid → ∀ name, s.primary.file uid name = none

section

variable {P : PgNode} {seen : List Uid} {s : DualRepo} {i : PgInput P} {c : RepoCall}

theorem mirrored_empty : Mirrored P [] .empty :=
  ⟨agrees_empty, fun _ h => absurd h not_mem_nil, fun _ _ _ => rfl⟩

/-! ## What is called on the secondary -/

variable {v : RepoValue}

theorem DualRepo.mirrored_error {e : RepoError} (h : (FileRepo.call c s.primary).1 = .error e) :
    s.mirrored P i c = (none, s.secondary) := by
  simp only [mirrored, h]

theorem DualRepo.mirrored_none (h : mirror (FileRepo.call c s.primary).2 c = none) :
    s.mirrored P i c = (none, s.secondary) := by
  simp only [mirrored, h]
  split <;> rfl

theorem DualRepo.mirrored_some {c' : RepoCall} (hv : (FileRepo.call c s.primary).1 = .ok v)
    (h : mirror (FileRepo.call c s.primary).2 c = some c') :
    s.mirrored P i c =
      (some (PgRepo.step P i c' s.secondary).1, (PgRepo.step P i c' s.secondary).2) := by
  simp only [mirrored, hv, h]

theorem Mirrored.repeated (h : Mirrored P seen s) {seen' : List Uid}
    (hc : Interchangeable seen s.primary c) (hv : (FileRepo.call c s.primary).1 = .ok v)
    (hmirror : mirror (FileRepo.call c s.primary).2 c = some c)
    (hseen : seen ++ c.insertedIds = seen') :
    Agrees P seen' (s.step P i c).2.primary (s.step P i c).2.secondary := by
  simp only [DualRepo.step, mirrored_some hv hmirror]
  exact hseen ▸ (h.agrees.step hc).2

theorem Mirrored.unchanged (h : Mirrored P seen s)
    (hprimary : (FileRepo.call c s.primary).2 = s.primary)
    (hsecondary : s.mirrored P i c = (none, s.secondary)) : Mirrored P seen (s.step P i c).2 := by
  simp only [DualRepo.step, hprimary, hsecondary]
  exact h

/-! ## Users -/

variable {id : Uid} {updated u : RepoUser} {key : String}

theorem Mirrored.insertUser (h : Mirrored P seen s) {user : RepoUser} (hid : user.id ∉ seen)
    (hs : user.Storable) : Mirrored P (seen ++ [user.id]) (s.step P i (.insertUser user)).2 := by
  have hseen := h.agrees.mono (seen ++ [user.id]) fun uid => mem_append_left _
  by_cases htaken : (s.primary.users.any fun u => u.emailHash = user.emailHash) = true
  · have hfile := insert_taken htaken
    exact Mirrored.unchanged ⟨hseen, h.storable, h.files⟩ (by rw [hfile])
      (mirrored_error (by rw [hfile]))
  · have hfile := insert_free htaken
    refine ⟨h.repeated (c := .insertUser user) ⟨hid, hs⟩ (by rw [hfile]) rfl rfl, ?_, ?_⟩
    · simp only [DualRepo.step, hfile]
      intro u hu
      rcases mem_append.mp hu with hu | hu
      · exact h.storable u hu
      · exact mem_singleton.mp hu ▸ hs
    · simp only [DualRepo.step, hfile]
      exact fun uid huid => h.files uid fun ⟨u, hu, hu'⟩ =>
        huid ⟨u, mem_append_left _ hu, hu'⟩

theorem Mirrored.deleteUserById (h : Mirrored P seen s)
    (hempty : ∀ name, s.primary.file id name = none) :
    Mirrored P seen (s.step P i (.deleteUserById id)).2 := by
  have hfile := delete_eq s.primary id
  refine ⟨h.repeated (c := .deleteUserById id) trivial (by rw [hfile]) rfl (append_nil seen),
    ?_, ?_⟩
  · simp only [DualRepo.step, hfile]
    exact fun u hu => h.storable u (mem_of_mem_eraseP hu)
  · simp only [DualRepo.step, hfile]
    intro uid huid name
    by_cases hid : uid = id
    · exact hid ▸ hempty name
    · refine h.files uid (fun ⟨u, hu, hu'⟩ => huid ⟨u, ?_, hu'⟩) name
      exact (mem_eraseP_of_neg (by simpa [hu'] using hid)).mpr hu

/-- What copying makes of the secondary's user. -/
def copied (updated v : RepoUser) : RepoUser :=
  .of updated.id updated.emailHash (Js.without ["wrappedDek", "kmsKeyId"] updated.rest ++ v.rest)

theorem field_copied {v : RepoUser} (hkey : key ∉ ["wrappedDek", "kmsKeyId"]) :
    (copied updated v).field key = (updated.field key).or (v.field key) := by
  by_cases hnamed : key ∈ ["id", "emailHash"]
  · rw [RepoUser.field_named hnamed, RepoUser.field_named hnamed, RepoUser.field_named hnamed]
    rfl
  · rw [copied, RepoUser.field_of, if_neg hnamed, Js.get_append, Js.get_without, if_neg hkey]
    rfl

theorem field_copied_kms {v : RepoUser} (hkey : key ∈ ["wrappedDek", "kmsKeyId"]) :
    (copied updated v).field key = v.field key := by
  have hnamed : key ∉ ["id", "emailHash"] := by
    simp only [mem_cons, not_mem_nil, or_false] at hkey
    rcases hkey with rfl | rfl <;> decide
  rw [copied, RepoUser.field_of, if_neg hnamed, Js.get_append, Js.get_without, if_pos hkey]
  rfl

theorem same_copied {v : RepoUser} (hsame : u.Same v)
    (hpresent : ∀ key ∉ pgFields, u.field key ≠ none → updated.field key ≠ none) :
    updated.Same (copied updated v) := by
  refine ⟨rfl, rfl, fun key hkey => ?_⟩
  have hkms : key ∉ ["wrappedDek", "kmsKeyId"] := by
    intro h
    simp only [mem_cons, not_mem_nil, or_false] at h
    rcases h with rfl | rfl <;> exact hkey (by decide)
  rw [field_copied hkms, ← hsame.field key hkey]
  cases hupdated : updated.field key with
  | some w => rfl
  | none =>
    by_contra hne
    exact hpresent key hkey (fun h => hne (by rw [h]; rfl)) hupdated

theorem Mirrored.copyFrom (h : Mirrored P seen s) (hu : s.primary.findUserById id = some u)
    (hextends : Extends u updated)
    (hok : ∀ e, (PgRepo.step P i (.updateUserById id (copyFrom updated)) s.secondary).1 ≠
      .error e) :
    Agrees P seen { s.primary with
        users := s.primary.users.set (s.primary.users.findIdx (·.id = id)) updated }
      (PgRepo.step P i (.updateUserById id (copyFrom updated)) s.secondary).2 := by
  have hw := warmed_evict (P := P) i.evicted s.secondary
  have hagrees := h.agrees.warmed hw
  rcases hagrees.find? id with ⟨hnone, -⟩ | ⟨u', r, hu', hr, hsame⟩
  · exact absurd (hnone.symm.trans hu) (by simp)
  obtain rfl : u' = u := Option.some.inj (hu'.symm.trans hu)
  obtain ⟨hmem, rfl⟩ := find?_id_eq_some hr
  have hcopy := same_copied hsame hextends.present
  have hstorable := hextends.storable.same hcopy
  have hcarries : Carries (copied updated r.user) r :=
    ⟨hextends.id.trans hsame.id, (field_copied_kms (by decide)).trans (r.field_wrappedDek _),
      (field_copied_kms (by decide)).trans (r.field_kmsKeyId _)⟩
  have hemail : (copied updated r.user).emailHash = r.emailHmac :=
    hextends.emailHash.trans hsame.emailHash
  have hcopied : copyFrom updated r.user = .ok (none, copied updated r.user) := rfl
  rcases updateUserById_writes hagrees.sound hmem hcopied rfl hcarries hemail hstorable.sealed_ with
    ⟨-, e, g', hrun⟩ | ⟨g', r', hrun, hw', hstores, hsound⟩
  · refine absurd ?_ (hok e)
    rw [PgRepo.step, PgRepo.call, bind_run_error hrun]
  · rw [PgRepo.step, PgRepo.call, bind_run_ok hrun]
    have hid' : r'.id = r.id := hstores.id.trans hcarries.id
    refine hagrees.rewritten hsound (hw'.rewritten.trans (rewritten_replace hid')) ?_
    exact forall₂_exchange (fun _ _ hsame => hsame.id) (hw'.rows ▸ hagrees.users)
      (hw'.rows ▸ hagrees.sound.ids) r.id (hcopy.trans (hstores.same hstorable))

/-- **An update**, followed by the copy of what the primary has now. -/
theorem Mirrored.updateUserById (h : Mirrored P seen s)
    {fn : RepoUser → Except RepoError (Option Js × RepoUser)}
    (hfn : ∀ u ret u', s.primary.findUserById id = some u → fn u = .ok (ret, u') →
      isFalse ret = true ∨ Extends u u')
    (hok : ∀ e, (s.mirrored P i (.updateUserById id fn)).1 ≠ some (.error e)) :
    Mirrored P seen (s.step P i (.updateUserById id fn)).2 := by
  cases hu : s.primary.findUserById id with
  | none =>
    have hfile : FileRepo.call (.updateUserById id fn) s.primary =
        (.ok (.js (some .null)), s.primary) := update_none hu
    refine h.unchanged (by rw [hfile]) (mirrored_none ?_)
    rw [hfile, mirror, hu]
    rfl
  | some u =>
    cases hfu : fn u with
    | error e =>
      have hfile := update_throws hu hfu
      exact h.unchanged (by rw [hfile]) (mirrored_error (by rw [hfile]))
    | ok p =>
      obtain ⟨ret, u'⟩ := p
      have hfile := update_returns hu hfu
      -- the user that the primary has afterwards
      obtain ⟨updated, hextends, hprimary, hfound⟩ : ∃ updated, Extends u updated ∧
          (FileRepo.call (.updateUserById id fn) s.primary).2 = { s.primary with
            users := s.primary.users.set (s.primary.users.findIdx (·.id = id)) updated } ∧
          (FileRepo.call (.updateUserById id fn) s.primary).2.findUserById id = some updated := by
        by_cases hret : isFalse ret = true
        · refine ⟨u, ⟨rfl, rfl, h.storable u (mem_of_find?_eq_some hu), fun _ _ h => h⟩, ?_, ?_⟩
          · rw [hfile, if_pos hret, set_findIdx_of_find? hu]
          · rw [hfile, if_pos hret, hu]
        · have hextends := (hfn u ret u' hu hfu).resolve_left hret
          refine ⟨u', hextends, by rw [hfile, if_neg hret], ?_⟩
          rw [hfile, if_neg hret]
          refine find?_set_findIdx hu (decide_eq_true (hextends.id.trans ?_))
          simpa using find?_some hu
      have hmirror : mirror (FileRepo.call (.updateUserById id fn) s.primary).2
          (.updateUserById id fn) = some (.updateUserById id (DualRepo.copyFrom updated)) := by
        rw [mirror, hfound]
        rfl
      have hsecondary := mirrored_some (P := P) (i := i) (by rw [hfile]) hmirror
      have hagrees := h.copyFrom (i := i) hu hextends fun e he => hok e (by rw [hsecondary, he])
      refine ⟨?_, ?_, ?_⟩
      · simp only [DualRepo.step, hsecondary, hprimary]
        exact hagrees
      · simp only [DualRepo.step, hprimary]
        intro w hw
        rcases mem_or_eq_of_mem_set hw with hw | rfl
        · exact h.storable w hw
        · exact hextends.storable
      · simp only [DualRepo.step, hprimary]
        have hids : (s.primary.users.set (s.primary.users.findIdx (·.id = id)) updated).map
            (·.id) = s.primary.users.map (·.id) := by
          rw [map_set, hextends.id, ← map_set, set_findIdx_of_find? hu]
        exact fun uid huid => h.files uid fun hhas => huid ((has_congr hids uid).mpr hhas)

theorem Mirrored.repeated_files (h : Mirrored P seen s) (hc : Interchangeable seen s.primary c)
    (hv : (FileRepo.call c s.primary).1 = .ok v)
    (hmirror : mirror (FileRepo.call c s.primary).2 c = some c) (hids : c.insertedIds = [])
    (husers : (FileRepo.call c s.primary).2.users = s.primary.users)
    (hfiles : ∀ uid, ¬ s.primary.Has uid → ∀ name,
      (FileRepo.call c s.primary).2.file uid name = none) : Mirrored P seen (s.step P i c).2 := by
  refine ⟨h.repeated hc hv hmirror (by rw [hids, append_nil]), ?_, fun uid huid => ?_⟩
  · simp only [DualRepo.step, husers]
    exact h.storable
  · refine hfiles uid fun hhas => huid ?_
    exact (has_congr (by rw [DualRepo.step, husers]) uid).mpr hhas

/-! ## Resources -/

variable {uid : Uid} {name : String} {value : Js}

theorem setResource_missing (name : String) (value : Js) {g : PgRepo} (hg : Sound P g)
    (hid : ∀ r ∈ g.rows, r.id ≠ uid) :
    (PgRepo.setResource P uid name value g).1 = .error .userNotFound := by
  have hnone : g.rows.find? (·.id = uid) = none :=
    find?_eq_none.mpr fun r hr => by simpa using hid r hr
  obtain ⟨g', hfound, -⟩ := findUser_reads hg (·.id = uid)
  rw [hnone] at hfound
  rw [PgRepo.setResource, bind_run_ok hfound]
  rfl

section

variable (h : Mirrored P seen s)
include h

theorem Mirrored.has_of_set
    (hok : ∀ e, ((PgRepo.setResource P uid name value >>= fun _ => pure RepoValue.undefined)
      (s.secondary.evict i.evicted)).1 ≠ .error e) : s.primary.Has uid := by
  by_contra hhas
  have hw := warmed_evict (P := P) i.evicted s.secondary
  have hagrees := h.agrees.warmed hw
  have hmissing := setResource_missing name value hagrees.sound fun r hr hid =>
    hhas ((hagrees.has_iff uid).mpr ⟨r, hr, hid⟩)
  refine hok .userNotFound ?_
  rw [bind_run]
  cases hrun : PgRepo.setResource P uid name value (s.secondary.evict i.evicted) with
  | mk r g' =>
    rw [hrun] at hmissing
    simp only at hmissing
    rw [hmissing]

theorem Mirrored.setResource
    (hok : ∀ e, (s.mirrored P i (.setResource uid name value)).1 ≠ some (.error e)) :
    Mirrored P seen (s.step P i (.setResource uid name value)).2 := by
  have hsecondary := mirrored_some (P := P) (i := i) (s := s)
    (c := .setResource uid name value) rfl rfl
  have hhas : s.primary.Has uid := h.has_of_set (i := i) fun e he =>
    hok e (by rw [hsecondary]; exact congrArg some he)
  refine h.repeated_files hhas rfl rfl rfl (users_makeDir uid) fun uid' huid' key => ?_
  have hne : uid' ≠ uid := fun heq => huid' (heq ▸ hhas)
  refine (file_writeFile (makeDir_isSome uid) _ _ uid' key).trans ?_
  rw [if_neg fun hat => hne hat.1, file_makeDir]
  exact h.files uid' huid' key

theorem Mirrored.saveSessions {list : List Js}
    (hok : ∀ e, (s.mirrored P i (.saveSessions uid list)).1 ≠ some (.error e)) :
    Mirrored P seen (s.step P i (.saveSessions uid list)).2 := by
  by_cases hdir : (s.primary.dirs uid).isSome
  · have hfile : FileRepo.call (.saveSessions uid list) s.primary =
        (.ok .undefined, s.primary.writeFile uid "sessions" (some (.array list))) := if_pos hdir
    have hsecondary := mirrored_some (P := P) (i := i) (s := s)
      (c := .saveSessions uid list) (by rw [hfile]) rfl
    have hhas : s.primary.Has uid := h.has_of_set (i := i) fun e he =>
    hok e (by rw [hsecondary]; exact congrArg some he)
    refine h.repeated_files (c := .saveSessions uid list) ⟨hhas, hdir⟩ (by rw [hfile]) rfl rfl
      (by rw [hfile]; rfl) fun uid' huid' key => ?_
    have hne : uid' ≠ uid := fun heq => huid' (heq ▸ hhas)
    rw [hfile]
    refine (file_writeFile hdir _ _ uid' key).trans ?_
    rw [if_neg fun hat => hne hat.1]
    exact h.files uid' huid' key
  · have hfile : FileRepo.call (.saveSessions uid list) s.primary = (.error .enoent, s.primary) :=
      if_neg hdir
    exact h.unchanged (by rw [hfile]) (mirrored_error (by rw [hfile]))

theorem Mirrored.deleteResource (uid : Uid) (name : String) :
    Mirrored P seen (s.step P i (.deleteResource uid name)).2 := by
  refine h.repeated_files (c := .deleteResource uid name) trivial rfl rfl rfl rfl
    fun uid' huid' key => ?_
  refine (file_writeFile_none uid name uid' key).trans ?_
  rw [h.files uid' huid' key, ite_self]

theorem Mirrored.deleteUserData (huid : ¬ s.primary.Has uid) :
    Mirrored P seen (s.step P i (.deleteUserData uid)).2 := by
  refine h.repeated_files (c := .deleteUserData uid) huid rfl rfl rfl rfl fun uid' huid' key => ?_
  by_cases hu : uid' = uid
  · subst hu
    simp [FileRepo.call, file, bind_run]
  · have hfile := h.files uid' huid' key
    simpa [FileRepo.call, file, bind_run, hu] using hfile

theorem Mirrored.step (hc : Mirrorable seen s.primary c)
    (hok : ∀ e, (s.mirrored P i c).1 ≠ some (.error e)) :
    Mirrored P (seen ++ c.insertedIds) (s.step P i c).2 := by
  have hsame : ∀ {t}, Mirrored P seen t → Mirrored P (seen ++ []) t := by
    intro t ht
    rwa [append_nil]
  cases c with
  | insertUser user => exact h.insertUser hc.1 hc.2
  | updateUserById id fn => exact hsame (h.updateUserById hc hok)
  | deleteUserById id => exact hsame (h.deleteUserById hc)
  | withUserTransaction fn =>
    refine hsame (h.unchanged ?_ (mirrored_none rfl))
    refine (withUsersLock_bind _ _ _ _).trans ((withUsersLock_state _ _ _).trans ?_)
    rw [show (saved isFalse fn s.primary.users).getD s.primary.users = s.primary.users from hc]
  | saveSessions uid list => exact hsame (h.saveSessions hok)
  | setResource uid name value => exact hsame (h.setResource hok)
  | deleteResource uid name => exact hsame (h.deleteResource uid name)
  | deleteUserData uid => exact hsame (h.deleteUserData hc)
  | _ => exact hsame (h.unchanged rfl (mirrored_none rfl))

end

end

/-! ## Runs -/

/-- The repositories, and the ids that were inserted so far. -/
structure Migration where
  repo : DualRepo
  seen : List Uid

open Migration

def Migration.empty : Migration := ⟨.empty, []⟩

def Migration.step {P : PgNode} (s : Migration) (c : RepoCall × PgInput P) : Migration :=
  ⟨(s.repo.step P c.2 c.1).2, s.seen ++ c.1.insertedIds⟩

/-- The secondary does not throw. -/
def Migration.Quiet {P : PgNode} (s : Migration) (c : RepoCall × PgInput P) : Prop :=
  ∀ e, (s.repo.mirrored P c.2 c.1).1 ≠ some (.error e)

/-- **A faithful mirror.** After a run of calls that the secondary can follow, on which it throws
nothing, it shows every user and every resource as the primary does. -/
theorem mirror_faithful (P : PgNode) (calls : List (RepoCall × PgInput P))
    (hquiet : Along step .empty calls Migration.Quiet)
    (hcalls : Along step .empty calls fun s c => Mirrorable s.seen s.repo.primary c.1)
    (i : PgInput P) (id : Uid) (name : String) :
    SameResult (FileRepo.call (.findUserById id) (run step .empty calls).repo.primary).1
      (PgRepo.step P i (.findUserById id) (run step .empty calls).repo.secondary).1 ∧
    (FileRepo.call (.getResource id name) (run step .empty calls).repo.primary).1 =
      (PgRepo.step P i (.getResource id name) (run step .empty calls).repo.secondary).1 := by
  have h : Mirrored P (run step .empty calls).seen (run step .empty calls).repo :=
    Visits.invariant (I := fun s : Migration => Mirrored P s.seen s.repo) mirrored_empty
      (hcalls.and hquiet) (fun s c _ hc h => h.step hc.1 hc.2) (.last _ _ _)
  refine ⟨(h.agrees.step (c := .findUserById id) trivial).1, ?_⟩
  by_cases hhas : (run step .empty calls).repo.primary.Has id
  · obtain ⟨g', hrun, -⟩ := (h.agrees.warmed (warmed_evict i.evicted _)).getResource hhas name
    rw [PgRepo.step, PgRepo.call, bind_run_ok hrun]
    rfl
  · -- neither has anything
    have hsound := h.agrees.sound.warmed (warmed_evict i.evicted _)
    obtain ⟨g', hrun, -⟩ := getResource_reads hsound name
    have hitem : ((run step .empty calls).repo.secondary.evict i.evicted).item id name = none := by
      rw [item, hsound.items id fun r hr hid => hhas ((h.agrees.has_iff id).mpr ⟨r, hr, hid⟩)]
      rfl
    rw [hitem] at hrun
    rw [PgRepo.step, PgRepo.call, bind_run_ok hrun]
    simp [FileRepo.call, h.files id hhas name]

/-! ## Two runs -/

theorem Migration.quiet_of_all {P : PgNode} {s : Migration} {c : RepoCall × PgInput P}
    (h : (s.repo.mirrored P c.2 c.1).1.all Except.isOk = true) : s.Quiet c := by
  intro e he
  rw [he] at h
  cases h

theorem extends_assign {fields : Js.Fields} (hfields : ∀ p ∈ fields, p.1 ∉ columnFields)
    {u : RepoUser} (hu : u.Storable) : Extends u (u.assign fields) := by
  refine ⟨rfl, rfl, hu.assign hfields, fun key _ hpresent => ?_⟩
  have hnamed : key ∉ ["id", "emailHash"] := fun h => hpresent (RepoUser.field_named h u)
  rw [RepoUser.field_assign, if_neg hnamed]
  simp [hpresent]

theorem mirror_follows_commonCalls :
    SameResult
      (FileRepo.call (.findUserById "u1") (run step .empty commonCalls).repo.primary).1
      (PgRepo.step onePgKey plainInput (.findUserById "u1")
        (run step .empty commonCalls).repo.secondary).1 ∧
    (FileRepo.call (.getResource "u1" "folders")
        (run step .empty commonCalls).repo.primary).1 =
      (PgRepo.step onePgKey plainInput (.getResource "u1" "folders")
        (run step .empty commonCalls).repo.secondary).1 := by
  refine mirror_faithful onePgKey commonCalls ?_ ?_ plainInput "u1" "folders"
  · refine along_cons ?_ (along_cons ?_ (along_cons ?_ (along_cons ?_ (along_cons ?_
      (along_nil _))))) <;> exact quiet_of_all (by decide +kernel)
  · refine along_cons ⟨not_mem_nil, storedUser_storable⟩ (along_cons ?_ (along_cons trivial
      (along_cons trivial (along_cons trivial (along_nil _)))))
    intro u ret u' hu hfn
    obtain rfl : storedUser = u := Option.some.inj hu
    cases hfn
    exact Or.inr (extends_assign (by decide) storedUser_storable)

/-- A user is inserted, and given a name in a transaction. -/
def renamedCalls : List (RepoCall × PgInput onePgKey) :=
  [(.insertUser storedUser, plainInput), (.withUserTransaction fun users =>
      .ok (none, users.map (RepoUser.assign [("name", .string "n")])), plainInput)]

/-- `user[key]` of the user that was returned. -/
def RepoValue.shown (key : String) : RepoResult → Option (Option Js)
  | .ok (.user (some u)) => some (u.field key)
  | _ => none

/-- **A transaction.** The secondary throws nothing, and its user has no name. -/
theorem transaction_not_mirrored :
    Along step .empty renamedCalls Migration.Quiet ∧
    RepoValue.shown "name" (FileRepo.call (.findUserById "u1")
      (run step .empty renamedCalls).repo.primary).1 = some (some (.string "n")) ∧
    RepoValue.shown "name" (PgRepo.step onePgKey plainInput (.findUserById "u1")
      (run step .empty renamedCalls).repo.secondary).1 = some none := by
  refine ⟨?_, by decide +kernel, by decide +kernel⟩
  refine along_cons ?_ (along_cons ?_ (along_nil _)) <;>
    exact quiet_of_all (by decide +kernel)

end PwdNow.Server
