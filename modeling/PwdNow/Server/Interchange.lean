import PwdNow.Server.PostgresRows

/-!
# Server — one backend for the other

The file repository and the Postgres repository, fed the same calls, answer alike for calls that
stay inside what the two have in common (`Interchangeable`): ids are used once, users have the
properties that the columns ask for, callbacks leave the identity of a user and the properties of
Postgres alone, sessions are saved where there is a directory, and the data of a user is not deleted
while the user is there.
-/

namespace PwdNow.Server

open Kit PgRepo Fallible List Function
open FileRepo hiding call

/-! ## Agreement -/

variable {u v : RepoUser}

/-- Equal results, users up to the properties of Postgres. -/
def SameResult : RepoResult → RepoResult → Prop
  | .error e, .error e' => e = e'
  | .ok (.js v), .ok (.js v') => v = v'
  | .ok (.user u), .ok (.user u') => Option.Rel RepoUser.Same u u'
  | _, _ => False

theorem RepoUser.Same.trans {w : RepoUser} (h : u.Same v) (h' : v.Same w) : u.Same w :=
  ⟨h.id.trans h'.id, h.emailHash.trans h'.emailHash, fun key hkey =>
    (h.field key hkey).trans (h'.field key hkey)⟩

theorem RepoUser.Storable.same (hu : u.Storable) (h : u.Same v) : v.Storable := by
  refine ⟨?_, ?_, ?_⟩
  · rw [← h.field "passwordHash" (by decide)]
    exact hu.passwordHash
  · rw [← h.field "cryptoSalt" (by decide)]
    exact hu.cryptoSalt
  · rw [← h.field "_sealed" (by decide)]
    exact hu.sealed_

/-- The user is there. -/
def FileRepo.Has (f : FileRepo) (uid : Uid) : Prop := ∃ u ∈ f.users, u.id = uid

theorem FileRepo.has_congr {f f' : FileRepo} (h : f'.users.map (·.id) = f.users.map (·.id))
    (uid : Uid) : f'.Has uid ↔ f.Has uid := by
  have hmem : ∀ g : FileRepo, g.Has uid ↔ uid ∈ g.users.map (·.id) := fun g => by
    simp [Has]
  rw [hmem, hmem, h]

/-- `seen` are the ids that were ever inserted. -/
structure Agrees (P : PgNode) (seen : List Uid) (f : FileRepo) (g : PgRepo) : Prop where
  users : Forall₂ (fun u r => u.Same r.user) f.users g.rows
  sound : Sound P g
  items : ∀ r ∈ g.rows, ∀ name, f.file r.id name = g.item r.id name
  ids : ∀ r ∈ g.rows, r.id ∈ seen
  cache : ∀ uid, g.cache uid ≠ none → uid ∈ seen
  dirs : ∀ uid, f.dirs uid ≠ none → uid ∈ seen

section

variable {P : PgNode} {seen : List Uid} {f : FileRepo} {g g' : PgRepo}

theorem agrees_empty : Agrees P [] .empty .empty :=
  ⟨.nil, sound_empty, fun _ h => absurd h not_mem_nil, fun _ h => absurd h not_mem_nil,
    fun _ h => absurd rfl h, fun _ h => absurd rfl h⟩

section

variable (h : Agrees P seen f g)
include h

theorem Agrees.warmed (hw : Warmed P g g') : Agrees P seen f g' := by
  refine ⟨hw.rows ▸ h.users, h.sound.warmed hw, ?_, hw.rows ▸ h.ids, ?_, h.dirs⟩
  · intro r hr name
    rw [item, hw.items]
    exact h.items r (hw.rows ▸ hr) name
  · intro uid huid
    obtain ⟨d, hd⟩ := Option.ne_none_iff_exists'.mp huid
    rcases hw.cache uid d hd with hd | ⟨r, hr, rfl, -⟩
    · exact h.cache uid (by rw [hd]; simp)
    · exact h.ids r hr

theorem Agrees.mono (seen' : List Uid) (hs : ∀ uid ∈ seen, uid ∈ seen') : Agrees P seen' f g :=
  ⟨h.users, h.sound, h.items, fun r hr => hs _ (h.ids r hr),
    fun uid hu => hs uid (h.cache uid hu), fun uid hu => hs uid (h.dirs uid hu)⟩

theorem Agrees.has_iff (uid : Uid) : f.Has uid ↔ ∃ r ∈ g.rows, r.id = uid := by
  constructor
  · rintro ⟨u, hu, rfl⟩
    obtain ⟨r, hr, hsame⟩ := exists_left_of_forall₂ h.users hu
    exact ⟨r, hr, hsame.id.symm⟩
  · rintro ⟨r, hr, rfl⟩
    obtain ⟨u, hu, hsame⟩ := exists_right_of_forall₂ h.users hr
    exact ⟨u, hu, hsame.id⟩

theorem Agrees.find? (id : Uid) :
    (f.users.find? (·.id = id) = none ∧ g.rows.find? (·.id = id) = none) ∨
      ∃ u r, f.users.find? (·.id = id) = some u ∧ g.rows.find? (·.id = id) = some r ∧
        u.Same r.user :=
  forall₂_find? (fun u r hsame => by rw [hsame.id]; rfl) h.users

end

end

/-! ## Calls the two have in common -/

/-- What a callback may do to a user: `u` is the file's, `v` the one from Postgres. -/
structure Updates (u u' v v' : RepoUser) : Prop where
  id : u'.id = u.id
  emailHash : u'.emailHash = u.emailHash
  storable : u'.Storable
  same : u'.Same v'
  kept : ∀ key ∈ pgFields, v'.field key = v.field key

/-- The callback does not depend on the properties of Postgres. -/
def BlindUpdate (fn : RepoUser → Except RepoError (Option Js × RepoUser)) (u : RepoUser) : Prop :=
  ∀ v, u.Same v →
    match fn u, fn v with
    | .error e, .error e' => e = e'
    | .ok (ret, u'), .ok (ret', v') => ret = ret' ∧ (isFalse ret = true ∨ Updates u u' v v')
    | _, _ => False

/-- The same users, in another order. -/
def SameUserLists (us vs : List RepoUser) : Prop :=
  ∃ ws, us.Perm ws ∧ Forall₂ RepoUser.Same ws vs

/-- What a callback may do to all users. -/
structure UpdatesAll (us us' vs vs' : List RepoUser) : Prop where
  ids : us'.map (·.id) = us.map (·.id)
  emailHash : ∀ u' ∈ us', ∃ u ∈ us, u.id = u'.id ∧ u.emailHash = u'.emailHash
  storable : ∀ u' ∈ us', u'.Storable
  same : SameUserLists us' vs'
  kept : ∀ v' ∈ vs', ∃ v ∈ vs, v.id = v'.id ∧ ∀ key ∈ pgFields, v'.field key = v.field key

/-- The callback depends neither on the properties of Postgres nor on the order. -/
def BlindTransaction (fn : List RepoUser → Except RepoError (Option Js × List RepoUser))
    (us : List RepoUser) : Prop :=
  ∀ vs, SameUserLists us vs →
    match fn us, fn vs with
    | .error e, .error e' => e = e'
    | .ok (ret, us'), .ok (ret', vs') =>
      ret = ret' ∧ (isFalse ret = true ∨ UpdatesAll us us' vs vs')
    | _, _ => False

/-- The call stays inside what the two repositories have in common. -/
def Interchangeable (seen : List Uid) (f : FileRepo) : RepoCall → Prop
  | .insertUser user => user.id ∉ seen ∧ user.Storable
  | .updateUserById id fn => ∀ u, f.findUserById id = some u → BlindUpdate fn u
  | .withUserTransaction fn => BlindTransaction fn f.users
  | .getResource uid _ | .setResource uid _ _ => f.Has uid
  -- for the file, a list that was set to `null` is there
  | .loadSessions uid => f.Has uid ∧ f.file uid "sessions" ≠ some .null
  | .saveSessions uid _ => f.Has uid ∧ (f.dirs uid).isSome
  | .deleteUserData uid => ¬ f.Has uid
  | _ => True

/-- The ids a call uses up. -/
def RepoCall.insertedIds : RepoCall → List Uid
  | .insertUser user => [user.id]
  | _ => []

/-! ## One call -/

/-- Equal results, and repositories that agree. -/
def AnswerAlike (P : PgNode) (seen : List Uid) (x : RepoResult × FileRepo) (y : RepoResult × PgRepo) :
    Prop :=
  SameResult x.1 y.1 ∧ Agrees P seen x.2 y.2

section

variable {P : PgNode} {seen : List Uid} {f : FileRepo} {g g' : PgRepo} {i : PgInput P}

theorem Agrees.reads {α : Type} {x : PgTask α} {a : α} (h : Agrees P seen f g) (hx : Reads P x g a)
    (k : α → RepoValue) {result : RepoResult} (hresult : SameResult result (.ok (k a))) :
    AnswerAlike P seen (result, f) ((x >>= fun a => pure (k a)) g) := by
  obtain ⟨g', hrun, hw⟩ := hx
  rw [bind_run_ok hrun]
  exact ⟨hresult, h.warmed hw⟩

theorem Agrees.findUser (h : Agrees P seen f g) {p : RepoUser → Bool} {q : PgRow → Bool}
    (hpq : ∀ u r, u.Same r.user → p u = q r) :
    AnswerAlike P seen (.ok (.user (f.users.find? p)), f)
      ((PgRepo.findUser P q >>= fun user => pure (.user user)) g) := by
  refine h.reads (findUser_reads h.sound q) .user ?_
  rcases forall₂_find? hpq h.users with ⟨hu, hr⟩ | ⟨u, r, hu, hr, hsame⟩
  · rw [hu, hr]
    exact .none
  · rw [hu, hr]
    exact .some hsame

variable {user : RepoUser} {id : Uid}

theorem FileRepo.insert_taken (h : (f.users.any fun u => u.emailHash = user.emailHash) = true) :
    FileRepo.call (.insertUser user) f = (.error .userExists, f) := by
  simp only [FileRepo.call, withUsersLock, bind_run, insertFn]
  simp only [UserRecord.emailHash]
  rw [if_pos h]

theorem FileRepo.insert_free (h : ¬ (f.users.any fun u => u.emailHash = user.emailHash) = true) :
    FileRepo.call (.insertUser user) f =
      (.ok (.js (some (.string user.id))), { f with users := f.users ++ [user] }) := by
  simp only [FileRepo.call, withUsersLock, bind_run, insertFn]
  simp only [UserRecord.emailHash, UserRecord.id]
  rw [if_neg h]
  rfl

theorem FileRepo.delete_eq (f : FileRepo) (id : Uid) :
    FileRepo.call (.deleteUserById id) f =
      (.ok .undefined, { f with users := f.users.eraseP (·.id = id) }) := by
  simp only [FileRepo.call, withUsersLock, bind_run, deleteFn]
  simp only [UserRecord.id]
  by_cases hany : (f.users.any fun u => u.id = id) = true
  · rw [if_pos hany]
    rfl
  · have hnone : f.users.eraseP (·.id = id) = f.users :=
      eraseP_of_forall_not fun u hu hid => hany (any_eq_true.mpr ⟨u, hu, hid⟩)
    rw [if_neg hany, hnone]
    rfl

theorem Agrees.insertUser (h : Agrees P seen f g) (hid : user.id ∉ seen) (hs : user.Storable) :
    AnswerAlike P (seen ++ [user.id]) (FileRepo.call (.insertUser user) f)
      (PgRepo.call P i (.insertUser user) g) := by
  have hfresh : g.cache user.id = none := by
    by_contra hcache
    exact hid (h.cache user.id hcache)
  have hrows : ∀ r ∈ g.rows, r.id ≠ user.id := fun r hr hrid => hid (hrid ▸ h.ids r hr)
  have hdir : f.dirs user.id = none := by
    by_contra hdir
    exact hid (h.dirs user.id hdir)
  have hemails : (f.users.any fun u => u.emailHash = user.emailHash) =
      g.rows.any fun r => r.emailHmac = user.emailHash :=
    forall₂_any (fun u r hsame => by rw [hsame.emailHash]; rfl) h.users
  have hseen := h.mono (seen ++ [user.id]) fun uid => mem_append_left _
  have hcached : ∀ g' : PgRepo, CachedFor user.id g g' → ∀ uid, g'.cache uid ≠ none →
      uid ∈ seen ++ [user.id] := by
    intro g' hcache uid huid
    by_cases hu : uid = user.id
    · simp [hu]
    · exact hseen.cache uid (hcache uid hu ▸ huid)
  by_cases htaken : (f.users.any fun u => u.emailHash = user.emailHash) = true
  · -- both refuse
    obtain ⟨r, hr, hemail⟩ := any_eq_true.mp (hemails ▸ htaken)
    obtain ⟨g', hrun, hrows', hitems, hcache⟩ := insertUser_taken (i := i) hfresh hs.passwordHash
      ⟨r, hr, of_decide_eq_true hemail⟩
    have hpg : PgRepo.call P i (.insertUser user) g = (.error .userExists, g') :=
      bind_run_error hrun
    rw [insert_taken htaken, hpg]
    refine ⟨rfl, ?_, h.sound.cachedFor hrows' hitems hcache hrows, ?_, ?_,
      hcached g' hcache, hseen.dirs⟩
    · exact hrows' ▸ h.users
    · intro r hr name
      rw [item, hitems]
      exact h.items r (hrows' ▸ hr) name
    · exact hrows' ▸ hseen.ids
  · have hemail : ∀ r ∈ g.rows, r.emailHmac ≠ user.emailHash := fun r hr hr' =>
      htaken (hemails ▸ any_eq_true.mpr ⟨r, hr, decide_eq_true hr'⟩)
    obtain ⟨g', r, hrun, hrows', hitems, hcache, hstores, hsound⟩ := insertUser_stores (i := i)
      h.sound hfresh hs hrows hemail
    have hpg : PgRepo.call P i (.insertUser user) g = (.ok (.js (some (.string user.id))), g') :=
      bind_run_ok hrun
    rw [insert_free htaken, hpg]
    refine ⟨rfl, ?_, hsound, ?_, ?_, hcached g' hcache, hseen.dirs⟩
    · rw [hrows']
      exact rel_append h.users (.cons (hstores.same hs) .nil)
    · intro q hq name
      rw [item, hitems]
      rw [hrows'] at hq
      rcases mem_append.mp hq with hq | hq
      · exact h.items q hq name
      · obtain rfl := mem_singleton.mp hq
        rw [hstores.id, h.sound.items user.id hrows name, file]
        simp [hdir]
    · intro q hq
      rw [hrows'] at hq
      rcases mem_append.mp hq with hq | hq
      · exact hseen.ids q hq
      · obtain rfl := mem_singleton.mp hq
        simp [hstores.id]

theorem Agrees.rewritten (h : Agrees P seen f g) {users : List RepoUser} (hsound : Sound P g')
    (hrewritten : Rewritten g g')
    (husers : Forall₂ (fun u r => u.Same (PgRow.user r)) users g'.rows) :
    Agrees P seen { f with users } g' := by
  have hold : ∀ r ∈ g'.rows, ∃ q ∈ g.rows, q.id = r.id := fun r hr => by
    have hmem : r.id ∈ g.rows.map (·.id) := hrewritten.ids ▸ mem_map_of_mem hr
    exact mem_map.mp hmem
  refine ⟨husers, hsound, fun r hr name => ?_, fun r hr => ?_, fun uid huid => ?_, h.dirs⟩
  · obtain ⟨q, hq, hid⟩ := hold r hr
    rw [← hid, item, hrewritten.items]
    exact h.items q hq name
  · obtain ⟨q, hq, hid⟩ := hold r hr
    exact hid ▸ h.ids q hq
  · rcases hrewritten.cache uid huid with huid | huid
    · exact h.cache uid huid
    · obtain ⟨q, hq, rfl⟩ := mem_map.mp huid
      exact h.ids q hq

theorem retOr_of_isFalse {ret : Option Js} (h : isFalse ret = true) : retOr id ret = ret := by
  unfold isFalse at h
  split at h
  · rfl
  · cases h

section

variable {id : Uid} {fn : RepoUser → Except RepoError (Option Js × RepoUser)}

theorem FileRepo.update_none (hu : f.users.find? (·.id = id) = none) :
    FileRepo.call (.updateUserById id fn) f = (.ok (.js (some .null)), f) := by
  have hfn : updateFn id fn f.users = .ok (none, f.users) := by
    unfold updateFn
    simp only [UserRecord.id]
    rw [hu]
  simp only [FileRepo.call, withUsersLock, bind_run, hfn]
  rfl

variable {u : RepoUser}

theorem updateFn_some {us : List RepoUser} (hu : us.find? (·.id = id) = some u) :
    updateFn id fn us = (fn u).map fun p => (some p.1, us.set (us.findIdx (·.id = id)) p.2) := by
  unfold updateFn
  simp only [UserRecord.id]
  rw [hu]
  dsimp only
  cases fn u with
  | error e => rfl
  | ok p => rfl

theorem FileRepo.update_throws {e : RepoError} (hu : f.users.find? (·.id = id) = some u)
    (hfn : fn u = .error e) : FileRepo.call (.updateUserById id fn) f = (.error e, f) := by
  have hupdate : updateFn id fn f.users = .error e := by
    rw [updateFn_some hu, hfn]
    rfl
  simp only [FileRepo.call, withUsersLock, bind_run, hupdate]

theorem FileRepo.update_returns {u' : RepoUser} {ret : Option Js}
    (hu : f.users.find? (·.id = id) = some u) (hfn : fn u = .ok (ret, u')) :
    FileRepo.call (.updateUserById id fn) f = (.ok (.js (retOr id ret)),
      if isFalse ret then f
      else { f with users := f.users.set (f.users.findIdx (·.id = id)) u' }) := by
  have hupdate : updateFn id fn f.users =
      .ok (some ret, f.users.set (f.users.findIdx (·.id = id)) u') := by
    rw [updateFn_some hu, hfn]
    rfl
  simp only [FileRepo.call, withUsersLock, bind_run, hupdate]
  rfl

end

section

variable (h : Agrees P seen f g)
include h

/-- **An update**, by a callback that cannot tell the repositories apart. -/
theorem Agrees.updateUserById {fn : RepoUser → Except RepoError (Option Js × RepoUser)}
    (hfn : ∀ u, f.findUserById id = some u → BlindUpdate fn u) :
    AnswerAlike P seen (FileRepo.call (.updateUserById id fn) f)
      (PgRepo.call P i (.updateUserById id fn) g) := by
  rcases h.find? id with ⟨hu, hr⟩ | ⟨u, r, hu, hr, hsame⟩
  · rw [update_none hu]
    exact h.reads (updateUserById_none h.sound hr) .js rfl
  · obtain ⟨hmem, rfl⟩ := find?_id_eq_some hr
    have hblind := hfn u hu r.user hsame
    cases hfu : fn u with
    | error e =>
      cases hfv : fn r.user with
      | ok p => simp [hfu, hfv] at hblind
      | error e' =>
        simp only [hfu, hfv] at hblind
        subst hblind
        obtain ⟨g', hrun, hw⟩ := updateUserById_throws h.sound hmem hfv
        rw [update_throws hu hfu, PgRepo.call, bind_run_error hrun]
        exact ⟨rfl, h.warmed hw⟩
    | ok p =>
      obtain ⟨ret, u'⟩ := p
      cases hfv : fn r.user with
      | error e' => simp [hfu, hfv] at hblind
      | ok p' =>
        obtain ⟨ret', v'⟩ := p'
        simp only [hfu, hfv] at hblind
        obtain ⟨rfl, hblind⟩ := hblind
        rw [update_returns hu hfu]
        by_cases hret : isFalse ret = true
        · rw [if_pos hret]
          exact h.reads (updateUserById_declined h.sound hmem hfv hret) .js
            (congrArg id (retOr_of_isFalse hret))
        · have hupdates := hblind.resolve_left hret
          have hrewrites : Rewrites v' r := by
            refine ⟨?_, ?_, hupdates.storable.same hupdates.same, hupdates.kept⟩
            · rw [← hupdates.same.id, hupdates.id, hsame.id]
              rfl
            · rw [← hupdates.same.emailHash, hupdates.emailHash, hsame.emailHash]
              rfl
          rcases updateUserById_writes h.sound hmem hfv (Bool.eq_false_iff.mpr hret)
            hrewrites.carries hrewrites.emailHash hrewrites.storable.sealed_ with
            ⟨hrefused, -⟩ | ⟨g', r', hrun, hw, hstores, hsound⟩
          · exact absurd hrewrites.accepts hrefused
          · rw [if_neg hret, PgRepo.call, bind_run_ok hrun]
            have hid' : r'.id = r.id := hstores.id.trans hrewrites.id
            refine ⟨rfl, h.rewritten hsound (hw.rewritten.trans (rewritten_replace hid')) ?_⟩
            exact forall₂_exchange (fun u r hsame => hsame.id) (hw.rows ▸ h.users)
              (hw.rows ▸ h.sound.ids) r.id
              (hupdates.same.trans (hstores.same hrewrites.storable))

theorem Agrees.deleteUserById (id : Uid) :
    AnswerAlike P seen (FileRepo.call (.deleteUserById id) f)
      (PgRepo.call P i (.deleteUserById id) g) := by
  have hpg : PgRepo.call P i (.deleteUserById id) g =
      (.ok .undefined, (PgRepo.deleteRow id g).2) := rfl
  rw [delete_eq, hpg]
  have hmem : ∀ r ∈ (PgRepo.deleteRow id g).2.rows, r ∈ g.rows ∧ r.id ≠ id := fun r hr =>
    ⟨(mem_filter.mp hr).1, of_decide_eq_true (mem_filter.mp hr).2⟩
  refine ⟨rfl, forall₂_remove (fun u r hsame => hsame.id) h.users h.sound.ids id,
    h.sound.deleteRow id, fun r hr name => ?_, fun r hr => h.ids r (hmem r hr).1,
    h.cache, h.dirs⟩
  have hitems : (PgRepo.deleteRow id g).2.items r.id = g.items r.id :=
    update_of_ne (hmem r hr).2 _ _
  rw [item, hitems]
  exact h.items r (hmem r hr).1 name

theorem Agrees.ids_eq : f.users.map (·.id) = g.rows.map (·.id) :=
  forall₂_keys (fun _ _ hsame => hsame.id) h.users

theorem Agrees.sameUserLists (i : PgInput P) :
    SameUserLists f.users ((i.order g.rows).map PgRow.user) := by
  have hcomp : Relation.Comp (Forall₂ RepoUser.Same) Perm f.users
      ((i.order g.rows).map PgRow.user) :=
    ⟨g.rows.map PgRow.user, forall₂_map_right_iff.mpr h.users,
      ((i.order_perm g.rows).map PgRow.user).symm⟩
  rw [forall₂_comp_perm_eq_perm_comp_forall₂] at hcomp
  exact hcomp

end

variable {us vs : List RepoUser}

theorem SameUserLists.exists_left (h : SameUserLists us vs) (hv : v ∈ vs) : ∃ u ∈ us, u.Same v := by
  obtain ⟨ws, hperm, hsame⟩ := h
  obtain ⟨w, hw, hwv⟩ := exists_right_of_forall₂ hsame hv
  exact ⟨w, hperm.mem_iff.mpr hw, hwv⟩

theorem SameUserLists.exists_right (h : SameUserLists us vs) (hu : u ∈ us) :
    ∃ v ∈ vs, u.Same v := by
  obtain ⟨ws, hperm, hsame⟩ := h
  exact exists_left_of_forall₂ hsame (hperm.mem_iff.mp hu)

theorem SameUserLists.nodup_ids (h : SameUserLists us vs) (hids : (us.map (·.id)).Nodup) :
    (vs.map (·.id)).Nodup := by
  obtain ⟨ws, hperm, hsame⟩ := h
  have hkeys : ws.map (·.id) = vs.map (·.id) := forall₂_keys (fun u v huv => huv.id) hsame
  rw [← hkeys]
  exact (hperm.map _).nodup_iff.mp hids

section

variable {us' vs' : List RepoUser}
  (hupdates : UpdatesAll f.users us' ((i.order g.rows).map PgRow.user) vs')
include hupdates

theorem Agrees.rewrites (h : Agrees P seen f g) {v' : RepoUser} (hv' : v' ∈ vs') :
    ∃ r ∈ g.rows, Rewrites v' r ∧
      ((i.order g.rows).map PgRow.user).find? (·.id = v'.id) = some r.user := by
  obtain ⟨v, hv, hid, hkept⟩ := hupdates.kept v' hv'
  obtain ⟨r, hr, rfl⟩ := mem_map.mp hv
  have hmem : r ∈ g.rows := (i.order_perm g.rows).mem_iff.mp hr
  obtain ⟨u', hu', hsame'⟩ := hupdates.same.exists_left hv'
  obtain ⟨u, hu, huid, huemail⟩ := hupdates.emailHash u' hu'
  obtain ⟨q, hq, hsame⟩ := exists_left_of_forall₂ h.users hu
  -- the row of `u` is the row of `v`
  have hqr : q = r := by
    refine row_inj h.sound hq hmem ?_
    calc q.id = u.id := hsame.id.symm
      _ = u'.id := huid
      _ = v'.id := hsame'.id
      _ = r.id := hid.symm
  subst hqr
  refine ⟨q, hmem, ⟨hid.symm, ?_, (hupdates.storable u' hu').same hsame', hkept⟩, ?_⟩
  · rw [← hsame'.emailHash, ← huemail, hsame.emailHash]
    rfl
  · rw [← hid]
    refine find?_key ?_ hv
    rw [map_map]
    exact (((i.order_perm g.rows).map (·.id)).nodup_iff).mpr h.sound.ids

theorem Agrees.updatesAll (h : Agrees P seen f g) (hids : g'.rows.map (·.id) = g.rows.map (·.id))
    (hrows : ∀ r ∈ g'.rows, (∃ v' ∈ vs', v'.Same r.user) ∨ ∀ v' ∈ vs', v'.id ≠ r.id) :
    Forall₂ (fun u r => u.Same (PgRow.user r)) us' g'.rows := by
  have hkeys : us'.map (·.id) = g'.rows.map (·.id) := by rw [hupdates.ids, h.ids_eq, hids]
  have hnodup : (us'.map (·.id)).Nodup := by
    rw [hupdates.ids, h.ids_eq]
    exact h.sound.ids
  refine forall₂_of_keys hkeys fun u' hu' r hr hid => ?_
  rcases hrows r hr with ⟨v', hv', hsame⟩ | hnone
  · obtain ⟨u, hu, hsame'⟩ := hupdates.same.exists_left hv'
    have huu' : u = u' := by
      refine inj_on_of_nodup_map hnodup hu hu' ?_
      rw [hsame'.id, hsame.id, hid]
      rfl
    exact huu' ▸ hsame'.trans hsame
  · obtain ⟨v', hv', hsame⟩ := hupdates.same.exists_right hu'
    exact absurd (hsame.id.symm.trans hid) (hnone v' hv')

end

/-- **A transaction**, by a callback that cannot tell the repositories apart. -/
theorem Agrees.withUserTransaction (h : Agrees P seen f g)
    {fn : List RepoUser → Except RepoError (Option Js × List RepoUser)}
    (hfn : BlindTransaction fn f.users) :
    AnswerAlike P seen (FileRepo.call (.withUserTransaction fn) f)
      (PgRepo.call P i (.withUserTransaction fn) g) := by
  have hblind := hfn _ (h.sameUserLists i)
  obtain ⟨g₁, hw, hrun⟩ := withUserTransaction_run h.sound i fn
  cases hfu : fn f.users with
  | error e =>
    cases hfv : fn ((i.order g.rows).map PgRow.user) with
    | ok p => simp [hfu, hfv] at hblind
    | error e' =>
      simp only [hfu, hfv] at hblind
      subst hblind
      rw [hfv] at hrun
      have hfile : FileRepo.call (.withUserTransaction fn) f = (.error e, f) := by
        simp only [FileRepo.call, FileRepo.withUsersLock, bind_run, hfu]
      rw [hfile, PgRepo.call, bind_run_error (hrun.trans (withTx_error rfl))]
      exact ⟨rfl, h.warmed ⟨rfl, rfl, hw.cache⟩⟩
  | ok p =>
    obtain ⟨ret, us'⟩ := p
    cases hfv : fn ((i.order g.rows).map PgRow.user) with
    | error e' => simp [hfu, hfv] at hblind
    | ok p' =>
      obtain ⟨ret', vs'⟩ := p'
      simp only [hfu, hfv] at hblind
      obtain ⟨rfl, hblind⟩ := hblind
      rw [hfv, lift_ok_bind] at hrun
      have hfile : FileRepo.call (.withUserTransaction fn) f =
          (.ok (.js ret), if isFalse ret then f else { f with users := us' }) := by
        simp only [FileRepo.call, FileRepo.withUsersLock, bind_run, hfu]
        rfl
      rw [hfile, PgRepo.call]
      by_cases hret : isFalse ret = true
      · rw [if_pos hret] at hrun ⊢
        rw [bind_run_ok (hrun.trans (withTx_ok rfl))]
        exact ⟨rfl, h.warmed hw⟩
      · have hupdates := hblind.resolve_left hret
        have hnodup : (us'.map (·.id)).Nodup := by
          rw [hupdates.ids, h.ids_eq]
          exact h.sound.ids
        obtain ⟨g', hwrite, hsound, hrewritten, hrows⟩ := writeChanged_writes (h.sound.warmed hw)
          (hupdates.same.nodup_ids hnodup) fun v' hv' => by
            obtain ⟨r, hr, hr'⟩ := h.rewrites hupdates hv'
            exact ⟨r, hw.rows ▸ hr, hr'⟩
        rw [if_neg hret] at hrun ⊢
        rw [bind_run_ok (hrun.trans (withTx_ok (bind_run_ok hwrite)))]
        have hall := hw.rewritten.trans hrewritten
        refine ⟨rfl, h.rewritten hsound hall (h.updatesAll hupdates hall.ids fun r hr => ?_)⟩
        exact (hrows r hr).imp_right And.right

/-! ## Resources -/

variable {name : String} {f' : FileRepo} {uid uid' : Uid} {c : RepoCall}

theorem Agrees.setItem (h : Agrees P seen f g) {r : PgRow} {d : Dek} (hr : r ∈ g.rows)
    (hd : Keyed P g r d) (value : Option Js) (husers : f'.users = f.users)
    (hfile : ∀ uid key, f'.file uid key =
      if uid = r.id ∧ key = name then value else f.file uid key)
    (hdirs : ∀ uid, f'.dirs uid ≠ none → f.dirs uid ≠ none ∨ uid = r.id) :
    Agrees P seen f' (g.setItem r.id name (value.map (d, ·))) := by
  refine ⟨husers ▸ h.users, h.sound.setItem hr hd name _ fun b hb => ?_, fun q hq key => ?_,
    h.ids, h.cache, fun uid huid => ?_⟩
  · obtain ⟨v, -, rfl⟩ := Option.map_eq_some_iff.mp hb
    rfl
  · rw [hfile, item_setItem, h.items q hq key]
    cases value <;> rfl
  · rcases hdirs uid huid with huid | rfl
    · exact h.dirs uid huid
    · exact h.ids r hr

theorem FileRepo.file_writeFile (hdir : (f.dirs uid).isSome) (name : String) (value : Option Js)
    (uid' : Uid) (key : String) :
    (f.writeFile uid name value).file uid' key =
      if uid' = uid ∧ key = name then value else f.file uid' key := by
  obtain ⟨files, hfiles⟩ := Option.isSome_iff_exists.mp hdir
  unfold file writeFile
  by_cases huid : uid' = uid
  · subst huid
    by_cases hkey : key = name <;> simp [hfiles, hkey]
  · simp [huid]

theorem FileRepo.dirs_writeFile {value : Option Js}
    (h : (f.writeFile uid name value).dirs uid' ≠ none) : f.dirs uid' ≠ none ∨ uid' = uid := by
  by_cases huid : uid' = uid
  · exact Or.inr huid
  · refine Or.inl ?_
    simpa [writeFile, huid] using h

theorem FileRepo.makeDir_isSome (uid : Uid) : ((f.makeDir uid).dirs uid).isSome := by
  unfold makeDir
  by_cases h : (f.dirs uid).isSome
  · rw [if_pos h]
    exact h
  · rw [if_neg h]
    simp

theorem FileRepo.file_makeDir (uid uid' : Uid) (key : String) :
    (f.makeDir uid).file uid' key = f.file uid' key := by
  unfold makeDir file
  by_cases h : (f.dirs uid).isSome
  · rw [if_pos h]
  · rw [if_neg h]
    by_cases huid : uid' = uid
    · subst huid
      simp [Option.not_isSome_iff_eq_none.mp h]
    · simp [huid]

theorem FileRepo.dirs_makeDir (h : (f.makeDir uid).dirs uid' ≠ none) :
    f.dirs uid' ≠ none ∨ uid' = uid := by
  by_cases huid : uid' = uid
  · exact Or.inr huid
  · refine Or.inl ?_
    unfold makeDir at h
    split at h
    · exact h
    · simpa [huid] using h

theorem FileRepo.users_makeDir (uid : Uid) : (f.makeDir uid).users = f.users := by
  unfold makeDir
  split <;> rfl

/-- **A write**: `f'` is the repository after it. -/
theorem Agrees.setResource (h : Agrees P seen f g) (huid : f.Has uid) {value : Js}
    (husers : f'.users = f.users) (hfile : ∀ uid' key, f'.file uid' key =
      if uid' = uid ∧ key = name then some value else f.file uid' key)
    (hdirs : ∀ uid', f'.dirs uid' ≠ none → f.dirs uid' ≠ none ∨ uid' = uid) :
    AnswerAlike P seen (.ok .undefined, f')
      ((PgRepo.setResource P uid name value >>= fun _ => pure .undefined) g) := by
  obtain ⟨r, hr, rfl⟩ := (h.has_iff uid).mp huid
  obtain ⟨g', d, hrun, hw, hd⟩ := setResource_stores h.sound hr name value
  rw [bind_run_ok hrun]
  exact ⟨rfl, (h.warmed hw).setItem (hw.rows ▸ hr) hd _ husers hfile hdirs⟩

theorem Agrees.getResource (h : Agrees P seen f g) (huid : f.Has uid) (name : String) :
    Reads P (PgRepo.getResource P uid name) g ((f.file uid name).getD .null) := by
  obtain ⟨r, hr, rfl⟩ := (h.has_iff uid).mp huid
  rw [h.items r hr name]
  exact getResource_reads h.sound name

theorem FileRepo.file_writeFile_none (uid : Uid) (name : String) (uid' : Uid) (key : String) :
    (f.writeFile uid name none).file uid' key =
      if uid' = uid ∧ key = name then none else f.file uid' key := by
  by_cases hdir : (f.dirs uid).isSome
  · exact file_writeFile hdir name none uid' key
  · have hnone := Option.not_isSome_iff_eq_none.mp hdir
    unfold writeFile file
    by_cases huid : uid' = uid
    · subst huid
      simp [hnone]
    · simp [huid]

theorem Agrees.deleteResource (h : Agrees P seen f g) (uid : Uid) (name : String) :
    AnswerAlike P seen (FileRepo.call (.deleteResource uid name) f)
      (PgRepo.call P i (.deleteResource uid name) g) := by
  by_cases huid : f.Has uid
  · obtain ⟨r, hr, rfl⟩ := (h.has_iff uid).mp huid
    obtain ⟨d, hd⟩ := h.sound.keyed r hr
    exact ⟨rfl, h.setItem hr hd none rfl (file_writeFile_none r.id name)
      fun uid' => dirs_writeFile⟩
  · -- there was no item, and the files of the other users are as they were
    have hne : ∀ r ∈ g.rows, r.id ≠ uid := fun r hr hid =>
      huid ((h.has_iff uid).mpr ⟨r, hr, hid⟩)
    have hitem : g.setItem uid name none = g := by
      rw [PgRepo.setItem, ← h.sound.items uid hne name, update_eq_self, update_eq_self]
    have hfile : FileRepo.call (.deleteResource uid name) f =
        (.ok .undefined, f.writeFile uid name none) := rfl
    have hpg : PgRepo.call P i (.deleteResource uid name) g =
        (.ok .undefined, g.setItem uid name none) := rfl
    rw [hfile, hpg, hitem]
    refine ⟨rfl, h.users, h.sound, fun r hr key => ?_, h.ids, h.cache,
      fun uid' huid' => h.dirs uid' ?_⟩
    · rw [← h.items r hr key]
      refine (file_writeFile_none uid name r.id key).trans (if_neg fun hat => ?_)
      exact hne r hr hat.1
    · intro hnone
      refine huid' ?_
      by_cases hu : uid' = uid
      · subst hu
        simp [writeFile, hnone]
      · simp [writeFile, hu, hnone]

theorem Agrees.deleteUserData (h : Agrees P seen f g) (huid : ¬ f.Has uid) :
    AnswerAlike P seen (FileRepo.call (.deleteUserData uid) f)
      (PgRepo.call P i (.deleteUserData uid) g) := by
  have hne : ∀ r ∈ g.rows, r.id ≠ uid := fun r hr hid => huid ((h.has_iff uid).mpr ⟨r, hr, hid⟩)
  have hrows : (PgRepo.deleteRow uid g).2.rows = g.rows :=
    filter_eq_self.mpr fun r hr => decide_eq_true (hne r hr)
  have hfile : FileRepo.call (.deleteUserData uid) f =
      (.ok .undefined, { f with dirs := update f.dirs uid none }) := rfl
  have hpg : PgRepo.call P i (.deleteUserData uid) g =
      (.ok .undefined, (PgRepo.deleteRow uid g).2) := rfl
  rw [hfile, hpg]
  refine ⟨rfl, hrows ▸ h.users, h.sound.deleteRow uid, fun r hr name => ?_, hrows ▸ h.ids, h.cache,
    fun uid' huid' => ?_⟩
  · rw [hrows] at hr
    have hitems : (PgRepo.deleteRow uid g).2.items r.id = g.items r.id :=
      update_of_ne (hne r hr) _ _
    rw [item, hitems, file]
    simp only [update_of_ne (hne r hr)]
    exact h.items r hr name
  · by_cases hu : uid' = uid
    · subst hu
      simp at huid'
    · simp only [update_of_ne hu] at huid'
      exact h.dirs uid' huid'

theorem nullish_getD {o : Option Js} (h : o ≠ some .null) (w : Js) :
    nullish (o.getD .null) w = o.getD w := by
  rcases o with _ | v
  · rfl
  · cases v with
    | null => exact absurd rfl h
    | _ => rfl

theorem Agrees.call (h : Agrees P seen f g) (hc : Interchangeable seen f c) :
    AnswerAlike P (seen ++ c.insertedIds) (FileRepo.call c f) (PgRepo.call P i c g) := by
  have hsame : ∀ {x y}, AnswerAlike P seen x y → AnswerAlike P (seen ++ []) x y := by
    intro x y hxy
    rwa [append_nil]
  cases c with
  | findUserByEmailHash emailHash =>
    exact hsame (h.findUser fun u r hsame => by rw [hsame.emailHash]; rfl)
  | findUserById id => exact hsame (h.findUser fun u r hsame => by rw [hsame.id]; rfl)
  | insertUser user => exact h.insertUser hc.1 hc.2
  | updateUserById id fn => exact hsame (h.updateUserById hc)
  | deleteUserById id => exact hsame (h.deleteUserById id)
  | withUserTransaction fn => exact hsame (h.withUserTransaction hc)
  | loadSessions uid =>
    refine hsame (h.reads (h.getResource hc.1 "sessions")
      (fun v => .js (some (nullish v (.array []))))
      ?_)
    exact congrArg some (nullish_getD hc.2 _).symm
  | saveSessions uid list =>
    have hfile : FileRepo.call (.saveSessions uid list) f =
        (.ok .undefined, f.writeFile uid "sessions" (some (.array list))) :=
      if_pos hc.2
    rw [hfile]
    exact hsame (h.setResource hc.1 rfl (file_writeFile hc.2 _ _)
      fun _ => dirs_writeFile)
  | getResource uid name =>
    exact hsame (h.reads (h.getResource hc name) (fun v => .js (some v)) rfl)
  | setResource uid name value =>
    refine hsame (h.setResource hc (users_makeDir uid) (fun uid' key => ?_)
      fun uid' huid' => ?_)
    · rw [file_writeFile (makeDir_isSome uid), file_makeDir]
    · rcases dirs_writeFile huid' with huid' | rfl
      · exact dirs_makeDir huid'
      · exact Or.inr rfl
  | deleteResource uid name => exact hsame (h.deleteResource uid name)
  | deleteUserData uid => exact hsame (h.deleteUserData hc)

/-- **One call**, after some keys have left the cache. -/
theorem Agrees.step (h : Agrees P seen f g) (hc : Interchangeable seen f c) :
    AnswerAlike P (seen ++ c.insertedIds) (FileRepo.call c f) (PgRepo.step P i c g) :=
  (h.warmed (warmed_evict i.evicted g)).call hc

end

/-! ## Runs -/

/-- Both repositories, and the ids that were inserted so far. -/
structure Backends where
  file : FileRepo
  postgres : PgRepo
  seen : List Uid

def Backends.empty : Backends := ⟨.empty, .empty, []⟩

/-- Both are given the call. -/
def Backends.step {P : PgNode} (s : Backends) (c : RepoCall × PgInput P) : Backends :=
  ⟨(FileRepo.call c.1 s.file).2, (PgRepo.step P c.2 c.1 s.postgres).2, s.seen ++ c.1.insertedIds⟩

/-- Both return the same. -/
def Backends.Answer {P : PgNode} (s : Backends) (c : RepoCall × PgInput P) : Prop :=
  SameResult (FileRepo.call c.1 s.file).1 (PgRepo.step P c.2 c.1 s.postgres).1

/-- **Interchangeable backends.** On a run of calls that stay inside what the two have in common,
every call returns the same from both. -/
theorem backends_interchangeable (P : PgNode) (calls : List (RepoCall × PgInput P))
    (hcalls : Along Backends.step .empty calls fun s c => Interchangeable s.seen s.file c.1) :
    Along Backends.step .empty calls Backends.Answer := by
  intro pre c post hsplit
  have hagrees : Agrees P (run Backends.step .empty pre).seen (run Backends.step .empty pre).file
      (run Backends.step .empty pre).postgres := by
    refine Visits.invariant (I := fun s : Backends => Agrees P s.seen s.file s.postgres)
      agrees_empty hcalls (fun s c _ hc h => (h.step hc).2) ⟨pre, ⟨c :: post, hsplit.symm⟩, rfl⟩
  exact (hagrees.step (hcalls pre c post hsplit)).1

/-! ## Two runs -/

/-- The properties that a column or `_sealed` looks at. -/
def columnFields : List String := pgFields ++ ["passwordHash", "cryptoSalt", "_sealed"]

section

variable {fields : Js.Fields} (hfields : ∀ p ∈ fields, p.1 ∉ columnFields)
include hfields

theorem field_assign_of_column {key : String} (hkey : key ∈ columnFields) :
    (u.assign fields).field key = u.field key := by
  have hnone : (Js.object fields).get key = none := by
    refine Js.get_eq_none fun hmem => ?_
    obtain ⟨p, hp, rfl⟩ := mem_map.mp hmem
    exact hfields p hp hkey
  by_cases hnamed : key ∈ ["id", "emailHash"]
  · rw [RepoUser.field_named hnamed, RepoUser.field_named hnamed]
  · rw [RepoUser.field_assign, if_neg hnamed, hnone, Option.none_or]

theorem RepoUser.Storable.assign (hu : u.Storable) : (u.assign fields).Storable := by
  refine ⟨?_, ?_, ?_⟩
  · rw [field_assign_of_column hfields (by decide)]
    exact hu.passwordHash
  · rw [field_assign_of_column hfields (by decide)]
    exact hu.cryptoSalt
  · rw [field_assign_of_column hfields (by decide)]
    exact hu.sealed_

theorem blind_assign (hu : u.Storable) : BlindUpdate (fun u => .ok (none, u.assign fields)) u := by
  intro v hsame
  refine ⟨rfl, Or.inr ⟨rfl, rfl, hu.assign hfields, ⟨hsame.id, hsame.emailHash, ?_⟩, ?_⟩⟩
  · intro key hkey
    rw [RepoUser.field_assign, RepoUser.field_assign, hsame.field key hkey]
  · exact fun key hkey => field_assign_of_column hfields (mem_append_left _ hkey)

end

/-- A KMS with one key. -/
def onePgKey : PgNode where
  unwrapDek _ _ := some (.replicate 32 0)
  text
    | .string s => s
    | _ => ""
  text_string _ := rfl
  bytea
    | .buffer bytes => some bytes
    | _ => none
  bytea_buffer _ := rfl

def plainInput : PgInput onePgKey where
  dek := .replicate 32 0
  wrappedDek := []
  kmsKeyId := "k"
  opens := rfl
  now := 0
  order := id
  order_perm := .refl
  evicted _ := false

def storedUser : RepoUser :=
  .of "u1" "e1" [("passwordHash", .string "h"), ("cryptoSalt", .null), ("mfaTotpSecret", .string "s")]

theorem storedUser_storable : storedUser.Storable :=
  ⟨⟨"h", by decide +kernel⟩, Or.inl (by decide +kernel), by decide +kernel⟩

/-- A user is inserted and given a name and a resource. -/
def commonCalls : List (RepoCall × PgInput onePgKey) :=
  [(.insertUser storedUser, plainInput),
    (.updateUserById "u1" fun u => .ok (none, u.assign [("name", .string "n")]), plainInput),
    (.setResource "u1" "folders" (.array []), plainInput),
    (.saveSessions "u1" [], plainInput),
    (.loadSessions "u1", plainInput)]

theorem commonCalls_answered : Along Backends.step .empty commonCalls Backends.Answer := by
  refine backends_interchangeable onePgKey commonCalls ?_
  refine along_cons ⟨not_mem_nil, storedUser_storable⟩ (along_cons ?_ (along_cons ?_
    (along_cons ⟨?_, ?_⟩ (along_cons ⟨?_, ?_⟩ (along_nil _)))))
  · intro u hu
    obtain rfl : storedUser = u := Option.some.inj hu
    exact blind_assign (by decide) storedUser_storable
  · exact ⟨storedUser.assign [("name", .string "n")], mem_cons_self, rfl⟩
  · exact ⟨storedUser.assign [("name", .string "n")], mem_cons_self, rfl⟩
  · rfl
  · exact ⟨storedUser.assign [("name", .string "n")], mem_cons_self, rfl⟩
  · decide +kernel

/-- **Sessions before the first resource.** In Postgres they are saved; for the file there is no
directory yet. -/
theorem sessions_without_directory :
    (FileRepo.call (.insertUser storedUser) .empty).2.Has "u1" ∧
    (FileRepo.call (.saveSessions "u1" [])
      (FileRepo.call (.insertUser storedUser) .empty).2).1 = .error .enoent ∧
    (PgRepo.step onePgKey plainInput (.saveSessions "u1" [])
      (PgRepo.step onePgKey plainInput (.insertUser storedUser) .empty).2).1 = .ok .undefined := by
  refine ⟨⟨storedUser, mem_cons_self, rfl⟩, rfl, ?_⟩
  decide +kernel

end PwdNow.Server
