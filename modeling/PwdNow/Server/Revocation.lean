import PwdNow.Server.Frames
import PwdNow.Server.Symbolic

/-!
# Server — does a password change end the access through the old password?

`changePassword` writes the new hash and then empties the session list. Nothing stops a login that
verified the old password before that from recording its session afterwards, nor a partial token of
such a login from being redeemed: `revocationEpoch` is incremented and never looked at. No *other*
way leads back: the list is read and written under the directory's lock.
-/

namespace PwdNow.Server

open Kit Async Protocol System Option

variable {N : Node} {p : Pid} {uid : Uid} {s s' : Backend} {α β : Type} {n : Nat}

/-- The login behind `jti` verified the password after the last change that emptied the
list, or did not verify a password at all. -/
def Current (s : Backend) (uid : Uid) (jti : Jti) : Prop :=
  ∀ v, jti.verified = some v → s.cleared uid ≤ v

/-- The one kind of section to beware of: `recordSession` writing a session that is no longer
current. -/
def Timely : Await → Input → Backend → Prop
  | .saveSessions uid (some jti), _, s => Current s uid jti
  | _, _, _ => True

def sessionProtocol : Protocol Pid Await Input Backend where
  inv s := ∀ uid, ∀ x ∈ s.loadSessions uid, Current s uid x.jti
  rely p s s' := ∀ uid, s.cleared uid ≤ s'.cleared uid ∧
    (s.dirLock uid = some p → s'.dirLock uid = some p ∧ s'.cleared uid = s.cleared uid)
  refl _ _ _ := ⟨le_rfl, fun h => ⟨h, rfl⟩⟩
  trans h h' uid := by
    refine ⟨(h uid).1.trans (h' uid).1, fun hlock => ?_⟩
    obtain ⟨hlock', hcleared'⟩ := (h uid).2 hlock
    obtain ⟨hlock'', hcleared''⟩ := (h' uid).2 hlock'
    exact ⟨hlock'', hcleared''.trans hcleared'⟩
  may := Timely

/-- A program that keeps to the protocol from wherever it starts. -/
def Obeys (p : Pid) (x : Handler α) : Prop := ∀ s, sessionProtocol.Safe p (fun _ _ => True) x s

/-! ## Programs that add no session -/

/-- The locks and the emptied lists stay, and no session is added. -/
structure SessionFrame (s s' : Backend) : Prop where
  dirLock : s'.dirLock = s.dirLock
  cleared : s'.cleared = s.cleared
  sessions : ∀ uid, s'.loadSessions uid ⊆ s.loadSessions uid

open SessionFrame

namespace SessionFrame

theorem of_dirs (hdirs : s'.dirs = s.dirs) (hlock : s'.dirLock = s.dirLock)
    (hcleared : s'.cleared = s.cleared) : SessionFrame s s' := by
  refine ⟨hlock, hcleared, fun uid => ?_⟩
  unfold Backend.loadSessions
  rw [hdirs]
  exact List.Subset.refl _

theorem quiet : Quiet SessionFrame where
  refl _ := of_dirs rfl rfl rfl
  stateStore _ _ := of_dirs rfl rfl rfl
  mfaPending _ _ := of_dirs rfl rfl rfl
  usedTotpPeriods _ _ := of_dirs rfl rfl rfl

theorem fair (h : SessionFrame s s') : sessionProtocol.Fair p s s' := by
  refine ⟨fun hinv uid x hx v hv => ?_, fun q _ uid => ?_⟩
  · rw [h.cleared]
    exact hinv uid x (h.sessions uid hx) v hv
  · rw [h.cleared, h.dirLock]
    exact ⟨le_rfl, fun hlock => ⟨hlock, rfl⟩⟩

theorem updateUserById (uid : Uid) (fn : Nat → User → Except Thrown (Update β)) :
    (Server.updateUserById uid fn).Steps SessionFrame := by
  refine steps_section fun i s => ?_
  split
  · exact quiet.refl s
  · split
    · exact quiet.refl s
    · exact quiet.refl s
    · exact of_dirs rfl rfl rfl

theorem update_dirs {d : Option VaultDir} (h : d.elim [] (·.sessions) ⊆ s.loadSessions uid) :
    SessionFrame s { s with dirs := Function.update s.dirs uid d } := by
  refine ⟨rfl, rfl, fun uid' => ?_⟩
  by_cases huid : uid' = uid
  · subst huid
    simpa [Backend.loadSessions] using h
  · simp [Backend.loadSessions, huid]

theorem makeDir (s : Backend) (uid : Uid) : SessionFrame s (s.makeDir uid) := by
  unfold Backend.makeDir
  split
  · exact update_dirs (by simp)
  · exact quiet.refl s

theorem performServerWipe (uid : Uid) : (Server.performServerWipe uid).Steps SessionFrame := by
  refine steps_bind (steps_section fun _ s => update_dirs (by simp)) fun _ => ?_
  exact steps_section fun _ s => of_dirs rfl rfl rfl

theorem writeMfaConfig (uid : Uid) (config : MfaConfig) :
    (Server.writeMfaConfig uid config).Steps SessionFrame := by
  refine steps_section fun _ s => update_dirs ?_
  cases h : s.dirs uid <;> simp [Backend.loadSessions, h]

end SessionFrame

section Obeys

variable {x : Handler α} {k : α → Handler β}

theorem obeys_of_steps (hx : x.Steps SessionFrame) : Obeys p x := fun _ =>
  safe_of_steps (R := fun _ => True) hx (fun _ _ h => h.fair) (fun _ _ _ => id)
    (fun _ _ _ => id) (fun _ _ _ => trivial) trivial

theorem obeys_return (a : α) : Obeys p (pure a) := fun _ _ _ => trivial

theorem safe_bind_of_obeys {Q : Except Thrown β → Backend → Prop} (hx : Obeys p x)
    (herror : ∀ e s, Q (.error e) s) (hk : ∀ a s, sessionProtocol.Safe p Q (k a) s) (s : Backend) :
    sessionProtocol.Safe p Q (x >>= k) s :=
  (hx s).bind_any herror hk

theorem obeys_bind (hx : Obeys p x) (hk : ∀ a, Obeys p (k a)) : Obeys p (x >>= k) :=
  safe_bind_of_obeys hx (fun _ _ => trivial) hk

theorem obeys_ite {c : Prop} [Decidable c] {y : Handler α} (hx : Obeys p x) (hy : Obeys p y) :
    Obeys p (if c then x else y) := by
  split
  · exact hx
  · exact hy

end Obeys

/-! ## The lock -/

theorem fair_update_dirLock {o : Option Pid} (h : ∀ q, q ≠ p → s.dirLock uid ≠ some q) :
    sessionProtocol.Fair p s { s with dirLock := Function.update s.dirLock uid o } := by
  refine ⟨id, fun q hq uid' => ⟨le_rfl, fun hlock => ⟨?_, rfl⟩⟩⟩
  by_cases huid : uid' = uid
  · subst huid
    exact absurd hlock (h q hq)
  · simpa [huid] using hlock

theorem lockDir_safe {Q : Except Thrown Unit → Backend → Prop} (herror : ∀ e s, Q (.error e) s)
    (hok : ∀ s, s.dirLock uid = some p → Q (.ok ()) s) :
    sessionProtocol.Safe p Q (lockDir p uid) s := by
  refine safe_waiting fun i s' _ _ _ _ => ?_
  split
  · rename_i hfree
    rw [isNone_iff_eq_none] at hfree
    refine ⟨fair_update_dirLock (by simp [hfree]), fun t ht => hok t ?_⟩
    exact ((ht uid).2 (by simp)).1
  · exact ⟨(quiet.refl s').fair, fun t _ => herror _ t⟩

theorem unlockDir_safe {uid' : Uid} (hn : n ≤ s.cleared uid') :
    sessionProtocol.Safe p (fun _ s => n ≤ s.cleared uid') (unlockDir p uid) s := by
  refine safe_waiting fun i s' hrely _ _ _ => ?_
  have hn' := hn.trans (hrely uid').1
  dsimp only [Fallible.modify_run]
  split
  · rename_i hlock
    refine ⟨fair_update_dirLock fun q hq hlock' => hq ?_, fun t ht => hn'.trans (ht uid').1⟩
    exact some.inj (hlock'.symm.trans hlock)
  · exact ⟨(quiet.refl s').fair, fun t ht => hn'.trans (ht uid').1⟩

theorem obeys_unlockDir (uid : Uid) : Obeys p (unlockDir p uid) := fun s =>
  (unlockDir_safe (Nat.zero_le (s.cleared uid))).mono fun _ _ _ => trivial

/-- What is known of the list of `uid` once a program has ended well: it has been emptied for
the change with epoch `n`. -/
def Emptied (uid : Uid) (n : Nat) (r : Except Thrown α) (s : Backend) : Prop :=
  ∀ a, r = .ok a → n ≤ s.cleared uid

theorem emptied_error (uid : Uid) (n : Nat) (e : Thrown) (s : Backend) :
    Emptied uid n (.error e : Except Thrown α) s := by
  intro a h
  cases h

theorem withUserDirLock_safe {fn : Handler α}
    (hfn : ∀ s, s.dirLock uid = some p → sessionProtocol.Safe p (Emptied uid n) fn s) (s : Backend)
    : sessionProtocol.Safe p (Emptied uid n) (withUserDirLock p uid fn) s := by
  refine safe_bind_of_obeys (obeys_of_steps quiet.moduleImport) (emptied_error uid n) ?_ s
  intro _ s
  refine safe_bind_of_obeys (obeys_of_steps (steps_section fun _ s => .makeDir s uid))
    (emptied_error uid n) ?_ s
  intro _ s
  refine Safe.bind (lockDir_safe (fun e s => ?_) fun s hlock => ?_)
  · exact fun s' _ => emptied_error uid n e s'
  · refine Safe.finally_ ((hfn s hlock).mono fun r s hr => ?_)
    -- unlocking keeps what the program has established
    cases r with
    | error e =>
      refine (obeys_unlockDir uid s).mono fun r _ _ => ?_
      cases r <;> exact fun s' _ => emptied_error uid n _ s'
    | ok a =>
      refine (unlockDir_safe (hr a rfl)).mono fun r t ht => ?_
      cases r with
      | ok _ => exact fun s' hrely _ _ => ht.trans (hrely uid).1
      | error e => exact fun s' _ => emptied_error uid n e s'

/-! ## Writing the list -/

variable {list : List Session}

theorem loadSessions_update (uid uid' : Uid) (d : VaultDir) :
    ({ s with dirs := Function.update s.dirs uid (some d) } : Backend).loadSessions uid' =
      if uid' = uid then d.sessions else s.loadSessions uid' := by
  unfold Backend.loadSessions
  by_cases huid : uid' = uid
  · subst huid
    simp
  · simp [huid]

theorem fair_saveSessions (h : ∀ x ∈ list, Current s uid x.jti) :
    sessionProtocol.Fair p s (s.saveSessions uid list).2 := by
  unfold Backend.saveSessions
  split
  · exact (quiet.refl s).fair
  · refine ⟨fun hinv uid' x hx => ?_, fun q _ uid' => ⟨le_rfl, fun hlock => ⟨hlock, rfl⟩⟩⟩
    rw [loadSessions_update] at hx
    split at hx
    · subst uid'
      exact h x hx
    · exact hinv uid' x hx

/-- `p` holds the lock, and the sessions it has loaded are current. -/
structure Holding (p : Pid) (uid : Uid) (list : List Session) (s : Backend) : Prop where
  dirLock : s.dirLock uid = some p
  current : ∀ x ∈ list, Current s uid x.jti

theorem Holding.rely (h : Holding p uid list s) (hrely : sessionProtocol.rely p s s') :
    Holding p uid list s' := by
  obtain ⟨hlock, hcleared⟩ := (hrely uid).2 h.dirLock
  refine ⟨hlock, fun x hx v hv => ?_⟩
  rw [hcleared]
  exact h.current x hx v hv

theorem Holding.frame (h : Holding p uid list s) (hframe : SessionFrame s s') :
    Holding p uid list s' := by
  refine ⟨?_, fun x hx v hv => ?_⟩
  · rw [hframe.dirLock]
    exact h.dirLock
  · rw [hframe.cleared]
    exact h.current x hx v hv

theorem loadSessions_safe (hlock : s.dirLock uid = some p) :
    sessionProtocol.Safe p (fun r s => ∀ list, r = .ok list → Holding p uid list s)
      (loadSessions uid) s := by
  refine safe_waiting fun i s' hrely hinv _ _ => ?_
  refine ⟨(quiet.refl s').fair, fun t ht list hlist => ?_⟩
  cases hlist
  exact Holding.rely ⟨((hrely uid).2 hlock).1, fun x hx => hinv uid x hx⟩ ht

theorem appendSession_safe {R : Backend → Prop} {jti : Jti} {all : List Session}
    (hR : ∀ s s', sessionProtocol.rely p s s' → R s → R s')
    (hframe : ∀ s s', SessionFrame s s' → R s → R s')
    (hall : ∀ s, R s → ∀ x ∈ all, Current s uid x.jti) (hs : R s) :
    sessionProtocol.Safe p (fun _ _ => True) (appendSession uid jti all) s := by
  have himport : sessionProtocol.Safe p (fun _ s => R s) moduleImport s :=
    safe_of_steps quiet.moduleImport (fun _ _ h => h.fair) hframe hR (fun _ _ h => h) hs
  refine Safe.bind (himport.mono fun r s hs => ?_)
  cases r with
  | error e => exact fun _ _ => trivial
  | ok _ =>
    refine safe_waiting fun i s' hrely _ _ htimely => ⟨?_, fun _ _ => trivial⟩
    refine fair_saveSessions fun x hx => ?_
    rcases mem_addSession hx with hnew | ⟨y, hy, hjti⟩
    · rw [hnew]
      exact htimely
    · rw [← hjti]
      exact hall s' (hR s s' hrely hs) y hy

theorem obeys_recordSession (jti : Jti) : Obeys p (recordSession p uid jti) := by
  intro s
  have hunlocked : sessionProtocol.Safe p (fun r _ => ∀ all, r = .ok (some all) → all = [])
      (unlockedSessions uid) s := by
    refine safe_waiting fun i s' _ _ _ _ => ?_
    refine ⟨(quiet.refl s').fair, fun _ _ all hall => ?_⟩
    simp only [Fallible.gets_run, Except.ok.injEq] at hall
    split at hall
    · cases hall
    · rename_i hdir
      cases hall
      rw [not_isSome_iff_eq_none] at hdir
      rw [Backend.loadSessions, hdir]
      rfl
  refine Safe.bind (hunlocked.mono fun r s hr => ?_)
  rcases r with e | _ | all
  · exact fun _ _ => trivial
  · -- under the lock
    refine Safe.bind (lockDir_safe (fun e s => fun _ _ => trivial) fun s hlock => ?_)
    refine Safe.finally_any (Safe.bind ((loadSessions_safe hlock).mono fun r s hr => ?_))
      (obeys_unlockDir uid)
    cases r with
    | error e => exact fun _ _ => trivial
    | ok list =>
      exact appendSession_safe (fun _ _ hrely h => h.rely hrely) (fun _ _ hframe h => h.frame hframe)
        (fun _ h => h.current) (hr list rfl)
  · -- without the directory nothing was listed
    cases hr all rfl
    exact appendSession_safe (R := fun _ => True) (fun _ _ _ => id) (fun _ _ _ => id)
      (fun _ _ x hx => by simp at hx) trivial

theorem obeys_filterSessions (keep : Session → Bool) : Obeys p (filterSessions p uid keep) := by
  intro s
  refine (withUserDirLock_safe (n := 0) (fun s hlock => ?_) s).mono fun _ _ _ => trivial
  refine Safe.bind ((loadSessions_safe hlock).mono fun r s hr => ?_)
  cases r with
  | error e => exact fun s' _ => emptied_error uid 0 e s'
  | ok list =>
    refine safe_waiting fun i s' hrely _ _ _ => ⟨?_, fun _ _ _ _ => Nat.zero_le _⟩
    refine fair_saveSessions fun x hx => ?_
    exact ((hr list rfl).rely hrely).current x (List.mem_of_mem_filter hx)

theorem emptySessions_safe {epoch : Nat} (hlock : s.dirLock uid = some p) :
    sessionProtocol.Safe p (Emptied uid epoch) (emptySessions uid epoch) s := by
  refine safe_waiting fun i s' hrely _ _ _ => ?_
  have hlock' := ((hrely uid).2 hlock).1
  cases hdir : s'.dirs uid with
  | none =>
    simp only [Backend.saveSessions, hdir]
    exact ⟨(quiet.refl s').fair, fun t _ => emptied_error uid epoch _ t⟩
  | some d =>
    simp only [Backend.saveSessions, hdir]
    refine ⟨⟨fun hinv uid' x hx v hv => ?_, fun q hq uid' => ?_⟩, fun t ht _ _ => ?_⟩
    · have hx' : x ∈ if uid' = uid then [] else s'.loadSessions uid' := by
        rw [← loadSessions_update uid uid' { d with sessions := [] }]
        exact hx
      split at hx'
      · simp at hx'
      · rename_i huid
        simpa [huid] using hinv uid' x hx' v hv
    · by_cases huid : uid' = uid
      · subst huid
        refine ⟨by simp, fun hother => absurd ?_ hq⟩
        exact some.inj (hother.symm.trans hlock')
      · simp [huid]
    · refine le_trans ?_ (ht uid).1
      simp

/-! ## The requests -/

/-- A route behind `authMiddleware` that adds no session and leaves the locks alone. -/
structure Route where
  handler : Auth → Handler Response
  frame : ∀ user, (handler user).Steps SessionFrame

inductive Request where
  | login (req : LoginRequest)
  | finish (req : FinishRequest)
  | changePassword (caller : Caller) (oldPassword newPassword : JsonText)
  | logout (caller : Caller)
  | revokeOthers (caller : Caller)
  | other (caller : Caller) (route : Route)

def Request.handler (N : Node) (me : Pid) : Request → Handler Response
  | login req => Server.login N me req
  | finish req => Server.finish N me req
  | changePassword caller old new => Server.changePassword N me caller old new
  | logout caller => Server.logout me caller
  | revokeOthers caller => Server.revokeOthers me caller
  | other caller route => authenticated caller route.handler

/-- `PUT /api/vault/mfa` is such a route. -/
def mfaRoute (body : MfaBody) : Route where
  handler := putMfaRoute body
  frame _ := iteInduction (fun _ => steps_pure) fun _ =>
    steps_bind (SessionFrame.writeMfaConfig _ _) fun _ =>
      steps_bind (SessionFrame.updateUserById _ _) fun _ => steps_pure

theorem obeys_openSession (u : User) (verified : Option Nat) :
    Obeys p (openSession N p u verified) :=
  obeys_bind (obeys_of_steps (quiet.compute _)) fun _ =>
    obeys_bind (obeys_recordSession _) fun _ => obeys_return _

theorem obeys_grant (u : User) (verified : Option Nat) : Obeys p (grant N p u verified) := by
  refine obeys_bind (obeys_of_steps (quiet.gets _ _)) fun mfaCfg => ?_
  refine obeys_ite (obeys_return _) (obeys_ite (obeys_openSession u verified) (obeys_of_steps ?_))
  refine steps_bind (quiet.isMfaLocked _) fun locked => ?_
  refine iteInduction (fun _ => steps_pure) fun _ => ?_
  refine steps_bind (quiet.withMfaPendingLock _) fun token => ?_
  refine iteInduction (fun _ => ?_) fun _ => steps_pure
  exact steps_bind (quiet.withMfaPendingLock _) fun _ => steps_pure

section

variable (req : LoginRequest) (uSnapshot : Option User) (duressArmed : Bool)

theorem loginFailed_frame : (loginFailed req uSnapshot duressArmed).Steps SessionFrame := by
  refine steps_bind (quiet.recordLoginFailure _ _) fun _ => ?_
  cases uSnapshot with
  | none => exact steps_pure
  | some u =>
    refine iteInduction (fun _ => steps_pure) fun _ => ?_
    refine steps_bind (SessionFrame.updateUserById _ _) fun outcome => ?_
    rcases outcome with _ | _ | _ | n
    · exact steps_pure
    · exact steps_pure
    · exact steps_bind (SessionFrame.performServerWipe _) fun _ => steps_pure
    · exact steps_pure

theorem obeys_loginAdmitted : Obeys p (loginAdmitted N p req uSnapshot duressArmed) := by
  refine obeys_bind (obeys_of_steps (quiet.authenticate _ _ _)) fun method => ?_
  rcases uSnapshot with _ | u
  · exact obeys_of_steps (loginFailed_frame _ _ _)
  rcases method with _ | method
  · exact obeys_of_steps (loginFailed_frame _ _ _)
  refine obeys_bind (obeys_of_steps (quiet.rehash _ _ _)) fun hash => ?_
  refine obeys_bind (obeys_of_steps (quiet.delState _)) fun _ => ?_
  refine obeys_bind (obeys_of_steps (quiet.delState _)) fun _ => ?_
  refine obeys_bind (obeys_of_steps (SessionFrame.updateUserById _ _)) fun finalU => ?_
  cases finalU with
  | none => exact obeys_return _
  | some fu => exact obeys_grant fu _

end

theorem obeys_login (req : LoginRequest) : Obeys p (login N p req) := by
  refine obeys_bind (obeys_of_steps (quiet.authMiddleware _)) fun _ => ?_
  refine obeys_ite (obeys_return _) ?_
  refine obeys_bind (obeys_of_steps (quiet.gets _ _)) fun uSnapshot => ?_
  refine obeys_bind (obeys_of_steps (quiet.checkLoginRate _)) fun ipOk => ?_
  refine obeys_bind (obeys_of_steps (quiet.checkLockout _)) fun fpOk => ?_
  refine obeys_bind (obeys_of_steps (quiet.checkAccountUnlessArmed _ _)) fun accountOk => ?_
  exact obeys_ite (obeys_loginAdmitted _ _ _) (obeys_of_steps (quiet.loginThrottled _ _ _ _))

theorem obeys_finish (req : FinishRequest) : Obeys p (finish N p req) := by
  refine obeys_bind (obeys_of_steps (quiet.authMiddleware _)) fun _ => ?_
  split
  · refine obeys_bind (obeys_of_steps (quiet.withMfaPendingLock _)) fun pending => ?_
    cases pending with
    | none => exact obeys_return _
    | some pending =>
      refine obeys_bind (obeys_of_steps (quiet.gets _ _)) fun u => ?_
      cases u with
      | none => exact obeys_return _
      | some u =>
        refine obeys_bind (obeys_of_steps (quiet.isMfaLocked _)) fun locked => ?_
        refine obeys_ite (obeys_return _) ?_
        refine obeys_bind (obeys_of_steps (quiet.checkSecondFactor _ _ _ _ _)) fun refusal => ?_
        cases refusal with
        | some refusal => exact obeys_return _
        | none =>
          refine obeys_bind (obeys_of_steps (quiet.clearMfaFailure _)) fun _ => ?_
          exact obeys_openSession u _
  · exact obeys_return _

theorem obeys_authenticated (caller : Caller) {handler : Auth → Handler Response}
    (h : ∀ user, Obeys p (handler user)) : Obeys p (authenticated caller handler) := by
  refine obeys_bind (obeys_of_steps (quiet.authMiddleware _)) fun auth => ?_
  cases auth with
  | none => exact obeys_return _
  | some user => exact obeys_ite (h user) (obeys_return _)

theorem obeys_logout (caller : Caller) : Obeys p (logout p caller) := by
  refine obeys_bind (obeys_of_steps (quiet.authMiddleware _)) fun auth => ?_
  refine obeys_ite (obeys_return _) ?_
  cases auth with
  | none => exact obeys_return _
  | some user => exact obeys_bind (obeys_filterSessions _) fun _ => obeys_return _

theorem obeys_revokeOthers (caller : Caller) : Obeys p (revokeOthers p caller) :=
  obeys_authenticated caller fun _ =>
    obeys_bind (obeys_of_steps (SessionFrame.updateUserById _ _)) fun _ =>
      obeys_bind (obeys_filterSessions _) fun _ => obeys_return _

/-! ## The password change -/

/-- A change that has been answered with success has emptied the list. -/
def ChangeDone (r : Except Thrown Response) (s : Backend) : Prop :=
  ∀ resp, r = .ok resp → resp.ok = some true →
    ∃ uid epoch, resp.changed = some (uid, epoch) ∧ epoch ≤ s.cleared uid

theorem changeDone_error (e : Thrown) (s : Backend) : ChangeDone (.error e) s := by
  intro resp h
  cases h

theorem changeDone_pure {resp : Response} (h : resp.ok = none) (s : Backend) :
    sessionProtocol.Safe p ChangeDone (pure resp) s := by
  intro s' _ resp' hresp hok
  cases hresp
  rw [h] at hok
  cases hok

theorem storePassword_frame (uid : Uid) (newHash : Text) (uSnap : User) :
    (storePassword uid newHash uSnap).Steps SessionFrame := by
  refine steps_tryCatch (steps_bind (SessionFrame.updateUserById _ _) fun found => ?_) fun e => ?_
  · cases found <;> exact steps_pure
  · exact iteInduction (fun _ => steps_pure) fun _ => steps_throw

theorem revokeSessions_safe (uid : Uid) (epoch : Nat) (s : Backend) :
    sessionProtocol.Safe p ChangeDone (revokeSessions p uid epoch) s := by
  have hempty : sessionProtocol.Safe p (Emptied uid epoch)
      (withUserDirLock p uid (emptySessions uid epoch)) s :=
    withUserDirLock_safe (fun _ hlock => emptySessions_safe hlock) s
  refine Safe.bind (hempty.mono fun r s hr => ?_)
  cases r with
  | error e => exact fun s' _ => changeDone_error e s'
  | ok _ =>
    intro s' hrely resp hresp _
    cases hresp
    exact ⟨uid, epoch, rfl, (hr _ rfl).trans (hrely uid).1⟩

theorem replacePassword_safe (uid : Uid) (old new : Text) (s : Backend) :
    sessionProtocol.Safe p ChangeDone (replacePassword N p uid old new) s := by
  unfold replacePassword
  split
  · exact changeDone_pure rfl s
  refine safe_bind_of_obeys (obeys_of_steps (quiet.gets _ _)) changeDone_error ?_ s
  intro u s
  cases u with
  | none => exact changeDone_pure rfl s
  | some uSnap =>
    refine safe_bind_of_obeys (obeys_of_steps (quiet.verifyPassword _ _ _ _)) changeDone_error ?_ s
    intro accepted s
    cases accepted with
    | false => exact changeDone_pure rfl s
    | true =>
      refine safe_bind_of_obeys (obeys_of_steps (quiet.hashPassword _ _)) changeDone_error ?_ s
      intro newHash s
      refine safe_bind_of_obeys (obeys_of_steps (storePassword_frame _ _ _)) changeDone_error ?_ s
      intro outcome s
      cases outcome with
      | changed epoch => exact revokeSessions_safe uid epoch s
      | noUser => exact changeDone_pure rfl s
      | changedConcurrently => exact changeDone_pure rfl s

theorem changePassword_safe (caller : Caller) (old new : JsonText) (s : Backend) :
    sessionProtocol.Safe p ChangeDone (changePassword N p caller old new) s := by
  refine safe_bind_of_obeys (obeys_of_steps (quiet.authMiddleware _)) changeDone_error ?_ s
  intro auth s
  cases auth with
  | none => exact changeDone_pure rfl s
  | some user =>
    dsimp only
    split
    · split
      · exact replacePassword_safe _ _ _ s
      · exact changeDone_pure rfl s
    · exact changeDone_pure rfl s

/-! ## Interleavings -/

/-- What is known of a request that has ended. -/
def Request.Post : Request → Except Thrown Response → Backend → Prop
  | changePassword _ _ _ => ChangeDone
  | _ => fun _ _ => True

theorem handler_safe (req : Request) : sessionProtocol.Safe p req.Post (req.handler N p) s := by
  cases req with
  | login req => exact obeys_login req s
  | finish req => exact obeys_finish req s
  | changePassword caller old new => exact changePassword_safe caller old new s
  | logout caller => exact obeys_logout caller s
  | revokeOthers caller => exact obeys_revokeOthers caller s
  | other caller route =>
    exact obeys_authenticated caller (fun user => obeys_of_steps (route.frame user)) s

/-- The requests, each at its start; it arrives when it is first resumed. -/
def arriving (N : Node) (requests : Pid → Request) (s : Backend) :
    System Pid Await Input Backend Thrown Response :=
  ⟨s, fun p => (requests p).handler N p⟩

/-- A section that records a session does so while the session is current: since its login
read the user record, no password change has emptied the list. -/
def RecordsInTime (t : System Pid Await Input Backend Thrown Response) (e : Pid × Input) : Prop :=
  match t.procs e.1 with
  | .await label _ _ _ => Timely label e.2 t.shared
  | _ => True

theorem RecordsInTime.allowed {t : System Pid Await Input Backend Thrown Response} {e : Pid × Input}
    (h : RecordsInTime t e) : Allowed sessionProtocol t e := by
  revert h
  unfold RecordsInTime Allowed
  cases t.procs e.1 <;> exact id

instance (label : Await) (i : Input) (s : Backend) : Decidable (Timely label i s) :=
  match label with
  | .saveSessions uid (some jti) =>
    inferInstanceAs (Decidable (∀ v ∈ jti.verified, s.cleared uid ≤ v))
  | .saveSessions _ none => isTrue trivial
  | .stateStore => isTrue trivial
  | .users => isTrue trivial
  | .mfaPending => isTrue trivial
  | .crypto => isTrue trivial
  | .vaultDir => isTrue trivial
  | .dirLock => isTrue trivial
  | .moduleImport => isTrue trivial

instance (t : System Pid Await Input Backend Thrown Response) (e : Pid × Input) :
    Decidable (RecordsInTime t e) :=
  match h : t.procs e.1 with
  | .await label _ _ _ =>
    decidable_of_iff (Timely label e.2 t.shared) (by unfold RecordsInTime; rw [h])
  | .done _ => isTrue (by unfold RecordsInTime; rw [h]; trivial)
  | .fail _ => isTrue (by unfold RecordsInTime; rw [h]; trivial)

/-- **The old password.** If, in any interleaving, every session is recorded in time, then once a
password change has been answered with success, `authMiddleware` accepts no session of its user
whose login verified the password against a record from before it. -/
theorem old_sessions_refused {requests : Pid → Request} (hcleared : ∀ uid, s.cleared uid = 0)
    {es : List (Pid × Input)} (htime : Along step (arriving N requests s) es RecordsInTime)
    {t : System Pid Await Input Backend Thrown Response}
    (hvisit : Visits step (arriving N requests s) es t) {caller : Caller} {old new : JsonText}
    (hreq : requests p = .changePassword caller old new) {resp : Response}
    (hdone : t.procs p = .done resp) (hok : resp.ok = some true) :
    ∃ uid epoch, resp.changed = some (uid, epoch) ∧ ∀ cookie inputs user s',
        (authMiddleware (some cookie)).run inputs t.shared = (some (.ok (some user)), s') →
        user.id = uid → ∀ v, cookie.jti.verified = some v → epoch ≤ v := by
  have hsound : Sound sessionProtocol (fun p => (requests p).Post) t := by
    refine invariant ⟨fun uid x _ v _ => ?_, fun p => handler_safe (requests p)⟩
      (fun pre e post heq => (htime pre e post heq).allowed) hvisit
    exact (hcleared uid).symm ▸ Nat.zero_le v
  have hpost := hsound.safe p
  rw [hdone, hreq] at hpost
  obtain ⟨uid, epoch, hchanged, hemptied⟩ :=
    hpost t.shared (sessionProtocol.refl p t.shared) resp rfl hok
  refine ⟨uid, epoch, hchanged, ?_⟩
  rintro cookie inputs user s' hrun rfl v hv
  obtain ⟨-, auth, hauth, haccepted⟩ :=
    (authMiddleware_ends (fun _ => True) (some cookie) t.shared).of_run (fun _ => trivial) hrun
  cases hauth
  obtain ⟨token, -, hcookie, -, -, x, hx, hjti⟩ := haccepted user rfl
  cases hcookie
  exact hemptied.trans (hsound.inv user.id x hx v (hjti ▸ hv))

/-! ## A login in flight -/

def newPassword : Text := "battery staple".toList

/-- Request 0 is a login with the old password, request 1 the password change. -/
def raceRequests : Pid → Request
  | 0 => .login (symbolicLogin ownerPassword)
  | 1 => .changePassword owner (.text ownerPassword) (.text newPassword)
  | _ => .logout ⟨none, [], []⟩

def raceStart : System Pid Await Input Backend Thrown Response :=
  arriving symbolicNode raceRequests (symbolicBackend (symbolicUser ownerPassword) ownerSessions)

/-- The first `n` sections of the login, the whole change, and the rest of the login. -/
def race (n : Nat) : List (Pid × Input) :=
  List.replicate n (0, symbolicInput) ++ List.replicate 16 (1, symbolicInput) ++
    List.replicate (19 - n) (0, symbolicInput)

def changeAnswer : Response where
  ok := some true
  changed := some ("u1", 1)

/-- The session of the login. -/
def raceCookie : SessionToken := ⟨"u1", ⟨symbolicHex [7], some 0⟩, 87400⟩

theorem old_sessions_refused_race :
    ∃ uid epoch, changeAnswer.changed = some (uid, epoch) ∧ ∀ cookie inputs user s',
        (authMiddleware (some cookie)).run inputs (run step raceStart (race 19)).shared =
          (some (.ok (some user)), s') →
        user.id = uid → ∀ v, cookie.jti.verified = some v → epoch ≤ v :=
  old_sessions_refused (fun _ => rfl) (by decide) (.last _ _ _) (p := 1) rfl
    (show (run step raceStart (race 19)).procs 1 = .done changeAnswer from rfl) rfl

/-- The login has verified the old password when the change begins, and records its session
after the change has been answered. -/
theorem old_session_survives :
    (run step raceStart (race 7)).procs 1 = .done changeAnswer ∧ changeAnswer.ok = some true ∧
      ¬ ∃ uid epoch, changeAnswer.changed = some (uid, epoch) ∧ ∀ cookie inputs user s',
          (authMiddleware (some cookie)).run inputs (run step raceStart (race 7)).shared =
            (some (.ok (some user)), s') →
          user.id = uid → ∀ v, cookie.jti.verified = some v → epoch ≤ v := by
  refine ⟨rfl, rfl, ?_⟩
  rintro ⟨uid, epoch, hchanged, h⟩
  cases hchanged
  exact absurd (h raceCookie (fun _ => symbolicInput) ⟨"u1", raceCookie.jti⟩ _ rfl rfl 0 rfl)
    (by decide)

end PwdNow.Server
