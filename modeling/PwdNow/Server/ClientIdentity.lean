import PwdNow.Kit.Lockstep
import PwdNow.Server.AccountLockout

/-!
# Server — the bucket of the fingerprint throttle

`deriveClientIdentity` of `web/lib/rateLimiter.js`, and the login requests before their body is
read. The throttle counts failures per client identity, which hashes what the body says about the
client's screen and visitor id. `deriveLockoutIdentity`, which leaves the body out, is called by no
handler.

Two runs of the same requests with other fingerprints go in lockstep as long as the fingerprints put
the requests into the same buckets: one state store is the other with the buckets renamed
(`Renamed`).
-/

namespace PwdNow.Server

open Kit Async System StateStore

variable {N : Node} {me : Pid} {V : Input → Prop} {s s' : Backend}

/-! ## Requests -/

/-- What the handler reads of the body's `fingerprint`. -/
structure Fingerprint where
  screen : JsonText
  visitorId : JsonText

/-- `typeof x === 'string' ? x.slice(0, n) : ''`. -/
def JsonText.slice (n : Nat) : JsonText → Text
  | .text t => t.take n
  | _ => []

/-- A `fingerprint` that is absent, or no object, has neither field. -/
def deriveClientIdentity (N : Node) (ip : String) (userAgent : Text) (fp : Option Fingerprint) :
    String :=
  let screen := (fp.map fun fp => fp.screen.slice 32).getD []
  let visitor := (fp.map fun fp => fp.visitorId.slice 64).getD []
  .ofList (N.sha256 (N.utf8 (ip.toList ++ '|' :: (userAgent ++ '|' :: (screen ++ '|' :: visitor)))))

/-- `POST /api/auth/login` as it arrives. -/
structure HttpLogin where
  cookie : Option SessionToken
  emailHash : String
  password : Text
  ip : String
  userAgent : Text
  fingerprint : Option Fingerprint

namespace HttpLogin

def clientIdentity (N : Node) (req : HttpLogin) : String :=
  deriveClientIdentity N req.ip req.userAgent req.fingerprint

def parse (N : Node) (req : HttpLogin) : LoginRequest :=
  ⟨req.cookie, req.emailHash, req.password, req.ip, req.clientIdentity N⟩

/-- The requests differ in the fingerprint at most. -/
def Alike (req req' : HttpLogin) : Prop := { req with fingerprint := req'.fingerprint } = req'

end HttpLogin

/-! ## Two state stores that differ in the names of the buckets -/

section Lockstep

variable {ids ids' : Pid → String}

/-- The keys that correspond: the buckets of each request, and every other key with itself. -/
inductive Paired (ids ids' : Pid → String) : StoreKey → StoreKey → Prop
  | bucket (p : Pid) : Paired ids ids' (.fingerprint (ids p)) (.fingerprint (ids' p))
  | other {key : StoreKey} (h : ∀ id, key ≠ .fingerprint id) : Paired ids ids' key key

/-- The requests are divided into buckets in the same way. -/
def SameBuckets (ids ids' : Pid → String) : Prop := ∀ p q, ids p = ids q ↔ ids' p = ids' q

variable {a b : StoreKey}

theorem Paired.eq_iff (h : SameBuckets ids ids') {c d : StoreKey} (hab : Paired ids ids' a b)
    (hcd : Paired ids ids' c d) : a = c ↔ b = d := by
  cases hab with
  | bucket p =>
    cases hcd with
    | bucket q => simpa using h p q
    | other hc => exact ⟨fun heq => absurd heq.symm (hc _), fun heq => absurd heq.symm (hc _)⟩
  | other ha =>
    cases hcd with
    | bucket q => exact ⟨fun heq => absurd heq (ha _), fun heq => absurd heq (ha _)⟩
    | other _ => exact Iff.rfl

structure Renamed (ids ids' : Pid → String) (s t : Backend) : Prop where
  rest : t = { s with stateStore := t.stateStore }
  store : ∀ a b, Paired ids ids' a b → s.stateStore a = t.stateStore b

/-- The section does not look at the state store. -/
def Blind {α : Type} (f : Input → Fallible Thrown Backend α) : Prop :=
  ∀ i s m, f i { s with stateStore := m } = ((f i s).1, { (f i s).2 with stateStore := m })

variable {α : Type} {f : Input → Fallible Thrown Backend α}

theorem Blind.renamed (hf : Blind f) (i : Input) {t : Backend} (h : Renamed ids ids' s t) :
    (f i s).1 = (f i t).1 ∧ Renamed ids ids' (f i s).2 (f i t).2 := by
  obtain ⟨hrest, hstore⟩ := h
  have ht := hf i s t.stateStore
  rw [← hrest] at ht
  have hkept : (f i s).2.stateStore = s.stateStore := by
    have := congrArg (fun r => r.2.stateStore) (hf i s s.stateStore)
    exact this
  rw [ht]
  refine ⟨rfl, rfl, fun a b hab => ?_⟩
  dsimp only
  rw [hkept]
  exact hstore a b hab

open Blind

theorem Blind.lockstep (hf : Blind f) (label : Await) :
    Lockstep (Renamed ids ids') (section_ label f : Handler α) (section_ label f) :=
  lockstep_section fun i _ _ h => hf.renamed i h

theorem gets_lockstep (label : Await) {f : Backend → α}
    (hf : ∀ s m, f { s with stateStore := m } = f s) :
    Lockstep (Renamed ids ids') (section_ label fun _ => .gets f : Handler α)
      (section_ label fun _ => .gets f) := by
  refine lockstep (fun i s m => ?_) label
  simp only [Fallible.gets_run, hf]

theorem compute_lockstep (f : Input → Except Thrown α) :
    Lockstep (Renamed ids ids') (compute f) (compute f) :=
  lockstep (fun _ _ _ => rfl) .crypto

theorem onStore_lockstep (hbuckets : SameBuckets ids ids') {f g : Nat → StateStore → α × StateStore}
    (hab : Paired ids ids' a b) (hf : OnlyAt a f) (hg : OnlyAt b g) (h : ∀ now m m', m a = m' b →
      (f now m).1 = (g now m').1 ∧ (f now m).2 a = (g now m').2 b) :
    Lockstep (Renamed ids ids') (onStore f) (onStore g) := by
  refine lockstep_section fun i s t hR => ?_
  obtain ⟨hrest, hstore⟩ := hR
  obtain ⟨hvalue, hentry⟩ := h i.now s.stateStore t.stateStore (hstore a b hab)
  refine ⟨congrArg Except.ok hvalue, ?_, fun c d hcd => ?_⟩
  · dsimp only
    rw [hrest]
  · dsimp only
    by_cases hca : c = a
    · have hdb : d = b := (hcd.eq_iff hbuckets hab).mp hca
      rw [hca, hdb]
      exact hentry
    · have hdb : d ≠ b := fun heq => hca ((hcd.eq_iff hbuckets hab).mpr heq)
      rw [hf _ _ _ hca, hg _ _ _ hdb]
      exact hstore c d hcd

theorem live_congr {m m' : StateStore} (h : m a = m' b) (now : Nat) :
    m.live now a = m'.live now b := by
  unfold live
  rw [h]

section Store

variable (hbuckets : SameBuckets ids ids') {a b : StoreKey} (hab : Paired ids ids' a b)
include hbuckets hab

theorem getState_lockstep : Lockstep (Renamed ids ids') (getState a) (getState b) := by
  refine onStore_lockstep hbuckets hab (fun _ _ _ _ => rfl) (fun _ _ _ _ => rfl) fun now m m' h => ?_
  rw [live_congr h]
  exact ⟨rfl, h⟩

theorem delState_lockstep : Lockstep (Renamed ids ids') (delState a) (delState b) := by
  refine onStore_lockstep hbuckets hab (onlyAt_del a) (onlyAt_del b) fun _ _ _ _ => ⟨rfl, ?_⟩
  simp [del]

theorem incrExpire_lockstep (ttlMs : Nat) :
    Lockstep (Renamed ids ids') (incrExpire a ttlMs) (incrExpire b ttlMs) := by
  refine onStore_lockstep hbuckets hab (onlyAt_incrExpire a ttlMs) (onlyAt_incrExpire b ttlMs) ?_
  intro now m m' h
  unfold StateStore.incrExpire
  rw [live_congr h]
  split <;> simp [StateStore.set]

theorem decr_lockstep : Lockstep (Renamed ids ids') (decr a) (decr b) := by
  refine onStore_lockstep hbuckets hab (onlyAt_decr a) (onlyAt_decr b) fun now m m' h => ⟨rfl, ?_⟩
  unfold StateStore.decr
  dsimp only
  rw [live_congr h]
  cases m'.live now b <;> simp [del]

theorem checkLockout_lockstep : Lockstep (Renamed ids ids') (checkLockout a) (checkLockout b) := by
  refine onStore_lockstep hbuckets hab (fun now m _ _ => ?_) (fun now m _ _ => ?_) fun now m m' h => ?_
  · split <;> rfl
  · split <;> rfl
  · rw [live_congr h]
    split <;> exact ⟨rfl, h⟩

theorem recordLockoutFailure_lockstep :
    Lockstep (Renamed ids ids') (recordLockoutFailure a) (recordLockoutFailure b) := by
  refine lockstep_bind (getState_lockstep hbuckets hab) fun prev => ?_
  refine onStore_lockstep hbuckets hab (onlyAt_set a _ _) (onlyAt_set b _ _) fun _ _ _ _ => ⟨rfl, ?_⟩
  simp [StateStore.set]

end Store

/-! ## The stretches of a login -/

theorem updateUserById_lockstep {β : Type} (uid : Uid) (fn : Nat → User → Except Thrown (Update β)) :
    Lockstep (Renamed ids ids') (updateUserById uid fn) (updateUserById uid fn) := by
  refine lockstep (fun i s m => ?_) .users
  have hfind : ({ s with stateStore := m } : Backend).findUserById uid = s.findUserById uid := rfl
  rw [hfind]
  cases s.findUserById uid with
  | none => rfl
  | some u =>
    dsimp only
    cases fn i.now u with
    | error e => rfl
    | ok update => cases update <;> rfl

theorem withMfaPendingLock_lockstep (fn : Input → MfaPending → α × MfaPending) :
    Lockstep (Renamed ids ids') (withMfaPendingLock fn) (withMfaPendingLock fn) :=
  lockstep (fun _ _ _ => rfl) .mfaPending

theorem authMiddleware_lockstep (cookie : Option SessionToken) :
    Lockstep (Renamed ids ids') (authMiddleware cookie) (authMiddleware cookie) := by
  cases cookie with
  | none => exact lockstep_pure
  | some token =>
    refine lockstep_bind (compute_lockstep _) fun payload => ?_
    cases payload with
    | none => exact lockstep_pure
    | some payload =>
      refine lockstep_bind (gets_lockstep .users fun _ _ => rfl) fun u => ?_
      cases u with
      | none => exact lockstep_pure
      | some u => exact lockstep_bind (gets_lockstep .vaultDir fun _ _ => rfl) fun _ => lockstep_pure

theorem lockDir_lockstep (uid : Uid) :
    Lockstep (Renamed ids ids') (lockDir me uid) (lockDir me uid) := by
  have hblind : Blind fun _ s => if (s.dirLock uid).isNone then
      ((.ok () : Except Thrown Unit), { s with dirLock := Function.update s.dirLock uid (some me) })
      else (.error .lockTimeout, s) := by
    intro i s m
    dsimp only
    split <;> rfl
  refine lockstep_waiting (fun i s t h => ?_) fun i _ _ h => hblind.renamed i h
  rw [h.rest]

theorem unlockDir_lockstep (uid : Uid) :
    Lockstep (Renamed ids ids') (unlockDir me uid) (unlockDir me uid) := by
  refine lockstep (fun i s m => ?_) .dirLock
  dsimp only [Fallible.modify_run]
  split <;> rfl

theorem appendSession_lockstep (uid : Uid) (jti : Jti) (all : List Session) :
    Lockstep (Renamed ids ids') (appendSession uid jti all) (appendSession uid jti all) := by
  refine lockstep_bind (lockstep (fun _ _ _ => rfl) .moduleImport) fun _ => ?_
  refine lockstep (fun i s m => ?_) _
  unfold Backend.saveSessions
  dsimp only
  cases s.dirs uid <;> rfl

theorem recordSession_lockstep (uid : Uid) (jti : Jti) :
    Lockstep (Renamed ids ids') (recordSession me uid jti) (recordSession me uid jti) := by
  refine lockstep_bind (gets_lockstep .vaultDir fun _ _ => rfl) fun unlocked => ?_
  cases unlocked with
  | some all => exact appendSession_lockstep uid jti all
  | none =>
    refine lockstep_bind (lockDir_lockstep uid) fun _ => ?_
    refine lockstep_finally (lockstep_bind ?_ fun all => ?_) (unlockDir_lockstep uid)
    · exact gets_lockstep .vaultDir fun _ _ => rfl
    · exact appendSession_lockstep uid jti all

theorem performServerWipe_lockstep (uid : Uid) :
    Lockstep (Renamed ids ids') (performServerWipe uid) (performServerWipe uid) :=
  lockstep_bind (lockstep (fun _ _ _ => rfl) .vaultDir) fun _ =>
    lockstep (fun _ _ _ => rfl) .users

section Login

variable (hbuckets : SameBuckets ids ids')
include hbuckets

theorem gated_lockstep {body : Handler α} (hbody : Lockstep (Renamed ids ids') body body) :
    Lockstep (Renamed ids ids') (gated body) (gated body) := by
  have hgate : Paired ids ids' .argon2Active .argon2Active := .other (by simp)
  refine lockstep_bind (incrExpire_lockstep hbuckets hgate _) fun count => ?_
  have hdecr := decr_lockstep hbuckets hgate
  exact lockstep_ite (lockstep_bind hdecr fun _ => .fail _) (lockstep_finally hbody hdecr)

theorem verifyPassword_lockstep (N : Node) (hash password salt : Text) :
    Lockstep (Renamed ids ids') (verifyPassword N hash password salt)
      (verifyPassword N hash password salt) :=
  gated_lockstep hbuckets (compute_lockstep _)

theorem authenticate_lockstep (N : Node) (password : Text) (u : Option User) :
    Lockstep (Renamed ids ids') (authenticate N password u) (authenticate N password u) := by
  have hverify := verifyPassword_lockstep hbuckets N
  refine lockstep_bind (hverify _ _ _) fun accepted => lockstep_ite lockstep_pure ?_
  cases u with
  | none => exact lockstep_pure
  | some u =>
    refine lockstep_bind (compute_lockstep _) fun now => lockstep_ite lockstep_pure ?_
    exact lockstep_bind (hverify _ _ _) fun _ => lockstep_ite lockstep_pure lockstep_pure

theorem rehash_lockstep (password : Text) (u : User) :
    Lockstep (Renamed ids ids') (rehash N password u) (rehash N password u) := by
  refine lockstep_ite (lockstep_tryCatch ?_ fun _ => lockstep_pure) lockstep_pure
  exact lockstep_bind (gated_lockstep hbuckets (compute_lockstep _)) fun _ => lockstep_pure

theorem grant_lockstep (u : User) (verified : Option Nat) :
    Lockstep (Renamed ids ids') (grant N me u verified) (grant N me u verified) := by
  refine lockstep_bind (gets_lockstep .vaultDir fun _ _ => rfl) fun mfaCfg => ?_
  refine lockstep_ite lockstep_pure (lockstep_ite ?_ ?_)
  · refine lockstep_bind (compute_lockstep _) fun token => ?_
    exact lockstep_bind (recordSession_lockstep u.id _) fun _ => lockstep_pure
  · have hlocked := getState_lockstep hbuckets (a := .mfaLock u.id) (.other (by simp))
    refine lockstep_bind (lockstep_bind hlocked fun _ => lockstep_pure) fun locked => ?_
    refine lockstep_ite lockstep_pure (lockstep_bind (withMfaPendingLock_lockstep _) fun token => ?_)
    refine lockstep_ite ?_ lockstep_pure
    exact lockstep_bind (withMfaPendingLock_lockstep _) fun _ => lockstep_pure

variable {req req' : LoginRequest}

theorem loginFailed_lockstep (hemail : req.emailHash = req'.emailHash)
    (hid : Paired ids ids' (.fingerprint req.clientIdentity) (.fingerprint req'.clientIdentity))
    (uSnapshot : Option User) (duressArmed : Bool) :
    Lockstep (Renamed ids ids') (loginFailed req uSnapshot duressArmed)
      (loginFailed req' uSnapshot duressArmed) := by
  refine lockstep_bind ?_ fun _ => ?_
  · refine lockstep_bind (recordLockoutFailure_lockstep hbuckets hid) fun _ =>
      lockstep_ite ?_ lockstep_pure
    rw [hemail]
    exact recordLockoutFailure_lockstep hbuckets (.other (by simp))
  · cases uSnapshot with
    | none => exact lockstep_pure
    | some u =>
      refine lockstep_ite lockstep_pure (lockstep_bind (updateUserById_lockstep _ _) fun outcome => ?_)
      rcases outcome with _ | _ | _ | n
      · exact lockstep_pure
      · exact lockstep_pure
      · exact lockstep_bind (performServerWipe_lockstep _) fun _ => lockstep_pure
      · exact lockstep_pure

theorem loginAdmitted_lockstep (hemail : req.emailHash = req'.emailHash)
    (hpassword : req.password = req'.password)
    (hid : Paired ids ids' (.fingerprint req.clientIdentity) (.fingerprint req'.clientIdentity))
    (uSnapshot : Option User) (duressArmed : Bool) :
    Lockstep (Renamed ids ids') (loginAdmitted N me req uSnapshot duressArmed)
      (loginAdmitted N me req' uSnapshot duressArmed) := by
  have hfailed := loginFailed_lockstep hbuckets hemail hid uSnapshot duressArmed
  unfold loginAdmitted
  rw [hpassword, hemail]
  refine lockstep_bind (authenticate_lockstep hbuckets N _ _) fun method => ?_
  rcases uSnapshot with _ | u
  · exact hfailed
  · rcases method with _ | method
    · exact hfailed
    · refine lockstep_bind (rehash_lockstep hbuckets _ _) fun hash => ?_
      refine lockstep_bind (delState_lockstep hbuckets (.other (by simp))) fun _ => ?_
      refine lockstep_bind (delState_lockstep hbuckets hid) fun _ => ?_
      refine lockstep_bind (updateUserById_lockstep _ _) fun finalU => ?_
      cases finalU with
      | none => exact lockstep_pure
      | some fu => exact grant_lockstep hbuckets fu _

theorem login_lockstep {identity : String}
    (hid : Paired ids ids' (.fingerprint req.clientIdentity) (.fingerprint identity)) :
    Lockstep (Renamed ids ids') (login N me req)
      (login N me { req with clientIdentity := identity }) := by
  refine lockstep_bind (authMiddleware_lockstep _) fun _ => lockstep_ite lockstep_pure ?_
  refine lockstep_bind (gets_lockstep .users fun _ _ => rfl) fun uSnapshot => ?_
  have hrate := incrExpire_lockstep hbuckets (a := .login req.ip) (.other (by simp)) loginWindowMs
  refine lockstep_bind (lockstep_bind hrate fun _ => lockstep_pure) fun ipOk => ?_
  refine lockstep_bind (checkLockout_lockstep hbuckets hid) fun fpOk => ?_
  refine lockstep_bind (lockstep_ite lockstep_pure ?_) fun accountOk => lockstep_ite ?_ ?_
  · exact checkLockout_lockstep hbuckets (.other (by simp))
  · refine loginAdmitted_lockstep hbuckets ?_ ?_ hid _ _ <;> rfl
  · refine lockstep_bind (lockstep_tryCatch ?_ fun _ => lockstep_pure) fun _ => lockstep_pure
    exact lockstep_bind (verifyPassword_lockstep hbuckets N _ _ _) fun _ => lockstep_pure

end Login

end Lockstep

/-! ## Failures in a row -/

def SameEntry (key : StoreKey) (s s' : Backend) : Prop := s'.stateStore key = s.stateStore key

theorem sameEntry_aside (key : StoreKey) : AsideOn (· = key) (SameEntry key) where
  refl _ := rfl
  stateStore _ _ h := h key rfl
  mfaPending _ _ := rfl
  usedTotpPeriods _ _ := rfl
  dirs _ _ := rfl
  dirLock _ _ := rfl

theorem sameEntry_updateUserById {β : Type} {key : StoreKey} (uid : Uid)
    (fn : Nat → User → Except Thrown (Update β)) : (updateUserById uid fn).Steps (SameEntry key) := by
  refine steps_section fun i s => ?_
  split
  · rfl
  · split <;> rfl

/-- The failure that is recorded under `key` after the entry `c`. -/
def Recorded (V : Input → Prop) (key : StoreKey) (c : Option StoreEntry) (s : Backend) : Prop :=
  ∃ i j, V i ∧ V j ∧ s.stateStore key = some (lockoutEntry (nextFailure i.now c) j.now)

section Failure

variable {key : StoreKey} {c : Option StoreEntry} {req : LoginRequest}

theorem recorded_bind {α : Type} {x : Handler α} {k : α → Handler Response}
    (hx : x.Steps (SameEntry key)) (hc : s.stateStore key = c) (hk : ∀ a s', s'.stateStore key = c →
      (k a).Ends V (fun r s' => verdict r = .failed → Recorded V key c s') s') :
    (x >>= k).Ends V (fun r s' => verdict r = .failed → Recorded V key c s') s := by
  refine hx.ends_bind (fun _ => rfl) (fun h h' => Eq.trans h' h) fun r s' hsame => ?_
  cases r with
  | ok a => exact hk a s' (Eq.trans hsame hc)
  | error e => exact fun hfailed => absurd hfailed (verdict_error e)

theorem recorded_of_yields {x : Handler Response}
    (h : x.Yields fun resp => verdict (.ok resp) ≠ .failed) :
    x.Ends V (fun r s' => verdict r = .failed → Recorded V key c s') s := by
  refine (Yields.ends h V s).mono fun r s' hr hfailed => ?_
  cases r with
  | ok resp => exact absurd hfailed (hr resp rfl)
  | error e => exact absurd hfailed (verdict_error e)

theorem recordLockoutFailure_ends (hc : s.stateStore key = c) :
    (recordLockoutFailure key).Ends V (fun r s' => r = .ok () ∧ Recorded V key c s') s := by
  refine ends_bind.mpr (ends_section.mpr fun i hi => ?_)
  dsimp only [Then]
  refine ends_section.mpr fun j hj => ⟨rfl, i, j, hi, hj, ?_⟩
  subst hc
  exact set_lockoutEntry ..

theorem loginFailed_recorded (uSnapshot : Option User) (duressArmed : Bool)
    (hc : s.stateStore (.fingerprint req.clientIdentity) = c) :
    (loginFailed req uSnapshot duressArmed).Ends V
      (fun _ s' => Recorded V (.fingerprint req.clientIdentity) c s') s := by
  have haside := sameEntry_aside (.fingerprint req.clientIdentity)
  have hkeep : ∀ {x : Handler Response} {s' : Backend},
      x.Steps (SameEntry (.fingerprint req.clientIdentity)) →
      Recorded V (.fingerprint req.clientIdentity) c s' →
      x.Ends V (fun _ s' => Recorded V (.fingerprint req.clientIdentity) c s') s' := by
    rintro x s' hx ⟨i, j, hi, hj, hentry⟩
    refine (hx.ends (fun _ => rfl) (fun h h' => Eq.trans h' h) V s').mono fun _ _ hsame => ?_
    exact ⟨i, j, hi, hj, Eq.trans hsame hentry⟩
  unfold loginFailed recordLoginFailure
  rw [bind_assoc]
  refine ends_bind.mpr ((recordLockoutFailure_ends hc).mono ?_)
  rintro _ s' ⟨rfl, hrecorded⟩
  refine hkeep (steps_bind (iteInduction (fun _ => ?_) fun _ => steps_pure) fun _ => ?_) hrecorded
  · exact haside.recordLockoutFailure (by simp)
  · cases uSnapshot with
    | none => exact steps_pure
    | some u =>
      refine iteInduction (fun _ => steps_pure) fun _ => ?_
      refine steps_bind (sameEntry_updateUserById _ _) fun outcome => ?_
      rcases outcome with _ | _ | _ | n
      · exact steps_pure
      · exact steps_pure
      · refine steps_bind (steps_bind ?_ fun _ => ?_) fun _ => steps_pure
        · exact steps_section fun _ s => haside.dirs s _
        · exact steps_section fun _ s => rfl
      · exact steps_pure

/-- **A login that fails** counts one more for its bucket. -/
theorem login_recorded (hc : s.stateStore (.fingerprint req.clientIdentity) = c) :
    (login N me req).Ends V
      (fun r s' => verdict r = .failed → Recorded V (.fingerprint req.clientIdentity) c s') s := by
  have haside := sameEntry_aside (.fingerprint req.clientIdentity)
  refine recorded_bind (authMiddleware_steps haside.refl _) hc fun _ s₁ hc => ?_
  split
  · exact recorded_of_yields (yields_pure (by decide))
  refine recorded_bind (haside.gets _ _) hc fun uSnapshot s₂ hc => ?_
  refine recorded_bind (haside.checkLoginRate (by simp)) hc fun ipOk s₃ hc => ?_
  refine recorded_bind (haside.checkLockout _) hc fun fpOk s₄ hc => ?_
  refine recorded_bind (haside.checkAccountUnlessArmed _ _) hc fun accountOk s₅ hc => ?_
  split
  · refine recorded_bind (haside.authenticate (by simp) N _ _) hc fun method s₆ hc => ?_
    have hfailed : (loginFailed req uSnapshot ((uSnapshot.bind (·.duressEnforce)).any
      (·.armed))).Ends V
        (fun r s' => verdict r = .failed → Recorded V (.fingerprint req.clientIdentity) c s') s₆ :=
      (loginFailed_recorded uSnapshot _ hc).mono fun _ _ h _ => h
    rcases uSnapshot with _ | u
    · exact hfailed
    · rcases method with _ | method
      · exact hfailed
      · refine recorded_of_yields (yields_bind fun _ => yields_bind fun _ => yields_bind fun _ =>
          yields_bind fun finalU => ?_)
        cases finalU with
        | none => exact yields_pure (by decide)
        | some fu =>
          refine Yields.mono (grant_yields N me fu _) fun resp hresp => ?_
          rw [hresp]
          decide
  · refine recorded_of_yields (yields_bind fun _ => yields_pure ?_)
    cases accountOk <;> cases fpOk <;> decide

end Failure

/-- So many logins with one client identity, one after the other, have failed within the hour
that begins at `start`, the last of them not before `since`. -/
inductive FailedInARow (N : Node) (id : String) (start : Nat) (s₀ : Backend) :
    Nat → Nat → Backend → Prop
  | begin : FailedInARow N id start s₀ 0 start s₀
  | next {n since since' : Nat} {s s' : Backend} {me : Pid} {req : HttpLogin} {inputs : ℕ → Input}
    {r : Except Thrown Response} (hrow : FailedInARow N id start s₀ n since s)
    (hid : req.clientIdentity N = id)
    (hrun : (login N me (req.parse N)).run inputs s = (some r, s')) (hfailed : verdict r = .failed)
    (hhour : ∀ k, WithinHour start (inputs k)) (hsince : ∀ k, since' ≤ (inputs k).now) :
    FailedInARow N id start s₀ (n + 1) since' s'

theorem FailedInARow.entry {id : String} {start n since : Nat} {s₀ : Backend}
    (h : FailedInARow N id start s₀ n since s)
    (hfresh : ∀ i, WithinHour start i → s₀.stateStore.live i.now (.fingerprint id) = none) :
    (n = 0 ∧ s = s₀) ∨ ∃ i, WithinHour start i ∧ since ≤ i.now ∧
      s.stateStore (.fingerprint id) = some (lockoutEntry n i.now) := by
  induction h with
  | begin => exact .inl ⟨rfl, rfl⟩
  | @next n since since' s s' me req inputs r _ hid hrun hfailed hhour hsince ih =>
    subst hid
    let V : Input → Prop := fun i => WithinHour start i ∧ since' ≤ i.now
    have hends : (login N me (req.parse N)).Ends V _ s := login_recorded rfl
    obtain ⟨i, j, hi, hj, hentry⟩ := hends.of_run (fun k => ⟨hhour k, hsince k⟩) hrun hfailed
    refine .inr ⟨j, hj.1, hj.2, hentry.trans ?_⟩
    have hcount : nextFailure i.now (s.stateStore (.fingerprint (req.clientIdentity N))) = n + 1 := by
      rcases ih with ⟨rfl, rfl⟩ | ⟨k, hk, -, hbefore⟩
      · have hnone := hfresh i hi.1
        unfold live at hnone
        simp only [nextFailure, hnone, Option.map_none, Option.getD_none]
      · rw [hbefore]
        exact nextFailure_entry k i n hk hi.1
    exact congrArg (fun m => some (lockoutEntry m j.now)) hcount

/-! ## The throttle -/

/-- The logins of the requests, as they arrive. -/
def arrivals (N : Node) (req : Pid → HttpLogin) (s : Backend) : Logins :=
  logins N (fun p => (req p).parse N) s

/-- **The fingerprint throttle** blocks the same requests in two runs that differ in the
fingerprints only, if those divide the requests into the same buckets. Failures in a row in one
bucket lock it. -/
theorem fingerprint_throttle_of_buckets {req req' : Pid → HttpLogin}
    (halike : ∀ p, (req p).Alike (req' p))
    (hbuckets : SameBuckets (fun p => (req p).clientIdentity N) fun p => (req' p).clientIdentity N)
    (hstart : ∀ p, s.stateStore (.fingerprint ((req p).clientIdentity N)) =
      s.stateStore (.fingerprint ((req' p).clientIdentity N)))
    (es : List (Pid × Input)) :
    (run step (arrivals N req s) es).outcomes = (run step (arrivals N req' s) es).outcomes ∧
      (∀ p i, ((checkFingerprintRate ((req p).clientIdentity N)).run (fun _ => i)
          (run step (arrivals N req s) es).shared).1 =
        ((checkFingerprintRate ((req' p).clientIdentity N)).run (fun _ => i)
          (run step (arrivals N req' s) es).shared).1) ∧
      ∀ id start n since s', FailedInARow N id start s n since s' →
        (∀ i, WithinHour start i → s.stateStore.live i.now (.fingerprint id) = none) → 5 ≤ n →
        ∀ i, i.now < since + lockoutMs n →
          (checkFingerprintRate id).run (fun _ => i) s' = (some (.ok false), s') := by
  let ids := fun p => (req p).clientIdentity N
  let ids' := fun p => (req' p).clientIdentity N
  have hbegin : Lockstep (Renamed ids ids') (arrivals N req s) (arrivals N req' s) := by
    refine ⟨⟨rfl, fun a b hab => ?_⟩, fun p => ?_⟩
    · cases hab with
      | bucket p => exact hstart p
      | other _ => rfl
    · have hparse : (req' p).parse N =
          { (req p).parse N with clientIdentity := (req' p).clientIdentity N } := by
        rw [← halike p]
        rfl
      change Lockstep (Renamed ids ids') (login N p ((req p).parse N)) (login N p ((req' p).parse N))
      rw [hparse]
      exact login_lockstep hbuckets (.bucket p)
  have hlock := lockstep_run hbegin es
  refine ⟨hlock.outcomes, fun p i => ?_, ?_⟩
  · have hcheck : Lockstep (Renamed ids ids') (checkFingerprintRate (ids p))
        (checkFingerprintRate (ids' p)) := checkLockout_lockstep hbuckets (.bucket p)
    exact hcheck.run (fun _ => i) hlock.shared
  · intro id start n since s' hrow hfresh hn i hi
    rcases hrow.entry hfresh with ⟨rfl, -⟩ | ⟨j, -, hj, hentry⟩
    · omega
    · exact checkLockout_locked hn hentry (by omega)

/-! ## Six guesses from one browser -/

/-- A guess at an address of its own. -/
def spray (visitorId : Char) (p : Pid) : HttpLogin where
  cookie := none
  emailHash := .ofList ['g', Char.ofNat (48 + p)]
  password := "battery staple".toList
  ip := "::1"
  userAgent := []
  fingerprint := some ⟨.absent, .text [visitorId]⟩

theorem spray_clientIdentity (visitorId : Char) (p q : Pid) :
    (spray visitorId p).clientIdentity N = (spray visitorId q).clientIdentity N := by
  simp only [HttpLogin.clientIdentity, spray]

/-- The guesses of a browser that gives each another visitor id. -/
def rotating (p : Pid) : HttpLogin := spray (Char.ofNat (97 + p)) p

def sprayStart : Backend := symbolicBackend (symbolicUser ownerPassword) []

/-- One guess after the other. -/
def sprayRun : List (Pid × Input) :=
  [0, 1, 2, 3, 4, 5].flatMap fun p => List.replicate 11 (p, symbolicInput)

/-- Two browsers that keep their visitor ids. -/
theorem fingerprint_throttle_of_buckets_steady :
    (run step (arrivals symbolicNode (spray 'x') sprayStart) sprayRun).outcomes =
      (run step (arrivals symbolicNode (spray 'y') sprayStart) sprayRun).outcomes := by
  have halike : ∀ p, (spray 'x' p).Alike (spray 'y' p) := fun _ => rfl
  have hbuckets : SameBuckets (fun p => (spray 'x' p).clientIdentity symbolicNode)
      fun p => (spray 'y' p).clientIdentity symbolicNode :=
    fun p q => ⟨fun _ => spray_clientIdentity 'y' p q, fun _ => spray_clientIdentity 'x' p q⟩
  have hstart : ∀ p, sprayStart.stateStore (.fingerprint
    ((spray 'x' p).clientIdentity symbolicNode)) =
      sprayStart.stateStore (.fingerprint ((spray 'y' p).clientIdentity symbolicNode)) := fun _ => rfl
  exact (fingerprint_throttle_of_buckets halike hbuckets hstart sprayRun).1

/-- The answer of the throttle. -/
def sprayBlocked : Response :=
  { Response.refuse 200 "too_many_requests" with rateLimited := some "fingerprint" }

/-- The sixth guess is blocked if all carry one visitor id, and is not if they rotate it. -/
theorem rotating_visitorId_unblocked :
    (∀ p, (spray 'a' p).Alike (rotating p)) ∧
      (run step (arrivals symbolicNode (spray 'a') sprayStart) sprayRun).outcomes 5 =
        some (.ok sprayBlocked) ∧
      (run step (arrivals symbolicNode rotating sprayStart) sprayRun).outcomes 5 =
        some (.ok invalidCredentials) :=
  ⟨fun _ => rfl, by decide +kernel, by decide +kernel⟩

end PwdNow.Server
