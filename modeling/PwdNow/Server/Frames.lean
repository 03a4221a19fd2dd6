import PwdNow.Server.Login

/-!
# Server — what the stretches of a handler leave alone

A relation `K` between states is `Quiet` if it does not look at the state store, the partial logins
or the used TOTP periods. Most of a handler only touches those, and so does what any quiet `K`
allows. What remains are the sections that write a user record or a vault directory. `QuietOn kept`
lets `K` look at the entries of the state store in `kept` as well, and `AsideOn` has it ignore the
vault directories.
-/

namespace PwdNow.Server

open Kit Async

theorem authMiddleware_steps {K : Backend → Backend → Prop} (hrefl : ∀ s, K s s)
    (cookie : Option SessionToken) : (authMiddleware cookie).Steps K := by
  cases cookie with
  | none => exact steps_pure
  | some token =>
    refine steps_bind (steps_section fun _ s => hrefl s) fun payload => ?_
    cases payload with
    | none => exact steps_pure
    | some payload =>
      refine steps_bind (steps_section fun _ s => hrefl s) fun u => ?_
      cases u with
      | none => exact steps_pure
      | some u => exact steps_bind (steps_section fun _ s => hrefl s) fun _ => steps_pure

/-! ## Relations that look at some entries of the state store -/

structure QuietOn (kept : StoreKey → Prop) (K : Backend → Backend → Prop) : Prop where
  refl : ∀ s, K s s
  stateStore : ∀ s m, (∀ key, kept key → m key = s.stateStore key) → K s { s with stateStore := m }
  mfaPending : ∀ s p, K s { s with mfaPending := p }
  usedTotpPeriods : ∀ s t, K s { s with usedTotpPeriods := t }

/-- A call of the state store that changes nothing but the entry under `key`. -/
def OnlyAt {α : Type} (key : StoreKey) (f : Nat → StateStore → α × StateStore) : Prop :=
  ∀ now m key', key' ≠ key → (f now m).2 key' = m key'

variable (key : StoreKey)

theorem onlyAt_set (value : Nat → StoreValue) (ttlMs : Nat) :
    OnlyAt key fun now m => ((), m.set now key (value now) ttlMs) :=
  fun _ _ _ h => Function.update_of_ne h _ _

theorem onlyAt_del : OnlyAt key fun _ m => ((), m.del key) :=
  fun _ _ _ h => Function.update_of_ne h _ _

theorem onlyAt_incrExpire (ttlMs : Nat) : OnlyAt key fun now m => m.incrExpire now key ttlMs := by
  intro now m key' h
  dsimp only [StateStore.incrExpire]
  split <;> exact Function.update_of_ne h _ _

theorem onlyAt_decr : OnlyAt key fun now m => ((), m.decr now key) := by
  intro now m key' h
  dsimp only [StateStore.decr]
  cases m.live now key <;> exact Function.update_of_ne h _ _

namespace QuietOn

variable {kept : StoreKey → Prop} {K : Backend → Backend → Prop} {α : Type} (hK : QuietOn kept K)
include hK

theorem gets (label : Await) (f : Backend → α) :
    (section_ label fun _ => .gets f : Handler α).Steps K :=
  steps_section fun _ s => hK.refl s

theorem compute (f : Input → Except Thrown α) : (Server.compute f).Steps K :=
  steps_section fun _ s => hK.refl s

variable {key : StoreKey}

theorem onStore (hkey : ¬ kept key) {f : Nat → StateStore → α × StateStore} (hf : OnlyAt key f) :
    (Server.onStore f).Steps K := by
  refine steps_section fun i s => hK.stateStore s _ fun key' hkey' => ?_
  exact hf i.now s.stateStore key' fun heq => hkey (heq ▸ hkey')

theorem reads (f : Nat → StateStore → α) : (Server.onStore fun now m => (f now m, m)).Steps K :=
  steps_section fun _ s => hK.stateStore s _ fun _ _ => rfl

theorem delState (hkey : ¬ kept key) : (Server.delState key).Steps K :=
  hK.onStore hkey (onlyAt_del key)

theorem withMfaPendingLock (fn : Input → MfaPending → α × MfaPending) :
    (Server.withMfaPendingLock fn).Steps K :=
  steps_section fun _ s => hK.mfaPending s _

section

variable (hgate : ¬ kept .argon2Active)
include hgate

theorem gated {body : Handler α} (hbody : body.Steps K) : (Server.gated body).Steps K := by
  have hdecr := hK.onStore hgate (onlyAt_decr .argon2Active)
  refine steps_bind (hK.onStore hgate (onlyAt_incrExpire _ _)) fun count => ?_
  refine iteInduction (fun _ => ?_) fun _ => steps_finally hbody hdecr
  exact steps_bind hdecr fun _ => steps_throw

theorem hashPassword (N : Node) (password : Text) : (Server.hashPassword N password).Steps K :=
  hK.gated hgate (hK.compute _)

theorem verifyPassword (N : Node) (hash password salt : Text) :
    (Server.verifyPassword N hash password salt).Steps K :=
  hK.gated hgate (hK.compute _)

theorem authenticate (N : Node) (password : Text) (u : Option User) :
    (Server.authenticate N password u).Steps K := by
  have hverify := hK.verifyPassword hgate N
  refine steps_bind (hverify _ _ _) fun accepted => iteInduction (fun _ => steps_pure) fun _ => ?_
  cases u with
  | none => exact steps_pure
  | some u =>
    refine steps_bind (hK.compute _) fun now => iteInduction (fun _ => steps_pure) fun _ => ?_
    exact steps_bind (hverify _ _ _) fun _ => iteInduction (fun _ => steps_pure) fun _ => steps_pure

theorem rehash (N : Node) (password : Text) (u : User) : (Server.rehash N password u).Steps K := by
  refine iteInduction (fun _ => ?_) fun _ => steps_pure
  refine steps_tryCatch (steps_bind (hK.hashPassword hgate _ _) fun _ => steps_pure) fun _ =>
    steps_pure

end

theorem isMfaLocked (uid : Uid) : (Server.isMfaLocked uid).Steps K :=
  steps_bind (hK.reads _) fun _ => steps_pure

theorem checkLoginRate {ip : String} (hip : ¬ kept (.login ip)) :
    (Server.checkLoginRate ip).Steps K :=
  steps_bind (hK.onStore hip (onlyAt_incrExpire _ _)) fun _ => steps_pure

theorem checkLockout (key : StoreKey) : (Server.checkLockout key).Steps K := by
  refine steps_section fun i s => hK.stateStore s _ fun _ _ => ?_
  dsimp only
  split <;> rfl

theorem recordLockoutFailure (hkey : ¬ kept key) : (Server.recordLockoutFailure key).Steps K :=
  steps_bind (hK.reads _) fun _ => hK.onStore hkey (onlyAt_set key _ _)

theorem checkAccountUnlessArmed (duressArmed : Bool) (emailHash : String) :
    (Server.checkAccountUnlessArmed duressArmed emailHash).Steps K :=
  iteInduction (fun _ => steps_pure) fun _ => hK.checkLockout _

theorem loginThrottled (hgate : ¬ kept .argon2Active) (N : Node) (req : LoginRequest)
    (accountBlocked fpBlocked : Bool) :
    (Server.loginThrottled N req accountBlocked fpBlocked).Steps K := by
  refine steps_bind (steps_tryCatch ?_ fun _ => steps_pure) fun _ => steps_pure
  exact steps_bind (hK.verifyPassword hgate _ _ _ _) fun _ => steps_pure

end QuietOn

structure AsideOn (kept : StoreKey → Prop) (K : Backend → Backend → Prop) : Prop
    extends QuietOn kept K where
  dirs : ∀ s d, K s { s with dirs := d }
  dirLock : ∀ s h, K s { s with dirLock := h }

namespace AsideOn

variable {kept : StoreKey → Prop} {K : Backend → Backend → Prop} (hK : AsideOn kept K)
include hK

variable (N : Node) (me : Pid) (uid : Uid)

theorem lockDir : (Server.lockDir me uid).Steps K := by
  refine steps_waiting fun i s => ?_
  split
  · exact hK.dirLock s _
  · exact hK.refl s

theorem unlockDir : (Server.unlockDir me uid).Steps K := by
  refine steps_section fun i s => ?_
  dsimp only [Fallible.modify_run]
  split
  · exact hK.dirLock s _
  · exact hK.refl s

theorem appendSession (jti : Jti) (all : List Session) :
    (Server.appendSession uid jti all).Steps K := by
  refine steps_bind (steps_section fun _ s => hK.refl s) fun _ => steps_section fun _ s => ?_
  unfold Backend.saveSessions
  split
  · exact hK.refl s
  · exact hK.dirs s _

theorem recordSession (jti : Jti) : (Server.recordSession me uid jti).Steps K := by
  refine steps_bind (hK.gets _ _) fun unlocked => ?_
  cases unlocked with
  | some all => exact hK.appendSession uid jti all
  | none =>
    refine steps_bind (hK.lockDir me uid) fun _ => ?_
    refine steps_finally (steps_bind (hK.gets _ _) fun all => ?_) (hK.unlockDir me uid)
    exact hK.appendSession uid jti all

variable (u : User) (verified : Option Nat)

theorem openSession : (Server.openSession N me u verified).Steps K :=
  steps_bind (hK.compute _) fun _ => steps_bind (hK.recordSession _ _ _) fun _ => steps_pure

theorem grant : (Server.grant N me u verified).Steps K := by
  refine steps_bind (hK.gets _ _) fun mfaCfg => iteInduction (fun _ => steps_pure) fun _ => ?_
  refine iteInduction (fun _ => hK.openSession N me u verified) fun _ => ?_
  refine steps_bind (hK.isMfaLocked _) fun locked => iteInduction (fun _ => steps_pure) fun _ => ?_
  refine steps_bind (hK.withMfaPendingLock _) fun token => ?_
  refine iteInduction (fun _ => ?_) fun _ => steps_pure
  exact steps_bind (hK.withMfaPendingLock _) fun _ => steps_pure

end AsideOn

/-! ## Relations that look at none -/

structure Quiet (K : Backend → Backend → Prop) : Prop where
  refl : ∀ s, K s s
  stateStore : ∀ s m, K s { s with stateStore := m }
  mfaPending : ∀ s p, K s { s with mfaPending := p }
  usedTotpPeriods : ∀ s t, K s { s with usedTotpPeriods := t }

namespace Quiet

variable {K : Backend → Backend → Prop} {α : Type} (hK : Quiet K)
include hK

theorem on : QuietOn (fun _ => False) K :=
  ⟨hK.refl, fun s m _ => hK.stateStore s m, hK.mfaPending, hK.usedTotpPeriods⟩

theorem gets (label : Await) (f : Backend → α) :
    (section_ label fun _ => .gets f : Handler α).Steps K :=
  hK.on.gets label f

theorem compute (f : Input → Except Thrown α) : (Server.compute f).Steps K := hK.on.compute f

theorem moduleImport : Server.moduleImport.Steps K := steps_section fun _ s => hK.refl s

theorem onStore (f : Nat → StateStore → α × StateStore) : (Server.onStore f).Steps K :=
  steps_section fun _ s => hK.stateStore s _

theorem delState (key : StoreKey) : (Server.delState key).Steps K := hK.on.delState id

theorem withMfaPendingLock (fn : Input → MfaPending → α × MfaPending) :
    (Server.withMfaPendingLock fn).Steps K :=
  hK.on.withMfaPendingLock fn

/-! ## Passwords -/

theorem hashPassword (N : Node) (password : Text) : (Server.hashPassword N password).Steps K :=
  hK.on.hashPassword id N password

theorem verifyPassword (N : Node) (hash password salt : Text) :
    (Server.verifyPassword N hash password salt).Steps K :=
  hK.on.verifyPassword id N hash password salt

theorem authenticate (N : Node) (password : Text) (u : Option User) :
    (Server.authenticate N password u).Steps K :=
  hK.on.authenticate id N password u

theorem rehash (N : Node) (password : Text) (u : User) : (Server.rehash N password u).Steps K :=
  hK.on.rehash id N password u

/-! ## Sessions -/

theorem authMiddleware (cookie : Option SessionToken) : (Server.authMiddleware cookie).Steps K :=
  authMiddleware_steps hK.refl cookie

/-! ## Second factors -/

theorem isMfaLocked (uid : Uid) : (Server.isMfaLocked uid).Steps K := hK.on.isMfaLocked uid

theorem recordMfaFailure (uid : Uid) : (Server.recordMfaFailure uid).Steps K := by
  refine steps_bind (hK.onStore _) fun count => iteInduction (fun _ => ?_) fun _ => steps_pure
  exact steps_bind (hK.onStore _) fun _ => hK.onStore _

theorem clearMfaFailure (uid : Uid) : (Server.clearMfaFailure uid).Steps K :=
  steps_bind (hK.delState _) fun _ => hK.delState _

theorem mfaFailed (uid : Uid) : (Server.mfaFailed uid).Steps K :=
  steps_bind (hK.recordMfaFailure uid) fun _ => steps_pure

section

variable (N : Node) (secret code : Text)

theorem totpRound (ts : Int) (s : Backend) : K s (Server.totpRound N secret code ts s).2 := by
  unfold Server.totpRound
  split
  · exact hK.refl s
  · dsimp only
    split_ifs
    · exact hK.refl s
    · exact hK.usedTotpPeriods s _
    · exact hK.refl s

theorem totpRounds (now : Nat) (drifts : List Int) :
    (Server.totpRounds N secret code now drifts).Steps K := by
  induction drifts with
  | nil => exact steps_pure
  | cons drift rest ih =>
    refine steps_bind (steps_section fun _ s => hK.totpRound _ _ _ _ s) fun fresh => ?_
    cases fresh with
    | none => exact ih
    | some b => exact steps_pure

theorem verifyTotpCode : (Server.verifyTotpCode N secret code).Steps K := by
  refine iteInduction (fun _ => steps_pure) fun _ => ?_
  exact steps_bind (hK.compute _) fun _ => hK.totpRounds _ _ _ _ _

end

theorem checkSecondFactor (N : Node) (u : User) (partialToken : Text)
    (totpCode emailCode : JsonText) :
    (Server.checkSecondFactor N u partialToken totpCode emailCode).Steps K := by
  refine iteInduction (fun _ => ?_) fun _ => iteInduction (fun _ => ?_) fun _ => steps_pure
  · split
    · exact steps_bind (hK.verifyTotpCode _ _ _) fun _ =>
        iteInduction (fun _ => steps_pure) fun _ => hK.mfaFailed _
    · exact steps_pure
  · split
    · refine steps_bind (hK.withMfaPendingLock _) fun stored => ?_
      cases stored with
      | none => exact hK.mfaFailed _
      | some stored =>
        refine iteInduction (fun _ => hK.mfaFailed _) fun _ => iteInduction (fun _ => steps_throw)
          fun _ => ?_
        exact iteInduction (fun _ => steps_pure) fun _ => hK.mfaFailed _
    · exact steps_pure

/-! ## Throttles -/

theorem recordLoginFailure (req : LoginRequest) (duressArmed : Bool) :
    (Server.recordLoginFailure req duressArmed).Steps K :=
  steps_bind (hK.on.recordLockoutFailure id) fun _ =>
    iteInduction (fun _ => hK.on.recordLockoutFailure id) fun _ => steps_pure

theorem checkLoginRate (ip : String) : (Server.checkLoginRate ip).Steps K := hK.on.checkLoginRate id

theorem checkLockout (key : StoreKey) : (Server.checkLockout key).Steps K := hK.on.checkLockout key

theorem checkAccountUnlessArmed (duressArmed : Bool) (emailHash : String) :
    (Server.checkAccountUnlessArmed duressArmed emailHash).Steps K :=
  hK.on.checkAccountUnlessArmed duressArmed emailHash

theorem loginThrottled (N : Node) (req : LoginRequest) (accountBlocked fpBlocked : Bool) :
    (Server.loginThrottled N req accountBlocked fpBlocked).Steps K :=
  hK.on.loginThrottled id N req accountBlocked fpBlocked

end Quiet

/-! ## The middleware -/

/-- `authMiddleware` changes nothing, and accepts a cookie only of a user there is, for a session
that is listed. -/
theorem authMiddleware_ends (V : Input → Prop) (cookie : Option SessionToken) (s : Backend) :
    (authMiddleware cookie).Ends V (fun r s' => s' = s ∧ ∃ auth, r = .ok auth ∧
      ∀ user, auth = some user → ∃ token v, cookie = some token ∧ user.id = token.sub ∧
        s.findUserById token.sub = some v ∧
        ∃ x ∈ s.loadSessions user.id, x.jti = token.jti) s := by
  cases cookie with
  | none => exact ⟨rfl, none, rfl, by simp⟩
  | some token =>
    refine ends_bind.mpr (ends_section.mpr fun i _ => ?_)
    dsimp only [Then, Fallible.lift_run]
    split
    · exact ⟨rfl, none, rfl, by simp⟩
    · rename_i payload hpayload
      refine ends_bind.mpr (ends_section.mpr fun _ _ => ?_)
      dsimp only [Then, Fallible.gets_run]
      split
      · exact ⟨rfl, none, rfl, by simp⟩
      · rename_i v hv
        refine ends_bind.mpr (ends_section.mpr fun _ _ => ⟨rfl, _, rfl, ?_⟩)
        intro user huser
        have htoken : payload = token := by
          split at hpayload
          · cases hpayload
          · exact (Option.some.inj hpayload).symm
        subst htoken
        have hvid : v.id = payload.sub := by simpa using List.find?_some hv
        split at huser
        · rename_i hany
          cases huser
          obtain ⟨x, hx, hjti⟩ := List.any_eq_true.mp hany
          exact ⟨payload, v, rfl, hvid, hv, x, hx, of_decide_eq_true hjti⟩
        · cases huser

end PwdNow.Server
