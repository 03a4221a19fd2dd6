import PwdNow.Server.Frames

/-!
# Server — what a login does to the user record

`login` reads the record once, verifies the presented string against that snapshot, and later
updates the record. Alone, it ends in one of few ways: it is turned away before anything is
verified, the string is refused, or it is accepted and the record is updated.
-/

namespace PwdNow.Server

open Kit Async List

variable {N : Node} {me : Pid} {V : Input → Prop} {u : User} {s s' : Backend}

/-! ## The records of one account -/

/-- The records with the identity or the address of an account; there is one, or none. -/
def Backend.account (s : Backend) (id : Uid) (emailHash : String) : List User :=
  s.users.filter fun v => v.id = id || v.emailHash = emailHash

section Account

variable {id : Uid} {emailHash : String} {v v' : User}

theorem find?_of_filter {α : Type} {xs ys : List α} {P p : α → Bool} (h : xs.filter P = ys)
    (hp : ∀ x, p x = true → P x = true) : xs.find? p = ys.find? p := by
  rw [← h, find?_filter]
  congr 1
  funext x
  rw [Bool.eq_iff_iff, decide_eq_true_iff]
  exact ⟨fun hx => ⟨hp x hx, hx⟩, And.right⟩

variable {xs : List User}

theorem findUserById_of_account (h : s.account id emailHash = xs) :
    s.findUserById id = xs.find? (·.id = id) :=
  find?_of_filter h fun x hx => by simp_all

theorem findUserByEmailHash_of_account (h : s.account id emailHash = xs) :
    s.findUserByEmailHash emailHash = xs.find? (·.emailHash = emailHash) :=
  find?_of_filter h fun x hx => by simp_all

theorem filter_replaceUser {P : User → Bool} (h : xs.filter P = [v])
    (hP : ∀ x, x.id = v.id → P x = true) (hv' : v'.id = v.id) :
    (replaceUser v.id v' xs).filter P = [v'] := by
  induction xs with
  | nil => cases h
  | cons x xs ih =>
    unfold replaceUser
    by_cases hx : P x = true
    · rw [filter_cons_of_pos hx, cons.injEq] at h
      obtain ⟨rfl, hrest⟩ := h
      rw [if_pos rfl, filter_cons_of_pos (hP v' hv'), hrest]
    · rw [filter_cons_of_neg hx] at h
      rw [if_neg fun heq => hx (hP x heq), filter_cons_of_neg hx, ih h]

theorem filter_eraseP {P : User → Bool} (h : xs.filter P = [v]) (hP : ∀ x, x.id = v.id → P x = true) :
    (xs.eraseP (·.id = v.id)).filter P = [] := by
  induction xs with
  | nil => cases h
  | cons x xs ih =>
    by_cases hx : P x = true
    · rw [filter_cons_of_pos hx, cons.injEq] at h
      obtain ⟨rfl, hrest⟩ := h
      rw [eraseP_cons_of_pos (by simp), hrest]
    · rw [filter_cons_of_neg hx] at h
      have hne : ¬ x.id = v.id := fun heq => hx (hP x heq)
      rw [eraseP_cons_of_neg (by simpa using hne), filter_cons_of_neg hx, ih h]

theorem account_replaceUser (h : s.account id emailHash = [v]) (hv : v.id = id)
    (husers : s'.users = replaceUser v.id v' s.users) (hv' : v'.id = id) :
    s'.account id emailHash = [v'] := by
  unfold Backend.account
  rw [husers]
  exact filter_replaceUser h (fun x hx => by simp [hx, hv]) (hv'.trans hv.symm)

theorem account_eraseP (h : s.account id emailHash = [v]) (hv : v.id = id)
    (husers : s'.users = s.users.eraseP (·.id = v.id)) : s'.account id emailHash = [] := by
  unfold Backend.account
  rw [husers]
  exact filter_eraseP h (fun x hx => by simp [hx, hv])

end Account

/-! ## Sections that leave the users alone -/

def SameUsers (s s' : Backend) : Prop := s'.users = s.users

theorem SameUsers.refl (s : Backend) : SameUsers s s := rfl

theorem SameUsers.trans {s'' : Backend} (h : SameUsers s s') (h' : SameUsers s' s'') :
    SameUsers s s'' :=
  Eq.trans h' h

open SameUsers

theorem SameUsers.quiet : Quiet SameUsers :=
  ⟨fun _ => rfl, fun _ _ => rfl, fun _ _ => rfl, fun _ _ => rfl⟩

theorem SameUsers.findUserById (h : SameUsers s s') (uid : Uid) :
    s'.findUserById uid = s.findUserById uid := by
  unfold Backend.findUserById
  rw [h]

theorem SameUsers.findUserByEmailHash (h : SameUsers s s') (emailHash : String) :
    s'.findUserByEmailHash emailHash = s.findUserByEmailHash emailHash := by
  unfold Backend.findUserByEmailHash
  rw [h]

theorem SameUsers.account (h : SameUsers s s') (id : Uid) (emailHash : String) :
    s'.account id emailHash = s.account id emailHash := by
  unfold Backend.account
  rw [h]

theorem SameUsers.aside : AsideOn (fun _ => False) SameUsers :=
  ⟨quiet.on, fun _ _ => rfl, fun _ _ => rfl⟩

/-! ## Verification -/

/-- A hash that a login replaces. -/
def Legacy (u : User) : Prop := u.passwordHash ≠ [] ∧ argon2idTag.isPrefixOf u.passwordHash = false

def User.recoveryKeyExpired (u : User) (now : Nat) : Bool :=
  u.recoveryKeyExpiresAt ≠ 0 && now > u.recoveryKeyExpiresAt

/-- The string is accepted for the record, at a time that meets `V`. -/
inductive Accepted (N : Node) (V : Input → Prop) (u : User) (password : Text) : AuthMethod → Prop
  | password (h : N.accepts u.passwordHash password u.salt = some true) :
    Accepted N V u password .password
  | recoveryKey (hpassword : N.accepts u.passwordHash password u.salt = some false)
    (henrolled : u.recoveryKeyHash ≠ []) (hlive : ∃ i, V i ∧ u.recoveryKeyExpired i.now = false)
    (hkey : N.accepts u.recoveryKeyHash password u.recoveryKeySalt = some true) :
    Accepted N V u password .recoveryKey

/-- Neither the password hash nor a valid recovery key accepts the string. -/
structure Rejected (N : Node) (V : Input → Prop) (u : User) (password : Text) : Prop where
  byPassword : N.accepts u.passwordHash password u.salt = some false
  byRecoveryKey : u.recoveryKeyHash = [] ∨ (∃ i, V i ∧ u.recoveryKeyExpired i.now = true) ∨
    N.accepts u.recoveryKeyHash password u.recoveryKeySalt = some false

/-- What the result of `authenticate` says. -/
def Verified (N : Node) (V : Input → Prop) (u : User) (password : Text) :
    Except Thrown (Option AuthMethod) → Prop
  | .ok (some method) => Accepted N V u password method
  | .ok none => Rejected N V u password
  | .error e => e = .tooManyRequests ∨ e = .badArgon2Hash

theorem authenticate_ends (password : Text) :
    (authenticate N password (some u)).Ends V (fun r s' => SameUsers s s' ∧
      Verified N V u password r ∧ ∀ method, r = .ok (some method) → Room s'.stateStore) s := by
  refine ends_bind.mpr (gated_ends (fun _ m => ⟨rfl, .inl rfl, by simp⟩) fun i m _ hroom => ?_)
  cases hpassword : N.accepts ((some u).map (·.passwordHash) |>.getD []) password
      ((some u).map (·.salt) |>.getD []) with
  | none => exact ⟨rfl, .inr rfl, by simp⟩
  | some accepted =>
    cases accepted with
    | true => exact ⟨rfl, .password hpassword, fun _ _ => hroom⟩
    | false =>
      refine ends_bind.mpr (ends_section.mpr fun j hj => ?_)
      dsimp only [Then, Fallible.lift_run]
      split
      · rename_i hskip
        refine ⟨rfl, ⟨hpassword, ?_⟩, by simp⟩
        rcases Bool.or_eq_true _ _ ▸ hskip with hnone | hexpired
        · exact .inl (of_decide_eq_true hnone)
        · exact .inr (.inl ⟨j, hj, hexpired⟩)
      · rename_i hskip
        rw [Bool.not_eq_true, Bool.or_eq_false_iff] at hskip
        refine ends_bind.mpr (gated_ends (fun _ m => ⟨rfl, .inl rfl, by simp⟩) fun i m _ hroom => ?_)
        cases hkey : N.accepts u.recoveryKeyHash password u.recoveryKeySalt with
        | none => exact ⟨rfl, .inr rfl, by simp⟩
        | some accepted =>
          cases accepted with
          | true =>
            exact ⟨rfl, .recoveryKey hpassword (of_decide_eq_false hskip.1) ⟨j, hj, hskip.2⟩ hkey,
              fun _ _ => hroom⟩
          | false => exact ⟨rfl, ⟨hpassword, .inr (.inr hkey)⟩, by simp⟩

theorem authenticate_unknown_ends (password : Text) :
    (authenticate N password none).Ends V (fun r s' => SameUsers s s' ∧
      (r = .ok none ∨ r = .error .tooManyRequests)) s := by
  refine ends_bind.mpr (gated_ends (fun _ m => ⟨rfl, .inr rfl⟩) fun i m _ _ => ?_)
  exact ⟨rfl, .inl rfl⟩

theorem rehash_ends (password : Text) (hroom : Room s.stateStore) :
    (rehash N password u).Ends V (fun r s' => SameUsers s s' ∧ ∃ hash, r = .ok hash ∧
      (Legacy u → ∃ salt, hash = some (N.argon2Hash salt password)) ∧
      (¬ Legacy u → hash = none)) s := by
  unfold rehash
  split
  · rename_i hlegacy
    refine ends_tryCatch.mpr (ends_bind.mpr (gated_ends (fun hfull => absurd hroom hfull) ?_))
    intro i m _ _
    exact ⟨rfl, _, rfl, fun _ => ⟨i.random, rfl⟩, fun h => absurd hlegacy h⟩
  · rename_i hlegacy
    exact ⟨rfl, none, rfl, fun h => absurd h hlegacy, fun _ => rfl⟩

theorem grantUpdate_frame (method : AuthMethod) (hash : Option Text) (fu : User) :
    (grantUpdate method hash u fu).id = fu.id ∧
      (grantUpdate method hash u fu).emailHash = fu.emailHash ∧
      (grantUpdate method hash u fu).duressEnforce = fu.duressEnforce ∧
      (grantUpdate method hash u fu).duressFailureCount = 0 := by
  unfold grantUpdate
  refine ⟨?_, ?_, ?_, rfl⟩ <;>
  · cases method <;> cases hash <;> dsimp only <;> split_ifs <;> rfl

/-! ## Answers -/

variable {α : Type} {P : Thrown → Prop}

/-- How far a login got, as its answer tells. -/
inductive Verdict where
  /-- before anything was verified -/
  | turnedAway
  | failed
  | passed
  deriving DecidableEq

/-- Only a failed verification is answered `invalid_credentials`. Past a successful one,
recording the session may still fail. -/
def verdict : Except Thrown Response → Verdict
  | .ok resp =>
    if resp.error = some "invalid_credentials" then .failed
    else if resp.rateLimited.isSome || resp.error = some "invalid_input" then .turnedAway
    else .passed
  | .error .lockTimeout => .passed
  | .error .noSuchDirectory => .passed
  | .error _ => .turnedAway

theorem verdict_error (e : Thrown) : verdict (.error e) ≠ .failed := by
  cases e <;> decide

/-- The answer of a login that nothing was verified for. -/
structure TurnedAway (r : Except Thrown Response) : Prop where
  verdict : verdict r = .turnedAway
  refused : ∀ resp, r = .ok resp → resp.ok ≠ some true

theorem TurnedAway.of_error {e : Thrown} (h : Server.verdict (.error e) = .turnedAway) :
    TurnedAway (.error e) := by
  refine ⟨h, fun resp hresp => ?_⟩
  cases hresp

theorem TurnedAway.of_response {resp : Response} (h : Server.verdict (.ok resp) = .turnedAway)
    (hok : resp.ok ≠ some true) : TurnedAway (.ok resp) := by
  refine ⟨h, fun resp hresp => ?_⟩
  cases hresp
  exact hok

/-- Recording a session fails without its directory, or without the lock. -/
def SessionError (e : Thrown) : Prop := e = .lockTimeout ∨ e = .noSuchDirectory

theorem appendSession_throws (uid : Uid) (jti : Jti) (all : List Session) :
    (appendSession uid jti all).Throws SessionError := by
  refine throws_bind (throws_section fun _ _ _ h => by cases h) fun _ => throws_section
    fun i s e h => ?_
  unfold Backend.saveSessions at h
  split at h
  · cases h
    exact .inr rfl
  · cases h

theorem lockDir_throws (uid : Uid) : (lockDir me uid).Throws SessionError := by
  refine throws_waiting fun i s e h => ?_
  split at h
  · cases h
  · cases h
    exact .inl rfl

theorem recordSession_throws (uid : Uid) (jti : Jti) :
    (recordSession me uid jti).Throws SessionError := by
  refine throws_bind (throws_section fun _ _ _ h => by cases h) fun unlocked => ?_
  cases unlocked with
  | some all => exact appendSession_throws uid jti all
  | none =>
    refine throws_bind (lockDir_throws uid) fun _ => ?_
    refine throws_finally (throws_bind ?_ fun all => appendSession_throws uid jti all) ?_
    · exact throws_section fun _ _ _ h => by cases h
    · exact throws_section fun _ _ _ h => by cases h

theorem onStore_throws (f : Nat → StateStore → α × StateStore) : (onStore f).Throws P :=
  throws_section fun _ _ _ h => by cases h

theorem delState_throws (key : StoreKey) : (delState key).Throws P :=
  onStore_throws _

theorem checkLockout_throws (key : StoreKey) : (checkLockout key).Throws P :=
  onStore_throws _

theorem withMfaPendingLock_throws (fn : Input → MfaPending → α × MfaPending) :
    (withMfaPendingLock fn).Throws P :=
  throws_section fun _ _ _ h => by cases h

section

variable (N : Node) (me : Pid) (u : User) (verified : Option Nat)

theorem grant_throws : (grant N me u verified).Throws SessionError := by
  refine throws_bind (throws_section fun _ _ _ h => by cases h) fun mfaCfg => ?_
  refine iteInduction (fun _ => throws_pure) fun _ => iteInduction (fun _ => ?_) fun _ => ?_
  · refine throws_bind (throws_section fun _ _ _ h => by cases h) fun token => ?_
    exact throws_bind (recordSession_throws u.id _) fun _ => throws_pure
  · refine throws_bind (throws_bind (onStore_throws _) fun _ => throws_pure) fun locked => ?_
    refine iteInduction (fun _ => throws_pure) fun _ => throws_bind (withMfaPendingLock_throws _)
      fun token => ?_
    refine iteInduction (fun _ => ?_) fun _ => throws_pure
    exact throws_bind (withMfaPendingLock_throws _) fun _ => throws_pure

theorem grant_yields : (grant N me u verified).Yields fun resp => verdict (.ok resp) = .passed := by
  refine yields_bind fun mfaCfg => iteInduction (fun _ => yields_pure rfl) fun _ => ?_
  refine iteInduction (fun _ => yields_bind fun token => yields_bind fun _ => yields_pure rfl)
    fun _ => ?_
  refine yields_bind fun locked => iteInduction (fun _ => yields_pure rfl) fun _ => ?_
  refine yields_bind fun token => iteInduction (fun _ => ?_) fun _ => yields_pure rfl
  exact yields_bind fun _ => yields_pure rfl

theorem grant_ends : (grant N me u verified).Ends V (fun r _ => verdict r = .passed) s := by
  refine (((grant_yields N me u verified).ends V s).and
    ((grant_throws N me u verified).ends V s)).mono ?_
  rintro (e | resp) s' ⟨hyields, hthrows⟩
  · rcases hthrows e rfl with rfl | rfl <;> rfl
  · exact hyields resp rfl

end

/-! ## The ways in which a login ends -/

variable {β : Type} {fn : Nat → User → Except Thrown (Update β)}
  {Q : Except Thrown (Option β) → Backend → Prop} {uid : Uid} {ret : β} {req : LoginRequest}
  {s₀ : Backend}

/-- `duressArmed` of the source. -/
def User.duressArmed (u : User) : Bool := u.duressEnforce.any (·.armed)

/-- The failure that wipes. -/
def DuressEnforce.limit (duress : DuressEnforce) : Nat :=
  max 1 (min 20 (if duress.maxAttempts = 0 then 3 else duress.maxAttempts))

theorem countDuressFailure_of_armed {duress : DuressEnforce} (h : u.duressEnforce = some duress)
    (harmed : duress.armed = true) :
    countDuressFailure u = if duress.limit ≤ u.duressFailureCount + 1 then .skip .wipe
      else .save { u with duressFailureCount := u.duressFailureCount + 1 }
        (.remaining (duress.limit - (u.duressFailureCount + 1))) := by
  unfold countDuressFailure DuressEnforce.limit
  rw [h]
  simp [harmed]

/-- How a login for the record `u` ends. -/
inductive LoginEnd (N : Node) (V : Input → Prop) (u : User) (password : Text) (s : Backend) :
    Except Thrown Response → Backend → Prop
  | turnedAway {r : Except Thrown Response} {s' : Backend} (hr : TurnedAway r)
    (hsame : SameUsers s s') : LoginEnd N V u password s r s'
  | failed {s' : Backend} (hrejected : Rejected N V u password) (harmed : u.duressArmed = false)
    (hsame : SameUsers s s') : LoginEnd N V u password s (.ok invalidCredentials) s'
  | counted {s' : Backend} {duress : DuressEnforce} (hrejected : Rejected N V u password)
    (hduress : u.duressEnforce = some duress) (harmed : duress.armed = true)
    (hlimit : u.duressFailureCount + 1 < duress.limit)
    (husers : s'.users =
      replaceUser u.id { u with duressFailureCount := u.duressFailureCount + 1 } s.users) :
    LoginEnd N V u password s (.ok { invalidCredentials with
      duressRemaining := some (duress.limit - (u.duressFailureCount + 1)) }) s'
  | wiped {s' : Backend} {duress : DuressEnforce} (hrejected : Rejected N V u password)
    (hduress : u.duressEnforce = some duress) (harmed : duress.armed = true)
    (hlimit : duress.limit ≤ u.duressFailureCount + 1)
    (husers : s'.users = s.users.eraseP (·.id = u.id)) (hdir : s'.dirs u.id = none) :
    LoginEnd N V u password s (.ok { invalidCredentials with duressWipe := true }) s'
  | passed {r : Except Thrown Response} {s' : Backend} {method : AuthMethod} {hash : Option Text}
    (haccepted : Accepted N V u password method) (hr : verdict r = .passed)
    (hlegacy : Legacy u → ∃ salt, hash = some (N.argon2Hash salt password))
    (hother : ¬ Legacy u → hash = none)
    (husers : s'.users = replaceUser u.id (grantUpdate method hash u u) s.users) :
    LoginEnd N V u password s r s'

theorem updateUserById_ends {u' : User} (hfind : s.findUserById uid = some u)
    (hfn : ∀ now, fn now u = .ok (.save u' ret))
    (hQ : Q (.ok (some ret)) { s with users := replaceUser uid u' s.users }) :
    (updateUserById uid fn).Ends V Q s := by
  refine ends_section.mpr fun i _ => ?_
  simpa only [hfind, hfn i.now] using hQ

theorem updateUserById_skip_ends (hfind : s.findUserById uid = some u)
    (hfn : ∀ now, fn now u = .ok (.skip ret)) (hQ : Q (.ok (some ret)) s) :
    (updateUserById uid fn).Ends V Q s := by
  refine ends_section.mpr fun i _ => ?_
  simpa only [hfind, hfn i.now] using hQ

theorem ends_bind_sameUsers {x : Handler α} {k : α → Handler β}
    {Q : Except Thrown β → Backend → Prop} (hx : x.Steps SameUsers)
    (hthrows : x.Throws fun _ => False) (hk : ∀ a s', SameUsers s s' → (k a).Ends V Q s') :
    (x >>= k).Ends V Q s := by
  refine ends_bind.mpr (((hx.ends refl trans V s).and (hthrows.ends V s)).mono ?_)
  rintro (e | a) s' ⟨hsame, herror⟩
  · exact (herror e rfl).elim
  · exact hk a s' hsame

theorem authMiddleware_throws (cookie : Option SessionToken) :
    (authMiddleware cookie).Throws P := by
  cases cookie with
  | none => exact throws_pure
  | some token =>
    refine throws_bind (throws_section fun _ _ _ h => by cases h) fun payload => ?_
    cases payload with
    | none => exact throws_pure
    | some payload =>
      refine throws_bind (throws_section fun _ _ _ h => by cases h) fun u => ?_
      cases u with
      | none => exact throws_pure
      | some u => exact throws_bind (throws_section fun _ _ _ h => by cases h) fun _ => throws_pure

theorem recordLoginFailure_throws (duressArmed : Bool) :
    (recordLoginFailure req duressArmed).Throws P := by
  refine throws_bind (throws_bind (onStore_throws _) fun _ => onStore_throws _) fun _ => ?_
  refine iteInduction (fun _ => ?_) fun _ => throws_pure
  exact throws_bind (onStore_throws _) fun _ => onStore_throws _

theorem checkLoginRate_throws (ip : String) : (checkLoginRate ip).Throws P :=
  throws_bind (onStore_throws _) fun _ => throws_pure

theorem checkAccountUnlessArmed_throws (duressArmed : Bool) (emailHash : String) :
    (checkAccountUnlessArmed duressArmed emailHash).Throws P :=
  iteInduction (fun _ => throws_pure) fun _ => checkLockout_throws _

theorem performServerWipe_ends {Q : Except Thrown Unit → Backend → Prop}
    (hQ : ∀ s', s'.users = s.users.eraseP (·.id = uid) → s'.dirs uid = none → Q (.ok ()) s') :
    (performServerWipe uid).Ends V Q s := by
  refine ends_bind.mpr (ends_section.mpr fun _ _ => ?_)
  dsimp only [Then, Fallible.modify_run]
  exact ends_section.mpr fun _ _ => hQ _ rfl (Function.update_self ..)

theorem loginFailed_ends (hsame₀ : SameUsers s₀ s) (hid : s.findUserById u.id = some u)
    (hrejected : Rejected N V u req.password) :
    (loginFailed req (some u) u.duressArmed).Ends V (LoginEnd N V u req.password s₀) s := by
  refine ends_bind_sameUsers (quiet.recordLoginFailure _ _)
    (recordLoginFailure_throws _) fun _ s₁ hsame₁ => ?_
  have hfind := (hsame₁.findUserById u.id).trans hid
  dsimp only
  cases harmed : u.duressArmed with
  | false => exact .failed hrejected harmed (hsame₀.trans hsame₁)
  | true =>
    obtain ⟨duress, hduress, harmed⟩ := (Option.any_eq_true _ _).mp harmed
    have hcount := countDuressFailure_of_armed hduress harmed
    rw [if_neg (by simp)]
    split at hcount
    · rename_i hlimit
      refine ends_bind.mpr (updateUserById_skip_ends hfind (fun _ => by rw [hcount]) ?_)
      refine ends_bind.mpr (performServerWipe_ends fun s₂ husers hdir => ?_)
      exact .wiped hrejected hduress harmed hlimit (by rw [husers, hsame₁, hsame₀]) hdir
    · rename_i hlimit
      refine ends_bind.mpr (updateUserById_ends hfind (fun _ => by rw [hcount]) ?_)
      exact .counted hrejected hduress harmed (Nat.lt_of_not_le hlimit)
        (by dsimp only; rw [hsame₁, hsame₀])

theorem loginAdmitted_ends (hsame₀ : SameUsers s₀ s) (hid : s.findUserById u.id = some u) :
    (loginAdmitted N me req (some u) u.duressArmed).Ends V (LoginEnd N V u req.password s₀) s := by
  refine ends_bind.mpr ((authenticate_ends req.password).mono ?_)
  rintro r s₁ ⟨hsame₁, hverified, hroom⟩
  rcases r with e | _ | method
  · refine .turnedAway (.of_error ?_) (hsame₀.trans hsame₁)
    rcases hverified with rfl | rfl <;> rfl
  · exact loginFailed_ends (hsame₀.trans hsame₁) ((hsame₁.findUserById u.id).trans hid) hverified
  · refine ends_bind.mpr ((rehash_ends req.password (hroom method rfl)).mono ?_)
    rintro _ s₂ ⟨hsame₂, hash, rfl, hlegacy, hother⟩
    refine ends_bind_sameUsers (quiet.delState (.account _)) (delState_throws _)
      fun _ s₃ hsame₃ => ?_
    refine ends_bind_sameUsers (quiet.delState (.fingerprint _)) (delState_throws _)
      fun _ s₄ hsame₄ => ?_
    have hsame := hsame₁.trans (hsame₂.trans (hsame₃.trans hsame₄))
    refine ends_bind.mpr (updateUserById_ends ((hsame.findUserById u.id).trans hid) (fun _ => rfl) ?_)
    refine ((grant_ends N me _ _).and ((aside.grant N me _ _).ends refl trans V _)).mono ?_
    rintro r s' ⟨hpassed, hsame'⟩
    refine .passed hverified hpassed hlegacy hother ?_
    rw [hsame']
    dsimp only
    rw [hsame, hsame₀]

theorem loginThrottled_ends (accountBlocked fpBlocked : Bool) :
    (loginThrottled N req accountBlocked fpBlocked).Ends V
      (fun r s' => TurnedAway r ∧ SameUsers s s') s := by
  refine Ends.and ?_ ((quiet.loginThrottled N req accountBlocked fpBlocked).ends refl trans V s)
  refine ends_bind.mpr (ends_tryCatch.mpr (ends_of_forall (fun r s' => ?_) _ _))
  have hanswer : TurnedAway (.ok { Response.refuse 200
      (if accountBlocked then "account_locked" else "too_many_requests") with
        rateLimited := some (if accountBlocked then "account" else
          if fpBlocked then "fingerprint" else "ip") }) := by
    refine .of_response ?_ (by simp [Response.refuse])
    cases accountBlocked <;> cases fpBlocked <;> rfl
  cases r <;> exact hanswer

theorem login_ends_of_admitted {Q : Except Thrown Response → Backend → Prop}
    (hturned : ∀ r s', TurnedAway r → SameUsers s s' → Q r s')
    (hadmitted : ∀ s', SameUsers s s' → (loginAdmitted N me req
      (s.findUserByEmailHash req.emailHash) ((s.findUserByEmailHash req.emailHash).bind
        (·.duressEnforce) |>.any (·.armed))).Ends V Q s') :
    (login N me req).Ends V Q s := by
  refine ends_bind_sameUsers (quiet.authMiddleware _) (authMiddleware_throws _)
    fun _ s₁ hsame₁ => ?_
  split
  · exact hturned _ _ (.of_response rfl (by decide)) hsame₁
  · refine ends_bind.mpr (ends_section.mpr fun _ _ => ?_)
    simp only [Fallible.gets_run, Then, hsame₁.findUserByEmailHash]
    refine ends_bind_sameUsers (quiet.checkLoginRate _) (checkLoginRate_throws _)
      fun ipOk s₂ hsame₂ => ?_
    refine ends_bind_sameUsers (quiet.checkLockout (.fingerprint _))
      (checkLockout_throws _) fun fpOk s₃ hsame₃ => ?_
    refine ends_bind_sameUsers (quiet.checkAccountUnlessArmed _ _)
      (checkAccountUnlessArmed_throws _ _) fun accountOk s₄ hsame₄ => ?_
    have hsame := hsame₁.trans (hsame₂.trans (hsame₃.trans hsame₄))
    split
    · exact hadmitted s₄ hsame
    · refine (loginThrottled_ends _ _).mono ?_
      rintro r s' ⟨hr, hsame'⟩
      exact hturned r s' hr (hsame.trans hsame')

/-- **A login** for a registered address. -/
theorem login_ends (hu : s.findUserByEmailHash req.emailHash = some u)
    (hid : s.findUserById u.id = some u) :
    (login N me req).Ends V (LoginEnd N V u req.password s) s := by
  refine login_ends_of_admitted (fun r s' hr hsame => .turnedAway hr hsame) fun s' hsame => ?_
  rw [hu]
  exact loginAdmitted_ends hsame ((hsame.findUserById u.id).trans hid)

/-- **A login** for an address that is not registered. -/
theorem login_unknown_ends (hu : s.findUserByEmailHash req.emailHash = none) :
    (login N me req).Ends V (fun r s' => SameUsers s s' ∧
      (TurnedAway r ∨ r = .ok invalidCredentials)) s := by
  refine login_ends_of_admitted (fun r s' hr hsame => ⟨hsame, .inl hr⟩) fun s₁ hsame₁ => ?_
  rw [hu]
  refine ends_bind.mpr ((authenticate_unknown_ends req.password).mono ?_)
  rintro r s₂ ⟨hsame₂, rfl | rfl⟩
  · refine ends_bind_sameUsers (quiet.recordLoginFailure _ _)
      (recordLoginFailure_throws _) fun _ s₃ hsame₃ => ?_
    exact ⟨hsame₁.trans (hsame₂.trans hsame₃), .inr rfl⟩
  · exact ⟨hsame₁.trans hsame₂, .inl (.of_error rfl)⟩

end PwdNow.Server
