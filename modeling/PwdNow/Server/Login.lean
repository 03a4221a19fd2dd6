import Mathlib.Data.List.DropRight
import PwdNow.Server.Mfa

/-!
# Server — logging in, and changing the password

`web/routes/auth/login.js` with the login throttles of `web/lib/rateLimiter.js`. A login goes
through the throttles, verifies the presented string against the password hash and then against the
recovery key, re-hashes a legacy password hash, and ends with a session, or with a partial token if
a second factor is enforced; `finish` redeems that. Audit events, the fingerprint log and outgoing
mail are not modelled.
-/

namespace PwdNow.Server

open Kit

/-! ## Throttles -/

def loginMaxPerWindow : Nat := 10

def loginWindowMs : Nat := 5 * 60 * 1000

def checkLoginRate (ip : String) : Handler Bool := do
  return (← incrExpire (.login ip) loginWindowMs) ≤ loginMaxPerWindow

/-- `ACCOUNT_LOCKOUT_SCHEDULE_MS`, and the same for fingerprints. -/
def lockoutScheduleMs : List Nat := [0, 0, 0, 0, 0, 30000, 60000, 120000, 300000, 600000]

/-- The body shared by `checkAccountRate` and `checkFingerprintRate`. -/
def checkLockout (key : StoreKey) : Handler Bool :=
  onStore fun now m =>
    match (m.live now key).map StoreEntry.value with
    | some (.lockout _ lockedUntil) => (!(lockedUntil ≠ 0 && now < lockedUntil), m)
    | _ => (true, m)

/-- The body shared by `recordAccountFailure` and `recordFingerprintFailure`. -/
def recordLockoutFailure (key : StoreKey) : Handler Unit := do
  let prev ← getState key
  let count := (prev.map (·.toNumber)).getD 0 + 1
  let lockMs := lockoutScheduleMs.getD (min count (lockoutScheduleMs.length - 1)) 0
  onStore fun now m =>
    let lockedUntil := if lockMs > 0 then now + lockMs else 0
    ((), m.set now key (.lockout count lockedUntil) (max lockMs (60 * 60 * 1000)))

def checkAccountRate (emailHash : String) : Handler Bool := checkLockout (.account emailHash)

def recordAccountFailure (emailHash : String) : Handler Unit :=
  recordLockoutFailure (.account emailHash)

def resetAccountFailures (emailHash : String) : Handler Unit := delState (.account emailHash)

def checkFingerprintRate (identity : String) : Handler Bool := checkLockout (.fingerprint identity)

def recordFingerprintFailure (identity : String) : Handler Unit :=
  recordLockoutFailure (.fingerprint identity)

def resetFingerprintFailures (identity : String) : Handler Unit := delState (.fingerprint identity)

/-! ## `POST /api/auth/login` -/

structure LoginRequest where
  cookie : Option SessionToken
  emailHash : String
  password : Text
  ip : String
  clientIdentity : String

inductive AuthMethod where
  | password
  | recoveryKey
  deriving DecidableEq

/-- How the presented string authenticates, if it does. -/
def authenticate (N : Node) (password : Text) (uSnapshot : Option User) :
    Handler (Option AuthMethod) := do
  let hash := (uSnapshot.map (·.passwordHash)).getD []
  let salt := (uSnapshot.map (·.salt)).getD []
  if ← verifyPassword N hash password salt then
    return some .password
  else
    match uSnapshot with
    | none => return none
    | some u =>
      let now ← compute fun i => .ok i.now
      let expired := u.recoveryKeyExpiresAt ≠ 0 && now > u.recoveryKeyExpiresAt
      if u.recoveryKeyHash = [] || expired then
        return none
      else if ← verifyPassword N u.recoveryKeyHash password u.recoveryKeySalt then
        return some .recoveryKey
      else
        return none

/-- `newPasswordHash`: a legacy hash is replaced, unless the gate is full. -/
def rehash (N : Node) (password : Text) (u : User) : Handler (Option Text) :=
  if u.passwordHash ≠ [] ∧ argon2idTag.isPrefixOf u.passwordHash = false then
    tryCatch (do return some (← hashPassword N password)) fun _ => return none
  else
    return none

inductive DuressOutcome where
  | unarmed
  | wipe
  | remaining (n : Nat)

/-- The callback that counts a failure while duress is armed. -/
def countDuressFailure (fu : User) : Update DuressOutcome :=
  match fu.duressEnforce with
  | none => .skip .unarmed
  | some duress =>
    if !duress.armed then .skip .unarmed
    else
      let max := max 1 (min 20 (if duress.maxAttempts = 0 then 3 else duress.maxAttempts))
      let next := fu.duressFailureCount + 1
      if next ≥ max then .skip .wipe
      else .save { fu with duressFailureCount := next } (.remaining (max - next))

/-- `performServerWipe`. -/
def performServerWipe (uid : Uid) : Handler Unit := do
  .section_ .vaultDir fun _ => .modify fun s => { s with dirs := Function.update s.dirs uid none }
  deleteUserById uid

def invalidCredentials : Response := .refuse 200 "invalid_credentials"

/-- `failOps`. -/
def recordLoginFailure (req : LoginRequest) (duressArmed : Bool) : Handler Unit := do
  recordFingerprintFailure req.clientIdentity
  if !duressArmed then recordAccountFailure req.emailHash

/-- The answer to a string that authenticates nobody. -/
def loginFailed (req : LoginRequest) (uSnapshot : Option User) (duressArmed : Bool) :
    Handler Response := do
  recordLoginFailure req duressArmed
  match uSnapshot with
  | none => return invalidCredentials
  | some u =>
    if !duressArmed then
      return invalidCredentials
    else
      match ← updateUserById u.id fun _ fu => .ok (countDuressFailure fu) with
      | some .wipe =>
        performServerWipe u.id
        return { invalidCredentials with duressWipe := true }
      | some (.remaining n) => return { invalidCredentials with duressRemaining := some n }
      | _ => return invalidCredentials

/-- The callback of a successful login. -/
def grantUpdate (method : AuthMethod) (newPasswordHash : Option Text) (uSnapshot fu : User) : User :=
  let fu := match method with
    | .recoveryKey =>
      { fu with recoveryKeyHash := [], recoveryKeySalt := [], recoveryKeyExpiresAt := 0 }
    | .password => fu
  let fu := match newPasswordHash with
    | some hash =>
      if fu.passwordHash = uSnapshot.passwordHash then { fu with passwordHash := hash, salt := [] }
      else fu
    | none => fu
  { fu with duressFailureCount := 0 }

def mfaMethods (enforce : MfaEnforce) : List MfaMethod :=
  (if enforce.totp then [.totp] else []) ++ (if enforce.email then [.email] else [])

def HardwareFactor.active (f : HardwareFactor) : Bool := f.enabled && f.credentials > 0

def MfaConfig.hasHardwareMfa (c : MfaConfig) : Bool :=
  c.webauthn.any (·.active) || c.passkey.any (·.active) || c.platform.any (·.active)

def readMfaConfig (uid : Uid) : Handler (Option MfaConfig) :=
  .section_ .vaultDir fun _ => .gets fun s => (s.dirs uid).bind (·.mfaConfig)

/-- `issueJwt`, the cookies and `recordSession`. -/
def openSession (N : Node) (me : Pid) (u : User) (verified : Option Nat) : Handler Response := do
  let token ← issueJwt N u.id verified
  recordSession me u.id token.jti
  return { Response.okay with cookie := some token, vaultSalt := u.cryptoSalt }

/-- The end of a login that has authenticated: a second factor, or a session. -/
def grant (N : Node) (me : Pid) (u : User) (verified : Option Nat) : Handler Response := do
  let methods := mfaMethods u.mfaEnforce
  let mfaCfg ← readMfaConfig u.id
  if mfaCfg.any (·.hasHardwareMfa) && methods.isEmpty then
    return .refuse 403 "hardware_mfa_requires_daemon"
  else if methods.isEmpty then
    openSession N me u verified
  else if ← isMfaLocked u.id then
    return .refuse 429 "mfa_locked"
  else
    let partialToken ← issueMfaToken N u.id verified
    if MfaMethod.email ∈ methods then
      let _ ← storeEmailOtp N partialToken
    return { Response.okay with partialToken := some partialToken, methods }

/-- The stretch of `login` after the throttles. -/
def loginAdmitted (N : Node) (me : Pid) (req : LoginRequest) (uSnapshot : Option User)
    (duressArmed : Bool) : Handler Response := do
  match uSnapshot, ← authenticate N req.password uSnapshot with
  | some u, some method =>
    let newPasswordHash ← rehash N req.password u
    resetAccountFailures req.emailHash
    resetFingerprintFailures req.clientIdentity
    let finalU ← updateUserById u.id fun _ fu =>
      let fu := grantUpdate method newPasswordHash u fu
      .ok (.save fu fu)
    match finalU with
    | none => return .refuse 401 "user_not_found"
    | some fu =>
      grant N me fu (if method = .password then some u.revocationEpoch else none)
  | _, _ => loginFailed req uSnapshot duressArmed

/-- The answer of a throttle, after a verification that only takes time. -/
def loginThrottled (N : Node) (req : LoginRequest) (accountBlocked fpBlocked : Bool) :
    Handler Response := do
  tryCatch (do let _ ← verifyPassword N N.dummyArgon2Hash req.password []) fun _ => return ()
  let reason := if accountBlocked then "account" else if fpBlocked then "fingerprint" else "ip"
  let errorCode := if accountBlocked then "account_locked" else "too_many_requests"
  return { Response.refuse 200 errorCode with rateLimited := some reason }

/-- While duress is armed the account is not locked, so that its failures are counted. -/
def checkAccountUnlessArmed (duressArmed : Bool) (emailHash : String) : Handler Bool :=
  if duressArmed then return true else checkAccountRate emailHash

def login (N : Node) (me : Pid) (req : LoginRequest) : Handler Response := do
  let _ ← authMiddleware req.cookie
  if req.password = [] ∨ req.password.length > 128 then
    return .error_ 400 "invalid_input"
  else
    let uSnapshot ← findUserByEmailHash req.emailHash
    let duressArmed := (uSnapshot.bind (·.duressEnforce)).any (·.armed)
    let ipOk ← checkLoginRate req.ip
    let fpOk ← checkFingerprintRate req.clientIdentity
    let accountOk ← checkAccountUnlessArmed duressArmed req.emailHash
    if ipOk && fpOk && accountOk then
      loginAdmitted N me req uSnapshot duressArmed
    else
      loginThrottled N req (!accountOk) (!fpOk)

/-! ## `POST /api/auth/login/finish` -/

/-- A field of a request body that should be a string. -/
inductive JsonText where
  | absent
  | text (t : Text)
  | other

/-- `a ?? b`. -/
def JsonText.orElse : JsonText → JsonText → JsonText
  | absent, b => b
  | a, _ => a

structure FinishRequest where
  cookie : Option SessionToken
  partialToken : JsonText
  totpCode : JsonText
  emailCode : JsonText

/-- The white space that `trim` removes. -/
def isSpace (c : Char) : Bool :=
  c.toNat ∈ [9, 10, 11, 12, 13, 32, 160, 5760, 8232, 8233, 8239, 8287, 12288, 65279] ||
    (8192 ≤ c.toNat && c.toNat ≤ 8202)

/-- `text.trim().slice(0, 8)`. -/
def trimmed (t : Text) : Text := ((t.dropWhile isSpace).rdropWhile isSpace).take 8

def mfaFailed (uid : Uid) : Handler (Option Response) := do
  recordMfaFailure uid
  return some (.refuse 401 "invalid_mfa_code")

/-- The chain of `finish` that asks for a code: the answer if it turns the request down. -/
def checkSecondFactor (N : Node) (u : User) (partialToken : Text) (totpCode emailCode : JsonText) :
    Handler (Option Response) := do
  if u.mfaEnforce.totp ∧ u.mfaTotpSecret ≠ [] then
    match totpCode.orElse emailCode with
    | .text code =>
      if ← verifyTotpCode N u.mfaTotpSecret code then return none else mfaFailed u.id
    | _ => return some (.refuse 401 "mfa_required")
  else if u.mfaEnforce.email then
    match emailCode with
    | .text code =>
      match ← consumeEmailOtp N partialToken with
      | none => mfaFailed u.id
      | some stored =>
        let supplied := trimmed code
        if supplied.length ≠ stored.length then mfaFailed u.id
        -- `timingSafeEqual` throws on buffers of different lengths
        else if (N.utf8 supplied).length ≠ (N.utf8 stored).length then throw .rangeError
        else if supplied = stored then return none
        else mfaFailed u.id
    | _ => return some (.refuse 401 "mfa_required")
  -- the chain of the source has no `else`
  else return none

/-- The stretch of `finish` from the redeemed token on. -/
def finishRedeemed (N : Node) (me : Pid) (req : FinishRequest) (partialToken : Text)
    (pending : PendingToken) : Handler Response := do
  match ← findUserById pending.userId with
  | none => return .refuse 401 "user_not_found"
  | some u =>
    if ← isMfaLocked u.id then
      return .refuse 429 "mfa_locked"
    else
      match ← checkSecondFactor N u partialToken req.totpCode req.emailCode with
      | some refusal => return refusal
      | none =>
        clearMfaFailure u.id
        openSession N me u pending.verified

def finish (N : Node) (me : Pid) (req : FinishRequest) : Handler Response := do
  let _ ← authMiddleware req.cookie
  match req.partialToken with
  | .text partialToken =>
    match ← consumeMfaToken N partialToken with
    | none => return .refuse 401 "invalid_or_expired_mfa_token"
    | some pending => finishRedeemed N me req partialToken pending
  | _ => return .error_ 400 "invalid_input"

/-! ## `POST /api/auth/password` -/

/-- The callback of a password change; it returns the epoch it writes. -/
def passwordUpdate (newHash : Text) (uSnap : User) (now : Nat) (u : User) :
    Except Thrown (Update Nat) :=
  if u.passwordHash ≠ uSnap.passwordHash then .error .passwordChangedConcurrently
  else
    let epoch := u.revocationEpoch + 1
    let u' := { u with salt := [], passwordHash := newHash, passwordChangedAt := now }
    .ok (.save { u' with revocationEpoch := epoch } epoch)

/-- `saveSessions(uid, [])`, noting the change that it serves. -/
def emptySessions (uid : Uid) (epoch : Nat) : Handler Unit :=
  .section_ (.saveSessions uid none) fun _ s =>
    let r := s.saveSessions uid []
    (r.1, match r.1 with
      | .ok _ => { r.2 with cleared := Function.update r.2.cleared uid (max (r.2.cleared uid) epoch) }
      | .error _ => r.2)

/-- How the update of the record went. -/
inductive PasswordOutcome where
  | changed (epoch : Nat)
  | noUser
  | changedConcurrently

def storePassword (uid : Uid) (newHash : Text) (uSnap : User) : Handler PasswordOutcome :=
  tryCatch (do
      match ← updateUserById uid (passwordUpdate newHash uSnap) with
      | some epoch => return .changed epoch
      | none => return .noUser)
    fun e => if e = .passwordChangedConcurrently then return .changedConcurrently else throw e

/-- The end of a password change, from the written record on. -/
def revokeSessions (me : Pid) (uid : Uid) (epoch : Nat) : Handler Response := do
  withUserDirLock me uid (emptySessions uid epoch)
  return { Response.okay with changed := some (uid, epoch) }

/-- The handler, from the parsed body on. -/
def replacePassword (N : Node) (me : Pid) (uid : Uid) (old new : Text) : Handler Response := do
  if new.length < 12 then
    return .error_ 400 "weak_password"
  else
    match ← findUserById uid with
    | none => return .error_ 401 "user_not_found"
    | some uSnap =>
      if ← verifyPassword N uSnap.passwordHash old uSnap.salt then
        let newHash ← hashPassword N new
        match ← storePassword uid newHash uSnap with
        | .changedConcurrently => return .error_ 409 "password_changed"
        | .noUser => return .error_ 401 "user_not_found"
        | .changed epoch => revokeSessions me uid epoch
      else
        return .error_ 401 "invalid_credentials"

def changePassword (N : Node) (me : Pid) (caller : Caller) (oldPassword newPassword : JsonText) :
    Handler Response :=
  authenticated caller fun user =>
    match oldPassword, newPassword with
    | .text old, .text new => replacePassword N me user.id old new
    | _, _ => return .error_ 400 "invalid_input"

end PwdNow.Server
