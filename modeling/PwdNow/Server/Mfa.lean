import PwdNow.Server.Session

/-!
# Server — second factors

The partial-login tokens, e-mail codes, TOTP check and lockout of `web/routes/auth/utils.js`, and
`PUT /api/vault/mfa` of `web/routes/vaultRoutes.js`, the only writer of `mfaEnforce` and
`mfaTotpSecret`, which it writes independently.
-/

namespace PwdNow.Server

open Kit Function

/-! ## Partial logins -/

def partialMfaTtlMs : Nat := 5 * 60 * 1000

/-- The entries that have not expired. -/
def MfaPending.purge (p : MfaPending) (now : Nat) : MfaPending where
  tokens k := (p.tokens k).filter fun e => now ≤ e.expiresAt
  emailOtps k := (p.emailOtps k).filter fun e => now ≤ e.expiresAt

def withMfaPendingLock {α : Type} (fn : Input → MfaPending → α × MfaPending) : Handler α :=
  .section_ .mfaPending fun i s =>
    let r := fn i (s.mfaPending.purge i.now)
    (.ok r.1, { s with mfaPending := r.2 })

def tokenKey (N : Node) (token : Text) : Text := N.sha256 (N.bufferFromHex token)

/-- Unlike the token's own key, this one hashes the text as it stands. -/
def otpKey (N : Node) (partialToken : Text) : Text := N.sha256 (N.utf8 partialToken)

def issueMfaToken (N : Node) (userId : Uid) (verified : Option Nat) : Handler Text :=
  withMfaPendingLock fun i data =>
    let token := N.toHex i.random
    let entry : PendingToken := ⟨userId, i.now + partialMfaTtlMs, verified⟩
    (token, { data with tokens := update data.tokens (tokenKey N token) (some entry) })

def consumeMfaToken (N : Node) (token : Text) : Handler (Option PendingToken) :=
  withMfaPendingLock fun _ data =>
    (data.tokens (tokenKey N token),
      { data with tokens := update data.tokens (tokenKey N token) none })

/-- `randomInt(0, 1_000_000).toString().padStart(6, '0')`. -/
def otpCode (draw : Nat) : Text := (Nat.toDigits 10 (draw % 1000000)).leftpad 6 '0'

def storeEmailOtp (N : Node) (partialToken : Text) : Handler Text :=
  withMfaPendingLock fun i data =>
    let code := otpCode i.randomInt
    let entry : PendingOtp := ⟨code, i.now + partialMfaTtlMs⟩
    (code, { data with emailOtps := update data.emailOtps (otpKey N partialToken) (some entry) })

def consumeEmailOtp (N : Node) (partialToken : Text) : Handler (Option Text) :=
  withMfaPendingLock fun _ data =>
    ((data.emailOtps (otpKey N partialToken)).map (·.code),
      { data with emailOtps := update data.emailOtps (otpKey N partialToken) none })

/-! ## Lockout -/

def mfaMaxAttempts : Nat := 5

def mfaLockoutMs : Nat := 10 * 60 * 1000

def mfaWindowMs : Nat := 15 * 60 * 1000

def isMfaLocked (uid : Uid) : Handler Bool := do
  return (← getState (.mfaLock uid)).isSome

def recordMfaFailure (uid : Uid) : Handler Unit := do
  let count ← incrExpire (.mfaFail uid) mfaWindowMs
  if count ≥ mfaMaxAttempts then
    setState (.mfaLock uid) (.count 1) mfaLockoutMs
    delState (.mfaFail uid)

def clearMfaFailure (uid : Uid) : Handler Unit := do
  delState (.mfaFail uid)
  delState (.mfaLock uid)

/-! ## TOTP -/

/-- `/^\d{6,8}$/`. -/
def isTotpFormat (code : Text) : Bool :=
  code.all Char.isDigit && 6 ≤ code.length && code.length ≤ 8

def totpDrifts : List Int := [-30000, 0, 30000]

/-- One round of the loop of `verifyTotpCode`: `none` if the code is not that of this period,
and otherwise whether the period was still unused. -/
def totpRound (N : Node) (secret code : Text) (ts : Int) (s : Backend) :
    Except Thrown (Option Bool) × Backend :=
  match N.totpGenerate secret ts with
  | none => (.error .badTotpSecret, s)
  | some otp =>
    let secretHash := N.sha256 (N.utf8 secret)
    let periods := s.usedTotpPeriods secretHash
    if otp = code then
      if ts / 30000 ∈ periods then (.ok (some false), s)
      else
        (.ok (some true), { s with
            usedTotpPeriods := update s.usedTotpPeriods secretHash (ts / 30000 :: periods) })
    else (.ok none, s)

def totpRounds (N : Node) (secret code : Text) (now : Nat) : List Int → Handler Bool
  | [] => return false
  | drift :: rest => do
    match ← (.section_ .crypto fun _ => totpRound N secret code (now + drift) : Handler _) with
    | some fresh => return fresh
    | none => totpRounds N secret code now rest

def verifyTotpCode (N : Node) (secret code : Text) : Handler Bool := do
  if !isTotpFormat code then return false
  let now ← compute fun i => .ok i.now
  totpRounds N secret code now totpDrifts

/-! ## `PUT /api/vault/mfa` -/

/-- A field of the request's `enforce` object: `true`, `false`, or anything else. -/
inductive JsonFlag where
  | true
  | false
  | other
  deriving DecidableEq

structure EnforceBody where
  totp : JsonFlag
  email : JsonFlag

structure MfaBody where
  /-- `typeof req.body.data === 'string'` -/
  dataIsString : Bool
  config : MfaConfig
  /-- `none` unless it is an object. -/
  enforce : Option EnforceBody
  /-- `none` unless it is a string. -/
  serverSecret : Option Text

/-- The callback of `PUT /api/vault/mfa`. -/
def applyMfaBody (body : MfaBody) (u : User) : User :=
  let u := match body.enforce with
    | some enforce => { u with mfaEnforce := ⟨enforce.totp = .true, enforce.email = .true⟩ }
    | none => u
  if body.serverSecret.getD [] ≠ [] then { u with mfaTotpSecret := body.serverSecret.getD [] }
  else if body.enforce.map (·.totp) = some .false then { u with mfaTotpSecret := [] }
  else u

def writeMfaConfig (uid : Uid) (config : MfaConfig) : Handler Unit :=
  .section_ .vaultDir fun _ => .modify fun s =>
    let d := (s.dirs uid).getD ⟨[], none⟩
    { s with dirs := update s.dirs uid (some { d with mfaConfig := some config }) }

def putMfaRoute (body : MfaBody) (user : Auth) : Handler Response := do
  if !body.dataIsString then
    return .refuse 400 "invalid_input"
  else
    writeMfaConfig user.id body.config
    let _ ← updateUserById user.id fun _ u => .ok (.save (applyMfaBody body u) ())
    return .okay

def putMfa (caller : Caller) (body : MfaBody) : Handler Response :=
  authenticated caller (putMfaRoute body)

end PwdNow.Server
