import PwdNow.Daemon.State

/-!
# Daemon — the second factors

`verify_code` and `verify_backup_code` of `daemon/src/vault/totp_db.rs`, with `verify` of
`daemon/src/auth/totp.rs`. What the crates answer is a parameter, `Factors`. A wrong code is
`Ok(false)`; whatever keeps a code from being tested is an `Err`.
-/

namespace PwdNow.Daemon

open Kit

structure BackupCode where
  hash : String
  usedAt : Option Int
  deriving DecidableEq

structure Factors where
  /-- `Secret::Encoded(text.to_uppercase()).to_bytes()` -/
  secretBytes : String → Except String Bytes
  /-- `TOTP::new` with SHA-512, the digits, one step of skew and thirty seconds a step -/
  newTotp : Nat → Bytes → Except String Unit
  /-- `check_current`: digits, secret, time, code -/
  checkCurrent : Nat → Bytes → Nat → String → Except String Bool
  parseBackupCodes : Bytes → Except String (List BackupCode)
  backupCodesJson : List BackupCode → Bytes
  /-- `PasswordHash::new` -/
  parseHash : String → Except String Unit
  /-- `argon2.verify_password(..).is_ok()` -/
  verifyHash : Bytes → String → Bool

variable (P : Primitives) (F : Factors)

/-- `map_err(|e| ..)?` on the answer of a library. -/
def orErr {α : Type} (r : Except String α) (e : String → VaultError) : Result α :=
  match r with
  | .ok a => .ok a
  | .error msg => fail (e msg)

namespace Totp

def verify (now : Nat) (secretB32 code : String) (digits : Nat) : Result Bool := do
  let bytes ← orErr (F.secretBytes secretB32) fun e => .auth ("invalid TOTP secret: " ++ e)
  orErr (F.newTotp digits bytes) fun e => .auth ("TOTP init failed: " ++ e)
  orErr (F.checkCurrent digits bytes now code) fun e => .auth ("TOTP check failed: " ++ e)

end Totp

namespace TotpDb

/-- The digits of a code, `i64 as usize`. Every algorithm that may be stored is taken for
SHA-512. -/
def getParams (db : Database) : Nat :=
  match db.vaultMeta "totp_digits" with
  | some (.integer v) => (v % 2 ^ 64).toNat
  | _ => 8

def verifyCode (now : Nat) (db : Database) (vmk : Block 32) (code : String) : Result Bool := do
  let config ← load P db vmk
  Totp.verify F now config.secretB32 code (getParams db)

/-- The loop over the records: the first unused one whose hash fits is marked as used. -/
def spendBackupCode (now : Int) (code : String) :
    List BackupCode → Result (Option (List BackupCode))
  | [] => .ok none
  | record :: records =>
    if record.usedAt.isSome then do
      let rest ← spendBackupCode now code records
      pure (rest.map (record :: ·))
    else do
      orErr (F.parseHash record.hash) fun e => .crypto ("parse backup hash: " ++ e)
      if F.verifyHash (utf8 code) record.hash then
        pure (some ({ record with usedAt := some now } :: records))
      else do
        let rest ← spendBackupCode now code records
        pure (rest.map (record :: ·))

def backupAad : Bytes := utf8 "totp-backup-aad-v1"

/-- Whether a code was spent, and the table afterwards. -/
def verifyBackupCode (env : Env) (db : Database) (vmk : Block 32) (code : String) :
    Result (Bool × Database) := do
  let row ← okOr db.otpConfig.head? (.auth "no TOTP config stored")
  let json ← openSealed P vmk row.backupCodes row.backupNonce backupAad
    (.crypto "invalid backup nonce length")
  let records ← orErr (F.parseBackupCodes json) fun e => .crypto ("backup codes deserialize: " ++ e)
  match (← spendBackupCode F env.nowSecs code records) with
  | none => pure (false, db)
  | some records => do
    outcome (env.io .backupCodes)
    let ct := P.aesGcm.encrypt vmk env.kekNonce backupAad (F.backupCodesJson records)
    pure (true, { db with
      otpConfig := db.otpConfig.map fun row =>
        { row with backupCodes := ct, backupNonce := env.kekNonce.bytes } })

end TotpDb

end PwdNow.Daemon
