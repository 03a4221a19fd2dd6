import PwdNow.Daemon.ChangePassword
import PwdNow.Daemon.QuickUnlock
import PwdNow.Daemon.Recovery
import PwdNow.Daemon.Totp

/-!
# Daemon — the requests that present a secret

The handlers of `daemon/src/ipc/grpc_server.rs` that lead to the failure counters: `unlock` with its
TOTP code, `unlock_with_backup_code`, the other unlocks, `verify_master_password` and
`change_password`. A status is identified with the error it carries, and the wipe ticket in the
answers is left out.

A request checks the lockouts, derives a key, which takes its time, and then comes to its outcome:
`checks` and `outcome`, one after the other, are each handler (`handle_unlock` and so on).
-/

namespace PwdNow.Daemon

open Kit Kit.Fallible

inductive AuthRequest where
  | unlock (password : Bytes) (yk : Option (Block 20)) (totpCode : Option String)
  | backupCode (password : Bytes) (yk : Option (Block 20)) (code : String)
  | passkey (a : Assertion)
  | quickUnlock (a : Assertion) (dbk : Bytes)
  | recoveryKey (recoveryKey : Bytes)
  | pqc
  | verifyMasterPassword (password : Bytes)
  | changePassword (old new : Bytes) (yk : Option (Block 20))

/-- The open connection: the key of the pages, and the rows. -/
def DaemonState.connection (s : DaemonState) : Option (Block 32 × Database) :=
  match s.dbOpen, s.disk.vault with
  | true, some (.pages key db) => some (key, db)
  | _, _ => none

variable (P : Primitives) (J : Serde) (W : Webauthn) (F : Factors)

/-- `audit_log`, as the `i`-th row that the request writes. -/
def logEvent (env : Env) (i : Nat) (action : String) (session : Session) : Call Unit :=
  modify fun s =>
    match s.vmk, s.connection with
    | some vmk, some (key, db) =>
      s.setVault (.pages key (logRows P env vmk i [(action, some session.userId)] db))
    | _, _ => s

/-- An unlock whose success is logged, after the events that it flushes. -/
def logged (env : Env) (action : String) (x : Call Session) : Call Session := do
  let flushed ← gets fun s => s.pendingAudit.length
  let session ← x
  logEvent P env flushed action session
  pure session

/-! ## Handlers -/

/-- The TOTP code, if the vault asks for one. -/
def checkTotp (env : Env) (totpCode : Option String) : Call Bool := reads fun s => do
  let vmk ← okOr s.vmk (.auth "locked")
  match s.connection with
  | none => .ok true
  | some (_, db) =>
    if TotpDb.isActive db then
      if totpCode.getD "" = "" then fail (.auth "TOTP code required")
      else TotpDb.verifyCode P F env.nowSecs db vmk (totpCode.getD "")
    else .ok true

def rejectTotp (env : Env) (uid : UInt32) (e : VaultError) : Call Session := do
  recordTotpFailure env uid
  modify lockKeepLockout
  throw (.err e)

def settleTotp (env : Env) (uid : UInt32) (session : Session) :
    Except VaultError Bool → Call Session
  | .ok true => do
    let flushed ← gets fun s => s.pendingAudit.length
    completeUnlock P env uid
    logEvent P env flushed "UNLOCK" session
    pure session
  | .ok false => rejectTotp env uid (.auth "invalid TOTP code")
  | .error e => rejectTotp env uid e

/-- What `GrpcServer::unlock` does once the password has been accepted. -/
def totpFactor (env : Env) (uid : UInt32) (totpCode : Option String) (session : Session) :
    Call Session := do
  let res ← attemptErr (checkTotp P F env totpCode)
  settleTotp P env uid session res

/-- `GrpcServer::unlock`. -/
def handleUnlock (env : Env) (password : Bytes) (yk : Option (Block 20))
    (totpCode : Option String) (uid : UInt32) : Call Session := do
  let session ← unlock P J env password yk uid
  totpFactor P F env uid totpCode session

def checkBackupCode (env : Env) (code : String) : Call Bool := do
  let vmk ← reads fun s => okOr s.vmk (.auth "locked")
  let conn ← reads fun s => okOr s.connection (.auth "vault locked after unlock (internal)")
  require (TotpDb.isActive conn.2) (.auth "TOTP not configured; use normal Unlock")
  let res ← lift (TotpDb.verifyBackupCode P F env conn.2 vmk code)
  modify fun s => s.setVault (.pages conn.1 res.2)
  pure res.1

/-- Unlike a failed TOTP code, a failed backup code locks with `lock()`, which clears both
trackers, and is counted in one of them only. -/
def rejectBackupCode (env : Env) (uid : UInt32) (e : VaultError) : Call Session := do
  modify lock
  recordFailedUnlock env uid
  throw (.err e)

def settleBackupCode (env : Env) (uid : UInt32) (session : Session) :
    Except VaultError Bool → Call Session
  | .ok true => do
    let flushed ← gets fun s => s.pendingAudit.length
    resetUnlockCounter P env uid
    logEvent P env flushed "UNLOCK_BACKUP_CODE" session
    pure session
  | .ok false => rejectBackupCode env uid (.auth "invalid or already-used backup code")
  | .error e => rejectBackupCode env uid e

def backupFactor (env : Env) (uid : UInt32) (code : String) (session : Session) :
    Call Session := do
  let res ← attemptErr (checkBackupCode P F env code)
  settleBackupCode P env uid session res

/-- `GrpcServer::unlock_with_backup_code`; a code that is too long is not counted. -/
def handleBackupCode (env : Env) (password : Bytes) (yk : Option (Block 20)) (code : String)
    (uid : UInt32) : Call Session := do
  require ((utf8 code).length ≤ 64) (.auth "backup code too long")
  let session ← unlock P J env password yk uid
  backupFactor P F env uid code session

/-- `GrpcServer::unlock_with_passkey`. -/
def handlePasskey (env : Env) (a : Assertion) (uid : UInt32) : Call Session :=
  logged P env "UNLOCK_PASSKEY" (unlockWithPasskey P J W env a uid)

/-- `GrpcServer::quick_unlock`. -/
def handleQuickUnlock (env : Env) (a : Assertion) (dbk : Bytes) (uid : UInt32) : Call Session :=
  logged P env "UNLOCK_QUICK" (quickUnlock P J W env a dbk uid)

/-- A failure is counted, a success is not heard of. -/
def settlePassword (env : Env) (uid : UInt32) (res : Except VaultError Unit) : Call Unit :=
  match res with
  | .ok () => pure ()
  | .error e => do
    recordFailedUnlock env uid
    throw (.err e)

def verifyMasterPassword (env : Env) (password : Bytes) (uid : UInt32) : Call Unit := do
  checkUnlockLockout env uid
  let res ← attemptErr (verifyMasterPasswordInner P env password)
  settlePassword env uid res

/-- The vault that the recovery key opens, in memory; returns its id. -/
def enterRecovered (env : Env) (recoveryKey : Bytes) : Call String := do
  let header ← readHeader env .request
  let entry ← lift (okOr header.recoveryKeyCopy (.auth "No recovery key enrolled"))
  let vmkPlain ← lift (openRecoveryCopy P (env.io (.kdfMemory .request)) entry recoveryKey)
  let vmk ← openVaultWith P env vmkPlain
  env.at .lockedKey
  modify fun s => s.entered vmk header.vaultUuid none
  pure header.vaultUuid

/-- The rest of `unlock_with_recovery_key`, after the check. -/
def recoverVault (env : Env) (recoveryKey : Bytes) (uid : UInt32) : Call Session := do
  let uuid ← enterRecovered P env recoveryKey
  resetUnlockCounter P env uid
  createSession env uuid uid

/-- The end of the handler of a recovery key. -/
def settleRecovery (env : Env) (uid : UInt32) (res : Except VaultError Session) : Call Session :=
  match res with
  | .ok session => pure session
  | .error e => do
    recordFailedUnlock env uid
    throw (.err e)

/-! ## The two parts of a request -/

/-- Everything up to the key derivation. Only the recovery key's handler goes on after a
refusal, to record it: that refusal is handed on. -/
def checks (env : Env) (uid : UInt32) : AuthRequest → Call (Option VaultError)
  | .unlock password _ _ => do
    let _ ← admitUnlock env password uid
    pure none
  | .backupCode password _ code => do
    require ((utf8 code).length ≤ 64) (.auth "backup code too long")
    let _ ← admitUnlock env password uid
    pure none
  | .recoveryKey _ => do
    match (← attemptErr (checkUnlockLockout env uid)) with
    | .ok () => pure none
    | .error e => pure (some e)
  | _ => do
    checkUnlockLockout env uid
    pure none

/-- The password of an unlock, and whether there is a vault to open with it. -/
def tryPassword (env : Env) (password : Bytes) (yk : Option (Block 20)) (uid : UInt32) :
    Call Session := do
  let present ← gets fun s => s.disk.vault.isSome
  let res ← attemptErr <|
    if present then unlockExisting P J env password yk uid
    else createAndUnlock P J env password yk uid
  settleUnlock env uid res

/-- The recovery key, unless the request has been refused. -/
def tryRecoveryKey (env : Env) (uid : UInt32) (refusal : Option VaultError) (recoveryKey : Bytes) :
    Call (Except VaultError Session) :=
  match refusal with
  | some e => pure (.error e)
  | none => attemptErr (recoverVault P env recoveryKey uid)

/-- Everything from the key derivation on. -/
def outcomeOf (env : Env) (uid : UInt32) (refusal : Option VaultError) : AuthRequest → Call Unit
  | .unlock password yk totpCode => do
    let session ← tryPassword P J env password yk uid
    let _ ← totpFactor P F env uid totpCode session
  | .backupCode password yk code => do
    let session ← tryPassword P J env password yk uid
    let _ ← backupFactor P F env uid code session
  | .passkey a => do
    let _ ← logged P env "UNLOCK_PASSKEY" do
      let res ← attemptErr (unlockWithPasskeyInner P J W env a uid)
      settleCounted P env uid res
  | .quickUnlock a dbk => do
    let _ ← logged P env "UNLOCK_QUICK" do
      let res ← attemptErr (quickUnlockInner P J W env a dbk uid)
      settleCounted P env uid res
  | .recoveryKey recoveryKey => do
    let _ ← logged P env "UNLOCK_RECOVERY" do
      let res ← tryRecoveryKey P env uid refusal recoveryKey
      settleRecovery env uid res
  | .pqc => do
    let _ ← settleCounted P env uid (.error (.auth "PQC unlock not yet implemented"))
  | .verifyMasterPassword password => do
    let res ← attemptErr (verifyMasterPasswordInner P env password)
    settlePassword env uid res
  | .changePassword old new yk => do
    let res ← attemptErr (changePasswordInner P J env old new yk)
    settlePassword env uid res

/-- A request served without another one in between. -/
def handle (env : Env) (uid : UInt32) (request : AuthRequest) : Call Unit := do
  let refusal ← checks env uid request
  outcomeOf P J W F env uid refusal request

section

variable {P J W F} {env : Env} {uid : UInt32} {password : Bytes} {yk : Option (Block 20)}

theorem unlock_eq_tryPassword : unlock P J env password yk uid =
    admitUnlock env password uid >>= fun _ => tryPassword P J env password yk uid := by
  funext s
  rw [unlock, bind_run, bind_run]
  cases hrun : admitUnlock env password uid s with
  | mk r t =>
    cases r with
    | error e => rfl
    | ok present =>
      obtain ⟨rfl, -⟩ := admitUnlock_ok hrun
      have hdisk : t.disk = s.disk :=
        (admitUnlock_keeps (f := fun s : DaemonState => s.disk) (fun _ _ => rfl)
          fun _ _ => rfl).eq hrun
      show _ = (tryPassword P J env password yk uid) t
      rw [tryPassword, bind_run_ok (gets_run _ t), hdisk]

theorem handleUnlock_eq {s : DaemonState} {header : VaultHeader} {vmk : Block 32}
    (h : OpensHeader P J env password yk s header vmk) (totpCode : Option String) :
    handleUnlock P J F env password yk totpCode uid s = ((admitUnlock env password uid >>= fun _ =>
        attemptErr (enterVault P J env password yk uid header vmk) >>= settleUnlock env uid) >>=
          totpFactor P F env uid totpCode) s := by
  rw [handleUnlock, bind_run, h.unlock, ← bind_run]

theorem handle_unlock (totpCode : Option String) :
    handle P J W F env uid (.unlock password yk totpCode) =
      handleUnlock P J F env password yk totpCode uid >>= fun _ => pure () := by
  simp only [handle, checks, outcomeOf, handleUnlock, unlock_eq_tryPassword, bind_assoc, pure_bind]

theorem handle_backupCode (code : String) :
    handle P J W F env uid (.backupCode password yk code) =
      handleBackupCode P J F env password yk code uid >>= fun _ => pure () := by
  simp only [handle, checks, outcomeOf, handleBackupCode, unlock_eq_tryPassword, bind_assoc,
    pure_bind]

theorem logged_check (action : String) (x : Call Session) :
    logged P env action (checkUnlockLockout env uid >>= fun _ => x) =
      checkUnlockLockout env uid >>= fun _ => logged P env action x := by
  simp only [logged, bind_assoc]
  exact gets_bind_comm (checkUnlockLockout_keeps fun _ _ => rfl) _

theorem handle_passkey (a : Assertion) : handle P J W F env uid (.passkey a) =
    handlePasskey P J W env a uid >>= fun _ => pure () := by
  simp only [handle, checks, outcomeOf, handlePasskey, unlockWithPasskey, logged_check, bind_assoc,
    pure_bind]

theorem handle_quickUnlock (a : Assertion) (dbk : Bytes) :
    handle P J W F env uid (.quickUnlock a dbk) =
      handleQuickUnlock P J W env a dbk uid >>= fun _ => pure () := by
  simp only [handle, checks, outcomeOf, handleQuickUnlock, quickUnlock, logged_check, bind_assoc,
    pure_bind]

theorem handle_changePassword (old new : Bytes) :
    handle P J W F env uid (.changePassword old new yk) =
      changePassword P J env old new yk uid := by
  simp only [handle, checks, outcomeOf, changePassword, bind_assoc, pure_bind]
  rfl

theorem handle_verifyMasterPassword :
    handle P J W F env uid (.verifyMasterPassword password) =
      verifyMasterPassword P env password uid := by
  simp only [handle, checks, outcomeOf, verifyMasterPassword, bind_assoc, pure_bind]

theorem unlockWithRecoveryKey_eq (recoveryKey : Bytes) :
    unlockWithRecoveryKey P env recoveryKey uid =
      checkUnlockLockout env uid >>= fun _ => recoverVault P env recoveryKey uid := by
  simp only [recoverVault, enterRecovered, bind_assoc, pure_bind]
  rfl

theorem handleRecoveryKey_eq (recoveryKey : Bytes) :
    handleRecoveryKey P env recoveryKey uid =
      checks env uid (.recoveryKey recoveryKey) >>= fun refusal =>
        tryRecoveryKey P env uid refusal recoveryKey >>= settleRecovery env uid := by
  have hsplit : handleRecoveryKey P env recoveryKey uid =
      attemptErr (unlockWithRecoveryKey P env recoveryKey uid) >>= settleRecovery env uid := rfl
  rw [hsplit, unlockWithRecoveryKey_eq, attemptErr_bind, checks, bind_assoc, bind_assoc]
  congr 1
  funext r
  cases r <;> rfl

theorem handle_recoveryKey (recoveryKey : Bytes) :
    handle P J W F env uid (.recoveryKey recoveryKey) =
      logged P env "UNLOCK_RECOVERY" (handleRecoveryKey P env recoveryKey uid) >>=
        fun _ => pure () := by
  have hchecks : Keeps (fun s : DaemonState => s.pendingAudit.length)
      (checks env uid (.recoveryKey recoveryKey)) := by
    refine (attemptErr_keeps (checkUnlockLockout_keeps fun _ _ => rfl)).bind fun r => ?_
    cases r <;> exact .pure _
  simp only [handle, outcomeOf, handleRecoveryKey_eq, logged, bind_assoc]
  exact (gets_bind_comm hchecks _).symm

/-! ## What the second factor finds -/

variable {s t : DaemonState} {vmk : Block 32} {db : Database} {session : Session}

theorem checkBackupCode_run {key : Block 32} {db' : Database} {code : String} {passes : Bool}
    (hvmk : s.vmk = some vmk) (hconn : s.connection = some (key, db))
    (hactive : TotpDb.isActive db = true)
    (hverify : TotpDb.verifyBackupCode P F env db vmk code = .ok (passes, db')) :
    checkBackupCode P F env code s = (.ok passes, s.setVault (.pages key db')) := by
  simp only [checkBackupCode, bind_eq_ok, reads_eq_ok, require_eq_ok, lift_eq_ok, okOr_eq_ok,
    modify_run, pure_run, Prod.mk.injEq]
  exact ⟨vmk, s, ⟨hvmk, rfl⟩, (key, db), s, ⟨hconn, rfl⟩, (), s, ⟨hactive, rfl⟩, (passes, db'), s,
    ⟨hverify, rfl⟩, (), _, ⟨trivial, rfl⟩, rfl, rfl⟩

theorem unlockExisting_connection {db₀ : Database}
    (h : unlockExisting P J env password yk uid s = (.ok session, t)) {header : VaultHeader}
    (hs : s.disk.sidecar = some (.ok header))
    (hunwrap : unwrapVmk P (.ok ()) header password yk = .ok vmk.bytes)
    (hv : s.disk.vault = some (.pages (sqlcipherKey P vmk.bytes) db₀))
    (happly : applyMigrations db₀ = .ok db) :
    t.vmk = some vmk ∧ ∃ db', t.connection = some (sqlcipherKey P vmk.bytes, db') ∧
      db'.otpConfig = db.otpConfig ∧ TotpDb.getParams db' = TotpDb.getParams db := by
  obtain ⟨header', vmk', stored, db', hs', -, hunwrap', -, -, hdb, hvmk, hopen, -, hdisk⟩ :=
    unlockExisting_ok h
  rw [hs] at hs'
  cases hs'
  obtain rfl : vmk = vmk' := Block.bytes_inj (Except.ok.inj (hunwrap.symm.trans hunwrap'))
  obtain ⟨db₀', db₁, hkey, happly', -, hrows⟩ := hdb
  have hsame : db₁ = db := by
    rw [hv, Option.getD_some, VaultFile.unlockedBy, if_pos rfl] at hkey
    cases hkey
    rw [happly] at happly'
    exact (Except.ok.inj happly').symm
  subst hsame
  refine ⟨hvmk, db', ?_, migrateRows_keeps (f := (·.otpConfig)) (fun _ _ _ _ _ _ _ => rfl) hrows, ?_⟩
  · simp only [DaemonState.connection, hopen, hdisk]
  · have hmeta := (migrateRows_eq_ok hrows).2.2 "totp_digits" (by decide)
    rw [TotpDb.getParams, TotpDb.getParams, hmeta]

end

end PwdNow.Daemon
