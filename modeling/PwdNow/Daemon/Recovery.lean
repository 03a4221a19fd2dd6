import PwdNow.Daemon.Passkey

/-!
# Daemon — the recovery key

`enroll_recovery_key` and `unlock_with_recovery_key` of `daemon/src/vault/state.rs`, and the handler
of the latter in `daemon/src/ipc/grpc_server.rs`, which records a failure for every `Err`, that of
the lockout included.
-/

namespace PwdNow.Daemon

open Kit Kit.Fallible

variable (P : Primitives) (J : Serde)

def recoveryVmkAad : Bytes := utf8 "vmk-recovery-aad-v1"

def recoveryEntry (env : Env) (kek : Block 64) (vmk : Block 32) : RecoveryKeySidecarEntry where
  encryptedVmkCopy :=
    hexEncode (P.aesGcm.encrypt (kekOf kek) env.vmkNonce recoveryVmkAad vmk.bytes)
  vmkCopyNonce := hexEncode env.vmkNonce.bytes
  salt := hexEncode env.salt.bytes
  params := env.tuned

def enrollRecoveryKey (env : Env) (recoveryKey : Bytes) : Call Unit := do
  let vmk ← reads fun s => okOr s.vmk (.auth "Vault locked")
  let kek ← lift (deriveKek P (env.io (.kdfMemory .request)) recoveryKey none env.salt env.tuned)
  let header ← readHeader env .request
  writeHeader P J env .request { header with recoveryKeyCopy := some (recoveryEntry P env kek vmk) }

/-- What the copy holds under the recovery key. Unlike in the other unlocks a length that does
not fit is an error here. -/
def openRecoveryCopy (alloc : Except VaultError Unit) (entry : RecoveryKeySidecarEntry)
    (recoveryKey : Bytes) : Result Bytes := do
  let saltBytes ← okOr (hexDecode entry.salt) (.crypto "Invalid recovery salt")
  let salt ← okOr (Block.ofBytes 32 saltBytes) (.crypto "Invalid recovery salt len")
  let kek ← deriveKek P alloc recoveryKey none salt entry.params
  let ct ← okOr (hexDecode entry.encryptedVmkCopy) (.crypto "Invalid recovery vmk blob")
  let nonceBytes ← okOr (hexDecode entry.vmkCopyNonce) (.crypto "Invalid recovery vmk nonce")
  let nonce ← okOr (Block.ofBytes 12 nonceBytes) (.crypto "Invalid recovery vmk nonce len")
  aesGcmDecrypt P (kekOf kek) ct nonce recoveryVmkAad

/-- The counter is reset before there is room for the session. -/
def unlockWithRecoveryKey (env : Env) (recoveryKey : Bytes) (uid : UInt32) : Call Session := do
  checkUnlockLockout env uid
  let header ← readHeader env .request
  let entry ← lift (okOr header.recoveryKeyCopy (.auth "No recovery key enrolled"))
  let vmkPlain ← lift (openRecoveryCopy P (env.io (.kdfMemory .request)) entry recoveryKey)
  let vmk ← openVaultWith P env vmkPlain
  env.at .lockedKey
  modify fun s => s.entered vmk header.vaultUuid none
  resetUnlockCounter P env uid
  createSession env header.vaultUuid uid

/-- `GrpcServer::unlock_with_recovery_key`. -/
def handleRecoveryKey (env : Env) (recoveryKey : Bytes) (uid : UInt32) : Call Session := do
  match (← attemptErr (unlockWithRecoveryKey P env recoveryKey uid)) with
  | .ok session => pure session
  | .error e => do
    recordFailedUnlock env uid
    throw (.err e)

end PwdNow.Daemon
