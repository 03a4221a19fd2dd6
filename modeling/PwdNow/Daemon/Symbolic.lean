import PwdNow.Daemon.Passkey
import PwdNow.Kit.Spelling

/-!
# Daemon — a symbolic instance

Executable primitives that meet `Primitives.Ideal`: symbolic ciphers, and MACs and key derivations
that spell out their inputs.
-/

namespace PwdNow.Daemon

open Kit Kit.Fallible

/-- The first `n` bytes, filled up with zeros. -/
def padTo (n : Nat) (bytes : Bytes) : Block n :=
  ⟨(bytes ++ List.replicate n 0).take n, by simp⟩

def symbolic : Primitives where
  aesGcm := Aead.symbolic 12
  xchacha20 := Aead.symbolic 24
  argon2id input _ _ _ _ := .ok (padTo 64 input)
  pbkdf2 input _ _ := padTo 64 input
  hkdfSha384 key _ := key
  hkdfSha3 len key _ := padTo len key
  hmacSha384 key msg := key.bytes ++ msg
  hmacSha512 key msg := key.bytes ++ msg
  blake3 key msg := key.bytes ++ msg
  sha3 := id
  parseUuid := some

theorem symbolic_ideal : symbolic.Ideal where
  aesGcm := Aead.symbolic_ideal 12
  xchacha20 := Aead.symbolic_ideal 24
  hmacSha384 k k' msg msg' h := by
    obtain ⟨hk, hmsg⟩ := List.append_inj h (by simp)
    exact ⟨Block.bytes_inj hk, hmsg⟩
  hkdfSha384 _ _ _ h := h

/-- Records of strings, written one after the other; nothing is parsed back. -/
def symbolicSerde : Serde where
  headerJson h := utf8 (h.vaultUuid ++ h.argon2Salt ++ h.encryptedVmk ++ h.vmkNonce)
  folderJson f := utf8 f.name
  parseFolder _ := .error "unexpected end of input"
  profileJson f := utf8 (f.firstName ++ f.lastName ++ f.email)
  parseProfile _ := .error "unexpected end of input"
  parseCredential _ := .error "unexpected end of input"

/-- Authenticators whose client data is the challenge itself and whose signature is the public
key. -/
def symbolicWebauthn : Webauthn where
  parseClientData bytes := some ⟨some "webauthn.get", none, some (hexEncode bytes)⟩
  decodeBase64 := hexDecode
  sha256 := padTo 32
  assertVerify publicKey _ signature _ _ _ := publicKey = signature
  hkdfSha3 salt key _ := padTo 32 (salt ++ key)

/-! ### A serialiser that can be read back -/

open Spelling

def spellParams : Spelling KdfParams :=
  (uint32.pair (uint32.pair uint32)).via (fun p => (p.mCost, p.tCost, p.pCost))
    (fun t => ⟨t.1, t.2.1, t.2.2⟩) fun _ => rfl

def spellPasskey : Spelling PasskeySidecarEntry :=
  (string.pair (string.pair (string.pair (string.option.pair uint32)))).via
    (fun e => (e.credentialIdHex, e.encryptedVmkCopy, e.vmkCopyNonce, e.pubKeyCborHex, e.signCount))
    (fun t => ⟨t.1, t.2.1, t.2.2.1, t.2.2.2.1, t.2.2.2.2⟩) fun _ => rfl

def spellPqc : Spelling PqcSidecarEntry :=
  (string.pair (string.pair (string.pair string))).via
    (fun e => (e.credentialIdHex, e.verifyingKeyHex, e.dkSeedHex, e.dkNonceHex))
    (fun t => ⟨t.1, t.2.1, t.2.2.1, t.2.2.2⟩) fun _ => rfl

def spellQuickUnlock : Spelling QuickUnlockCred :=
  (string.pair (string.pair (string.pair (string.pair nat)))).via
    (fun e => (e.credentialIdHex, e.encKek, e.nonce, e.pubKeyCborHex, e.createdAt))
    (fun t => ⟨t.1, t.2.1, t.2.2.1, t.2.2.2.1, t.2.2.2.2⟩) fun _ => rfl

def spellRecoveryKey : Spelling RecoveryKeySidecarEntry :=
  (string.pair (string.pair (string.pair spellParams))).via
    (fun e => (e.encryptedVmkCopy, e.vmkCopyNonce, e.salt, e.params))
    (fun t => ⟨t.1, t.2.1, t.2.2.1, t.2.2.2⟩) fun _ => rfl

/-- The four parts of a header: keys, policy, the lists of credentials, the rest. -/
def spellHeader : Spelling VaultHeader :=
  ((string.pair (string.pair (spellParams.pair (uint8.pair (string.pair string))))).pair
    ((bool.pair (bool.pair (bool.pair bool))).pair
      ((spellPasskey.list.pair (spellPqc.list.pair spellQuickUnlock.list)).pair
        (spellRecoveryKey.option.pair (uint32.pair (string.pair string.option)))))).via
    (fun h =>
      ((h.vaultUuid, h.argon2Salt, h.params, h.kemSuite, h.encryptedVmk, h.vmkNonce),
        (h.passwordLoginEnabled, h.totpEnabled, h.emailOtpEnabled, h.strictPqcMode),
        (h.passkeyCredentials, h.pqcCredentials, h.quickUnlockCredentials),
        h.recoveryKeyCopy, h.duressMaxAttempts, h.wipeTicketHash, h.headerHmac))
    (fun t =>
      { vaultUuid := t.1.1, argon2Salt := t.1.2.1, params := t.1.2.2.1, kemSuite := t.1.2.2.2.1
        encryptedVmk := t.1.2.2.2.2.1, vmkNonce := t.1.2.2.2.2.2
        passwordLoginEnabled := t.2.1.1, totpEnabled := t.2.1.2.1
        emailOtpEnabled := t.2.1.2.2.1, strictPqcMode := t.2.1.2.2.2
        passkeyCredentials := t.2.2.1.1, pqcCredentials := t.2.2.1.2.1
        quickUnlockCredentials := t.2.2.1.2.2
        recoveryKeyCopy := t.2.2.2.1, duressMaxAttempts := t.2.2.2.2.1
        wipeTicketHash := t.2.2.2.2.2.1, headerHmac := t.2.2.2.2.2.2 })
    fun _ => rfl

def spellFolder : Spelling FolderMetadata :=
  (string.pair (string.option.pair string.option)).via
    (fun f => (f.name, f.description, f.iconSvg)) (fun t => ⟨t.1, t.2.1, t.2.2⟩) fun _ => rfl

def spellProfile : Spelling EncryptedProfileFields :=
  (string.pair (string.pair string)).via
    (fun f => (f.firstName, f.lastName, f.email)) (fun t => ⟨t.1, t.2.1, t.2.2⟩) fun _ => rfl

/-- Every text determines the record it was written for, and folders and profiles are parsed
back. -/
def spelledSerde : Serde where
  headerJson := spellHeader.write
  folderJson := spellFolder.write
  parseFolder bytes := (spellFolder.parse bytes).elim (.error "unexpected end of input") .ok
  profileJson := spellProfile.write
  parseProfile bytes := (spellProfile.parse bytes).elim (.error "unexpected end of input") .ok
  parseCredential _ := .error "unexpected end of input"

theorem spelledSerde_headerJson_injective : Function.Injective spelledSerde.headerJson :=
  spellHeader.write_injective

theorem spelledSerde_parseFolder (folder : FolderMetadata) :
    spelledSerde.parseFolder (spelledSerde.folderJson folder) = .ok folder := by
  simp only [spelledSerde, parse_write]
  rfl

theorem spelledSerde_parseProfile (fields : EncryptedProfileFields) :
    spelledSerde.parseProfile (spelledSerde.profileJson fields) = .ok fields := by
  simp only [spelledSerde, parse_write]
  rfl

/-! ### Vaults -/

/-- A quiet environment at time `now`, with `seed` in every draw. -/
def symbolicEnv (now : Nat) (seed : UInt8) : Env where
  io _ := .ok ()
  wipeMode := none
  tuned := ⟨256 * 1024, 3, 1⟩
  nowSecs := now
  checkAt := fromSecs now
  totpCheckAt := fromSecs now
  failAt := fromSecs now + 1
  totpFailAt := fromSecs now + 1
  challengeAt := fromSecs now
  salt := .replicate 32 seed
  vmk := .replicate 32 seed
  vmkNonce := .replicate 12 seed
  rewrapSalt := .replicate 32 seed
  rewrapNonce := .replicate 12 seed
  wipeTicket := .replicate 32 seed
  challenge := .replicate 32 seed
  kekNonce := .replicate 12 seed
  passkeyNonce := .replicate 24 seed
  uuid := "67e55044-10b1-426f-9247-bb680e5fe0c8"
  token := "token"
  auditTs _ := some (Int64.ofNat now)
  folderNonce _ := .replicate 12 seed
  userNonce _ := .replicate 12 seed
  credentialDraws _ := ⟨.replicate 32 seed, .replicate 12 seed, .replicate 24 seed⟩

theorem symbolicEnv_quiet (now : Nat) (seed : UInt8) : (symbolicEnv now seed).Quiet :=
  fun _ => rfl

/-- A daemon just started, without files. -/
def DaemonState.new : DaemonState where
  sessions := .new
  dbOpen := false
  vmk := none
  vaultUuid := none
  wipeTicket := none
  lastActivity := 0
  challenges := []
  pendingAudit := []
  lockout := .new
  totpLockout := .new
  disk := ⟨none, none⟩

/-- The KEK of a password. -/
def symbolicKek (password : Bytes) : Block 64 := padTo 64 password

/-- The VMK, and the empty database, of the symbolic vault. -/
def symbolicVmk : Block 32 := .replicate 32 1

def symbolicDb : Database := Database.empty.setMeta "schema_version" (.integer 4)

def symbolicHeader (password : Bytes) (duress : UInt32) : VaultHeader :=
  { freshHeader symbolic (symbolicEnv 1 1) (symbolicKek password) with duressMaxAttempts := duress }

/-- A vault with the rows `db` and the password `password`, unlocked by uid 1000. -/
def unlockedVault (password : Bytes) (duress : UInt32) (db : Database) : DaemonState :=
  { DaemonState.new with
    dbOpen := true
    vmk := some symbolicVmk
    vaultUuid := some (symbolicEnv 1 1).uuid
    disk :=
      { sidecar := some (.ok
          ((symbolicHeader password duress).stamped symbolic symbolicSerde (some symbolicVmk)))
        vault := some (.pages (sqlcipherKey symbolic symbolicVmk.bytes) db) } }

theorem deriveKek_symbolic (password : Bytes) (salt : Block 32) :
    deriveKek symbolic (.ok ()) password none salt (symbolicEnv 1 1).tuned =
      .ok (symbolicKek password) := rfl

theorem unwrapVmk_symbolicHeader (password : Bytes) (duress : UInt32) (k : Option (Block 32)) :
    unwrapVmk symbolic (.ok ())
      ((symbolicHeader password duress).stamped symbolic symbolicSerde k) password none =
        .ok symbolicVmk.bytes := by
  cases k <;>
    exact unwrapVmk_wrap symbolic_ideal ⟨rfl, rfl, rfl, rfl⟩ (deriveKek_symbolic password _)

/-- A daemon just started, with the files of a vault. -/
def closedVault (header : VaultHeader) (db : Database) : DaemonState :=
  { DaemonState.new with
    disk :=
      { sidecar := some (.ok header)
        vault := some (.pages (sqlcipherKey symbolic symbolicVmk.bytes) db) } }

/-- That daemon once the vault is unlocked. -/
def openedVault (header : VaultHeader) (db : Database) : DaemonState :=
  { closedVault header db with
    dbOpen := true
    vmk := some symbolicVmk
    vaultUuid := some header.vaultUuid }

/-- The symbolic header, with a MAC over all of its fields. -/
def spelledHeader (password : Bytes) (duress : UInt32) : VaultHeader :=
  (symbolicHeader password duress).stamped symbolic spelledSerde (some symbolicVmk)

theorem unwrapVmk_spelledHeader (password : Bytes) (duress : UInt32) :
    unwrapVmk symbolic (.ok ()) (spelledHeader password duress) password none =
      .ok symbolicVmk.bytes :=
  unwrapVmk_wrap symbolic_ideal ⟨rfl, rfl, rfl, rfl⟩ (deriveKek_symbolic password _)

theorem opensHeader_spelled {env : Env} {s : DaemonState} {password : Bytes} {duress : UInt32}
    (hq : env.Quiet) (hs : s.disk.sidecar = some (.ok (spelledHeader password duress)))
    (hv : s.disk.vault.isSome) :
    OpensHeader symbolic spelledSerde env password none s (spelledHeader password duress)
      symbolicVmk where
  quiet := hq
  sidecar := hs
  vault := hv
  login := rfl
  unwraps := unwrapVmk_spelledHeader password duress
  -- too long a text to be computed
  mac := (checkHeaderHmac_stamped symbolic_ideal).mpr rfl

theorem symbolicDb_current : symbolicDb.Current := ⟨4, rfl, le_rfl⟩

theorem symbolicDb_primaryKeys : symbolicDb.PrimaryKeys := ⟨List.nodup_nil, List.nodup_nil⟩

end PwdNow.Daemon
