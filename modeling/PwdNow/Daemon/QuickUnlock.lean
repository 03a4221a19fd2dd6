import PwdNow.Daemon.Passkey

/-!
# Daemon — quick unlock

`quick_unlock_enroll`, `quick_unlock` and `quick_unlock_revoke` of
`daemon/src/vault/state.rs`. An entry holds the KEK of the password under a key of the device
(`dbk`): it opens the wrapped VMK of the header as long as that is wrapped under the same KEK.
-/

namespace PwdNow.Daemon

open Kit Kit.Fallible

variable (P : Primitives) (J : Serde) (W : Webauthn)

def quickUnlockAad : Bytes := utf8 "quick-unlock-v1"

/-- The KEK that the password derives from the header, whether or not it is the right one. -/
def enrolledKek (alloc : Except VaultError Unit) (header : VaultHeader) (password : Bytes) :
    Result (Block 32) := do
  let saltBytes ← okOr (hexDecode header.argon2Salt) (.crypto "salt")
  let salt ← copyFromSlice 32 "argon2_salt" saltBytes
  let kek ← deriveKek P alloc password none salt header.params
  pure (kekOf kek)

def quickUnlockEntry (env : Env) (cid pubKeyCbor : Bytes) (dbk kek : Block 32) :
    QuickUnlockCred where
  credentialIdHex := hexEncode cid
  encKek := hexEncode (P.aesGcm.encrypt dbk env.kekNonce quickUnlockAad kek.bytes)
  nonce := hexEncode env.kekNonce.bytes
  pubKeyCborHex := hexEncode pubKeyCbor
  createdAt := env.nowSecs

/-- The password is not verified, and an entry with the same id is not replaced. -/
def quickUnlockEnroll (env : Env) (password cid pubKeyCbor dbk : Bytes) : Call Unit := do
  require (password.length ≤ 1024) (.auth "password too long")
  let header ← readHeader env .request
  let kek ← lift (enrolledKek P (env.io (.kdfMemory .request)) header password)
  let dbk ← lift (okOr (Block.ofBytes 32 dbk) (.crypto "dbk len"))
  writeHeader P J env .request { header with quickUnlockCredentials :=
        header.quickUnlockCredentials ++ [quickUnlockEntry P env cid pubKeyCbor dbk kek] }

def quickUnlockRevoke (env : Env) : Call Unit := do
  let header ← readHeader env .request
  writeHeader P J env .request { header with quickUnlockCredentials := [] }

/-- The KEK in an entry, if the device key opens it. -/
def openQuickUnlockEntry (entry : QuickUnlockCred) (dbk : Block 32) : Option (Block 32) := do
  let ct ← hexDecode entry.encKek
  let nonceBytes ← hexDecode entry.nonce
  let nonce ← Block.ofBytes 12 nonceBytes
  let kek ← P.aesGcm.decrypt dbk nonce quickUnlockAad ct
  Block.ofBytes 32 kek

/-- `encrypted_vmk` opened with a KEK that is already there. -/
def unwrapVmkWith (header : VaultHeader) (kek : Block 32) : Result Bytes := do
  let ct ← okOr (hexDecode header.encryptedVmk) (.crypto "vmk")
  let nonce ← okOr (hexDecode header.vmkNonce) (.crypto "nonce")
  openSealed P kek ct nonce (utf8 "vmk-aad-v1") (.crypto "nonce len")

/-- The first entry with the credential's id, its assertion verified, and the KEK in it. -/
def verifyQuickUnlock (header : VaultHeader) (a : Assertion) (dbk : Bytes) :
    Result (Block 32) := do
  let entry ← okOr (header.quickUnlockCredentials.find? (·.credentialIdHex = hexEncode a.cid))
    (.auth "not registered")
  let pubKey ← okOr (hexDecode entry.pubKeyCborHex) (.crypto "pub key decode failed")
  checkAssertion W pubKey a (.auth "quick unlock signature verification failed")
  let dbk ← okOr (Block.ofBytes 32 dbk) (.crypto "dbk len")
  okOr (openQuickUnlockEntry P entry dbk) (.auth "quick unlock failed")

/-- A header from before wipe tickets gets one here as well; a failed write is ignored, and
the raw ticket is kept in memory all the same. -/
def quickUnlockTicket (env : Env) (header : VaultHeader) : Call (Option Bytes) :=
  if header.wipeTicketHash = "" then do
    let _ ← attemptErr (writeHeader P J env .ticket
      { header with wipeTicketHash := hexEncode (P.sha3 env.wipeTicket.bytes) })
    pure (some env.wipeTicket.bytes)
  else pure none

/-- Neither the MAC of the header nor the password policy is looked at. -/
def quickUnlockInner (env : Env) (a : Assertion) (dbk : Bytes) (uid : UInt32) :
    Call Session := do
  let chal ← clientChallenge W a.clientDataJson
  consumeChallenge env chal
  let header ← readHeader env .request
  let kek ← lift (verifyQuickUnlock P W header a dbk)
  let vmkPlain ← lift (unwrapVmkWith P header kek)
  env.at .lockedKey
  let vmk ← lift (copyFromSlice 32 "vmk" vmkPlain)
  openVault env (sqlcipherKey P vmkPlain)
  onDatabase fun db => do
    verifyChain P db vmk
    pure db
  let rawTicket ← quickUnlockTicket P J env header
  modify fun s => s.entered vmk header.vaultUuid rawTicket
  createSession env header.vaultUuid uid

def quickUnlock (env : Env) (a : Assertion) (dbk : Bytes) (uid : UInt32) : Call Session := do
  checkUnlockLockout env uid
  let res ← attemptErr (quickUnlockInner P J W env a dbk uid)
  settleCounted P env uid res

variable {P} {header : VaultHeader} {kek kek' : Block 32} {plain plain' : Bytes}

theorem unwrapVmkWith_of_unwrapVmk {alloc : Except VaultError Unit} {password : Bytes}
    {yk : Option (Block 20)} (h : unwrapVmk P alloc header password yk = .ok plain) :
    ∃ kek, unwrapVmkWith P header kek = .ok plain := by
  simp only [unwrapVmk, wrappedVmk, Result.bind_eq_ok] at h
  obtain ⟨_, ⟨_, -, _, -, kek, -, ct, hct, nonce, hnonce, hw⟩, hplain⟩ := h
  cases hw
  refine ⟨kekOf kek, ?_⟩
  simp only [unwrapVmkWith, Result.bind_eq_ok]
  exact ⟨ct, hct, nonce, hnonce, hplain⟩

theorem unwrapVmkWith_unique (hP : P.Ideal) (h : unwrapVmkWith P header kek = .ok plain)
    (h' : unwrapVmkWith P header kek' = .ok plain') : plain = plain' := by
  have hkey : kek = kek' := by
    simp only [unwrapVmkWith, Result.bind_eq_ok] at h h'
    obtain ⟨ct, hct, nonce, hnonce, hplain⟩ := h
    obtain ⟨ct', hct', nonce', hnonce', hplain'⟩ := h'
    rw [hct] at hct'
    cases hct'
    rw [hnonce] at hnonce'
    cases hnonce'
    exact openSealed_key_unique hP hplain hplain'
  rw [hkey, h'] at h
  exact (Except.ok.inj h).symm

end PwdNow.Daemon
