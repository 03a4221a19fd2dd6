import PwdNow.Daemon.Crypto

/-!
# Daemon — `VaultHeader`, its MAC and the wrapped master key

The plaintext sidecar `vault.db.meta` (`daemon/src/vault/state.rs`) carries the KDF parameters, the
wrapped vault master key (VMK), the copies of it for the other ways to unlock, the login policy and
a MAC over all of this under a key derived from the VMK: a header verifies under one VMK only
(`calculateHeaderHmac_inj`).
-/

namespace PwdNow.Daemon

open Kit

structure PasskeySidecarEntry where
  credentialIdHex : String
  encryptedVmkCopy : String
  vmkCopyNonce : String
  pubKeyCborHex : Option String
  signCount : UInt32
  deriving DecidableEq

structure PqcSidecarEntry where
  credentialIdHex : String
  verifyingKeyHex : String
  dkSeedHex : String
  dkNonceHex : String
  deriving DecidableEq

structure QuickUnlockCred where
  credentialIdHex : String
  encKek : String
  nonce : String
  pubKeyCborHex : String
  createdAt : Nat
  deriving DecidableEq

structure RecoveryKeySidecarEntry where
  encryptedVmkCopy : String
  vmkCopyNonce : String
  salt : String
  params : KdfParams
  deriving DecidableEq

structure VaultHeader where
  vaultUuid : String
  argon2Salt : String
  /-- `argon2_m_cost`, `argon2_t_cost`, `argon2_p_cost` -/
  params : KdfParams
  kemSuite : UInt8
  encryptedVmk : String
  vmkNonce : String
  passwordLoginEnabled : Bool
  totpEnabled : Bool
  emailOtpEnabled : Bool
  strictPqcMode : Bool
  passkeyCredentials : List PasskeySidecarEntry
  pqcCredentials : List PqcSidecarEntry
  quickUnlockCredentials : List QuickUnlockCred
  recoveryKeyCopy : Option RecoveryKeySidecarEntry
  duressMaxAttempts : UInt32
  wipeTicketHash : String
  headerHmac : Option String
  deriving DecidableEq

structure FolderMetadata where
  name : String
  description : Option String
  iconSvg : Option String
  deriving DecidableEq

structure EncryptedProfileFields where
  firstName : String
  lastName : String
  email : String
  deriving DecidableEq

/-- The fields of a credential blob that are indexed. -/
structure CredentialFields where
  service : Option String
  url : Option String
  username : Option String
  deriving DecidableEq

/-- `serde_json`: a serialiser for what is sealed or MACed, and parsers, whose errors are
the texts they fail with. -/
structure Serde where
  headerJson : VaultHeader → Bytes
  folderJson : FolderMetadata → Bytes
  parseFolder : Bytes → Except String FolderMetadata
  profileJson : EncryptedProfileFields → Bytes
  parseProfile : Bytes → Except String EncryptedProfileFields
  parseCredential : Bytes → Except String CredentialFields

variable (P : Primitives) (J : Serde)

/-! ## The header MAC -/

variable {header : VaultHeader} {vmk vmk' : Block 32}

/-- HMAC-SHA384 over the JSON of the header with `header_hmac` taken out. -/
def calculateHeaderHmac (header : VaultHeader) (vmk : Block 32) : String :=
  hexEncode (P.hmacSha384 (P.hkdfSha384 vmk (utf8 "sidecar-hmac"))
    (J.headerJson { header with headerHmac := none }))

/-- The header as `write_header` stores it: with the MAC under `vmk`, or as it is when no
VMK is in memory. -/
def VaultHeader.stamped (header : VaultHeader) (vmk : Option (Block 32)) : VaultHeader :=
  match vmk with
  | some vmk => { header with headerHmac := some (calculateHeaderHmac P J header vmk) }
  | none => header

/-- The test of `unlock_existing`: a missing MAC is refused like a wrong one. -/
def checkHeaderHmac (header : VaultHeader) (vmk : Block 32) : Result Unit :=
  match header.headerHmac with
  | none => fail (.auth "vault header integrity check failed")
  | some expected =>
    if calculateHeaderHmac P J header vmk ≠ expected then
      fail (.auth "vault header integrity check failed")
    else .ok ()

variable {P J}

@[simp] theorem calculateHeaderHmac_setHmac (hmac : Option String) (vmk : Block 32) :
    calculateHeaderHmac P J { header with headerHmac := hmac } vmk =
      calculateHeaderHmac P J header vmk := rfl

/-- **A header verifies under one VMK.** -/
theorem calculateHeaderHmac_inj (hP : P.Ideal)
    (h : calculateHeaderHmac P J header vmk = calculateHeaderHmac P J header vmk') : vmk = vmk' :=
  hP.hkdfSha384 _ (hP.hmacSha384 (hexEncode_injective h)).1

theorem checkHeaderHmac_eq_ok :
    checkHeaderHmac P J header vmk = .ok () ↔
      header.headerHmac = some (calculateHeaderHmac P J header vmk) := by
  unfold checkHeaderHmac
  cases header.headerHmac with
  | none => simp [fail]
  | some expected =>
    by_cases heq : calculateHeaderHmac P J header vmk = expected
    · simp [heq]
    · simp [heq, fail, Ne.symm heq]

/-- **A MAC that is kept over a rewrite** vouches for the header it was made for, and for the
VMK it was made with. -/
theorem eq_of_checkHeaderHmac_kept (hP : P.Ideal) (hjson : Function.Injective J.headerJson)
    {stored : VaultHeader} (hvalid : checkHeaderHmac P J header vmk = .ok ())
    (hkept : stored.headerHmac = header.headerHmac)
    (hcheck : checkHeaderHmac P J stored vmk' = .ok ()) : stored = header ∧ vmk' = vmk := by
  rw [checkHeaderHmac_eq_ok] at hvalid hcheck
  rw [hkept, hvalid, Option.some.injEq] at hcheck
  -- the two MACs are over the same text, so over the same fields
  have hparts := hP.hmacSha384 (hexEncode_injective hcheck)
  have hfields : { stored with headerHmac := none } = { header with headerHmac := none } :=
    (hjson hparts.2).symm
  have hset := congrArg (fun h : VaultHeader => { h with headerHmac := header.headerHmac }) hfields
  refine ⟨?_, hP.hkdfSha384 _ hparts.1.symm⟩
  rw [← hkept] at hset
  exact hset.trans (by rw [hkept])

theorem checkHeaderHmac_stamped (hP : P.Ideal) :
    checkHeaderHmac P J (header.stamped P J (some vmk)) vmk' = .ok () ↔ vmk' = vmk := by
  rw [checkHeaderHmac_eq_ok]
  simp only [VaultHeader.stamped, calculateHeaderHmac_setHmac, Option.some.injEq]
  constructor
  · intro h
    exact (calculateHeaderHmac_inj hP h).symm
  · rintro rfl
    rfl

/-! ## The wrapped VMK -/

variable {n : Nat} {alloc : Except VaultError Unit} {password plain : Bytes}
  {yk : Option (Block 20)} {salt : Block 32} {params : KdfParams} {kek : Block 64}
  {nonce : Block 12}

variable (P)

/-- `let mut salt = [0u8; 32]; salt.copy_from_slice(&bytes)`: a slice of another length
panics. -/
def copyFromSlice (n : Nat) (site : String) (bytes : Bytes) : Result (Block n) :=
  match Block.ofBytes n bytes with
  | some block => .ok block
  | none => .error (.abort site)

/-- What it takes to open `encrypted_vmk`. -/
structure WrappedVmk where
  kek : Block 32
  ct : Bytes
  nonce : Bytes

def wrappedVmk (alloc : Except VaultError Unit) (header : VaultHeader) (password : Bytes)
    (yk : Option (Block 20)) : Result WrappedVmk := do
  let saltBytes ← okOr (hexDecode header.argon2Salt) (.crypto "salt")
  let salt ← copyFromSlice 32 "argon2_salt" saltBytes
  let kek ← deriveKek P alloc password yk salt header.params
  let ct ← okOr (hexDecode header.encryptedVmk) (.crypto "vmk")
  let nonce ← okOr (hexDecode header.vmkNonce) (.crypto "nonce")
  pure ⟨kekOf kek, ct, nonce⟩

/-- The plaintext under `encrypted_vmk`. -/
def WrappedVmk.unwrap (w : WrappedVmk) : Result Bytes :=
  openSealed P w.kek w.ct w.nonce (utf8 "vmk-aad-v1") (.crypto "nonce len")

def unwrapVmk (alloc : Except VaultError Unit) (header : VaultHeader) (password : Bytes)
    (yk : Option (Block 20)) : Result Bytes := do
  let w ← wrappedVmk P alloc header password yk
  w.unwrap P

/-- The header with a VMK wrapped under a fresh KEK, as `change_password_inner` and
`rewrap_vmk_with_current_kdf` write it. -/
def VaultHeader.wrap (header : VaultHeader) (salt : Block 32) (params : KdfParams)
    (kek : Block 64) (nonce : Block 12) (vmk : Block 32) : VaultHeader :=
  { header with
    argon2Salt := hexEncode salt.bytes
    params := params
    encryptedVmk := hexEncode (P.aesGcm.encrypt (kekOf kek) nonce (utf8 "vmk-aad-v1") vmk.bytes)
    vmkNonce := hexEncode nonce.bytes }

variable {P}

@[simp] theorem copyFromSlice_bytes (site : String) (b : Block n) :
    copyFromSlice n site b.bytes = .ok b := by
  simp [copyFromSlice]

theorem copyFromSlice_eq_ok {site : String} {bytes : Bytes} {b : Block n} :
    copyFromSlice n site bytes = .ok b ↔ bytes = b.bytes := by
  constructor
  · intro h
    unfold copyFromSlice at h
    split at h
    · next hb =>
      cases h
      exact (Block.bytes_of_ofBytes hb).symm
    · simp at h
  · rintro rfl
    simp

theorem unwrapVmk_of_ok (h : unwrapVmk P alloc header password yk = .ok plain) :
    unwrapVmk P (.ok ()) header password yk = .ok plain := by
  simp only [unwrapVmk, wrappedVmk, Result.bind_eq_ok] at h ⊢
  obtain ⟨w, ⟨saltBytes, hbytes, salt, hsalt, kek, hkek, hw⟩, hplain⟩ := h
  exact ⟨w, ⟨saltBytes, hbytes, salt, hsalt, kek, deriveKek_of_ok P hkek, hw⟩, hplain⟩

/-- The VMK is in the header, wrapped under the KEK for that salt and those parameters. -/
structure VaultHeader.Wraps (P : Primitives) (header : VaultHeader) (salt : Block 32)
    (params : KdfParams) (kek : Block 64) (nonce : Block 12) (vmk : Block 32) : Prop where
  salt : header.argon2Salt = hexEncode salt.bytes
  params : header.params = params
  vmk : header.encryptedVmk =
    hexEncode (P.aesGcm.encrypt (kekOf kek) nonce (utf8 "vmk-aad-v1") vmk.bytes)
  nonce : header.vmkNonce = hexEncode nonce.bytes

theorem wrappedVmk_wrap {kek' : Block 64} (h : header.Wraps P salt params kek nonce vmk)
    (hkek : deriveKek P alloc password yk salt params = .ok kek') :
    wrappedVmk P (.ok ()) header password yk = .ok
      { kek := kekOf kek'
        ct := P.aesGcm.encrypt (kekOf kek) nonce (utf8 "vmk-aad-v1") vmk.bytes
        nonce := nonce.bytes } := by
  simp only [wrappedVmk, pure, Except.pure, h.salt, h.params, h.vmk, h.nonce, hexDecode_hexEncode,
    okOr, copyFromSlice_bytes, bind, Except.bind, deriveKek_of_ok P hkek]

/-- **What opens a wrapped VMK**: a password that derives the KEK it was wrapped under. -/
theorem unwrapVmk_wrap_iff (hP : P.Ideal) (h : header.Wraps P salt params kek nonce vmk) :
    unwrapVmk P (.ok ()) header password yk = .ok plain ↔
      (∃ kek', deriveKek P (.ok ()) password yk salt params = .ok kek' ∧
        kekOf kek' = kekOf kek) ∧ plain = vmk.bytes := by
  cases hkek : deriveKek P (.ok ()) password yk salt params with
  | error e =>
    simp [unwrapVmk, wrappedVmk, h.salt, h.params, okOr, hkek, bind, Except.bind]
  | ok kek' =>
    rw [unwrapVmk, wrappedVmk_wrap h hkek]
    show openSealed P (kekOf kek') _ nonce.bytes _ _ = .ok plain ↔ _
    by_cases hsame : kekOf kek' = kekOf kek
    · rw [hsame, openSealed_encrypt hP]
      simp [hsame, eq_comm]
    · rw [openSealed_wrong_key hP hsame]
      simp [hsame, fail]

theorem unwrapVmk_wrap (hP : P.Ideal) (h : header.Wraps P salt params kek nonce vmk)
    (hkek : deriveKek P alloc password yk salt params = .ok kek) :
    unwrapVmk P (.ok ()) header password yk = .ok vmk.bytes := by
  rw [unwrapVmk, wrappedVmk_wrap h hkek]
  exact openSealed_encrypt hP nonce _

end PwdNow.Daemon
