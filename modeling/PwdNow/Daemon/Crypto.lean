import PwdNow.Daemon.Error
import PwdNow.Kit.Aead

/-!
# Daemon — primitives, key derivation and nonce-length dispatch

`daemon/src/crypto/`. The primitives of third-party crates are parameters (`Primitives`);
`Primitives.Ideal` is what is assumed of them. Over them stand the daemon's own rules: `derive_kek`
with its parameter floors, the `is_legacy_heavy` test, and the decryption of every table, which
picks the cipher by the length of the stored nonce (`openSealed`).
-/

namespace PwdNow.Daemon

open Kit

structure Primitives where
  aesGcm : Aead 12
  xchacha20 : Aead 24
  /-- input, salt, `m_cost`, `t_cost`, `p_cost`; an error is the text of the `map_err` -/
  argon2id : Bytes → Block 32 → UInt32 → UInt32 → UInt32 → Except String (Block 64)
  /-- PBKDF2-HMAC-SHA512: input, salt, iterations -/
  pbkdf2 : Bytes → Block 32 → UInt32 → Block 64
  /-- HKDF-SHA384, no salt: input key, info -/
  hkdfSha384 : Block 32 → Bytes → Block 32
  /-- HKDF-SHA3-512, no salt: output length, input key, info -/
  hkdfSha3 : (len : Nat) → Bytes → Bytes → Block len
  hmacSha384 : Block 32 → Bytes → Bytes
  hmacSha512 : Block 64 → Bytes → Bytes
  /-- keyed BLAKE3 -/
  blake3 : Block 32 → Bytes → Bytes
  sha3 : Bytes → Bytes
  /-- `Uuid::parse_str`, then `to_string`: the canonical text of a UUID -/
  parseUuid : String → Option String

/-- What the proofs assume of the primitives: ideal authenticated encryption, a MAC that is
injective in key and message, and key derivation that does not identify two keys. -/
structure Primitives.Ideal (P : Primitives) : Prop where
  aesGcm : P.aesGcm.Ideal
  xchacha20 : P.xchacha20.Ideal
  hmacSha384 : Function.Injective2 P.hmacSha384
  hkdfSha384 : ∀ info, Function.Injective fun key => P.hkdfSha384 key info

variable (P : Primitives)

/-! ## Key derivation -/

variable {alloc : Except VaultError Unit} {password : Bytes} {yk : Option (Block 20)}
  {salt : Block 32} {params : KdfParams}

structure KdfParams where
  mCost : UInt32
  tCost : UInt32
  pCost : UInt32
  deriving DecidableEq

/-- The password with the YubiKey response behind it. -/
def kdfInput (password : Bytes) (yk : Option (Block 20)) : Bytes :=
  match yk with
  | some response => password ++ response.bytes
  | none => password

/-- `alloc` is what `LockedKey::new` answered: locked memory can run out. -/
def deriveKekArgon2 (alloc : Except VaultError Unit) (password : Bytes)
    (yk : Option (Block 20)) (salt : Block 32) (params : KdfParams) : Result (Block 64) := do
  outcome alloc
  match P.argon2id (kdfInput password yk) salt params.mCost params.tCost params.pCost with
  | .ok key => pure key
  | .error msg => fail (.crypto msg)

def deriveKekPbkdf2 (alloc : Except VaultError Unit) (password : Bytes)
    (yk : Option (Block 20)) (salt : Block 32) (iterations : UInt32) : Result (Block 64) := do
  outcome alloc
  pure (P.pbkdf2 (kdfInput password yk) salt iterations)

/-- `m_cost == 0` selects PBKDF2 with `t_cost` iterations, anything else Argon2id. -/
def deriveKek (alloc : Except VaultError Unit) (password : Bytes) (yk : Option (Block 20))
    (salt : Block 32) (params : KdfParams) : Result (Block 64) :=
  if params.mCost = 0 then
    if params.tCost < 100000 then fail (.crypto "PBKDF2 iterations too low")
    else deriveKekPbkdf2 P alloc password yk salt params.tCost
  else
    if params.mCost < 64 * 1024 ∨ params.tCost = 0 ∨ params.pCost = 0 then
      fail (.crypto "invalid KDF parameters")
    else deriveKekArgon2 P alloc password yk salt params

theorem deriveKek_of_ok {key : Block 64} (h : deriveKek P alloc password yk salt params = .ok key) :
    deriveKek P (.ok ()) password yk salt params = .ok key := by
  cases alloc with
  | ok u => exact h
  | error e =>
    -- with no memory there was no success to begin with
    unfold deriveKek deriveKekArgon2 deriveKekPbkdf2 outcome at h
    split at h
    · split at h <;> simp [fail, bind, Except.bind] at h
    · split at h <;> simp [fail, bind, Except.bind] at h

theorem deriveKek_ne_abort {site : String} :
    deriveKek P alloc password yk salt params ≠ .error (.abort site) := by
  unfold deriveKek deriveKekArgon2 deriveKekPbkdf2
  cases alloc with
  | error e => split_ifs <;> simp [outcome, fail, bind, Except.bind]
  | ok u =>
    split_ifs
    · simp [fail]
    · simp [outcome, bind, Except.bind, pure, Except.pure]
    · simp [fail]
    · simp only [outcome, bind, Except.bind]
      split <;> simp [fail, pure, Except.pure]

/-- `kek_buf.as_bytes()[..32]`. -/
def kekOf (buf : Block 64) : Block 32 := buf.take 32 (by decide)

/-- The old over-provisioned profile, which `unlock_existing` migrates away from. -/
def isLegacyHeavy (params : KdfParams) : Bool :=
  params.mCost ≥ 1024 * 1024 || params.tCost ≥ 4 || params.pCost ≥ 2

/-! ## Derived keys -/

def sqlcipherKey (vmk : Bytes) : Block 32 :=
  P.hkdfSha3 32 vmk (utf8 "vault-sqlcipher-key-v2-sha3-512")

def blindIndexKey (vmk : Bytes) : Block 64 :=
  P.hkdfSha3 64 vmk (utf8 "vault-blind-index-key-v1-sha3-512")

/-! ## Opening a sealed column

`match nonce.len() { 12 => aes_gcm, 24 => xchacha20, _ => Err }` stands in every reader of
the vault; only the key, the associated data and the text for a bad nonce differ. -/

def aesGcmDecrypt (key : Block 32) (ct : Bytes) (nonce : Block 12) (aad : Bytes) :
    Result Bytes :=
  okOr (P.aesGcm.decrypt key nonce aad ct) (.crypto "aes-gcm decrypt failed")

def xchachaDecrypt (key : Block 32) (ct : Bytes) (nonce : Block 24) (aad : Bytes) :
    Result Bytes :=
  okOr (P.xchacha20.decrypt key nonce aad ct) (.crypto "decrypt failed")

def openSealed (key : Block 32) (ct nonce aad : Bytes) (badNonce : VaultError) : Result Bytes :=
  match Block.ofBytes 12 nonce with
  | some nonce => aesGcmDecrypt P key ct nonce aad
  | none =>
    match Block.ofBytes 24 nonce with
    | some nonce => xchachaDecrypt P key ct nonce aad
    | none => fail badNonce

variable {P} {key key' : Block 32} {ct nonce aad pt pt' : Bytes}

theorem aesGcmDecrypt_eq_ok {nonce : Block 12} :
    aesGcmDecrypt P key ct nonce aad = .ok pt ↔ P.aesGcm.decrypt key nonce aad ct = some pt :=
  okOr_eq_ok

theorem xchachaDecrypt_eq_ok {nonce : Block 24} :
    xchachaDecrypt P key ct nonce aad = .ok pt ↔ P.xchacha20.decrypt key nonce aad ct = some pt :=
  okOr_eq_ok

section

variable (hP : P.Ideal)
include hP

theorem aesGcmDecrypt_key_unique {nonce : Block 12} (h : aesGcmDecrypt P key ct nonce aad = .ok pt)
    (h' : aesGcmDecrypt P key' ct nonce aad = .ok pt') : key = key' :=
  (hP.aesGcm.key_unique (aesGcmDecrypt_eq_ok.mp h) (aesGcmDecrypt_eq_ok.mp h')).1

theorem xchachaDecrypt_key_unique {nonce : Block 24}
    (h : xchachaDecrypt P key ct nonce aad = .ok pt)
    (h' : xchachaDecrypt P key' ct nonce aad = .ok pt') : key = key' :=
  (hP.xchacha20.key_unique (xchachaDecrypt_eq_ok.mp h) (xchachaDecrypt_eq_ok.mp h')).1

/-- **A sealed column opens under one key.** The nonce decides the cipher for both
openings, so they compare within one scheme. -/
theorem openSealed_key_unique {bad : VaultError} (h : openSealed P key ct nonce aad bad = .ok pt)
    (h' : openSealed P key' ct nonce aad bad = .ok pt') : key = key' := by
  unfold openSealed at h h'
  split at h
  · next n hn =>
    rw [hn] at h'
    exact aesGcmDecrypt_key_unique hP h h'
  · next hn =>
    rw [hn] at h'
    split at h
    · next m hm =>
      simp only [hm] at h'
      exact xchachaDecrypt_key_unique hP h h'
    · simp [fail] at h

/-- **What was sealed with AES-GCM and stored with its nonce** opens under its own key and
associated data only. -/
theorem openSealed_encrypt_iff {aad' : Bytes} (nonce : Block 12) (bad : VaultError) :
    openSealed P key' (P.aesGcm.encrypt key nonce aad pt) nonce.bytes aad' bad = .ok pt' ↔
      key' = key ∧ aad' = aad ∧ pt' = pt := by
  have hopen : openSealed P key' (P.aesGcm.encrypt key nonce aad pt) nonce.bytes aad' bad =
      aesGcmDecrypt P key' (P.aesGcm.encrypt key nonce aad pt) nonce aad' := by
    rw [openSealed, Block.ofBytes_bytes]
  rw [hopen, aesGcmDecrypt_eq_ok, hP.aesGcm.decrypt_eq_some]
  constructor
  · intro h
    obtain ⟨hkey, -, haad, hpt⟩ := hP.aesGcm.encrypt_inj _ _ _ _ _ _ _ _ h
    exact ⟨hkey.symm, haad.symm, hpt.symm⟩
  · rintro ⟨rfl, rfl, rfl⟩
    rfl

theorem openSealed_encrypt (nonce : Block 12) (bad : VaultError) :
    openSealed P key (P.aesGcm.encrypt key nonce aad pt) nonce.bytes aad bad = .ok pt :=
  (openSealed_encrypt_iff hP nonce bad).mpr ⟨rfl, rfl, rfl⟩

theorem openSealed_wrong_key (hne : key' ≠ key) (nonce : Block 12) (bad : VaultError) :
    openSealed P key' (P.aesGcm.encrypt key nonce aad pt) nonce.bytes aad bad =
      fail (.crypto "aes-gcm decrypt failed") := by
  have hnone : P.aesGcm.decrypt key' nonce aad (P.aesGcm.encrypt key nonce aad pt) = none := by
    cases hopen : P.aesGcm.decrypt key' nonce aad (P.aesGcm.encrypt key nonce aad pt) with
    | none => rfl
    | some pt' =>
      exact absurd (hP.aesGcm.key_unique hopen (hP.aesGcm.decrypt_encrypt _ _ _ _)).1 hne
  simp [openSealed, aesGcmDecrypt, okOr, hnone]

end

end PwdNow.Daemon
