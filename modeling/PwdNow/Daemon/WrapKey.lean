import PwdNow.Daemon.VmkCopies

/-!
# Daemon — the key that wraps a passkey's copy of the VMK

`derive_vmk_wrap_key` of `daemon/src/auth/fido2.rs`, between `register_fido2` and
`unlock_with_passkey`. Everything in the key comes from the first 33 bytes of the authenticator data
and from the header.
-/

namespace PwdNow.Daemon

open Kit Kit.Fallible List

/-- The flags as they go into the key: all bits but AT. -/
def keyFlags (authData : Bytes) : UInt8 := authData.getD 32 0 &&& 0xBF

/-- Behind one relying party's hash, HKDF does not identify two flags bytes. -/
def SeparatesFlags (W : Webauthn) : Prop :=
  ∀ salt rpIdHash info, Function.Injective fun flags : UInt8 =>
    W.hkdfSha3 salt (rpIdHash ++ [flags]) info

variable {P : Primitives} {J : Serde} {W : Webauthn} {env : Env} {s t : DaemonState}
  {authData cid pubKeyCbor : Bytes} {vmk : Block 32}

theorem deriveVmkWrapKey_of_length (h : 33 ≤ authData.length) (cid : Bytes) (suite : UInt8) :
    deriveVmkWrapKey W authData cid suite =
      .ok (W.hkdfSha3 cid (authData.take 32 ++ [keyFlags authData]) (wrapKeyInfo suite)) := by
  rw [deriveVmkWrapKey, if_neg (by omega)]
  rfl

variable {suite : UInt8} {wrapKey : Block 32}

theorem length_of_deriveVmkWrapKey (h : deriveVmkWrapKey W authData cid suite = .ok wrapKey) :
    33 ≤ authData.length := by
  unfold deriveVmkWrapKey at h
  split at h
  · cases h
  · omega

variable {authData' : Bytes}

theorem deriveVmkWrapKey_eq_iff (hkdf : SeparatesFlags W) (h : 33 ≤ authData.length)
    (h' : 33 ≤ authData'.length) (hrp : authData'.take 32 = authData.take 32) (cid : Bytes)
    (suite : UInt8) :
    deriveVmkWrapKey W authData cid suite = deriveVmkWrapKey W authData' cid suite ↔
      keyFlags authData = keyFlags authData' := by
  rw [deriveVmkWrapKey_of_length h, deriveVmkWrapKey_of_length h', hrp]
  constructor
  · intro hkeys
    exact hkdf cid (authData.take 32) (wrapKeyInfo suite) (Except.ok.inj hkeys)
  · intro hflags
    rw [hflags]

theorem length_of_verifyAssertion {publicKey : Bytes} {a : Assertion} {rpId : String}
    (h : verifyAssertion W publicKey a rpId true = .ok ()) : 33 ≤ a.authData.length := by
  by_contra hshort
  have hlen : a.authData.length < 33 := by omega
  simp [verifyAssertion, hlen, fail] at h

/-! ## What `register_fido2` stores -/

variable {key : Block 32} {entry : PasskeySidecarEntry} {header : VaultHeader}

theorem registerPasskey_eq_ok
    (h : registerPasskey P J W env authData cid pubKeyCbor s = (.ok (), t)) :
    ∃ header vmk wrapKey, s.disk.sidecar = some (.ok header) ∧ s.vmk = some vmk ∧
      deriveVmkWrapKey W authData cid header.kemSuite = .ok wrapKey ∧
      t.disk.sidecar =
        some (.ok ((header.withPasskey P env wrapKey vmk cid pubKeyCbor).stamped P J s.vmk)) := by
  simp only [registerPasskey, addPasskeyToSidecar, bind_eq_ok, readHeader_eq_ok, lift_eq_ok,
    reads_eq_ok, require_eq_ok, writeHeader_eq_ok, okOr_eq_ok] at h
  obtain ⟨header, _, ⟨-, hs, rfl⟩, wrapKey, _, ⟨hkey, rfl⟩, vmk, _, ⟨hvmk, rfl⟩, header', _,
    ⟨-, hs', rfl⟩, _, _, ⟨-, rfl⟩, -, -, rfl⟩ := h
  rw [hs] at hs'
  cases hs'
  exact ⟨header, vmk, wrapKey, hs, hvmk, hkey, rfl⟩

/-- The entry of a passkey whose copy of `vmk` is sealed under `wrapKey`. -/
def Wraps (P : Primitives) (wrapKey vmk : Block 32) (entry : PasskeySidecarEntry) : Prop :=
  ∃ nonce : Block 24, entry.vmkCopyNonce = hexEncode nonce.bytes ∧ entry.encryptedVmkCopy =
      hexEncode (P.xchacha20.encrypt wrapKey nonce passkeyVmkAad vmk.bytes)

/-- **What is enrolled.** The new entry is the last of the header, and the first with its id. -/
theorem registered_entry (hvmk : s.vmk = some vmk)
    (h : registerPasskey P J W env authData cid pubKeyCbor s = (.ok (), t)) :
    ∃ header entry wrapKey, t.disk.sidecar = some (.ok header) ∧
      header.passkeyCredentials.find? (·.credentialIdHex = hexEncode cid) = some entry ∧
      header.passkeyCredentials.getLast? = some entry ∧ entry.credentialIdHex = hexEncode cid ∧
      deriveVmkWrapKey W authData cid header.kemSuite = .ok wrapKey ∧ Wraps P wrapKey vmk entry := by
  obtain ⟨header, vmk', wrapKey, -, hvmk', hkey, ht⟩ := registerPasskey_eq_ok h
  rw [hvmk] at hvmk'
  cases hvmk'
  rw [hvmk] at ht
  refine ⟨_, _, wrapKey, ht, ?_, getLast?_concat, rfl, hkey, env.passkeyNonce, rfl, rfl⟩
  -- the entries before it have other ids
  have hothers : (header.passkeyCredentials.filter (·.credentialIdHex ≠ hexEncode cid)).find?
      (·.credentialIdHex = hexEncode cid) = none := by
    rw [find?_eq_none]
    intro entry hentry
    have hid := (mem_filter.mp hentry).2
    simpa using hid
  show find? _ (header.passkeyCredentials.filter (·.credentialIdHex ≠ hexEncode cid) ++ _) = _
  rw [find?_append, hothers]
  simp

theorem openSealed_wraps_iff (hP : P.Ideal) (h : Wraps P wrapKey vmk entry) {ct nonce pt : Bytes}
    (hct : hexDecode entry.encryptedVmkCopy = some ct)
    (hnonce : hexDecode entry.vmkCopyNonce = some nonce) {bad : VaultError} :
    openSealed P key ct nonce passkeyVmkAad bad = .ok pt ↔ key = wrapKey ∧ pt = vmk.bytes := by
  obtain ⟨nonce', hnonce', hct'⟩ := h
  rw [hct', hexDecode_hexEncode] at hct
  rw [hnonce', hexDecode_hexEncode] at hnonce
  cases hct
  cases hnonce
  -- a nonce of 24 bytes selects XChaCha20
  have hlen : Block.ofBytes 12 nonce'.bytes = none := by
    simp [Block.ofBytes]
  simp only [openSealed, hlen, Block.ofBytes_bytes, xchachaDecrypt_eq_ok]
  rw [hP.xchacha20.decrypt_eq_some]
  constructor
  · intro hsealed
    obtain ⟨hkey, -, -, hpt⟩ := hP.xchacha20.encrypt_inj _ _ _ _ _ _ _ _ hsealed
    exact ⟨hkey.symm, hpt.symm⟩
  · rintro ⟨rfl, rfl⟩
    rfl

theorem openPasskeyCopy_wraps_iff (hP : P.Ideal) (h : Wraps P wrapKey vmk entry)
    (hkey : deriveVmkWrapKey W authData' cid suite = .ok key) :
    openPasskeyCopy P W suite entry authData' cid = .ok vmk.bytes ↔ key = wrapKey := by
  obtain ⟨nonce, hnonce, hct⟩ := id h
  have hiff : openSealed P key (P.xchacha20.encrypt wrapKey nonce passkeyVmkAad vmk.bytes)
      nonce.bytes passkeyVmkAad (.crypto "nonce len") = .ok vmk.bytes ↔
        key = wrapKey ∧ vmk.bytes = vmk.bytes :=
    openSealed_wraps_iff hP h (by rw [hct, hexDecode_hexEncode])
      (by rw [hnonce, hexDecode_hexEncode])
  simpa [openPasskeyCopy, hkey, hct, hnonce, okOr, bind, Except.bind] using hiff

/-! ## Registration and assertion -/

theorem registered_opens_iff (hP : P.Ideal) (hkdf : SeparatesFlags W) (hvmk : s.vmk = some vmk)
    (hreg : registerPasskey P J W env authData cid pubKeyCbor s = (.ok (), t))
    (h' : 33 ≤ authData'.length) (hrp : authData'.take 32 = authData.take 32) :
    ∃ header entry, t.disk.sidecar = some (.ok header) ∧
      header.passkeyCredentials.find? (·.credentialIdHex = hexEncode cid) = some entry ∧
      (deriveVmkWrapKey W authData cid header.kemSuite =
          deriveVmkWrapKey W authData' cid header.kemSuite ↔
        keyFlags authData = keyFlags authData') ∧
      (openPasskeyCopy P W header.kemSuite entry authData' cid = .ok vmk.bytes ↔
        keyFlags authData = keyFlags authData') := by
  obtain ⟨header, entry, wrapKey, ht, hfind, -, -, hkey, hwraps⟩ := registered_entry hvmk hreg
  have hkeys := deriveVmkWrapKey_eq_iff hkdf (length_of_deriveVmkWrapKey hkey) h' hrp cid
    header.kemSuite
  have hkey' := deriveVmkWrapKey_of_length (W := W) h' cid header.kemSuite
  refine ⟨header, entry, ht, hfind, hkeys, ?_⟩
  rw [openPasskeyCopy_wraps_iff hP hwraps hkey', ← hkeys, hkey, hkey']
  constructor
  · intro hsame
    rw [hsame]
  · intro hsame
    exact (Except.ok.inj hsame).symm

/-- **When an enrolled passkey can unlock.** After a registration, a verified assertion for the same
credential and relying party's hash derives the key of the registration, and opens the stored copy,
exactly when the two flags bytes agree in every bit but AT. -/
theorem openPasskeyCopy_registered_iff (hP : P.Ideal) (hkdf : SeparatesFlags W)
    (hvmk : s.vmk = some vmk)
    (hreg : registerPasskey P J W env authData cid pubKeyCbor s = (.ok (), t)) {a : Assertion}
    {publicKey : Bytes} {rpId : String}
    (hverify : verifyAssertion W publicKey a rpId true = .ok ()) (hcid : a.cid = cid)
    (hrp : a.authData.take 32 = authData.take 32) :
    ∃ header entry, t.disk.sidecar = some (.ok header) ∧
      header.passkeyCredentials.find? (·.credentialIdHex = hexEncode a.cid) = some entry ∧
      (deriveVmkWrapKey W authData a.cid header.kemSuite =
          deriveVmkWrapKey W a.authData a.cid header.kemSuite ↔
        keyFlags authData = keyFlags a.authData) ∧
      (openPasskeyCopy P W header.kemSuite entry a.authData a.cid = .ok vmk.bytes ↔
        keyFlags authData = keyFlags a.authData) := by
  subst hcid
  exact registered_opens_iff hP hkdf hvmk hreg (length_of_verifyAssertion hverify) hrp

/-! ### On the symbolic vault -/

/-- HKDF with the last byte of its input first. -/
def flagsWebauthn : Webauthn :=
  { symbolicWebauthn with hkdfSha3 := fun salt key _ => padTo 32 (key.reverse ++ salt) }

theorem flagsWebauthn_separates : SeparatesFlags flagsWebauthn := by
  intro salt rpIdHash info flags flags' h
  have hbytes : (flagsWebauthn.hkdfSha3 salt (rpIdHash ++ [flags]) info).bytes =
      (flagsWebauthn.hkdfSha3 salt (rpIdHash ++ [flags']) info).bytes := congrArg Block.bytes h
  have hhead := congrArg head? hbytes
  simpa [flagsWebauthn, padTo, Block.bytes] using hhead

/-- Authenticator data of the relying party `localhost` with the given flags. -/
def localAuthData (flags : UInt8) : Bytes :=
  (flagsWebauthn.sha256 (utf8 "localhost")).bytes ++ [flags, 0, 0, 0, 1]

theorem localAuthData_take (flags : UInt8) :
    (localAuthData flags).take 32 = (flagsWebauthn.sha256 (utf8 "localhost")).bytes := rfl

theorem localAuthData_flags (flags : UInt8) : keyFlags (localAuthData flags) = flags &&& 0xBF := rfl

/-- An assertion with user presence and user verification. -/
def localAssertion : Assertion where
  cid := [7]
  authData := localAuthData 0x05
  signature := [9]
  clientDataJson := []

theorem localAssertion_verified :
    verifyAssertion flagsWebauthn [9] localAssertion "localhost" true = .ok () := rfl

/-- A vault without passkeys, unlocked. -/
def passkeyVault : DaemonState := openedVault (spelledHeader (utf8 "password") 0) symbolicDb

theorem passkeyVault_registers (flags : UInt8) :
    ∃ t, registerPasskey symbolic spelledSerde flagsWebauthn (symbolicEnv 2 2) (localAuthData flags)
      [7] [9] passkeyVault = (.ok (), t) := ⟨_, rfl⟩

theorem openPasskeyCopy_registered_iff_verified :
    ∃ t, registerPasskey symbolic spelledSerde flagsWebauthn (symbolicEnv 2 2) (localAuthData 0x45)
        [7] [9] passkeyVault = (.ok (), t) ∧
      ∃ header entry, t.disk.sidecar = some (.ok header) ∧
        header.passkeyCredentials.find? (·.credentialIdHex = hexEncode [7]) = some entry ∧
        openPasskeyCopy symbolic flagsWebauthn header.kemSuite entry (localAuthData 0x05) [7] =
          .ok symbolicVmk.bytes := by
  obtain ⟨t, hreg⟩ := passkeyVault_registers 0x45
  obtain ⟨header, entry, ht, hfind, -, hopen⟩ :=
    openPasskeyCopy_registered_iff symbolic_ideal flagsWebauthn_separates
      (show passkeyVault.vmk = some symbolicVmk from rfl) hreg localAssertion_verified rfl
      (by rw [localAuthData_take]; exact localAuthData_take 0x05)
  refine ⟨t, hreg, header, entry, ht, hfind, hopen.mpr ?_⟩
  show keyFlags (localAuthData 0x45) = keyFlags (localAuthData 0x05)
  rw [localAuthData_flags, localAuthData_flags]
  decide

/-- Registered without user verification (flags `0x41`), asserted with it (`0x05`): another key, and
the copy does not open. -/
theorem unverified_registration_locked_out :
    ∃ t, registerPasskey symbolic spelledSerde flagsWebauthn (symbolicEnv 2 2) (localAuthData 0x41)
        [7] [9] passkeyVault = (.ok (), t) ∧
      verifyAssertion flagsWebauthn [9] localAssertion "localhost" true = .ok () ∧
      localAssertion.authData.take 32 = (localAuthData 0x41).take 32 ∧
      ∃ header entry, t.disk.sidecar = some (.ok header) ∧
        header.passkeyCredentials.find? (·.credentialIdHex = hexEncode [7]) = some entry ∧
        deriveVmkWrapKey flagsWebauthn (localAuthData 0x41) [7] header.kemSuite ≠
          deriveVmkWrapKey flagsWebauthn localAssertion.authData [7] header.kemSuite ∧
        openPasskeyCopy symbolic flagsWebauthn header.kemSuite entry localAssertion.authData [7] ≠
          .ok symbolicVmk.bytes := by
  obtain ⟨t, hreg⟩ := passkeyVault_registers 0x41
  have hrp : localAssertion.authData.take 32 = (localAuthData 0x41).take 32 := by
    rw [localAuthData_take]
    exact localAuthData_take 0x05
  have hflags : keyFlags (localAuthData 0x41) ≠ keyFlags localAssertion.authData := by
    show keyFlags (localAuthData 0x41) ≠ keyFlags (localAuthData 0x05)
    rw [localAuthData_flags, localAuthData_flags]
    decide
  obtain ⟨header, entry, ht, hfind, hkeys, hopen⟩ :=
    registered_opens_iff symbolic_ideal flagsWebauthn_separates
      (show passkeyVault.vmk = some symbolicVmk from rfl) hreg
      (length_of_verifyAssertion localAssertion_verified) hrp
  refine ⟨t, hreg, localAssertion_verified, hrp, header, entry, ht, hfind, ?_, ?_⟩
  · exact fun hsame => hflags (hkeys.mp hsame)
  · exact fun hsame => hflags (hopen.mp hsame)

/-! ## What the sidecar gives away -/

/-- The wrapping key, from what the header and the relying party's id tell. -/
def publicWrapKey (W : Webauthn) (rpId : String) (cid : Bytes) (suite flags : UInt8) : Block 32 :=
  W.hkdfSha3 cid ((W.sha256 (utf8 rpId)).bytes ++ [flags]) (wrapKeyInfo suite)

/-- The last passkey of a header, tried with every flags byte. -/
def vmkFromSidecar (P : Primitives) (W : Webauthn) (header : VaultHeader) (rpId : String) :
    Option Bytes := do
  let entry ← header.passkeyCredentials.getLast?
  let cid ← hexDecode entry.credentialIdHex
  let ct ← hexDecode entry.encryptedVmkCopy
  let nonce ← hexDecode entry.vmkCopyNonce
  (range 256).findSome? fun flags =>
    (openSealed P (publicWrapKey W rpId cid header.kemSuite (UInt8.ofNat flags)) ct nonce
      passkeyVmkAad (.crypto "nonce len")).toOption

/-- HKDF tells the two hashes apart, whatever flags follow. -/
def SeparatesHashes (W : Webauthn) (cid hash hash' : Bytes) : Prop :=
  ∀ flags flags' suite, W.hkdfSha3 cid (hash ++ [flags]) (wrapKeyInfo suite) =
    W.hkdfSha3 cid (hash' ++ [flags']) (wrapKeyInfo suite) → hash = hash'

theorem vmkFromSidecar_eq_iff (hP : P.Ideal)
    (hlast : header.passkeyCredentials.getLast? = some entry)
    (hcid : entry.credentialIdHex = hexEncode cid) (hwraps : Wraps P wrapKey vmk entry)
    (rpId : String) :
    vmkFromSidecar P W header rpId = some vmk.bytes ↔
      ∃ flags, publicWrapKey W rpId cid header.kemSuite flags = wrapKey := by
  obtain ⟨nonce, hnonce, hct⟩ := id hwraps
  -- what a trial yields
  have htrial : ∀ key pt, openSealed P key
      (P.xchacha20.encrypt wrapKey nonce passkeyVmkAad vmk.bytes) nonce.bytes passkeyVmkAad
      (.crypto "nonce len") = .ok pt ↔ key = wrapKey ∧ pt = vmk.bytes := by
    intro key pt
    exact openSealed_wraps_iff hP hwraps (by rw [hct, hexDecode_hexEncode])
      (by rw [hnonce, hexDecode_hexEncode])
  have hopen : ∀ key pt, (openSealed P key
      (P.xchacha20.encrypt wrapKey nonce passkeyVmkAad vmk.bytes) nonce.bytes passkeyVmkAad
      (.crypto "nonce len")).toOption = some pt ↔ key = wrapKey ∧ pt = vmk.bytes := by
    intro key pt
    rw [← htrial key pt]
    cases openSealed P key (P.xchacha20.encrypt wrapKey nonce passkeyVmkAad vmk.bytes) nonce.bytes
      passkeyVmkAad (.crypto "nonce len") <;> simp [Except.toOption]
  have hrun : vmkFromSidecar P W header rpId = (range 256).findSome? fun flags =>
      (openSealed P (publicWrapKey W rpId cid header.kemSuite (UInt8.ofNat flags))
        (P.xchacha20.encrypt wrapKey nonce passkeyVmkAad vmk.bytes) nonce.bytes
        passkeyVmkAad (.crypto "nonce len")).toOption := by
    simp [vmkFromSidecar, hlast, hcid, hct, hnonce]
  rw [hrun]
  constructor
  · intro hfound
    obtain ⟨flags, -, hflags⟩ := exists_of_findSome?_eq_some hfound
    exact ⟨UInt8.ofNat flags, ((hopen _ _).mp hflags).1⟩
  · rintro ⟨flags, hflags⟩
    have hmem : flags.toNat ∈ range 256 := mem_range.mpr flags.toNat_lt
    have hsome : ((range 256).findSome? fun flags =>
        (openSealed P (publicWrapKey W rpId cid header.kemSuite (UInt8.ofNat flags))
          (P.xchacha20.encrypt wrapKey nonce passkeyVmkAad vmk.bytes) nonce.bytes
          passkeyVmkAad (.crypto "nonce len")).toOption).isSome := by
      rw [findSome?_isSome_iff]
      refine ⟨flags.toNat, hmem, ?_⟩
      rw [UInt8.ofNat_toNat, (hopen _ vmk.bytes).mpr ⟨hflags, rfl⟩]
      rfl
    obtain ⟨pt, hpt⟩ := Option.isSome_iff_exists.mp hsome
    obtain ⟨flags', -, hflags'⟩ := exists_of_findSome?_eq_some hpt
    rw [hpt, ((hopen _ _).mp hflags').2]

/-- **What a stolen sidecar gives away.** 256 derivations from the header and the relying party's id
yield the VMK exactly when the authenticator data of the registration begins with the hash of that
id, as that of every authenticator does. -/
theorem vmkFromSidecar_registered_iff (hP : P.Ideal) (hvmk : s.vmk = some vmk) {rpId : String}
    (hkdf : SeparatesHashes W cid (authData.take 32) (W.sha256 (utf8 rpId)).bytes)
    (hreg : registerPasskey P J W env authData cid pubKeyCbor s = (.ok (), t)) :
    ∃ header, t.disk.sidecar = some (.ok header) ∧
      (vmkFromSidecar P W header rpId = some vmk.bytes ↔
        authData.take 32 = (W.sha256 (utf8 rpId)).bytes) := by
  obtain ⟨header, entry, wrapKey, ht, -, hlast, hcid, hkey, hwraps⟩ := registered_entry hvmk hreg
  refine ⟨header, ht, ?_⟩
  rw [vmkFromSidecar_eq_iff hP hlast hcid hwraps]
  rw [deriveVmkWrapKey_of_length (length_of_deriveVmkWrapKey hkey)] at hkey
  cases hkey
  constructor
  · rintro ⟨flags, hflags⟩
    exact hkdf _ _ _ hflags.symm
  · intro hhash
    exact ⟨keyFlags authData, by rw [publicWrapKey, hhash]⟩

theorem vmkFromSidecar_registered_iff_local :
    ∃ t, registerPasskey symbolic spelledSerde flagsWebauthn (symbolicEnv 2 2) (localAuthData 0x41)
        [7] [9] passkeyVault = (.ok (), t) ∧
      ∃ header, t.disk.sidecar = some (.ok header) ∧
        vmkFromSidecar symbolic flagsWebauthn header "localhost" = some symbolicVmk.bytes := by
  obtain ⟨t, hreg⟩ := passkeyVault_registers 0x41
  have hkdf : SeparatesHashes flagsWebauthn [7] ((localAuthData 0x41).take 32)
      (flagsWebauthn.sha256 (utf8 "localhost")).bytes :=
    fun _ _ _ _ => localAuthData_take 0x41
  obtain ⟨header, ht, hiff⟩ := vmkFromSidecar_registered_iff symbolic_ideal
    (show passkeyVault.vmk = some symbolicVmk from rfl) hkdf hreg
  exact ⟨t, hreg, header, ht, hiff.mpr (localAuthData_take 0x41)⟩

/-- A function of the header and the relying party's id that yields the VMK after every enrolment
with that relying party, of which there are. -/
theorem sidecar_reveals_vmk :
    ∃ f : VaultHeader → String → Option Bytes,
      (∀ (env : Env) (s t : DaemonState) (vmk : Block 32) (authData cid pubKeyCbor : Bytes)
        (rpId : String), s.vmk = some vmk →
          authData.take 32 = (flagsWebauthn.sha256 (utf8 rpId)).bytes →
          registerPasskey symbolic spelledSerde flagsWebauthn env authData cid pubKeyCbor s =
            (.ok (), t) →
          ∃ header, t.disk.sidecar = some (.ok header) ∧ f header rpId = some vmk.bytes) ∧
      (localAuthData 0x41).take 32 = (flagsWebauthn.sha256 (utf8 "localhost")).bytes ∧
      ∃ t, registerPasskey symbolic spelledSerde flagsWebauthn (symbolicEnv 2 2)
        (localAuthData 0x41) [7] [9] passkeyVault = (.ok (), t) := by
  refine ⟨vmkFromSidecar symbolic flagsWebauthn, ?_, localAuthData_take 0x41,
    passkeyVault_registers 0x41⟩
  intro env s t vmk authData cid pubKeyCbor rpId hvmk hhash hreg
  obtain ⟨header, entry, wrapKey, ht, -, hlast, hcid, hkey, hwraps⟩ := registered_entry hvmk hreg
  refine ⟨header, ht, (vmkFromSidecar_eq_iff symbolic_ideal hlast hcid hwraps rpId).mpr ?_⟩
  rw [deriveVmkWrapKey_of_length (length_of_deriveVmkWrapKey hkey)] at hkey
  exact ⟨keyFlags authData, by rw [publicWrapKey, ← hhash]; exact Except.ok.inj hkey⟩

end PwdNow.Daemon
