import PwdNow.Daemon.Unlock

/-!
# Daemon — challenges, assertions and unlocking with a passkey

`unlock_with_passkey`, `add_passkey_to_sidecar` and the challenge store of
`daemon/src/vault/state.rs`, with `verify_assertion` and `derive_vmk_wrap_key` of
`daemon/src/auth/fido2.rs`. What third-party crates answer is a parameter, `Webauthn`.
-/

namespace PwdNow.Daemon

open Kit Kit.Fallible

/-- The fields of `clientDataJSON` that are read; each may be missing or of another type. -/
structure ClientData where
  type : Option String
  crossOrigin : Option Bool
  challenge : Option String
  deriving DecidableEq

structure Webauthn where
  /-- `serde_json::from_slice`; `none` if it is no JSON -/
  parseClientData : Bytes → Option ClientData
  /-- base64, `URL_SAFE_NO_PAD` -/
  decodeBase64 : String → Option Bytes
  sha256 : Bytes → Block 32
  /-- libfido2: public key, authData, signature, clientDataHash, relying party, whether user
  verification is required -/
  assertVerify : Bytes → Bytes → Bytes → Block 32 → String → Bool → Bool
  /-- HKDF-SHA3-512: salt, input key, info -/
  hkdfSha3 : Bytes → Bytes → Bytes → Block 32

variable (P : Primitives) (J : Serde) (W : Webauthn)

/-! ## Challenges -/

/-- Ten minutes, and at most a thousand at a time. -/
def newBiometricChallenge (env : Env) : Call (Block 32) := do
  modify fun s =>
    let live := s.challenges.filter fun c => env.challengeAt < c.2
    { s with challenges :=
        if live.length < 1000 then
          live.filter (·.1 ≠ env.challenge) ++ [(env.challenge, env.challengeAt + fromSecs 600)]
        else live }
  pure env.challenge

/-- A challenge is spent by looking it up, also when it has expired. -/
def consumeChallenge (env : Env) (chal : Block 32) : Call Unit := do
  let live ← gets fun s => s.challenges.any fun c => c.1 = chal && env.challengeAt < c.2
  modify fun s => { s with challenges := s.challenges.filter (·.1 ≠ chal) }
  require live (.auth "challenge invalid or expired")

/-- `trim_end_matches('=')`. -/
def trimPadding (text : String) : String := String.ofList (text.toList.rdropWhile (· = '='))

/-- The challenge that `clientDataJSON` names. -/
def clientChallenge (clientDataJson : Bytes) : Call (Block 32) := do
  let cdata ← lift (okOr (W.parseClientData clientDataJson) (.auth "invalid clientDataJSON"))
  require (cdata.type.getD "" = "webauthn.get") (.auth "invalid clientDataJSON type")
  require (!cdata.crossOrigin.getD false) (.auth "cross-origin passkey assertion not allowed")
  let chalB64 ← lift (okOr cdata.challenge (.auth "missing challenge"))
  let chal ← lift (okOr (W.decodeBase64 (trimPadding chalB64)) (.auth "invalid challenge b64"))
  lift (okOr (Block.ofBytes 32 chal) (.auth "invalid challenge length"))

/-! ## Assertions -/

/-- An assertion as it comes with a request. -/
structure Assertion where
  cid : Bytes
  authData : Bytes
  signature : Bytes
  clientDataJson : Bytes

/-- User verification is read off the flags before libfido2 is asked. -/
def verifyAssertion (publicKey : Bytes) (a : Assertion) (rpId : String) (requireUv : Bool) :
    Result Unit :=
  if requireUv ∧ a.authData.length < 33 then fail (.auth "invalid auth_data length")
  else if requireUv ∧ a.authData.getD 32 0 &&& 0x04 = 0 then
    fail (.auth "User Verification (UV) required but not present")
  else if W.assertVerify publicKey a.authData a.signature (W.sha256 a.clientDataJson) rpId requireUv
    then .ok ()
  else fail (.auth "fido_assert_verify")

/-- The callers replace the error by one of their own. -/
def checkAssertion (publicKey : Bytes) (a : Assertion) (e : VaultError) : Result Unit :=
  match verifyAssertion W publicKey a "localhost" true with
  | .ok () => .ok ()
  | .error _ => fail e

/-- The `info` of the wrapping key, by KEM suite. -/
def wrapKeyInfo (suite : UInt8) : Bytes :=
  if suite = 3 then utf8 "vault-passkey-vmk-v3-l5-sha3-512"
  else if suite = 2 then utf8 "vault-passkey-vmk-v2-l5"
  else if suite = 1 then utf8 "vault-passkey-vmk-v2-hybrid768"
  else utf8 "vault-passkey-vmk-v1"

/-- The relying party's hash and the flags, without the bit that only a registration sets. -/
def deriveVmkWrapKey (authData cid : Bytes) (suite : UInt8) : Result (Block 32) :=
  if authData.length < 33 then fail (.auth "authData too short for VMK derivation")
  else .ok (W.hkdfSha3 cid (authData.take 32 ++ [authData.getD 32 0 &&& 0xBF]) (wrapKeyInfo suite))

/-- `u32::from_be_bytes`. -/
def u32FromBeBytes (bytes : Bytes) : UInt32 := bytes.foldl (fun n x => n * 256 + x.toUInt32) 0

/-- A counter that went back means a cloned authenticator; the answer is the counter to store. -/
def checkSignCount (authData : Bytes) (stored : UInt32) : Result (Option UInt32) :=
  if 37 ≤ authData.length then
    let newCount := u32FromBeBytes ((authData.drop 33).take 4)
    if newCount > 0 ∧ newCount ≤ stored then
      fail (.auth "signature counter regression - cloned authenticator detected")
    else .ok (if newCount > stored then some newCount else none)
  else .ok none

/-! ## The copy of the VMK -/

def passkeyVmkAad : Bytes := utf8 "passkey-vmk-aad-v1"

/-- What the copy in a sidecar entry holds under the key of the authenticator. -/
def openPasskeyCopy (suite : UInt8) (entry : PasskeySidecarEntry) (authData cid : Bytes) :
    Result Bytes := do
  let wrapKey ← deriveVmkWrapKey W authData cid suite
  let ct ← okOr (hexDecode entry.encryptedVmkCopy) (.crypto "hex")
  let nonce ← okOr (hexDecode entry.vmkCopyNonce) (.crypto "hex")
  openSealed P wrapKey ct nonce passkeyVmkAad (.crypto "nonce len")

def addPasskeyToSidecar (env : Env) (cid encVmk nonce pubKeyCbor : Bytes) : Call Unit := do
  let header ← readHeader env .request
  let others := header.passkeyCredentials.filter (·.credentialIdHex ≠ hexEncode cid)
  require (others.length < 16) (.auth "too many passkeys registered (max 16)")
  writeHeader P J env .request { header with passkeyCredentials := others ++
        [{ credentialIdHex := hexEncode cid
           encryptedVmkCopy := hexEncode encVmk
           vmkCopyNonce := hexEncode nonce
           pubKeyCborHex := some (hexEncode pubKeyCbor)
           signCount := 0 }] }

/-- What `register_fido2` does with a resident key once the authenticator has answered. -/
def registerPasskey (env : Env) (authData cid pubKeyCbor : Bytes) : Call Unit := do
  let header ← readHeader env .request
  let wrapKey ← lift (deriveVmkWrapKey W authData cid header.kemSuite)
  let vmk ← reads fun s => okOr s.vmk (.auth "locked")
  addPasskeyToSidecar P J env cid
    (P.xchacha20.encrypt wrapKey env.passkeyNonce passkeyVmkAad vmk.bytes) env.passkeyNonce.bytes
    pubKeyCbor

/-- The first entry with that id gets the counter. -/
def setSignCount (cidHex : String) (count : UInt32) :
    List PasskeySidecarEntry → List PasskeySidecarEntry
  | [] => []
  | e :: es =>
    if e.credentialIdHex = cidHex then { e with signCount := count } :: es
    else e :: setSignCount cidHex count es

/-- The counter is stored once the VMK is in memory; errors are ignored. -/
def updateSignCount (env : Env) (cidHex : String) (newCount : Option UInt32) : Call Unit :=
  match newCount with
  | none => pure ()
  | some count => do
    match (← attemptErr (readHeader env .signCount)) with
    | .error _ => pure ()
    | .ok fresh =>
      if fresh.passkeyCredentials.any (·.credentialIdHex = cidHex) then do
        let _ ← attemptErr (writeHeader P J env .signCount
          { fresh with passkeyCredentials := setSignCount cidHex count fresh.passkeyCredentials })
      else pure ()

/-! ## Unlocking -/

/-- The entry of the authenticator, its assertion verified; returns the counter to store. -/
def verifyPasskey (header : VaultHeader) (a : Assertion) :
    Result (PasskeySidecarEntry × Option UInt32) := do
  let entry ← okOr (header.passkeyCredentials.find? (·.credentialIdHex = hexEncode a.cid))
    (.auth "not registered")
  let pubKeyHex ← okOr entry.pubKeyCborHex
    (.auth "passkey re-registration required: public key not in sidecar")
  let pubKey ← okOr (hexDecode pubKeyHex) (.crypto "pub_key_cbor_hex decode failed")
  checkAssertion W pubKey a (.auth "assertion signature verification failed")
  let newCount ← checkSignCount a.authData entry.signCount
  pure (entry, newCount)

/-- The database under a VMK that another copy was opened to, verified. The key is derived
before the length of the plaintext is looked at. -/
def openVaultWith (env : Env) (vmkPlain : Bytes) : Call (Block 32) := do
  openVault env (sqlcipherKey P vmkPlain)
  let vmk ← lift (copyFromSlice 32 "vmk" vmkPlain)
  onDatabase fun db => do
    verifyChain P db vmk
    pure db
  pure vmk

/-- The vault is in memory from here on. -/
def DaemonState.entered (s : DaemonState) (vmk : Block 32) (uuid : String)
    (ticket : Option Bytes) : DaemonState :=
  { s with
    vmk := some vmk
    dbOpen := true
    vaultUuid := some uuid
    wipeTicket := ticket }

def unlockWithPasskeyInner (env : Env) (a : Assertion) (uid : UInt32) : Call Session := do
  let chal ← clientChallenge W a.clientDataJson
  consumeChallenge env chal
  let header ← readHeader env .request
  require (!header.strictPqcMode) (.auth "Strict Mode enabled")
  let verified ← lift (verifyPasskey W header a)
  let vmkPlain ← lift (openPasskeyCopy P W header.kemSuite verified.1 a.authData a.cid)
  let vmk ← openVaultWith P env vmkPlain
  migrateDataToV2 P J env vmk
  env.at .lockedKey
  modify fun s => s.entered vmk header.vaultUuid none
  updateSignCount P J env (hexEncode a.cid) verified.2
  createSession env header.vaultUuid uid

/-- The end of every unlock but the one with a password: a success resets the counter. -/
def settleCounted (env : Env) (uid : UInt32) (res : Except VaultError Session) : Call Session :=
  match res with
  | .ok session => do
    resetUnlockCounter P env uid
    touch env
    pure session
  | .error e => do
    recordFailedUnlock env uid
    throw (.err e)

def unlockWithPasskey (env : Env) (a : Assertion) (uid : UInt32) : Call Session := do
  checkUnlockLockout env uid
  let res ← attemptErr (unlockWithPasskeyInner P J W env a uid)
  settleCounted P env uid res

/-- `unlock_with_pqc` is not implemented, and counts as a failure. -/
def unlockWithPqc (env : Env) (uid : UInt32) : Call Session := do
  checkUnlockLockout env uid
  settleCounted P env uid (.error (.auth "PQC unlock not yet implemented"))

/-! ## What an unlock with a passkey leaves behind -/

section Opened

variable {P J W} {env : Env} {s t : DaemonState} {a : Assertion} {uid : UInt32}

variable {γ : Type} {f : DaemonState → γ}

theorem clientChallenge_keeps (json : Bytes) : Keeps f (clientChallenge W json) :=
  .lift_bind fun _ => .lift_bind fun _ => .lift_bind fun _ =>
    .lift_bind fun _ => .lift_bind fun _ => .lift _

theorem consumeChallenge_ok {chal : Block 32} {u : Unit}
    (h : consumeChallenge env chal s = (.ok u, t)) :
    t = { s with challenges := s.challenges.filter (·.1 ≠ chal) } := by
  simp only [consumeChallenge, bind_eq_ok, gets_run, modify_run, require_eq_ok, Prod.mk.injEq] at h
  obtain ⟨_, _, ⟨-, rfl⟩, _, _, ⟨-, rfl⟩, -, rfl⟩ := h
  rfl

theorem openVaultWith_ok {vmkPlain : Bytes} {vmk : Block 32}
    (h : openVaultWith P env vmkPlain s = (.ok vmk, t)) :
    vmkPlain = vmk.bytes ∧ ∃ db₀ db,
      (s.disk.vault.getD .empty).unlockedBy (sqlcipherKey P vmk.bytes) = .ok db₀ ∧
      applyMigrations db₀ = .ok db ∧ verifyChain P db vmk = .ok () ∧
      t = s.setVault (.pages (sqlcipherKey P vmk.bytes) db) := by
  simp only [openVaultWith, bind_eq_ok, lift_eq_ok, copyFromSlice_eq_ok, pure_run,
    Prod.mk.injEq, Except.ok.injEq] at h
  obtain ⟨_, s₁, hopen, _, _, ⟨rfl, rfl⟩, _, s₂, hverify, rfl, rfl⟩ := h
  obtain ⟨db₀, db, hkey, happly, rfl⟩ := openVault_ok hopen
  obtain ⟨hchain, rfl⟩ := (onDatabase_read_eq_ok rfl).mp hverify
  exact ⟨rfl, db₀, db, hkey, happly, hchain, rfl⟩

/-- **The counter is updated or the state left alone**; an error of the files is not heard of. -/
theorem updateSignCount_cases (P : Primitives) (J : Serde) (env : Env) (cidHex : String)
    (newCount : Option UInt32) (s : DaemonState) :
    ∃ t, updateSignCount P J env cidHex newCount s = (.ok (), t) ∧
      (t = s ∨ ∃ count fresh, newCount = some count ∧ s.disk.sidecar = some (.ok fresh) ∧
        t = s.setSidecar (VaultHeader.stamped P J { fresh with
          passkeyCredentials := setSignCount cidHex count fresh.passkeyCredentials } s.vmk)) := by
  unfold updateSignCount
  cases newCount with
  | none => exact ⟨s, rfl, .inl rfl⟩
  | some count =>
    obtain ⟨r, hread⟩ := attemptErr_of_returns (readHeader_returns env .signCount) s
    have hsame : (readHeader env .signCount s).2 = s := (readHeader_keeps env .signCount).same rfl
    rw [hsame] at hread
    simp only [bind_run_ok hread]
    cases r with
    | error e => exact ⟨s, rfl, .inl rfl⟩
    | ok fresh =>
      obtain ⟨-, hs, -⟩ := readHeader_eq_ok.mp (attemptErr_eq_ok_ok.mp hread)
      dsimp only
      split
      · obtain ⟨r, hwrite⟩ := attemptErr_of_returns (writeHeader_returns (P := P) (J := J) env
          .signCount { fresh with
            passkeyCredentials := setSignCount cidHex count fresh.passkeyCredentials }) s
        refine ⟨_, bind_run_ok hwrite, ?_⟩
        rcases writeHeader_cases P J env .signCount _ s with hkept | hwritten
        · exact .inl hkept
        · exact .inr ⟨count, fresh, rfl, hs, hwritten⟩
      · exact ⟨s, rfl, .inl rfl⟩

theorem updateSignCount_keeps (hf : ∀ s header, f (s.setSidecar header) = f s) (cidHex : String)
    (newCount : Option UInt32) : Keeps f (updateSignCount P J env cidHex newCount) := by
  intro s
  obtain ⟨t, hrun, rfl | ⟨_, _, -, -, rfl⟩⟩ := updateSignCount_cases P J env cidHex newCount s
  · rw [hrun]
  · rw [hrun, hf]

/-- **What a successful unlock with a passkey leaves** in memory and in `vault.db`. The
events that were kept back are in the log. -/
theorem unlockWithPasskey_ok {session : Session}
    (h : unlockWithPasskey P J W env a uid s = (.ok session, t)) :
    ∃ header vmk db' log, s.disk.sidecar = some (.ok header) ∧ LeavesDatabase P J env vmk s db' ∧
      t.vmk = some vmk ∧ t.vaultUuid = some header.vaultUuid ∧
      t.disk.vault = some (.pages (sqlcipherKey P vmk.bytes) { db' with auditLog := log }) := by
  obtain ⟨_, s₀, hcheck, h⟩ := bind_eq_ok.mp h
  obtain ⟨res, s₁, hinner, hsettle⟩ := bind_eq_ok.mp h
  have hs₀ : (s₀.disk, s₀.vaultUuid) = (s.disk, s.vaultUuid) :=
    (checkUnlockLockout_keeps (f := fun s : DaemonState => (s.disk, s.vaultUuid)) fun _ _ => rfl).eq
      hcheck
  obtain ⟨hdisk₀, huuid₀⟩ := Prod.mk.inj hs₀
  cases res with
  | error e =>
    obtain ⟨_, _, -, hthrow⟩ := bind_eq_ok.mp hsettle
    cases hthrow
  | ok session' =>
    rw [attemptErr_eq_ok_ok] at hinner
    simp only [unlockWithPasskeyInner, bind_eq_ok, readHeader_eq_ok, require_eq_ok, lift_eq_ok,
      at_eq_ok, modify_run, Prod.mk.injEq] at hinner
    obtain ⟨chal, _, hchal, _, _, hspent, header, _, ⟨-, hs, rfl⟩, _, _, ⟨-, rfl⟩, verified, _,
      ⟨-, rfl⟩, plain, _, ⟨-, rfl⟩, vmk, s₂, hopen, _, s₃, hmigrate, _, _, ⟨-, rfl⟩, _, _,
      ⟨-, rfl⟩, _, s₄, hcount, hsession⟩ := hinner
    have hsame := ((clientChallenge_keeps a.clientDataJson).same hchal).symm
    subst hsame
    have hconsumed := consumeChallenge_ok hspent
    subst hconsumed
    obtain ⟨-, db₀, db, hkey, happly, hchain, rfl⟩ := openVaultWith_ok hopen
    simp only [migrateDataToV2, bind_eq_ok, gets_run, Prod.mk.injEq, Except.ok.injEq] at hmigrate
    obtain ⟨_, _, ⟨rfl, rfl⟩, hmigrate⟩ := hmigrate
    obtain ⟨key, db₁, db', hv, hrows, rfl⟩ := onDatabase_eq_ok.mp hmigrate
    cases hv
    -- what is left to do writes the sidecar and the sessions
    have hcounted := (updateSignCount_keeps (f := fun s : DaemonState =>
      (s.vmk, s.dbOpen, s.vaultUuid, s.disk.vault)) (fun _ _ => rfl) _ _).eq hcount
    have hcreated := (createSession_keeps (f := fun s : DaemonState =>
      (s.vmk, s.dbOpen, s.vaultUuid, s.disk.vault)) (fun _ _ => rfl) _).eq hsession
    have hs₁ := hcreated.trans hcounted
    simp only [DaemonState.entered, Prod.mk.injEq] at hs₁
    obtain ⟨hvmk, hdb, huuid, hvault⟩ := hs₁
    simp only [settleCounted, resetUnlockCounter, touch, bind_run, modify_run, pure_run,
      Prod.mk.injEq] at hsettle
    obtain ⟨-, rfl⟩ := hsettle
    have hflush := flushPending_open P env
      (s := { s₁ with lockout := s₁.lockout.resetLockout uid }) hvmk hdb hvault
    obtain ⟨log, hlog⟩ := logRows_eq (P := P) env vmk 0 s₁.pendingAudit db'
    rw [hflush, hlog]
    refine ⟨header, vmk, db', log, hdisk₀ ▸ hs, ⟨db₀, db, hdisk₀ ▸ hkey, happly, hchain, ?_⟩, hvmk,
      huuid, rfl⟩
    have huuid' : vaultUuidStr s = vaultUuidStr s₀ := by
      rw [vaultUuidStr, vaultUuidStr, huuid₀]
    rw [huuid']
    exact hrows

end Opened

end PwdNow.Daemon
