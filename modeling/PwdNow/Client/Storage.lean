import PwdNow.Client.Items
import PwdNow.Kit.Aead
import PwdNow.Kit.Codec

/-!
# Client — where the vault is kept

`web/src/utils/localCrypto.ts`, `_localRead` and `_localWrite` of
`web/src/context/VaultContext.tsx`, and the outbox of `web/src/utils/offlineQueue.ts` as far as
`_localWrite` fills it. With a server session the resources live on the server, sealed under the v1
key; without one in `localStorage`, under the v2 key.

The platform is a parameter: AES-GCM, HMAC, `JSON` and Base64. A `Device` has what one tab and its
server hold; a request's fate and the random draws come in with each call.
-/

namespace PwdNow.Client

open Kit Option

/-- `JSON.parse` of the asset holder; a field that is no array is `none`. -/
structure AssetHolderJson where
  emails : Option (List String)
  phoneNumbers : Option (List String)
  u2fKeys : Option (List String)

/-- `kdf_version?: 1 | 2`. -/
inductive KdfVersion where
  | v1
  | v2
  deriving DecidableEq

structure TravelModeConfig where
  active : Bool
  passwordHash : Option String
  hiddenFolderIds : List String
  salt : String
  ivHex : String
  kdfVersion : Option KdfVersion
  deriving DecidableEq

/-- The plaintext of the hidden vault. -/
structure HiddenVault (Rest : Type) where
  credentials : List (Credential Rest)
  folders : List Folder

/-- What the client takes from the browser. -/
structure Platform (Rest : Type) where
  aesGcm : Aead 12
  /-- key, message -/
  hmac : Bytes → Bytes → Bytes
  base64url : Bytes → Bytes
  /-- `hashPassword(password, salt)` -/
  hashPassword : String → String → String
  /-- `deriveTravelKeyBytes(password, salt, version)` -/
  deriveTravelKeyBytes : String → String → KdfVersion → Block 32
  credentials : Codec (List (Credential Rest))
  folders : Codec (List Folder)
  assetHolder : Codec AssetHolderJson
  travelConfig : Codec TravelModeConfig
  hiddenVault : Codec (HiddenVault Rest)

structure Platform.Ideal {Rest : Type} (P : Platform Rest) : Prop where
  aesGcm : P.aesGcm.Ideal
  credentials : P.credentials.Lawful
  folders : P.folders.Lawful
  hiddenVault : P.hiddenVault.Lawful

inductive Resource where
  | folders
  | credentials
  | assetHolder
  deriving DecidableEq

/-- The `localStorage` key of a resource. -/
def Resource.key : Resource → String
  | .folders => "vault_folders"
  | .credentials => "vault_credentials"
  | .assetHolder => "vault_asset_holder"

/-- `key.replace('vault_', '')`. -/
def Resource.endpoint : Resource → String
  | .folders => "folders"
  | .credentials => "credentials"
  | .assetHolder => "asset_holder"

inductive ClientError where
  | error (message : String)
  | decryptionPending (resource : Resource)
  | queuedOffline (resource : Resource)
  deriving DecidableEq

/-- `SecureKeyStore`: the session token and the keys derived at login. -/
structure KeyStore where
  token : Option String
  localKeyV1 : Option (Block 32)
  legacyKeyV1 : Option (Block 32)
  localKeyV2 : Option (Block 32)
  sigKeyV1 : Option Bytes
  sigKeyV2 : Option Bytes
  v2Salt : Option (Block 16)

/-- `keyStore.clear()`; the v2 salt stays. -/
def KeyStore.clear (keys : KeyStore) : KeyStore :=
  ⟨none, none, none, none, none, none, keys.v2Salt⟩

/-! ## Sealed texts -/

variable {Rest : Type} (P : Platform Rest)

/-- `iv || ct`. -/
def sealPayload (key : Block 32) (iv : Block 12) (aad text : Bytes) : Bytes :=
  iv.bytes ++ P.aesGcm.encrypt key iv aad text

/-- `decrypt(ivCt.slice(0, 12), ivCt.slice(12))`. -/
def openPayload (key : Block 32) (aad payload : Bytes) : Option Bytes :=
  (Block.ofBytes 12 (payload.take 12)).bind fun iv =>
    P.aesGcm.decrypt key iv aad (payload.drop 12)

/-- A text that starts with `[` or `{` passes for JSON, any other for Base64. -/
inductive Token where
  | json (text : Bytes)
  | base64url (payload : Bytes)

def encryptForServer (keys : KeyStore) (iv : Block 12) (text : Bytes) : Option Token :=
  keys.localKeyV1.map fun key => .base64url (sealPayload P key iv [] text)

def decryptFromServer (keys : KeyStore) : Token → Option Bytes
  | .json text => some text
  | .base64url payload =>
    -- the canonical key, the key of an older local salt, the session-bound key
    [keys.localKeyV1, keys.legacyKeyV1, keys.localKeyV2].findSome? fun candidate =>
      candidate.bind fun key => openPayload P key [] payload

/-- A `localStorage` value: `lcv2.header.payload[.sig]`, `header.payload.sig`, or neither. -/
inductive LocalToken where
  | v2 (header payload : Bytes) (sig : Option Bytes)
  | v1 (version : String) (header payload sig : Bytes)
  | other (raw : Bytes)

def v2Header (salt : Block 16) : Bytes := 2 :: (salt.bytes ++ [17, 3, 1, 0])

/-- The text before the signature. -/
def signedText (head : String) (header payload : Bytes) : Bytes :=
  utf8 head ++ P.base64url header ++ utf8 "." ++ P.base64url payload

/-- `writeEncryptedLocal`: without the v2 key and salt nothing is written. -/
def writeEncryptedLocal (keys : KeyStore) (iv : Block 12) (slot : String) (text : Bytes) :
    Option LocalToken :=
  match keys.localKeyV2, keys.v2Salt with
  | some key, some salt =>
    let header := v2Header salt
    let payload := sealPayload P key iv (header ++ utf8 slot) text
    some (.v2 header payload
      (keys.sigKeyV2.map fun sigKey => P.hmac sigKey (signedText P "lcv2." header payload)))
  | _, _ => none

/-- The signature of a v2 token is checked only where both it and its key are there. -/
def v2SignatureOk (keys : KeyStore) (header payload : Bytes) (sig : Option Bytes) : Bool :=
  match keys.sigKeyV2, sig with
  | some sigKey, some sig => P.hmac sigKey (signedText P "lcv2." header payload) = sig
  | _, _ => true

def readDecryptedLocal (keys : KeyStore) (slot : String) : LocalToken → Option Bytes
  | .v2 header payload sig =>
    if header.head? ≠ some 2 then none
    else if !v2SignatureOk P keys header payload sig then none
    else keys.localKeyV2.bind fun key => openPayload P key (header ++ utf8 slot) payload
  | .v1 version header payload sig =>
    if version ≠ "1" then none
    else keys.sigKeyV1.bind fun sigKey =>
      if P.hmac sigKey (signedText P "" header payload) ≠ sig then none
      else keys.localKeyV1.bind fun key => openPayload P key [] payload
  | .other _ => none

/-! ## Devices -/

/-- What `GET /api/vault/<resource>` answers: `{ data }`, or an unencrypted value of old. -/
inductive Body where
  | data (token : Token)
  | legacy (text : Bytes)

/-- The slot of the travel mode configuration: plaintext, or sealed by an older version. -/
inductive TravelSlot where
  | config (cfg : TravelModeConfig)
  | encrypted (token : LocalToken)

/-- The sealed hidden vault: `{ iv, ct }`. -/
structure TravelEnvelope where
  iv : Bytes
  ct : Bytes

/-- What travel mode keeps, in `localStorage` and mirrored on the server. -/
structure TravelStore where
  config : Option TravelSlot
  serverConfig : Option TravelModeConfig
  vault : Option TravelEnvelope
  serverVault : Option TravelEnvelope

structure Device where
  /-- the `_pwd_csrf` cookie -/
  session : Bool
  keys : KeyStore
  server : Resource → Body
  localStorage : Resource → Option LocalToken
  /-- the queued write of a resource -/
  outbox : Resource → Option Token
  travel : TravelStore

/-- The fate of a `PUT`. When the network fails, the request may have arrived or not. -/
inductive PutAnswer where
  | ok
  | status (code : Nat)
  | network (delivered : Bool)
  deriving DecidableEq

/-- The fate of a `GET`: the server's own body, another body, an error status, an answer that
is no JSON, or none. -/
inductive GetAnswer where
  | stored
  | other (body : Body)
  | status (code : Nat)
  | malformed
  | network

def GetAnswer.unauthorized : GetAnswer → Bool
  | .status code => code = 401
  | _ => false

/-- One write: what becomes of the request, and the nonce drawn for it. -/
structure Net where
  put : PutAnswer
  iv : Block 12

namespace Device

/-- What a `401` does: the keys and the cookie go. -/
def invalidate (dev : Device) : Device := { dev with session := false, keys := dev.keys.clear }

def setServer (dev : Device) (r : Resource) (body : Body) : Device :=
  { dev with server := Function.update dev.server r body }

def setLocal (dev : Device) (r : Resource) (token : Option LocalToken) : Device :=
  { dev with localStorage := Function.update dev.localStorage r token }

def queueWrite (dev : Device) (r : Resource) (token : Token) : Device :=
  { dev with outbox := Function.update dev.outbox r (some token) }

end Device

/-- The request of `_localWrite`, once the value is encrypted. -/
def putResource (net : Net) (r : Resource) (token : Token) (dev : Device) :
    Except ClientError Unit × Device :=
  match net.put with
  | .ok => (.ok (), (dev.setServer r (.data token)).setLocal r none)
  | .status code =>
    if code = 401 then (.error (.error "session expired"), dev.invalidate)
    else (.error (.error ("vault PUT " ++ r.endpoint ++ " failed: " ++ toString code)), dev)
  | .network delivered =>
    let dev := if delivered then dev.setServer r (.data token) else dev
    (.error (.queuedOffline r), dev.queueWrite r token)

def localWrite (net : Net) (r : Resource) (text : Bytes) (dev : Device) :
    Except ClientError Unit × Device :=
  if dev.session then
    match encryptForServer P dev.keys net.iv text with
    | none => (.error (.error "vault encryption key not ready"), dev)
    | some token => putResource net r token dev
  else
    match writeEncryptedLocal P dev.keys net.iv r.key text with
    | some token => (.ok (), dev.setLocal r (some token))
    | none => (.ok (), dev)

/-- A body, decrypted. -/
def readBody (keys : KeyStore) (r : Resource) : Body → Except ClientError (Option Bytes)
  | .data token =>
    match decryptFromServer P keys token with
    | none => .error (.decryptionPending r)
    | some text => .ok (some text)
  | .legacy text => .ok (some text)

/-- What `_localRead` returns; `none` is the `null` of the source. -/
def localRead (answer : GetAnswer) (r : Resource) (dev : Device) :
    Except ClientError (Option Bytes) :=
  if dev.session then
    match answer with
    | .stored => readBody P dev.keys r (dev.server r)
    | .other body => readBody P dev.keys r body
    | .status _ => .ok none
    | .malformed => .ok none
    | .network => .ok none
  else .ok ((dev.localStorage r).bind (readDecryptedLocal P dev.keys r.key))

/-- What the reads of one load leave behind: a `401` among the answers ends the session. -/
def Device.afterReads (dev : Device) (answers : List GetAnswer) : Device :=
  if dev.session && answers.any GetAnswer.unauthorized then dev.invalidate else dev

/-! ## What is read back -/

namespace Device

/-- The resource reads as `text` when the server answers. -/
def Reads (dev : Device) (r : Resource) (text : Bytes) : Prop :=
  localRead P .stored r dev = .ok (some text)

/-- A write of this device goes through and is stored. -/
def Writable (dev : Device) (net : Net) : Prop :=
  if dev.session then dev.keys.localKeyV1.isSome ∧ net.put = .ok
  else dev.keys.localKeyV2.isSome ∧ dev.keys.v2Salt.isSome

/-- `dev'` is `dev` with at most the stored value of `r` replaced. -/
structure Wrote (r : Resource) (dev dev' : Device) : Prop where
  session : dev'.session = dev.session
  keys : dev'.keys = dev.keys
  travel : dev'.travel = dev.travel
  server : ∀ r', r' ≠ r → dev'.server r' = dev.server r'
  localStorage : ∀ r', r' ≠ r → dev'.localStorage r' = dev.localStorage r'

end Device

variable {P} {dev dev' : Device} {net : Net} {r r' : Resource} {text text' : Bytes}

theorem openPayload_sealPayload (hP : P.aesGcm.Ideal) (key : Block 32) (iv : Block 12)
    (aad text : Bytes) : openPayload P key aad (sealPayload P key iv aad text) = some text := by
  have htake : (sealPayload P key iv aad text).take 12 = iv.bytes := by simp [sealPayload]
  have hdrop : (sealPayload P key iv aad text).drop 12 = P.aesGcm.encrypt key iv aad text := by
    simp [sealPayload]
  rw [openPayload, htake, Block.ofBytes_bytes, hdrop]
  exact hP.decrypt_encrypt key iv aad text

variable {iv : Block 12} {aad : Bytes} {key : Block 32}

theorem sealPayload_inj (hP : P.aesGcm.Ideal) {key' : Block 32} {iv' : Block 12} {aad' : Bytes}
    (h : sealPayload P key iv aad text = sealPayload P key' iv' aad' text') : text = text' := by
  obtain ⟨-, h⟩ := List.append_inj h (by simp)
  exact (hP.encrypt_inj _ _ _ _ _ _ _ _ h).2.2.2

theorem openPayload_eq_some (hP : P.aesGcm.Ideal) {payload : Bytes}
    (h : openPayload P key aad payload = some text) :
    ∃ iv, payload = sealPayload P key iv aad text := by
  obtain ⟨iv, hiv, hopen⟩ := bind_eq_some_iff.mp h
  refine ⟨iv, ?_⟩
  rw [sealPayload, Block.bytes_of_ofBytes hiv, ← hP.encrypt_of_decrypt _ _ _ _ _ hopen,
    List.take_append_drop]

theorem readDecryptedLocal_writeEncryptedLocal (hP : P.aesGcm.Ideal) {keys : KeyStore}
    {slot : String} {token : LocalToken} (h : writeEncryptedLocal P keys iv slot text = some token) :
    readDecryptedLocal P keys slot token = some text := by
  unfold writeEncryptedLocal at h
  split at h
  · next key salt hkey _ =>
    obtain rfl := some.inj h
    have hsig : ∀ payload, v2SignatureOk P keys (v2Header salt) payload (keys.sigKeyV2.map fun k =>
        P.hmac k (signedText P "lcv2." (v2Header salt) payload)) = true := by
      intro payload
      unfold v2SignatureOk
      cases keys.sigKeyV2 with
      | none => rfl
      | some sigKey => simp
    rw [readDecryptedLocal, if_neg (by simp [v2Header]), hsig, if_neg (by simp), hkey, bind_some]
    exact openPayload_sealPayload hP key iv _ text
  · cases h

namespace Device

theorem Reads.unique (h : dev.Reads P r text) (h' : dev.Reads P r text') : text = text' := by
  rw [Reads, h] at h'
  cases h'
  rfl

theorem reads_congr (hs : dev'.session = dev.session) (hk : dev'.keys = dev.keys)
    (hserver : dev'.server r = dev.server r) (hlocal : dev'.localStorage r = dev.localStorage r) :
    dev'.Reads P r text ↔ dev.Reads P r text := by
  unfold Reads localRead
  rw [hs, hk, hserver, hlocal]

theorem Wrote.refl (r : Resource) (dev : Device) : dev.Wrote r dev :=
  ⟨rfl, rfl, rfl, fun _ _ => rfl, fun _ _ => rfl⟩

theorem Wrote.trans {dev'' : Device} (h : dev.Wrote r dev') (h' : dev'.Wrote r dev'') :
    dev.Wrote r dev'' where
  session := h'.session.trans h.session
  keys := h'.keys.trans h.keys
  travel := h'.travel.trans h.travel
  server r' hne := (h'.server r' hne).trans (h.server r' hne)
  localStorage r' hne := (h'.localStorage r' hne).trans (h.localStorage r' hne)

theorem Wrote.reads_other (h : dev.Wrote r dev') (hne : r' ≠ r) :
    dev'.Reads P r' text ↔ dev.Reads P r' text :=
  reads_congr h.session h.keys (h.server r' hne) (h.localStorage r' hne)

theorem Wrote.writable (h : dev.Wrote r dev') : dev'.Writable net ↔ dev.Writable net := by
  unfold Writable
  rw [h.session, h.keys]

end Device

/-- **Read your write.** A write that goes through is read back, and nothing else changes. -/
theorem localWrite_stores (hP : P.aesGcm.Ideal) (hw : dev.Writable net) :
    ∃ dev', localWrite P net r text dev = (.ok (), dev') ∧ dev'.Reads P r text ∧
      dev.Wrote r dev' := by
  unfold Device.Writable at hw
  split at hw
  · next hs =>
    obtain ⟨hkey, hput⟩ := hw
    obtain ⟨key, hkey⟩ := isSome_iff_exists.mp hkey
    refine ⟨(dev.setServer r (.data (.base64url (sealPayload P key net.iv [] text)))).setLocal r
      none, ?_, ?_, ?_⟩
    · simp [localWrite, hs, encryptForServer, hkey, putResource, hput]
    · simp [Device.Reads, localRead, Device.setLocal, Device.setServer, hs, readBody,
        decryptFromServer, hkey, openPayload_sealPayload hP]
    · constructor <;> simp +contextual [Device.setLocal, Device.setServer]
  · next hs =>
    obtain ⟨hkey, hsalt⟩ := hw
    obtain ⟨key, hkey⟩ := isSome_iff_exists.mp hkey
    obtain ⟨salt, hsalt⟩ := isSome_iff_exists.mp hsalt
    obtain ⟨token, htoken⟩ :
        ∃ token, writeEncryptedLocal P dev.keys net.iv r.key text = some token := by
      simp [writeEncryptedLocal, hkey, hsalt]
    refine ⟨dev.setLocal r (some token), ?_, ?_, ?_⟩
    · simp [localWrite, hs, htoken]
    · simp [Device.Reads, localRead, Device.setLocal, hs,
        readDecryptedLocal_writeEncryptedLocal hP htoken]
    · constructor <;> simp +contextual [Device.setLocal]

end PwdNow.Client
