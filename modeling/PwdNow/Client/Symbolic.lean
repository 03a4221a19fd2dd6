import Mathlib.Logic.Equiv.List
import PwdNow.Client.Outbox
import PwdNow.Client.VaultContext

/-!
# Client — a symbolic instance

A platform that meets `Platform.Ideal`: the symbolic cipher, and texts that are code numbers. A tab
with a server session and its keys, showing a vault that the server holds.
-/

namespace PwdNow.Client

open Kit

instance encodableChar : Encodable Char := .ofLeftInverse Char.toNat Char.ofNat Char.ofNat_toNat

instance encodableString : Encodable String :=
  .ofLeftInverse String.toList String.ofList fun _ => String.ofList_toList

def CredentialId.toSum : CredentialId → String ⊕ Int
  | .string s => .inl s
  | .number n => .inr n

instance encodableCredentialId : Encodable CredentialId :=
  .ofLeftInverse CredentialId.toSum (Sum.elim .string .number) fun id => by cases id <;> rfl

instance encodableCredential : Encodable (Credential Unit) :=
  .ofLeftInverse (fun c => (c.id, c.folderId)) (fun p => ⟨p.1, p.2, ()⟩) fun _ => rfl

instance encodableFolder : Encodable Folder :=
  .ofLeftInverse (fun f => (f.id, f.label, f.description, f.iconName, f.customSvg))
    (fun p => ⟨p.1, p.2.1, p.2.2.1, p.2.2.2.1, p.2.2.2.2⟩) fun _ => rfl

instance encodableHiddenVault : Encodable (HiddenVault Unit) :=
  .ofLeftInverse (fun v => (v.credentials, v.folders)) (fun p => ⟨p.1, p.2⟩) fun _ => rfl

instance encodableResource : Encodable Resource :=
  .ofLeftInverse Resource.ctorIdx Resource.ofNat fun r => by cases r <;> rfl

instance encodableUInt8 : Encodable UInt8 :=
  .ofLeftInverse UInt8.toNat UInt8.ofNat fun _ => UInt8.ofNat_toNat

def Token.toSum : Token → Bytes ⊕ Bytes
  | .json text => .inl text
  | .base64url payload => .inr payload

instance encodableToken : Encodable Token :=
  .ofLeftInverse Token.toSum (Sum.elim .json .base64url) fun token => by cases token <;> rfl

instance encodableQueueEntry : Encodable QueueEntry :=
  .ofLeftInverse (fun e => (e.encryptedValue, e.queuedAt)) (fun p => ⟨p.1, p.2⟩) fun _ => rfl

/-- Credentials without further fields. -/
def symbolicPlatform : Platform Unit where
  aesGcm := Aead.symbolic 12
  hmac key message := key ++ message
  base64url := id
  hashPassword password salt := password ++ salt
  deriveTravelKeyBytes _ _ _ := .replicate 32 3
  credentials := .ofEncodable _
  folders := .ofEncodable _
  assetHolder := ⟨fun _ => [], fun _ => none⟩
  travelConfig := ⟨fun _ => [], fun _ => none⟩
  hiddenVault := .ofEncodable _

theorem symbolicPlatform_ideal : symbolicPlatform.Ideal where
  aesGcm := Aead.symbolic_ideal 12
  credentials := Codec.ofEncodable_lawful
  folders := Codec.ofEncodable_lawful
  hiddenVault := Codec.ofEncodable_lawful

def symbolicOutbox : Codec Outbox := .ofEncodable _

theorem symbolicOutbox_lawful : symbolicOutbox.Lawful := Codec.ofEncodable_lawful

def symbolicKeys : KeyStore where
  token := some "36f1e2c8-4c7e-4a54-9d70-0d5d0a2d3c11"
  localKeyV1 := some (.replicate 32 1)
  legacyKeyV1 := none
  localKeyV2 := none
  sigKeyV1 := none
  sigKeyV2 := none
  v2Salt := none

/-- A tab with the key and nothing queued. -/
def symbolicTab : OutboxState where
  keys := symbolicKeys
  stored := none
  flushing := false
  put _ := []
  calls := []

/-- The network is down. -/
def symbolicMoment : Moment := ⟨0, .replicate 12 0, .network false⟩

/-- A value as the server holds it. -/
def symbolicBody (text : Bytes) : Body :=
  .data (.base64url (sealPayload symbolicPlatform (.replicate 32 1) (.replicate 12 0) [] text))

def symbolicDevice (folders : List Folder) (credentials : List (Credential Unit)) : Device where
  session := true
  keys := symbolicKeys
  server
    | .folders => symbolicBody (symbolicPlatform.folders.stringify folders)
    | .credentials => symbolicBody (symbolicPlatform.credentials.stringify credentials)
    | .assetHolder => .legacy []
  localStorage _ := none
  outbox _ := none
  travel := ⟨none, none, none, none⟩

/-- The tab after a load. -/
def symbolicApp (folders : List Folder) (credentials : List (Credential Unit)) : App Unit where
  folders := folders
  credentials := credentials
  assetHolder := ⟨[], [], []⟩
  isLoading := false
  daemonConnected := false
  vaultLocked := false
  vaultReady := true
  loadError := false
  device := symbolicDevice folders credentials

/-- A request that is answered. -/
def symbolicNet : Net := ⟨.ok, .replicate 12 0⟩

def symbolicCall : Call where
  net := symbolicNet
  credentialsNet := symbolicNet
  daemon := .error "not connected"
  uuid := "67e55044-10b1-426f-9247-bb680e5fe0c8"
  foldersRejectFirst := true

theorem symbolicDevice_writable (folders : List Folder) (credentials : List (Credential Unit)) :
    (symbolicDevice folders credentials).Writable symbolicNet := by
  exact ⟨rfl, rfl⟩

theorem readBody_symbolicBody (r : Resource) (text : Bytes) :
    readBody symbolicPlatform symbolicKeys r (symbolicBody text) = .ok (some text) := by
  simp [readBody, symbolicBody, decryptFromServer, symbolicKeys,
    openPayload_sealPayload symbolicPlatform_ideal.aesGcm]

end PwdNow.Client
