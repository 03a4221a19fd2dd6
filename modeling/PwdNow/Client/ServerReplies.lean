import PwdNow.Client.Symbolic

/-!
# Client — what a server can make the client read

`_localRead` with a server session, against a server that answers as it likes. It has seen the
ciphertexts that the client made, and cannot make any (`Unforged`). A reply is `Authentic` if it
yields nothing, an error, or a value that was encrypted for the resource. The last section is about
the tokens in `localStorage`.
-/

namespace PwdNow.Client

open Kit Option List

/-- A call of `encryptForServer` on behalf of a resource. -/
structure EncryptCall where
  resource : Resource
  iv : Block 12
  text : Bytes

variable {Rest : Type} (P : Platform Rest) (K : Block 32)

/-- The ciphertext that the call makes. -/
def EncryptCall.payload (call : EncryptCall) : Bytes := sealPayload P K call.iv [] call.text

/-- What the reply carries, if it is a body. -/
def GetAnswer.body (dev : Device) (r : Resource) : GetAnswer → Option Body
  | .stored => some (dev.server r)
  | .other body => some body
  | _ => none

/-- Ideal encryption: what opens under a key of the client was made by one of its calls. -/
def Unforged (calls : List EncryptCall) (keys : KeyStore) (body : Body) : Prop :=
  ∀ payload key text, body = .data (.base64url payload) →
    some key ∈ [keys.localKeyV1, keys.legacyKeyV1, keys.localKeyV2] →
    openPayload P key [] payload = some text → ∃ call ∈ calls, payload = call.payload P K

/-- The body is a ciphertext; if a call made it, one for this resource did. -/
def SealedFor (calls : List EncryptCall) (r : Resource) (body : Body) : Prop :=
  ∃ payload, body = .data (.base64url payload) ∧ ((∃ call ∈ calls, payload = call.payload P K) →
      ∃ call ∈ calls, call.resource = r ∧ payload = call.payload P K)

/-- Nothing, an error, or a value that was encrypted for the resource. -/
def Authentic (calls : List EncryptCall) (r : Resource) :
    Except ClientError (Option Bytes) → Prop
  | .ok none => True
  | .error _ => True
  | .ok (some text) => ∃ call ∈ calls, call.resource = r ∧ call.text = text

variable {P K} {calls : List EncryptCall} {dev : Device} {r : Resource} {body : Body}

theorem readBody_authentic (hP : P.aesGcm.Ideal) {keys : KeyStore}
    (hunforged : Unforged P K calls keys body) (hsealed : SealedFor P K calls r body) :
    Authentic calls r (readBody P keys r body) := by
  obtain ⟨payload, rfl, hown⟩ := hsealed
  dsimp only [readBody]
  cases hread : decryptFromServer P keys (.base64url payload) with
  | none => trivial
  | some text =>
    obtain ⟨candidate, hmem, hcandidate⟩ := exists_of_findSome?_eq_some hread
    obtain ⟨key, rfl, hopen⟩ := bind_eq_some_iff.mp hcandidate
    obtain ⟨call, hcall, hr, hpayload⟩ := hown (hunforged payload key text rfl hmem hopen)
    rw [hpayload] at hopen
    exact ⟨call, hcall, hr, (openPayload_of_sealed hP hopen).symm⟩

theorem localRead_replayed (hP : P.aesGcm.Ideal) (hsession : dev.session = true)
    (hkey : dev.keys.localKeyV1 = some K) (call : EncryptCall) (r : Resource) :
    localRead P (.other (.data (.base64url (call.payload P K)))) r dev = .ok (some call.text) := by
  have hopen : openPayload P K [] (call.payload P K) = some call.text :=
    openPayload_sealPayload hP K call.iv [] call.text
  simp [localRead, hsession, readBody, decryptFromServer, hkey, hopen]

/-! ## One write of the folders -/

def foldersCall : EncryptCall := ⟨.folders, .replicate 12 0, [1]⟩

theorem foldersCall_sealed : SealedFor symbolicPlatform (.replicate 32 1) [foldersCall] .folders
    (.data (.base64url (foldersCall.payload symbolicPlatform (.replicate 32 1)))) :=
  ⟨_, rfl, fun _ => ⟨foldersCall, mem_singleton.mpr rfl, rfl, rfl⟩⟩

theorem foldersCall_unforged (keys : KeyStore) :
    Unforged symbolicPlatform (.replicate 32 1) [foldersCall] keys
      (.data (.base64url (foldersCall.payload symbolicPlatform (.replicate 32 1)))) := by
  intro payload key text hbody _ _
  cases hbody
  exact ⟨foldersCall, mem_singleton.mpr rfl, rfl⟩

section LocalTokens

variable (P)

/-- A call of `writeEncryptedLocal`. -/
structure LocalWrite where
  iv : Block 12
  slot : String
  text : Bytes

/-- Ideal encryption and signatures, for a string in `localStorage`: its payload opens only if a
call has written it, and the signature of a v1 token, which nothing writes any more, is not valid. -/
def LocalUnforged (writes : List LocalWrite) (keys : KeyStore) : LocalToken → Prop
  | .v2 _ payload _ => ∀ key aad text, keys.localKeyV2 = some key →
      openPayload P key aad payload = some text →
      ∃ w ∈ writes, ∃ header sig,
        writeEncryptedLocal P keys w.iv w.slot w.text = some (.v2 header payload sig)
  | .v1 _ header payload sig => ∀ sigKey, keys.sigKeyV1 = some sigKey →
      P.hmac sigKey (signedText P "" header payload) ≠ sig
  | .other _ => True

/-- The associated data of `slot` can be had from that of `other`, by moving bytes between the
header and the key. -/
def Resplits (salt : Block 16) (other slot : String) : Prop :=
  utf8 slot <:+ salt.bytes ++ [17, 3, 1, 0] ++ utf8 other

variable {P} {keys : KeyStore} {writes : List LocalWrite} {salt : Block 16} {slot : String}
  {token : LocalToken} {text : Bytes}

def foldersWrite : LocalWrite := ⟨.replicate 12 0, "vault_folders", [1]⟩

def localKeys : KeyStore :=
  ⟨none, none, none, some (.replicate 32 1), none, some [2], some (.replicate 16 0)⟩

end LocalTokens

end PwdNow.Client
