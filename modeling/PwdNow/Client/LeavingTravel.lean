import PwdNow.Client.Symbolic

/-!
# Client — leaving travel mode

`disableTravelMode` of `web/src/utils/securityModes.ts`, after calls of `enableTravelMode`, each in
a secure context or not, with copies of the hidden vault that may be lost or damaged by then. A text
that does not start with `{` counts as missing, and one that does without being an envelope as an
envelope that does not open. Where no copy is found, the hidden vault is taken for empty and the
mirror on the server is deleted.
-/

namespace PwdNow.Client

open Kit Option

variable {Rest : Type} (P : Platform Rest) (pbkdf2 : String → String → Block 32)

/-- `subtleAvailable()` decides what derives a key of version 2. -/
def Platform.inContext (secure : Bool) : Platform Rest :=
  { P with deriveTravelKeyBytes := fun password salt version =>
      if version = .v2 && !secure then pbkdf2 password salt
      else P.deriveTravelKeyBytes password salt version }

/-- A call of `enableTravelMode`. -/
structure EnableCall (Rest : Type) where
  secure : Bool
  net : TravelNet
  password : String
  hiddenFolderIds : List String
  credentials : List (Credential Rest)
  folders : List Folder
  dev : Device

namespace EnableCall

variable (call : EnableCall Rest)

def hidden : HiddenVault Rest :=
  ⟨call.credentials.filter (hidesCredential call.hiddenFolderIds),
    call.folders.filter (hidesFolder call.hiddenFolderIds)⟩

def key : Block 32 :=
  (P.inContext pbkdf2 call.secure).deriveTravelKeyBytes call.password call.net.uuid .v2

/-- What the call leaves behind. -/
def store : TravelStore :=
  (enableTravelMode (P.inContext pbkdf2 call.secure) call.net call.password call.hiddenFolderIds
    call.credentials call.folders call.dev).2.travel

end EnableCall

/-- Ideal encryption: what opens was sealed by one of the calls. -/
def TravelUnforged (calls : List (EnableCall Rest)) (envelope : TravelEnvelope) : Prop :=
  ∀ key iv text, P.aesGcm.decrypt key iv [] envelope.ct = some text →
    ∃ call ∈ calls, (call.store P pbkdf2).vault.map (·.ct) = some envelope.ct

/-- The local copy, or else the one that the server answers with. -/
def Device.foundCopy (net : TravelNet) (dev : Device) : Option TravelEnvelope :=
  if dev.travel.vault.isNone && dev.session && net.getVault then dev.travel.serverVault
  else dev.travel.vault

/-- The password is the one of the configuration. -/
def TravelModeConfig.Accepts (cfg : TravelModeConfig) (password : String) : Prop :=
  cfg.active = true ∧ truthy cfg.passwordHash = true ∧
    P.hashPassword password cfg.salt = cfg.passwordHash.getD ""

variable {P pbkdf2} {net : TravelNet} {dev : Device} {password : String}
  {credentials : List (Credential Rest)} {folders : List Folder} {secure : Bool}
  {calls : List (EnableCall Rest)} {envelope : TravelEnvelope}

theorem disableTravelMode_cases :
    (¬ ((getTravelModeConfigAsync P net dev).1.Accepts P password ∧
        (openHiddenVault P password (getTravelModeConfigAsync P net dev).1
          (dev.foundCopy net)).isSome) ∧
      disableTravelMode P net password credentials folders dev =
        (⟨false, [], []⟩, (getTravelModeConfigAsync P net dev).2)) ∨
    ∃ hidden, openHiddenVault P password (getTravelModeConfigAsync P net dev).1
        (dev.foundCopy net) = some hidden ∧
      (disableTravelMode P net password credentials folders dev).1 =
        ⟨true, credentials ++ hidden.credentials, folders ++ hidden.folders⟩ := by
  have hcopy : (getTravelModeConfigAsync P net dev).2.foundCopy net = dev.foundCopy net := by
    obtain ⟨slot, hdev⟩ := getTravelModeConfigAsync_eq (P := P) net dev
    rw [hdev]
    rfl
  rw [← hcopy]
  unfold disableTravelMode Device.foundCopy
  generalize getTravelModeConfigAsync P net dev = got
  obtain ⟨cfg, dev'⟩ := got
  dsimp only
  generalize (if dev'.travel.vault.isNone && dev'.session && net.getVault then
    dev'.travel.serverVault else dev'.travel.vault) = copy
  split
  · next hoff =>
    refine .inl ⟨fun h => ?_, rfl⟩
    simp [h.1.1, h.1.2.1] at hoff
  · split
    · next hhash => exact .inl ⟨fun h => hhash h.1.2.2, rfl⟩
    · cases hopen : openHiddenVault P password cfg copy with
      | none => exact .inl ⟨fun h => by simp at h, rfl⟩
      | some hidden => exact .inr ⟨hidden, rfl, rfl⟩

/-- What opens of an envelope that was not forged is what one of the calls has hidden. -/
theorem hidden_of_openHiddenVault (hP : P.Ideal) (h : TravelUnforged P pbkdf2 calls envelope)
    {cfg : TravelModeConfig} {hidden : HiddenVault Rest}
    (hopen : openHiddenVault (P.inContext pbkdf2 secure) password cfg (some envelope) = some hidden) :
    ∃ call ∈ calls, call.hidden = hidden ∧ call.key P pbkdf2 =
      (P.inContext pbkdf2 secure).deriveTravelKeyBytes password cfg.salt
        (cfg.kdfVersion.getD .v1) := by
  simp only [openHiddenVault, bind_eq_some_iff] at hopen
  obtain ⟨iv, -, text, hdecrypt, hparse⟩ := hopen
  obtain ⟨call, hcall, hct⟩ := h _ iv text hdecrypt
  obtain hct := some.inj hct
  have hsealed : P.aesGcm.decrypt (call.key P pbkdf2) call.net.iv [] envelope.ct =
      some (P.hiddenVault.stringify call.hidden) := by
    rw [← hct]
    exact hP.aesGcm.decrypt_encrypt _ _ _ _
  obtain ⟨hkey, rfl⟩ := hP.aesGcm.key_unique hsealed hdecrypt
  have hsame := (hP.hiddenVault.parse_stringify call.hidden).symm.trans hparse
  exact ⟨call, hcall, some.inj hsame, hkey⟩

def hideOne : EnableCall Unit where
  secure := true
  net := ⟨true, true, true, true, true, true, "salt", .replicate 12 0⟩
  password := "travel"
  hiddenFolderIds := ["f"]
  credentials := [⟨.string "c", "f", ()⟩]
  folders := []
  dev := symbolicDevice [] []

def slowKey (_ _ : String) : Block 32 := .replicate 32 4

/-- The device afterwards, with another local copy. -/
def hiddenOne (copy : Option TravelEnvelope) : Device :=
  { hideOne.dev with travel := { hideOne.store symbolicPlatform slowKey with vault := copy } }

end PwdNow.Client
