import PwdNow.Client.Storage

/-!
# Client — travel mode

The travel mode part of `web/src/utils/securityModes.ts`. Enabling it seals the items of the hidden
folders under a key of the travel password and records that they are hidden; disabling it opens the
sealed items, forgets them and the configuration, and hands back the merged lists. Neither writes
the vault itself.
-/

namespace PwdNow.Client

open Kit

variable {Rest : Type} (P : Platform Rest)

/-- Which of the requests of one call get an answer, and the random draws of the call. -/
structure TravelNet where
  getConfig : Bool
  putConfig : Bool
  deleteConfig : Bool
  getVault : Bool
  putVault : Bool
  deleteVault : Bool
  uuid : String
  iv : Block 12

def defaultTravelConfig (uuid : String) : TravelModeConfig := ⟨false, none, [], uuid, "", none⟩

/-- A string that counts as `true`. -/
def truthy (s : Option String) : Bool := s.getD "" ≠ ""

def Device.setTravel (dev : Device) (f : TravelStore → TravelStore) : Device :=
  { dev with travel := f dev.travel }

/-- `getTravelModeConfig`: the plaintext slot, or the default. -/
def getTravelModeConfig (uuid : String) (dev : Device) : TravelModeConfig :=
  match dev.travel.config with
  | some (.config cfg) => cfg
  | _ => defaultTravelConfig uuid

/-- The slot of an older version is migrated if it can be read. -/
def migrateTravelConfig (sync : TravelModeConfig) (dev : Device) : TravelModeConfig × Device :=
  match dev.travel.config with
  | some (.encrypted token) =>
    match (readDecryptedLocal P dev.keys "_tm_cfg" token).bind P.travelConfig.parse with
    | some cfg => (cfg, dev.setTravel fun t => { t with config := some (.config cfg) })
    | none => (sync, dev)
  | _ => (sync, dev)

def getTravelModeConfigAsync (net : TravelNet) (dev : Device) : TravelModeConfig × Device :=
  if dev.session && net.getConfig then
    match dev.travel.serverConfig with
    | some cfg => (cfg, dev.setTravel fun t => { t with config := some (.config cfg) })
    | none => (defaultTravelConfig net.uuid, dev.setTravel fun t => { t with config := none })
  else
    let sync := getTravelModeConfig net.uuid dev
    if sync.active || truthy sync.passwordHash then (sync, dev) else migrateTravelConfig P sync dev

def saveTravelModeConfig (net : TravelNet) (cfg : TravelModeConfig) (dev : Device) : Device :=
  dev.setTravel fun t =>
    { t with
      config := some (.config cfg)
      serverConfig := if dev.session && net.putConfig then some cfg else t.serverConfig }

/-- `hiddenFolderIds.includes(c.folderId)`. -/
def hidesCredential (hiddenFolderIds : List String) (c : Credential Rest) : Bool :=
  hiddenFolderIds.contains c.folderId

def hidesFolder (hiddenFolderIds : List String) (f : Folder) : Bool :=
  hiddenFolderIds.contains f.id

/-- The visible lists, and the device with the hidden items sealed away. The slot is
overwritten with random data first, which the sealed items then replace. -/
def enableTravelMode (net : TravelNet) (password : String) (hiddenFolderIds : List String)
    (allCredentials : List (Credential Rest)) (allFolders : List Folder) (dev : Device) :
    (List (Credential Rest) × List Folder) × Device :=
  let passwordHash := P.hashPassword password net.uuid
  let hidden : HiddenVault Rest :=
    ⟨allCredentials.filter (hidesCredential hiddenFolderIds),
      allFolders.filter (hidesFolder hiddenFolderIds)⟩
  let key := P.deriveTravelKeyBytes password net.uuid .v2
  let envelope : TravelEnvelope :=
    ⟨net.iv.bytes, P.aesGcm.encrypt key net.iv [] (P.hiddenVault.stringify hidden)⟩
  let dev := dev.setTravel fun t =>
    { t with
      vault := some envelope
      serverVault := if dev.session && net.putVault then some envelope else t.serverVault }
  let cfg : TravelModeConfig :=
    ⟨true, some passwordHash, hiddenFolderIds, net.uuid, hexEncode net.iv.bytes, some .v2⟩
  ((allCredentials.filter fun c => !hidesCredential hiddenFolderIds c,
    allFolders.filter fun f => !hidesFolder hiddenFolderIds f), saveTravelModeConfig net cfg dev)

structure DisableResult (Rest : Type) where
  ok : Bool
  credentials : List (Credential Rest)
  folders : List Folder

/-- The sealed items, opened with the password; `none` where the source throws. An envelope of
the first version is sealed again on the way, but the slot is wiped in the end. -/
def openHiddenVault (password : String) (cfg : TravelModeConfig) :
    Option TravelEnvelope → Option (HiddenVault Rest)
  | none => some ⟨[], []⟩
  | some envelope =>
    (Block.ofBytes 12 envelope.iv).bind fun iv =>
      let key := P.deriveTravelKeyBytes password cfg.salt (cfg.kdfVersion.getD .v1)
      (P.aesGcm.decrypt key iv [] envelope.ct).bind P.hiddenVault.parse

def disableTravelMode (net : TravelNet) (password : String)
    (currentCredentials : List (Credential Rest)) (currentFolders : List Folder) (dev : Device) :
    DisableResult Rest × Device :=
  let (cfg, dev) := getTravelModeConfigAsync P net dev
  if !cfg.active || !truthy cfg.passwordHash then (⟨false, [], []⟩, dev)
  else if P.hashPassword password cfg.salt ≠ cfg.passwordHash.getD "" then (⟨false, [], []⟩, dev)
  else
    let stored :=
      if dev.travel.vault.isNone && dev.session && net.getVault then dev.travel.serverVault
      else dev.travel.vault
    match openHiddenVault P password cfg stored with
    | none => (⟨false, [], []⟩, dev)
    | some hidden =>
      let dev := dev.setTravel fun t =>
        { t with
          vault := none
          serverVault := if dev.session && net.deleteVault then none else t.serverVault
          serverConfig := if dev.session && net.deleteConfig then none else t.serverConfig }
      (⟨true, currentCredentials ++ hidden.credentials, currentFolders ++ hidden.folders⟩,
        saveTravelModeConfig net (defaultTravelConfig net.uuid) dev)

/-! ## What changes -/

/-- `dev'` is `dev` with at most the travel mode store replaced. -/
structure Device.SameVault (dev dev' : Device) : Prop where
  session : dev'.session = dev.session
  keys : dev'.keys = dev.keys
  server : dev'.server = dev.server
  localStorage : dev'.localStorage = dev.localStorage
  outbox : dev'.outbox = dev.outbox

namespace Device.SameVault

variable {P} {dev dev' : Device} {net : Net} {r : Resource} {text : Bytes}

theorem reads (h : dev.SameVault dev') : dev'.Reads P r text ↔ dev.Reads P r text :=
  Device.reads_congr h.session h.keys (congrFun h.server r) (congrFun h.localStorage r)

end Device.SameVault

/-- `cfg` is the configuration the next load finds. -/
def Device.TravelConfig (dev : Device) (cfg : TravelModeConfig) : Prop :=
  dev.travel.config = some (.config cfg) ∧ (dev.session = true → dev.travel.serverConfig = some cfg)

/-- Travel mode is on, with `hidden` sealed away under the password. -/
structure Device.Hides (dev : Device) (password : String) (cfg : TravelModeConfig)
    (hidden : HiddenVault Rest) : Prop where
  config : dev.TravelConfig cfg
  active : cfg.active = true
  passwordHash : cfg.passwordHash = some (P.hashPassword password cfg.salt)
  vault : ∃ iv : Block 12, dev.travel.vault = some ⟨iv.bytes,
    P.aesGcm.encrypt (P.deriveTravelKeyBytes password cfg.salt (cfg.kdfVersion.getD .v1)) iv []
      (P.hiddenVault.stringify hidden)⟩

variable {P} {dev : Device} {net : TravelNet} {password : String} {hiddenFolderIds : List String}
  {credentials : List (Credential Rest)} {folders : List Folder} {cfg : TravelModeConfig}
  {hidden : HiddenVault Rest}

theorem Device.Hides.congr {dev' : Device} (h : dev.Hides P password cfg hidden)
    (htravel : dev'.travel = dev.travel) (hsession : dev'.session = dev.session) :
    dev'.Hides P password cfg hidden := by
  refine ⟨?_, h.active, h.passwordHash, ?_⟩
  · unfold Device.TravelConfig
    rw [htravel, hsession]
    exact h.config
  · rw [htravel]
    exact h.vault

section

variable (net : TravelNet) (dev : Device)

theorem getTravelModeConfigAsync_eq :
    ∃ slot, (getTravelModeConfigAsync P net dev).2 =
      dev.setTravel fun t => { t with config := slot } := by
  unfold getTravelModeConfigAsync migrateTravelConfig
  split
  · split <;> exact ⟨_, rfl⟩
  · dsimp only
    split
    · exact ⟨dev.travel.config, rfl⟩
    · split
      · split
        · exact ⟨_, rfl⟩
        · exact ⟨dev.travel.config, rfl⟩
      · exact ⟨dev.travel.config, rfl⟩

theorem getTravelModeConfigAsync_vault : dev.SameVault (getTravelModeConfigAsync P net dev).2 := by
  obtain ⟨slot, h⟩ := getTravelModeConfigAsync_eq (P := P) net dev
  rw [h]
  exact ⟨rfl, rfl, rfl, rfl, rfl⟩

theorem getTravelModeConfigAsync_hidden :
    (getTravelModeConfigAsync P net dev).2.travel.vault = dev.travel.vault := by
  obtain ⟨slot, h⟩ := getTravelModeConfigAsync_eq (P := P) net dev
  rw [h]
  rfl

end

theorem getTravelModeConfigAsync_saved (h : dev.TravelConfig cfg) :
    (getTravelModeConfigAsync P net dev).1 = cfg ∧
      (getTravelModeConfigAsync P net dev).2.TravelConfig cfg := by
  obtain ⟨hlocal, hserver⟩ := h
  unfold getTravelModeConfigAsync
  split
  · next hs =>
    rw [hserver (by simp_all)]
    exact ⟨rfl, rfl, hserver⟩
  · have hsync : getTravelModeConfig net.uuid dev = cfg := by simp [getTravelModeConfig, hlocal]
    have hmigrate : migrateTravelConfig P cfg dev = (cfg, dev) := by
      simp [migrateTravelConfig, hlocal]
    dsimp only
    rw [hsync, hmigrate, ite_self]
    exact ⟨rfl, hlocal, hserver⟩

theorem saveTravelModeConfig_saved (h : net.putConfig = true) :
    (saveTravelModeConfig net cfg dev).TravelConfig cfg := by
  refine ⟨rfl, fun hs => ?_⟩
  change dev.session = true at hs
  simp [saveTravelModeConfig, Device.setTravel, hs, h]

/-! ## Enabling and disabling -/

theorem enableTravelMode_vault :
    dev.SameVault (enableTravelMode P net password hiddenFolderIds credentials folders dev).2 :=
  ⟨rfl, rfl, rfl, rfl, rfl⟩

theorem enableTravelMode_hides (h : net.putConfig = true) :
    ∃ cfg, cfg.hiddenFolderIds = hiddenFolderIds ∧
      (enableTravelMode P net password hiddenFolderIds credentials folders dev).2.Hides P password
        cfg ⟨credentials.filter (hidesCredential hiddenFolderIds),
          folders.filter (hidesFolder hiddenFolderIds)⟩ :=
  ⟨_, rfl, saveTravelModeConfig_saved h, rfl, rfl, net.iv, rfl⟩

theorem disableTravelMode_vault :
    dev.SameVault (disableTravelMode P net password credentials folders dev).2 := by
  have hget := getTravelModeConfigAsync_vault (P := P) net dev
  unfold disableTravelMode
  split
  next cfg dev' heq =>
  rw [heq] at hget
  split
  · exact hget
  · split
    · exact hget
    · dsimp only
      split
      · exact hget
      · exact ⟨hget.session, hget.keys, hget.server, hget.localStorage, hget.outbox⟩

theorem openHiddenVault_sealed (hP : P.Ideal) (iv : Block 12) (hidden : HiddenVault Rest) :
    openHiddenVault P password cfg (some ⟨iv.bytes,
      P.aesGcm.encrypt (P.deriveTravelKeyBytes password cfg.salt (cfg.kdfVersion.getD .v1)) iv []
        (P.hiddenVault.stringify hidden)⟩) = some hidden := by
  rw [openHiddenVault, Block.ofBytes_bytes, Option.bind_some]
  dsimp only
  rw [hP.aesGcm.decrypt_encrypt, Option.bind_some, hP.hiddenVault.parse_stringify]

/-- **The hidden items come back** with the password they were hidden under. -/
theorem disableTravelMode_merged (hP : P.Ideal) (h : dev.Hides P password cfg hidden)
    (hne : P.hashPassword password cfg.salt ≠ "") :
    (disableTravelMode P net password credentials folders dev).1 =
      ⟨true, credentials ++ hidden.credentials, folders ++ hidden.folders⟩ := by
  obtain ⟨hcfg, hactive, hhash, iv, hvault⟩ := h
  have hopen : openHiddenVault P password cfg dev.travel.vault = some hidden := by
    rw [hvault]
    exact openHiddenVault_sealed hP iv hidden
  obtain ⟨hget, -⟩ := getTravelModeConfigAsync_saved (P := P) hcfg
  have hsame := getTravelModeConfigAsync_hidden (P := P) net dev
  unfold disableTravelMode
  split
  next cfg' dev' heq =>
  rw [heq] at hget hsame
  obtain rfl : cfg' = cfg := hget
  have hstored : (if dev'.travel.vault.isNone && dev'.session && net.getVault then
      dev'.travel.serverVault else dev'.travel.vault) = dev.travel.vault := by
    rw [hsame, hvault]
    simp
  rw [if_neg (by simp [hactive, truthy, hhash, hne]), if_neg (by simp [hhash])]
  dsimp only
  rw [hstored, hopen]

theorem disableTravelMode_config (h : net.putConfig = true)
    (hok : (disableTravelMode P net password credentials folders dev).1.ok = true) :
    (disableTravelMode P net password credentials folders dev).2.TravelConfig
      (defaultTravelConfig net.uuid) := by
  revert hok
  unfold disableTravelMode
  split
  next cfg dev' heq =>
  split
  · exact fun hok => absurd hok (by simp)
  · split
    · exact fun hok => absurd hok (by simp)
    · dsimp only
      split
      · exact fun hok => absurd hok (by simp)
      · exact fun _ => saveTravelModeConfig_saved h

end PwdNow.Client
