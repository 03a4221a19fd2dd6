import PwdNow.Client.Travel
import PwdNow.Kit.Fallible

/-!
# Client — the vault provider

`web/src/context/VaultContext.tsx`: the React state, the loads that fill it, and the mutators. A
mutator is a closure of one render: it changes the list that was current when the render was made
(`Render`). In server and local mode it sets the whole new list, awaits its write, and puts the old
list back if that fails. In daemon mode it acts through the daemon and changes the state by
functional updates. Notifications and log lines are left out.
-/

namespace PwdNow.Client

open Kit

structure App (Rest : Type) where
  folders : List Folder
  credentials : List (Credential Rest)
  assetHolder : AssetHolder
  isLoading : Bool
  daemonConnected : Bool
  vaultLocked : Bool
  vaultReady : Bool
  loadError : Bool
  device : Device

/-- What the functions of one render have captured. -/
structure Render (Rest : Type) where
  folders : List Folder
  credentials : List (Credential Rest)
  daemonConnected : Bool

def App.render {Rest : Type} (s : App Rest) : Render Rest :=
  ⟨s.folders, s.credentials, s.daemonConnected⟩

/-- What one call of a mutator meets: its writes, the daemon's answer (an id), the UUID it
draws, and which of two failed writes rejects first. -/
structure Call where
  net : Net
  credentialsNet : Net
  daemon : Except String String
  uuid : String
  foldersRejectFirst : Bool

variable {Rest : Type} (P : Platform Rest)

abbrev Action (Rest : Type) := Fallible ClientError (App Rest)

/-! ## Writing -/

def persistFolders (daemonConnected : Bool) (net : Net) (current : List Folder) (dev : Device) :
    Except ClientError Unit × Device :=
  if daemonConnected then (.ok (), dev)
  else localWrite P net .folders (P.folders.stringify current) dev

def persistCredentials (daemonConnected : Bool) (net : Net) (current : List (Credential Rest))
    (dev : Device) : Except ClientError Unit × Device :=
  if daemonConnected then (.ok (), dev)
  else localWrite P net .credentials (P.credentials.stringify current) dev

/-- The end of a mutator, once its write has settled: a queued write counts as done, any other
failure is rolled back. -/
def settle (rollback : App Rest → App Rest) (outcome : Except ClientError Unit × Device) :
    Action Rest Unit := fun s =>
  match outcome with
  | (.ok _, dev) => (.ok (), { s with device := dev })
  | (.error (.queuedOffline _), dev) => (.ok (), { s with device := dev })
  | (.error e, dev) => (.error e, rollback { s with device := dev })

/-- The daemon's part of a mutator in daemon mode. -/
def throughDaemon (call : Call) (f : String → App Rest → App Rest) : Action Rest Unit :=
  match call.daemon with
  | .ok id => Fallible.modify (f id)
  | .error message => throw (.error message)

namespace Render

variable (r : Render Rest) (call : Call)

/-- Set the list, write it, and on failure put back the list of the render. -/
def editCredentials (net : Net) (updated : List (Credential Rest)) : Action Rest Unit := fun s =>
  settle (fun s => { s with credentials := r.credentials })
    (persistCredentials P r.daemonConnected net updated s.device) { s with credentials := updated }

def editFolders (net : Net) (updated : List Folder) : Action Rest Unit := fun s =>
  settle (fun s => { s with folders := r.folders })
    (persistFolders P r.daemonConnected net updated s.device) { s with folders := updated }

def addCredential (c : Credential Rest) : Action Rest Unit :=
  if r.daemonConnected then
    throughDaemon call fun id s =>
      { s with credentials := s.credentials ++ [{ c with id := .string id }] }
  else r.editCredentials P call.net (r.credentials ++ [c])

def updateCredential (c : Credential Rest) : Action Rest Unit :=
  let change (l : List (Credential Rest)) := l.map fun a => if a.id = c.id then c else a
  if r.daemonConnected then
    throughDaemon call fun _ s => { s with credentials := change s.credentials }
  else r.editCredentials P call.net (change r.credentials)

def deleteCredential (id : CredentialId) : Action Rest Unit :=
  let change (l : List (Credential Rest)) := l.filter fun a => a.id ≠ id
  if r.daemonConnected then
    throughDaemon call fun _ s => { s with credentials := change s.credentials }
  else r.editCredentials P call.net (change r.credentials)

def moveCredentials (source target : String) (ids : Option (List CredentialId)) :
    Action Rest Unit :=
  let change (l : List (Credential Rest)) :=
    l.map fun a => if movesCredential source ids a then { a with folderId := target } else a
  if r.daemonConnected then
    throughDaemon call fun _ s => { s with credentials := change s.credentials }
  else r.editCredentials P call.net (change r.credentials)

/-- `ensureId` of `addFolder`. -/
def ensureId (id : String) : String :=
  if id = "" then call.uuid else if r.folders.any (·.id = id) then call.uuid else id

/-- The id under which the folder is stored. -/
def addFolder (folder : Folder) : Action Rest String :=
  if r.daemonConnected then do
    throughDaemon call fun id s => { s with folders := s.folders ++ [{ folder with id := id }] }
    pure (call.daemon.toOption.getD "")
  else do
    let stored := { folder with id := r.ensureId call folder.id }
    r.editFolders P call.net (r.folders ++ [stored])
    pure stored.id

def updateFolder (folder : Folder) : Action Rest Unit :=
  let change (l : List Folder) := l.map fun f => if f.id = folder.id then folder else f
  if r.daemonConnected then
    throughDaemon call fun _ s => { s with folders := change s.folders }
  else r.editFolders P call.net (change r.folders)

def reorderFolders (newFolders : List Folder) : Action Rest Unit :=
  if r.daemonConnected then throughDaemon call fun _ s => { s with folders := newFolders }
  else r.editFolders P call.net newFolders

/-- The two writes of `deleteFolder`; the credentials are written only if some went. -/
def deleteFolderWrites (newFolders : List Folder) (newCreds : List (Credential Rest))
    (dev : Device) : Except ClientError Unit × Device :=
  let (first, dev) := persistFolders P r.daemonConnected call.net newFolders dev
  let (second, dev) :=
    if newCreds.length ≠ r.credentials.length then
      persistCredentials P r.daemonConnected call.credentialsNet newCreds dev
    else (.ok (), dev)
  (if call.foldersRejectFirst then first *> second else second *> first, dev)

def deleteFolder (folderId : String) : Action Rest Unit := fun s =>
  if r.daemonConnected then
    throughDaemon call (fun _ s =>
      { s with
        folders := s.folders.filter fun f => f.id ≠ folderId
        credentials := s.credentials.filter fun c => c.folderId ≠ folderId }) s
  else
    let newFolders := r.folders.filter fun f => f.id ≠ folderId
    let newCreds := r.credentials.filter fun c => c.folderId ≠ folderId
    settle (fun s => { s with folders := r.folders, credentials := r.credentials })
      (r.deleteFolderWrites P call newFolders newCreds s.device)
      { s with folders := newFolders, credentials := newCreds }

end Render

/-! ## Loading -/

/-- What one load meets. -/
structure LoadNet where
  folders : GetAnswer
  credentials : GetAnswer
  assetHolder : GetAnswer
  travel : TravelNet
  uuid : Nat → String

/-- A saved text, parsed; whatever cannot be parsed counts as the fallback. -/
def parseSaved {α : Type} (parse : Bytes → Option α) (fallback : α) : Option Bytes → α
  | none => fallback
  | some text => if text = [] then fallback else (parse text).getD fallback

def loadLocalFolders (net : LoadNet) (dev : Device) : Except ClientError (List Folder) :=
  (localRead P net.folders .folders dev).map
    (parseSaved (fun text => (P.folders.parse text).map (distinctFolders net.uuid)) [])

def loadLocalCredentials (net : LoadNet) (dev : Device) :
    Except ClientError (List (Credential Rest)) :=
  (localRead P net.credentials .credentials dev).map
    (parseSaved (fun text => (P.credentials.parse text).map (distinctCredentials net.uuid)) [])

def loadLocalAssetHolder (net : LoadNet) (dev : Device) : Except ClientError AssetHolder :=
  (localRead P net.assetHolder .assetHolder dev).map
    (parseSaved (fun text => (P.assetHolder.parse text).map fun json =>
      ⟨json.emails.getD [], json.phoneNumbers.getD [], json.u2fKeys.getD []⟩) ⟨[], [], []⟩)

/-- The settled reads of one load. -/
structure Loaded (Rest : Type) where
  folders : Except ClientError (List Folder)
  credentials : Except ClientError (List (Credential Rest))
  assetHolder : Except ClientError AssetHolder
  travel : TravelModeConfig

/-- The four concurrent reads of `performLoad`, all sent off with the session of the start. -/
def readAll (net : LoadNet) (dev : Device) : Loaded Rest × Device :=
  let (travel, dev') := getTravelModeConfigAsync P net.travel dev
  (⟨loadLocalFolders P net dev, loadLocalCredentials P net dev, loadLocalAssetHolder P net dev,
    travel⟩, dev'.afterReads [net.folders, net.credentials, net.assetHolder])

/-- The travel mode filter over a loaded list. -/
def travelFilter {α : Type} (travel : TravelModeConfig) (folderOf : α → String) (l : List α) :
    List α :=
  if travel.active then l.filter fun a => !travel.hiddenFolderIds.contains (folderOf a) else l

/-- `e.name === 'DecryptionPendingError'`. -/
def isPending {α : Type} : Except ClientError α → Bool
  | .error (.decryptionPending _) => true
  | _ => false

/-- What `performLoad` does with the settled reads. -/
def applyLoad (loaded : Loaded Rest) (s : App Rest) : App Rest :=
  let f := loaded.folders.toOption
  let c := loaded.credentials.toOption
  let a := loaded.assetHolder.toOption
  let pendingError :=
    isPending loaded.folders || isPending loaded.credentials || isPending loaded.assetHolder
  if s.device.session && s.device.keys.token.isNone then
    { s with vaultLocked := true, vaultReady := false, isLoading := false }
  else if pendingError && f.isNone && c.isNone && a.isNone then
    { s with vaultLocked := false, isLoading := false }
  else
    { s with
      folders := (f.map (travelFilter loaded.travel Folder.id)).getD s.folders
      credentials := (c.map (travelFilter loaded.travel Credential.folderId)).getD s.credentials
      assetHolder := a.getD s.assetHolder
      vaultReady := true
      loadError := false
      vaultLocked := false
      isLoading := false }

/-- A daemon token: 64 characters. -/
def KeyStore.hasDaemonToken (keys : KeyStore) : Bool :=
  keys.token.any fun token => token.length = 64

def performLoad (net : LoadNet) (s : App Rest) : App Rest :=
  if s.device.keys.hasDaemonToken then s
  else
    let (loaded, dev) := readAll P net s.device
    applyLoad loaded { s with isLoading := true, device := dev }

/-! ## What goes through -/

variable {call : Call} {load : LoadNet} {dev : Device}

variable {P} {s : App Rest} {r : Render Rest} {net : Net}

theorem applyLoad_device (loaded : Loaded Rest) : (applyLoad loaded s).device = s.device := by
  unfold applyLoad
  dsimp only
  split
  · rfl
  · split <;> rfl

section

variable (hP : P.aesGcm.Ideal) (hmode : r.daemonConnected = false)
include hP hmode

theorem Render.editCredentials_stores (hw : s.device.Writable net)
    (updated : List (Credential Rest)) :
    ∃ dev, r.editCredentials P net updated s =
        (.ok (), { s with credentials := updated, device := dev }) ∧
      dev.Reads P .credentials (P.credentials.stringify updated) ∧
      s.device.Wrote .credentials dev := by
  obtain ⟨dev, hwrite, hreads, hwrote⟩ :=
    localWrite_stores hP hw
  refine ⟨dev, ?_, hreads, hwrote⟩
  simp [editCredentials, persistCredentials, hmode, hwrite, settle]

theorem Render.editFolders_stores (hw : s.device.Writable net) (updated : List Folder) :
    ∃ dev, r.editFolders P net updated s = (.ok (), { s with folders := updated, device := dev }) ∧
      dev.Reads P .folders (P.folders.stringify updated) ∧ s.device.Wrote .folders dev := by
  obtain ⟨dev, hwrite, hreads, hwrote⟩ :=
    localWrite_stores hP hw
  refine ⟨dev, ?_, hreads, hwrote⟩
  simp [editFolders, persistFolders, hmode, hwrite, settle]

theorem Render.addFolder_stores (hw : s.device.Writable call.net) (folder : Folder) :
    let updated := r.folders ++ [{ folder with id := r.ensureId call folder.id }]
    ∃ dev, r.addFolder P call folder s =
        (.ok (r.ensureId call folder.id), { s with folders := updated, device := dev }) ∧
      dev.Reads P .folders (P.folders.stringify updated) ∧ s.device.Wrote .folders dev := by
  intro updated
  obtain ⟨dev, hrun, hreads, hwrote⟩ := editFolders_stores hP hmode hw updated
  refine ⟨dev, ?_, hreads, hwrote⟩
  rw [addFolder, if_neg (by simp [hmode]), Fallible.bind_run_ok hrun]
  rfl

theorem Render.deleteFolder_stores (hw : s.device.Writable call.net)
    (hw' : s.device.Writable call.credentialsNet) (id : String) :
    let newFolders := r.folders.filter fun f => f.id ≠ id
    let newCreds := r.credentials.filter fun c => c.folderId ≠ id
    ∃ dev, r.deleteFolder P call id s =
        (.ok (), { s with folders := newFolders, credentials := newCreds, device := dev }) ∧
      dev.Reads P .folders (P.folders.stringify newFolders) ∧
      (newCreds.length ≠ r.credentials.length →
        dev.Reads P .credentials (P.credentials.stringify newCreds)) ∧
      (newCreds.length = r.credentials.length →
        ∀ text, s.device.Reads P .credentials text → dev.Reads P .credentials text) ∧
      dev.session = s.device.session ∧ dev.keys = s.device.keys ∧
      dev.travel = s.device.travel := by
  intro newFolders newCreds
  obtain ⟨dev, hwrite, hreads, hwrote⟩ :=
    localWrite_stores hP hw
  by_cases hlen : newCreds.length = r.credentials.length
  · refine ⟨dev, ?_, hreads, fun h => absurd hlen h,
      fun _ text h => (hwrote.reads_other (by decide)).mpr h, hwrote.session, hwrote.keys,
      hwrote.travel⟩
    have hwrites : r.deleteFolderWrites P call newFolders newCreds s.device = (.ok (), dev) := by
      simp only [deleteFolderWrites, persistFolders, hmode, Bool.false_eq_true, if_false, hwrite,
        hlen, ne_eq, not_true_eq_false]
      cases call.foldersRejectFirst <;> rfl
    simp only [deleteFolder, hmode, Bool.false_eq_true, if_false]
    rw [hwrites]
    rfl
  · obtain ⟨dev', hwrite', hreads', hwrote'⟩ := localWrite_stores hP (hwrote.writable.mpr hw')
    refine ⟨dev', ?_, (hwrote'.reads_other (by decide)).mpr hreads, fun _ => hreads',
      fun h => absurd h hlen, hwrote'.session.trans hwrote.session,
      hwrote'.keys.trans hwrote.keys, hwrote'.travel.trans hwrote.travel⟩
    have hwrites : r.deleteFolderWrites P call newFolders newCreds s.device = (.ok (), dev') := by
      simp only [deleteFolderWrites, persistFolders, persistCredentials, hmode,
        Bool.false_eq_true, if_false, hwrite, ne_eq, hlen, not_false_eq_true, if_true, hwrite']
      cases call.foldersRejectFirst <;> rfl
    simp only [deleteFolder, hmode, Bool.false_eq_true, if_false]
    rw [hwrites]
    rfl

end

/-- All the `GET`s of a load are answered. -/
structure LoadNet.Online (net : LoadNet) : Prop where
  folders : net.folders = .stored
  credentials : net.credentials = .stored
  assetHolder : net.assetHolder = .stored

/-- A load sets what it read: the user is logged in, and not with a daemon token. -/
structure Device.Ready (dev : Device) : Prop where
  token : dev.session = true → dev.keys.token.isSome = true
  noDaemon : dev.keys.hasDaemonToken = false

theorem loadLocalCredentials_reads (hP : P.credentials.Lawful) (hload : load.credentials = .stored)
    {l : List (Credential Rest)} (h : dev.Reads P .credentials (P.credentials.stringify l)) :
    loadLocalCredentials P load dev = .ok (distinctCredentials load.uuid l) := by
  rw [Device.Reads] at h
  simp [loadLocalCredentials, hload, h, Except.map, parseSaved, hP.stringify_ne_nil,
    hP.parse_stringify]

theorem loadLocalFolders_reads (hP : P.folders.Lawful) (hload : load.folders = .stored)
    {l : List Folder} (h : dev.Reads P .folders (P.folders.stringify l)) :
    loadLocalFolders P load dev = .ok (distinctFolders load.uuid l) := by
  rw [Device.Reads] at h
  simp [loadLocalFolders, hload, h, Except.map, parseSaved, hP.stringify_ne_nil, hP.parse_stringify]

/-- **A load of a vault that can be read** shows it through the travel mode filter, and leaves
the stored vault as it is. -/
theorem performLoad_stored (hP : P.Ideal) (hload : load.Online) (hready : s.device.Ready)
    {cfg : TravelModeConfig} (hcfg : s.device.TravelConfig cfg) {folders : List Folder}
    {credentials : List (Credential Rest)}
    (hf : s.device.Reads P .folders (P.folders.stringify folders))
    (hc : s.device.Reads P .credentials (P.credentials.stringify credentials)) :
    (performLoad P load s).folders =
        travelFilter cfg Folder.id (distinctFolders load.uuid folders) ∧
      (performLoad P load s).credentials =
        travelFilter cfg Credential.folderId (distinctCredentials load.uuid credentials) ∧
      s.device.SameVault (performLoad P load s).device ∧
      (performLoad P load s).device.TravelConfig cfg ∧
      (performLoad P load s).device.travel.vault = s.device.travel.vault ∧
      (performLoad P load s).daemonConnected = s.daemonConnected := by
  obtain ⟨hget, hsaved⟩ := getTravelModeConfigAsync_saved (P := P) hcfg
  have hvault := getTravelModeConfigAsync_vault (P := P) load.travel s.device
  have hafter : ∀ dev : Device, dev.afterReads [load.folders, load.credentials, load.assetHolder] =
      dev := by
    intro dev
    simp [Device.afterReads, hload.folders, hload.credentials, hload.assetHolder,
      GetAnswer.unauthorized]
  unfold performLoad readAll
  rw [if_neg (by simp [hready.noDaemon])]
  dsimp only
  rw [hafter, loadLocalFolders_reads hP.folders hload.folders hf,
    loadLocalCredentials_reads hP.credentials hload.credentials hc, hget]
  unfold applyLoad
  dsimp only [Except.toOption]
  have hlogin : ¬ (s.device.session && s.device.keys.token.isNone) = true := by
    cases hs : s.device.session with
    | false => simp
    | true => simpa using Option.isSome_iff_ne_none.mp (hready.token hs)
  rw [hvault.session, hvault.keys, if_neg hlogin, if_neg (by simp)]
  exact ⟨rfl, rfl, hvault, hsaved, getTravelModeConfigAsync_hidden load.travel _, rfl⟩

end PwdNow.Client
