import PwdNow.Client.StaleRender

/-!
# Client — the vault across a time in travel mode

`web/src/pages/Settings/SecurityModesSection.tsx` around `enableTravelMode` and `disableTravelMode`.
In travel mode a load shows only the visible part of the stored vault, and an edit stores what is
shown. Disabling it drops the sealed hidden part without storing it again.
-/

namespace PwdNow.Client

open Kit Kit.Fallible List

variable {Rest : Type} (P : Platform Rest)

/-- The two lists that a load shows and an edit changes. -/
@[ext]
structure Items (Rest : Type) where
  folders : List Folder
  credentials : List (Credential Rest)

/-- A vault as it is stored: its ids are distinct. -/
structure Vault (Rest : Type) extends Items Rest where
  nodup_folders : (folders.map Folder.id).Nodup
  nodup_credentials : (credentials.map Credential.id).Nodup

namespace Vault

def hidden (v : Vault Rest) (hiddenFolderIds : List String) : Items Rest :=
  ⟨v.folders.filter (hidesFolder hiddenFolderIds),
    v.credentials.filter (hidesCredential hiddenFolderIds)⟩

def visible (v : Vault Rest) (hiddenFolderIds : List String) : Items Rest :=
  ⟨v.folders.filter fun f => !hidesFolder hiddenFolderIds f,
    v.credentials.filter fun c => !hidesCredential hiddenFolderIds c⟩

end Vault

/-! ## Edits of what is shown -/

inductive Edit (Rest : Type) where
  | credential (op : CredentialOp Rest)
  | addFolder (folder : Folder)
  | updateFolder (folder : Folder)
  | deleteFolder (id : String)

namespace Edit

/-- The call of the mutator, through the render of the state it is made in. -/
def perform (edit : Edit Rest) (call : Call) (s : App Rest) : App Rest :=
  match edit with
  | .credential op => (s.render.perform P call op s).2
  | .addFolder folder => (s.render.addFolder P call folder s).2
  | .updateFolder folder => (s.render.updateFolder P call folder s).2
  | .deleteFolder id => (s.render.deleteFolder P call id s).2

/-- What the edit means: the lists it should lead to. -/
def apply (edit : Edit Rest) (call : Call) (items : Items Rest) : Items Rest :=
  match edit with
  | .credential op => { items with credentials := op.apply items.credentials }
  | .addFolder folder =>
    let taken := folder.id = "" || items.folders.any (·.id = folder.id)
    { items with
      folders := items.folders ++ [{ folder with id := if taken then call.uuid else folder.id }] }
  | .updateFolder folder =>
    { items with folders := items.folders.map fun f => if f.id = folder.id then folder else f }
  | .deleteFolder id =>
    ⟨items.folders.filter fun f => f.id ≠ id, items.credentials.filter fun c => c.folderId ≠ id⟩

/-- The edit stores the list of folders. -/
def writesFolders : Edit Rest → Bool
  | .credential _ => false
  | _ => true

/-- The edit stores the list of credentials; deleting a folder does if it holds any. -/
def writesCredentials (items : Items Rest) : Edit Rest → Bool
  | .credential _ => true
  | .deleteFolder id => items.credentials.any fun c => c.folderId = id
  | _ => false

end Edit

/-- Edits awaited one after another, each through the render that the one before it led to. -/
def performAll (edits : List (Edit Rest × Call)) (s : App Rest) : App Rest :=
  run (fun s e => e.1.perform P e.2 s) s edits

def applyEdits (edits : List (Edit Rest × Call)) (items : Items Rest) : Items Rest :=
  run (fun items e => e.1.apply e.2 items) items edits

def writesFolders (edits : List (Edit Rest × Call)) : Bool := edits.any fun e => e.1.writesFolders

def writesCredentials : List (Edit Rest × Call) → Items Rest → Bool
  | [], _ => false
  | e :: rest, items =>
    e.1.writesCredentials items || writesCredentials rest (e.1.apply e.2 items)

/-! ## The settings page -/

/-- `enableTravelMode` with the lists shown, and the load that follows it. -/
def enterTravel (net : TravelNet) (load : LoadNet) (password : String)
    (hiddenFolderIds : List String) (s : App Rest) : App Rest :=
  performLoad P load { s with
    device := (enableTravelMode P net password hiddenFolderIds s.credentials s.folders s.device).2 }

/-- `handleEnableTravel`. -/
def handleEnableTravel (net : TravelNet) (load : LoadNet) (password confirmation : String)
    (hiddenFolderIds : List String) (s : App Rest) : Except String Unit × App Rest :=
  if hiddenFolderIds.length = 0 then (.error "Select at least one folder to hide.", s)
  else if password.length < 8 then (.error "Minimum 8 characters.", s)
  else if password ≠ confirmation then (.error "Passwords do not match.", s)
  else (.ok (), enterTravel P net load password hiddenFolderIds s)

/-- `handleDisableTravel`: the lists that `disableTravelMode` hands back are not used. -/
def handleDisableTravel (net : TravelNet) (load : LoadNet) (password : String) (s : App Rest) :
    Except String Unit × App Rest :=
  let disabled := disableTravelMode P net password s.credentials s.folders s.device
  if !disabled.1.ok then (.error "Incorrect password.", { s with device := disabled.2 })
  else (.ok (), performLoad P load { s with device := disabled.2 })

/-! ## What is stored -/

/-- The device stores exactly these lists. -/
structure Device.Stores (dev : Device) (items : Items Rest) : Prop where
  folders : dev.Reads P .folders (P.folders.stringify items.folders)
  credentials : dev.Reads P .credentials (P.credentials.stringify items.credentials)

/-- Every write of the call goes through. -/
def Device.Accepts (dev : Device) (call : Call) : Prop :=
  dev.Writable call.net ∧ dev.Writable call.credentialsNet

/-- `s'` is `s` after edits that went through: it shows `items`, and nothing but the stored
lists has changed otherwise. -/
structure App.Edited (s s' : App Rest) (items : Items Rest) : Prop where
  folders : s'.folders = items.folders
  credentials : s'.credentials = items.credentials
  daemonConnected : s'.daemonConnected = s.daemonConnected
  session : s'.device.session = s.device.session
  keys : s'.device.keys = s.device.keys
  travel : s'.device.travel = s.device.travel

def App.items (s : App Rest) : Items Rest := ⟨s.folders, s.credentials⟩

variable {P} {s s' : App Rest} {stored : Items Rest} {items : Items Rest} {call : Call}
  {dev' : Device}

theorem App.Edited.accepts (h : s.Edited s' items) :
    s'.device.Accepts call ↔ s.device.Accepts call := by
  unfold Device.Accepts Device.Writable
  rw [h.session, h.keys]

theorem length_filter_folder_ne (l : List (Credential Rest)) (id : String) :
    (l.filter fun c => c.folderId ≠ id).length ≠ l.length ↔
      (l.any fun c => c.folderId = id) = true := by
  rw [Ne, length_filter_eq_length_iff]
  simp

/-- **One edit.** It shows what it means, and stores the lists it writes as it shows them. -/
theorem Edit.perform_stored (hP : P.Ideal) (hmode : s.daemonConnected = false)
    (hs : s.device.Stores P stored) (edit : Edit Rest) (hcall : s.device.Accepts call) :
    let items := edit.apply call s.items
    s.Edited (edit.perform P call s) items ∧ (edit.perform P call s).device.Stores P
        ⟨if edit.writesFolders then items.folders else stored.folders,
          if edit.writesCredentials s.items then items.credentials else stored.credentials⟩ := by
  cases edit with
  | credential op =>
    obtain ⟨dev, hrun, hreads, hwrote⟩ := Render.editCredentials_stores (r := s.render) hP.aesGcm
      hmode hcall.1 (op.apply s.credentials)
    simp only [perform, Render.perform_eq (r := s.render) hmode]
    rw [show s.render.credentials = s.credentials from rfl, hrun]
    exact ⟨⟨rfl, rfl, rfl, hwrote.session, hwrote.keys, hwrote.travel⟩,
      (hwrote.reads_other (by decide)).mpr hs.folders, hreads⟩
  | addFolder folder =>
    obtain ⟨dev, hrun, hreads, hwrote⟩ := Render.addFolder_stores (r := s.render) hP.aesGcm hmode
      hcall.1 folder
    have hid : s.render.ensureId call folder.id =
        if folder.id = "" || s.folders.any (·.id = folder.id) then call.uuid else folder.id := by
      unfold Render.ensureId
      by_cases h : folder.id = "" <;> simp [h, App.render]
    rw [hid] at hrun hreads
    simp only [perform, hrun]
    exact ⟨⟨rfl, rfl, rfl, hwrote.session, hwrote.keys, hwrote.travel⟩, hreads,
      (hwrote.reads_other (by decide)).mpr hs.credentials⟩
  | updateFolder folder =>
    obtain ⟨dev, hrun, hreads, hwrote⟩ := Render.editFolders_stores (r := s.render) hP.aesGcm hmode
      hcall.1 (s.folders.map fun f => if f.id = folder.id then folder else f)
    have hperform : perform P (.updateFolder folder) call s = (s.render.editFolders P call.net
          (s.folders.map fun f => if f.id = folder.id then folder else f) s).2 := by
      simp [perform, Render.updateFolder, App.render, hmode]
    rw [hperform, hrun]
    exact ⟨⟨rfl, rfl, rfl, hwrote.session, hwrote.keys, hwrote.travel⟩, hreads,
      (hwrote.reads_other (by decide)).mpr hs.credentials⟩
  | deleteFolder id =>
    obtain ⟨dev, hrun, hreads, hwritten, hkept, hsession, hkeys, htravel⟩ :=
      Render.deleteFolder_stores (r := s.render) hP.aesGcm hmode hcall.1 hcall.2 id
    simp only [perform, hrun]
    refine ⟨⟨rfl, rfl, rfl, hsession, hkeys, htravel⟩, hreads, ?_⟩
    by_cases hany : (s.credentials.any fun c => c.folderId = id) = true
    · rw [show writesCredentials s.items (.deleteFolder id) = true from hany, if_pos rfl]
      exact hwritten ((length_filter_folder_ne s.credentials id).mpr hany)
    · rw [show writesCredentials s.items (.deleteFolder id) = false from
        (Bool.not_eq_true _).mp hany, if_neg Bool.false_ne_true]
      exact hkept (not_not.mp (mt (length_filter_folder_ne s.credentials id).mp hany)) _
        hs.credentials

/-! ## Runs of edits -/

variable {edit : Edit Rest} {edits : List (Edit Rest × Call)} {α : Type}

theorem Edit.apply_folders (h : edit.writesFolders = false) (call : Call) (items : Items Rest) :
    (edit.apply call items).folders = items.folders := by
  cases edit with
  | credential op => rfl
  | addFolder folder => cases h
  | updateFolder folder => cases h
  | deleteFolder id => cases h

theorem Edit.apply_credentials (h : edit.writesCredentials items = false) :
    (edit.apply call items).credentials = items.credentials := by
  cases edit with
  | credential op => cases h
  | addFolder folder => rfl
  | updateFolder folder => rfl
  | deleteFolder id =>
    -- the folder holds nothing, so its deletion takes nothing along
    refine filter_eq_self.mpr fun c hc => ?_
    have := any_eq_false.mp h c hc
    simpa using this

theorem applyEdits_folders (h : writesFolders edits = false) (items : Items Rest) :
    (applyEdits edits items).folders = items.folders := by
  induction edits generalizing items with
  | nil => rfl
  | cons e rest ih =>
    simp only [writesFolders, any_cons, Bool.or_eq_false_iff] at h
    exact (ih h.2 _).trans (Edit.apply_folders h.1 e.2 items)

theorem applyEdits_credentials (h : writesCredentials edits items = false) :
    (applyEdits edits items).credentials = items.credentials := by
  induction edits generalizing items with
  | nil => rfl
  | cons e rest ih =>
    simp only [writesCredentials, Bool.or_eq_false_iff] at h
    exact (ih h.2).trans (Edit.apply_credentials h.1)

theorem ite_or_eq {a b : Bool} {x y o : α} (h : b = false → x = y) :
    (if a || b then x else o) = if b then x else if a then y else o := by
  cases b with
  | true => simp
  | false => simp [h rfl]

/-- **The run lemma.** A list that an edit wrote is stored as shown, the other as it was. -/
theorem performAll_stored (hP : P.Ideal) (hmode : s.daemonConnected = false)
    (hs : s.device.Stores P stored) (hcalls : ∀ e ∈ edits, s.device.Accepts e.2) :
    let items := applyEdits edits s.items
    s.Edited (performAll P edits s) items ∧ (performAll P edits s).device.Stores P
        ⟨if writesFolders edits then items.folders else stored.folders,
          if writesCredentials edits s.items then items.credentials else stored.credentials⟩ := by
  induction edits generalizing s stored with
  | nil => exact ⟨⟨rfl, rfl, rfl, rfl, rfl, rfl⟩, hs⟩
  | cons e rest ih =>
    obtain ⟨edit, call⟩ := e
    obtain ⟨hedited, hstores⟩ := edit.perform_stored hP hmode hs (hcalls _ mem_cons_self)
    have hitems : (edit.perform P call s).items = edit.apply call s.items := by
      unfold App.items
      rw [hedited.folders, hedited.credentials]
      rfl
    obtain ⟨hedited', hstores'⟩ := ih (hedited.daemonConnected.trans hmode) hstores
      fun e he => hedited.accepts.mpr (hcalls e (mem_cons_of_mem _ he))
    rw [hitems] at hedited' hstores'
    refine ⟨⟨hedited'.folders, hedited'.credentials,
      hedited'.daemonConnected.trans hedited.daemonConnected,
      hedited'.session.trans hedited.session, hedited'.keys.trans hedited.keys,
      hedited'.travel.trans hedited.travel⟩, ?_⟩
    have hf := ite_or_eq (a := edit.writesFolders) (o := stored.folders)
      fun h : writesFolders rest = false => applyEdits_folders h (edit.apply call s.items)
    have hc := ite_or_eq (a := edit.writesCredentials s.items) (o := stored.credentials)
      fun h : writesCredentials rest (edit.apply call s.items) = false => applyEdits_credentials h
    rw [← hf, ← hc] at hstores'
    exact hstores'

/-! ## A time in travel mode -/

/-- A time in travel mode: how it is entered, the edits, and how it is left. -/
structure Trip (Rest : Type) where
  enable : TravelNet
  load : LoadNet
  password : String
  hiddenFolderIds : List String
  edits : List (Edit Rest × Call)
  disable : TravelNet
  disablePassword : String
  reload : LoadNet

namespace Trip

/-- The last state in travel mode. -/
def travelling (P : Platform Rest) (trip : Trip Rest) (s : App Rest) : App Rest :=
  performAll P trip.edits (enterTravel P trip.enable trip.load trip.password trip.hiddenFolderIds s)

/-- The answer to the attempt to leave travel mode, and the state it leads to. -/
def leave (P : Platform Rest) (trip : Trip Rest) (s : App Rest) : Except String Unit × App Rest :=
  handleDisableTravel P trip.disable trip.reload trip.disablePassword (trip.travelling P s)

/-- No request fails. -/
structure Online (trip : Trip Rest) (dev : Device) : Prop where
  enable : trip.enable.putConfig = true
  load : trip.load.Online
  edits : ∀ e ∈ trip.edits, dev.Accepts e.2
  disable : trip.disable.putConfig = true
  reload : trip.reload.Online

end Trip

/-- **What travel mode should keep.** The stored vault is the visible items as edited, together
with the hidden items, each as often as it was. -/
def Conserved (P : Platform Rest) (dev : Device) (edited hidden : Items Rest) : Prop :=
  ∃ stored : Items Rest, dev.Stores P stored ∧
    stored.folders.Perm (edited.folders ++ hidden.folders) ∧
    stored.credentials.Perm (edited.credentials ++ hidden.credentials)

variable {dev : Device}

theorem Device.Stores.unique {items' : Items Rest} (hP : P.Ideal) (h : dev.Stores P items)
    (h' : dev.Stores P items') : items = items' :=
  Items.ext (hP.folders.stringify_inj (h.folders.unique h'.folders))
    (hP.credentials.stringify_inj (h.credentials.unique h'.credentials))

theorem Device.SameVault.stores (h : dev.SameVault dev') (hs : dev.Stores P items) :
    dev'.Stores P items :=
  ⟨h.reads.mpr hs.folders, h.reads.mpr hs.credentials⟩

theorem Device.SameVault.ready (h : dev.SameVault dev') (hr : dev.Ready) : dev'.Ready :=
  ⟨by rw [h.session, h.keys]; exact hr.token, by rw [h.keys]; exact hr.noDaemon⟩

theorem ite_perm_append_iff {w : Bool} {l edited : List α} {p : α → Bool}
    (h : w = false → edited = l.filter fun a => !p a) :
    (if w then edited else l).Perm (edited ++ l.filter p) ↔ l.filter p = [] ∨ w = false := by
  cases w with
  | true =>
    simp only [if_true, Bool.true_eq_false, or_false]
    constructor
    · intro hperm
      have := hperm.length_eq
      rw [length_append] at this
      exact length_eq_zero_iff.mp (by omega)
    · intro hnil
      rw [hnil, append_nil]
  | false =>
    simp only [Bool.false_eq_true, if_false, or_true, iff_true]
    rw [h rfl]
    have := (filter_append_perm p l).symm
    exact this.trans perm_append_comm

variable {v : Vault Rest} {trip : Trip Rest}

variable {net : TravelNet} {load : LoadNet}

theorem enterTravel_shows (hP : P.Ideal) (hs : s.device.Stores P v.toItems)
    (hready : s.device.Ready) (hnet : net.putConfig = true) (hload : load.Online)
    (password : String) (hiddenFolderIds : List String) :
    let s' := enterTravel P net load password hiddenFolderIds s
    s'.items = v.visible hiddenFolderIds ∧ s'.device.Stores P v.toItems ∧
      s'.daemonConnected = s.daemonConnected ∧ s'.device.keys = s.device.keys ∧
      s'.device.session = s.device.session ∧
      ∃ cfg, s'.device.Hides P password cfg ⟨s.credentials.filter (hidesCredential hiddenFolderIds),
        s.folders.filter (hidesFolder hiddenFolderIds)⟩ := by
  intro s'
  let dev := (enableTravelMode P net password hiddenFolderIds s.credentials s.folders s.device).2
  have hsame : s.device.SameVault dev := enableTravelMode_vault
  obtain ⟨cfg, hids, hhides⟩ : ∃ cfg, cfg.hiddenFolderIds = hiddenFolderIds ∧
      dev.Hides P password cfg _ := enableTravelMode_hides hnet
  have hs' := hsame.stores hs
  obtain ⟨hfolders, hcredentials, hsame', hsaved, hvault, hdaemon⟩ :=
    performLoad_stored (s := { s with device := dev }) hP hload (hsame.ready hready) hhides.config
      hs'.folders hs'.credentials
  rw [distinctFolders_of_nodup _ v.nodup_folders] at hfolders
  rw [distinctCredentials_of_nodup _ v.nodup_credentials] at hcredentials
  refine ⟨Items.ext ?_ ?_, hsame'.stores hs', hdaemon, hsame'.keys.trans hsame.keys,
    hsame'.session.trans hsame.session, cfg, hsaved, hhides.active, hhides.passwordHash, ?_⟩
  · refine hfolders.trans ?_
    rw [travelFilter, if_pos hhides.active, hids]
    rfl
  · refine hcredentials.trans ?_
    rw [travelFilter, if_pos hhides.active, hids]
    rfl
  · obtain ⟨iv, hiv⟩ := hhides.vault
    exact ⟨iv, hvault.trans hiv⟩

theorem handleDisableTravel_ok {password : String}
    (h : (handleDisableTravel P net load password s).1 = .ok ()) :
    let disabled := disableTravelMode P net password s.credentials s.folders s.device
    disabled.1.ok = true ∧ handleDisableTravel P net load password s =
      (.ok (), performLoad P load { s with device := disabled.2 }) := by
  intro disabled
  unfold handleDisableTravel at h ⊢
  cases hok : disabled.1.ok with
  | true =>
    refine ⟨rfl, ?_⟩
    dsimp only
    rw [if_neg (by rw [hok]; simp)]
  | false =>
    dsimp only at h
    rw [if_pos (by rw [hok]; simp)] at h
    cases h

section

variable (hP : P.Ideal) (hs : s.device.Stores P v.toItems) (hmode : s.daemonConnected = false)
    (hready : s.device.Ready) (honline : trip.Online s.device)
include hP hs hmode hready honline

/-- At the end of the trip each list is stored as edited if an edit wrote it, and as it was
otherwise; the hidden items are still sealed away. -/
theorem Trip.travelling_stores : let visible := v.visible trip.hiddenFolderIds
    let edited := applyEdits trip.edits visible
    (trip.travelling P s).device.Stores P
        ⟨if writesFolders trip.edits then edited.folders else v.folders,
          if writesCredentials trip.edits visible then edited.credentials else v.credentials⟩ ∧
      (trip.travelling P s).device.Ready ∧
      ∃ cfg hidden, (trip.travelling P s).device.Hides P trip.password cfg hidden := by
  intro visible edited
  obtain ⟨hitems, hstored, hdaemon, hkeys', hsession, cfg, hhides⟩ := enterTravel_shows hP hs hready
    honline.enable honline.load trip.password trip.hiddenFolderIds
  have haccepts : ∀ e ∈ trip.edits, (enterTravel P trip.enable trip.load trip.password
      trip.hiddenFolderIds s).device.Accepts e.2 := by
    intro e he
    unfold Device.Accepts Device.Writable
    rw [hkeys', hsession]
    exact honline.edits e he
  obtain ⟨hedited, hstored'⟩ := performAll_stored hP (hdaemon.trans hmode) hstored haccepts
  rw [hitems] at hstored'
  refine ⟨hstored', ?_, cfg, _, hhides.congr hedited.travel hedited.session⟩
  unfold Trip.travelling
  exact ⟨by rw [hedited.session, hsession, hedited.keys, hkeys']; exact hready.token,
    by rw [hedited.keys, hkeys']; exact hready.noDaemon⟩

theorem Trip.leave_stores (hok : (trip.leave P s).1 = .ok ()) :
    let visible := v.visible trip.hiddenFolderIds
    let edited := applyEdits trip.edits visible
    (trip.leave P s).2.device.Stores P
      ⟨if writesFolders trip.edits then edited.folders else v.folders,
        if writesCredentials trip.edits visible then edited.credentials else v.credentials⟩ := by
  intro visible edited
  obtain ⟨hstored, hready, -⟩ := Trip.travelling_stores hP hs hmode hready honline
  obtain ⟨hdisabled, heq⟩ := handleDisableTravel_ok hok
  let dev := (disableTravelMode P trip.disable trip.disablePassword (trip.travelling P s).credentials
    (trip.travelling P s).folders (trip.travelling P s).device).2
  have hsame : (trip.travelling P s).device.SameVault dev := disableTravelMode_vault
  have hstored' := hsame.stores hstored
  obtain ⟨-, -, hsame', -⟩ := performLoad_stored (s := { trip.travelling P s with device := dev }) hP
    honline.reload (hsame.ready hready) (disableTravelMode_config honline.disable hdisabled)
    hstored'.folders hstored'.credentials
  rw [Trip.leave, heq]
  exact hsame'.stores hstored'

theorem Trip.leave_ok (hpassword : trip.disablePassword = trip.password)
    (hne : ∀ salt, P.hashPassword trip.password salt ≠ "") : (trip.leave P s).1 = .ok () := by
  obtain ⟨-, -, cfg, hidden, hhides⟩ := Trip.travelling_stores hP hs hmode hready honline
  unfold Trip.leave handleDisableTravel
  dsimp only
  rw [hpassword, disableTravelMode_merged hP hhides (hne _), if_neg (by simp)]

end

/-- **The hidden part is lost with the first write.** After a time in travel mode, left with the
right password and every request answered, the vault is the edited visible part and the hidden part
exactly when no edit wrote a list that had something hidden. -/
theorem conserved_iff (hP : P.Ideal) (hs : s.device.Stores P v.toItems)
    (hmode : s.daemonConnected = false) (hready : s.device.Ready)
    (honline : trip.Online s.device) (hok : (trip.leave P s).1 = .ok ()) :
    let visible := v.visible trip.hiddenFolderIds
    let hidden := v.hidden trip.hiddenFolderIds
    Conserved P (trip.leave P s).2.device (applyEdits trip.edits visible) hidden ↔
      (hidden.folders = [] ∨ writesFolders trip.edits = false) ∧
      (hidden.credentials = [] ∨ writesCredentials trip.edits visible = false) := by
  intro visible hidden
  have hstored := Trip.leave_stores hP hs hmode hready honline hok
  have hfolders : (if writesFolders trip.edits then _ else v.folders).Perm _ ↔ _ :=
    ite_perm_append_iff (p := hidesFolder trip.hiddenFolderIds)
      fun h : writesFolders trip.edits = false => applyEdits_folders h visible
  have hcredentials : (if writesCredentials trip.edits visible then _ else v.credentials).Perm _ ↔
      _ := ite_perm_append_iff (p := hidesCredential trip.hiddenFolderIds)
    fun h : writesCredentials trip.edits visible = false => applyEdits_credentials h
  constructor
  · rintro ⟨stored, hstored', hf, hc⟩
    obtain rfl := hstored.unique hP hstored'
    exact ⟨hfolders.mp hf, hcredentials.mp hc⟩
  · rintro ⟨hf, hc⟩
    exact ⟨_, hstored, hfolders.mpr hf, hcredentials.mpr hc⟩

/-! ### On the symbolic platform -/

def home : Folder := ⟨"home", "Home", none, none, none⟩

def work : Folder := ⟨"work", "Work", none, none, none⟩

def homeWifi : Credential Unit := ⟨.string "wifi", "home", ()⟩

def workLogin : Credential Unit := ⟨.string "login", "work", ()⟩

def hotelWifi : Credential Unit := ⟨.string "hotel", "home", ()⟩

def smallVault : Vault Unit where
  folders := [home, work]
  credentials := [homeWifi, workLogin]
  nodup_folders := by decide
  nodup_credentials := by decide

def onlineTravel : TravelNet :=
  ⟨true, true, true, true, true, true, "67e55044-10b1-426f-9247-bb680e5fe0c8", .replicate 12 0⟩

def onlineLoad : LoadNet :=
  ⟨.stored, .stored, .stored, onlineTravel, fun _ => "67e55044-10b1-426f-9247-bb680e5fe0c8"⟩

/-- The work folder is hidden, and one credential is added on the way. -/
def smallTrip : Trip Unit where
  enable := onlineTravel
  load := onlineLoad
  password := "correct horse"
  hiddenFolderIds := ["work"]
  edits := [(.credential (.add hotelWifi), symbolicCall)]
  disable := onlineTravel
  disablePassword := "correct horse"
  reload := onlineLoad

def smallApp : App Unit := symbolicApp [home, work] [homeWifi, workLogin]

theorem smallApp_stores : smallApp.device.Stores symbolicPlatform smallVault.toItems :=
  ⟨readBody_symbolicBody .folders _, readBody_symbolicBody .credentials _⟩

theorem smallApp_ready : smallApp.device.Ready := ⟨fun _ => rfl, by decide⟩

theorem smallTrip_online : smallTrip.Online smallApp.device where
  enable := rfl
  load := ⟨rfl, rfl, rfl⟩
  edits e he := by
    obtain rfl := mem_singleton.mp he
    exact ⟨symbolicDevice_writable _ _, symbolicDevice_writable _ _⟩
  disable := rfl
  reload := ⟨rfl, rfl, rfl⟩

theorem smallTrip_ok : (smallTrip.leave symbolicPlatform smallApp).1 = .ok () := by
  refine Trip.leave_ok symbolicPlatform_ideal smallApp_stores rfl smallApp_ready smallTrip_online rfl
    fun salt heq => ?_
  have hlength := congrArg String.length heq
  simp only [symbolicPlatform, String.length_append] at hlength
  have : smallTrip.password.length = 13 := by decide
  have : ("" : String).length = 0 := rfl
  omega

theorem conserved_iff_smallTrip :
    Conserved symbolicPlatform (smallTrip.leave symbolicPlatform smallApp).2.device
        (applyEdits smallTrip.edits (smallVault.visible ["work"])) (smallVault.hidden ["work"]) ↔
      ((smallVault.hidden ["work"]).folders = [] ∨ writesFolders smallTrip.edits = false) ∧
      ((smallVault.hidden ["work"]).credentials = [] ∨
        writesCredentials smallTrip.edits (smallVault.visible ["work"]) = false) :=
  conserved_iff symbolicPlatform_ideal smallApp_stores rfl smallApp_ready smallTrip_online
    smallTrip_ok

/-- **One added credential costs the hidden one.** -/
theorem smallTrip_not_conserved :
    (smallTrip.leave symbolicPlatform smallApp).1 = .ok () ∧
      ¬ Conserved symbolicPlatform (smallTrip.leave symbolicPlatform smallApp).2.device
        (applyEdits smallTrip.edits (smallVault.visible ["work"])) (smallVault.hidden ["work"]) := by
  refine ⟨smallTrip_ok, ?_⟩
  rintro ⟨stored, hstores, -, hperm⟩
  have hstored := Trip.leave_stores symbolicPlatform_ideal smallApp_stores rfl smallApp_ready
    smallTrip_online smallTrip_ok
  obtain rfl := hstored.unique symbolicPlatform_ideal hstores
  have hlength := hperm.length_eq
  revert hlength
  decide

end PwdNow.Client
