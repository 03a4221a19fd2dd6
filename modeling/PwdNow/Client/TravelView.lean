import PwdNow.Client.Conservation

/-!
# Client — what the main key opens in travel mode

`handleEnableTravel` takes two vaults that differ in the hidden folders to two devices, which should
look the same to whoever has the main key but not the travel password. `Device.mainView` is what
that observer sees: the folders and credentials, on the server or in `localStorage`, as the keys
held before open them.
-/

namespace PwdNow.Client

open Kit

variable {Rest : Type} (P : Platform Rest)

/-- What a resource of `dev` reads as, with the session and the keys of `owner`. -/
def Device.mainView (owner dev : Device) (r : Resource) : Except ClientError (Option Bytes) :=
  localRead P .stored r { dev with session := owner.session, keys := owner.keys }

/-- The vaults differ at most in what is hidden. -/
def Vault.AgreeOutside (hiddenFolderIds : List String) (v₁ v₂ : Vault Rest) : Prop :=
  v₁.visible hiddenFolderIds = v₂.visible hiddenFolderIds

variable {P} {s s₁ s₂ : App Rest} {net net₁ net₂ : TravelNet} {load load₁ load₂ : LoadNet}
  {password confirmation : String} {hiddenFolderIds : List String}

/-- The copies of the vault are as they were; a session may have ended. -/
structure Device.SameCopies (dev dev' : Device) : Prop where
  server : dev'.server = dev.server
  localStorage : dev'.localStorage = dev.localStorage

theorem Device.SameCopies.mainView {dev dev' : Device} (h : dev.SameCopies dev') (owner : Device)
    (r : Resource) : owner.mainView P dev' r = owner.mainView P dev r := by
  unfold Device.mainView localRead
  rw [h.server, h.localStorage]

theorem Device.sameCopies_afterReads (dev : Device) (answers : List GetAnswer) :
    dev.SameCopies (dev.afterReads answers) := by
  unfold Device.afterReads
  split <;> exact ⟨rfl, rfl⟩

theorem performLoad_sameCopies (load : LoadNet) (s : App Rest) :
    s.device.SameCopies (performLoad P load s).device := by
  unfold performLoad
  split
  · exact ⟨rfl, rfl⟩
  · have hget := getTravelModeConfigAsync_vault (P := P) load.travel s.device
    have hreads := Device.sameCopies_afterReads (getTravelModeConfigAsync P load.travel s.device).2
      [load.folders, load.credentials, load.assetHolder]
    unfold readAll
    dsimp only
    rw [applyLoad_device]
    exact ⟨hreads.server.trans hget.server, hreads.localStorage.trans hget.localStorage⟩

/-- **Enabling travel mode hides nothing from the main key.** -/
theorem handleEnableTravel_mainView (r : Resource) :
    s.device.mainView P
        (handleEnableTravel P net load password confirmation hiddenFolderIds s).2.device r =
      localRead P .stored r s.device := by
  unfold handleEnableTravel
  split
  · rfl
  split
  · rfl
  split
  · rfl
  have hsame := performLoad_sameCopies (P := P) load { s with
    device := (enableTravelMode P net password hiddenFolderIds s.credentials s.folders s.device).2 }
  exact hsame.mainView s.device r

/-- **Two vaults look the same to the main key exactly when they are the same**, whatever is
hidden. -/
theorem mainView_eq_iff (hP : P.Ideal) {v₁ v₂ : Vault Rest}
    (hs₁ : s₁.device.Stores P v₁.toItems) (hs₂ : s₂.device.Stores P v₂.toItems) :
    (∀ r, r = .folders ∨ r = .credentials → s₁.device.mainView P
          (handleEnableTravel P net₁ load₁ password confirmation hiddenFolderIds s₁).2.device r =
        s₂.device.mainView P
          (handleEnableTravel P net₂ load₂ password confirmation hiddenFolderIds s₂).2.device r) ↔
      v₁.toItems = v₂.toItems := by
  simp only [handleEnableTravel_mainView]
  constructor
  · intro h
    have hfolders := hs₁.folders.symm.trans ((h .folders (.inl rfl)).trans hs₂.folders)
    have hcredentials :=
      hs₁.credentials.symm.trans ((h .credentials (.inr rfl)).trans hs₂.credentials)
    exact Items.ext (hP.folders.stringify_inj (Option.some.inj (Except.ok.inj hfolders)))
      (hP.credentials.stringify_inj (Option.some.inj (Except.ok.inj hcredentials)))
  · rintro h r (rfl | rfl)
    · rw [h] at hs₁
      exact hs₁.folders.trans hs₂.folders.symm
    · rw [h] at hs₁
      exact hs₁.credentials.trans hs₂.credentials.symm

/-! ## Two small vaults -/

/-- Another login in the hidden folder. -/
def otherLogin : Credential Unit := ⟨.string "secret", "work", ()⟩

def otherVault : Vault Unit :=
  { smallVault with credentials := [homeWifi, otherLogin], nodup_credentials := by decide }

def otherApp : App Unit := symbolicApp [home, work] [homeWifi, otherLogin]

theorem otherApp_stores : otherApp.device.Stores symbolicPlatform otherVault.toItems :=
  ⟨readBody_symbolicBody .folders _, readBody_symbolicBody .credentials _⟩

theorem mainView_eq_iff_otherVault :
    (∀ r, r = .folders ∨ r = .credentials →
      smallApp.device.mainView symbolicPlatform (handleEnableTravel symbolicPlatform onlineTravel
          onlineLoad "correct horse" "correct horse" ["work"] smallApp).2.device r =
        otherApp.device.mainView symbolicPlatform (handleEnableTravel symbolicPlatform onlineTravel
          onlineLoad "correct horse" "correct horse" ["work"] otherApp).2.device r) ↔
      smallVault.toItems = otherVault.toItems :=
  mainView_eq_iff symbolicPlatform_ideal smallApp_stores otherApp_stores

/-- **The hidden login shows.** The vaults agree outside the hidden folder, travel mode is enabled
on both, and the main key tells them apart. -/
theorem hidden_login_shows :
    smallVault.AgreeOutside ["work"] otherVault ∧
      (handleEnableTravel symbolicPlatform onlineTravel onlineLoad "correct horse" "correct horse"
        ["work"] smallApp).1 = .ok () ∧
      (handleEnableTravel symbolicPlatform onlineTravel onlineLoad "correct horse" "correct horse"
        ["work"] otherApp).1 = .ok () ∧
      smallApp.device.mainView symbolicPlatform (handleEnableTravel symbolicPlatform onlineTravel
          onlineLoad "correct horse" "correct horse" ["work"] smallApp).2.device .credentials ≠
        otherApp.device.mainView symbolicPlatform (handleEnableTravel symbolicPlatform onlineTravel
          onlineLoad "correct horse" "correct horse" ["work"] otherApp).2.device .credentials := by
  refine ⟨rfl, rfl, rfl, ?_⟩
  rw [handleEnableTravel_mainView, handleEnableTravel_mainView]
  intro heq
  have htexts := smallApp_stores.credentials.symm.trans (heq.trans otherApp_stores.credentials)
  have hlists := symbolicPlatform_ideal.credentials.stringify_inj
    (Option.some.inj (Except.ok.inj htexts))
  exact absurd hlists (by decide)

end PwdNow.Client
