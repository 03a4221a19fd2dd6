import PwdNow.Daemon.Symbolic

/-!
# Daemon — changing the master password

`change_password` of `daemon/src/vault/state.rs` draws a *new* VMK, re-keys the pages of the
database with it and puts it in memory. Three things stay under the old one: the MAC of the header
it writes (`write_header` takes the VMK in memory), the audit chain, and every sealed column.
-/

namespace PwdNow.Daemon

open Kit Kit.Fallible Option DaemonState

variable (P : Primitives) (J : Serde) {db : Database}

/-- A failed decryption is a wrong password, and so is a VMK other than the one in memory. -/
def verifyMasterPasswordInner (env : Env) (password : Bytes) : Call Unit := do
  require (password.length ≤ 1024) (.auth "password too long")
  let header ← readHeader env .request
  let w ← lift (wrappedVmk P (env.io (.kdfMemory .request)) header password none)
  let vmkPlain ← lift (match w.unwrap P with
    | .ok plain => .ok plain
    | .error e =>
      if w.nonce.length = 12 ∨ w.nonce.length = 24 then fail (.auth "wrong password")
      else .error e)
  let current ← gets fun s => s.vmk
  require (current.any fun k => k.bytes = vmkPlain) (.auth "wrong password")

/-- The header after a change: the new VMK under the new password, every other copy gone. -/
def changedHeader (env : Env) (kek : Block 64) (header : VaultHeader) : VaultHeader :=
  { header.wrap P env.salt env.tuned kek env.vmkNonce env.vmk with
    passkeyCredentials := []
    pqcCredentials := []
    quickUnlockCredentials := [] }

def changePasswordInner (env : Env) (oldPassword newPassword : Bytes)
    (yk : Option (Block 20)) : Call Unit := do
  require (12 ≤ newPassword.length) (.auth "new password too short")
  require (newPassword.length ≤ 1024) (.auth "new password too long")
  verifyMasterPasswordInner P env oldPassword
  let kek ← lift
    (deriveKek P (env.io (.kdfMemory .newPassword)) newPassword yk env.salt env.tuned)
  let _current ← reads fun s => okOr s.vmk (.auth "locked")
  let isOpen ← gets fun s => s.dbOpen
  require isOpen (.auth "vault is locked")
  rekeyVault env (sqlcipherKey P env.vmk.bytes)
  env.at .passwordChangedAt
  onDatabase fun db => .ok (db.setMeta "password_changed_at" (.integer env.nowSecs))
  let header ← readHeader env .newPassword
  -- the VMK in memory is still the old one
  writeHeader P J env .newPassword (changedHeader P env kek header)
  env.at .lockedKey
  modify fun s => { s with vmk := some env.vmk }
  touch env

def changePassword (env : Env) (oldPassword newPassword : Bytes) (yk : Option (Block 20))
    (uid : UInt32) : Call Unit := do
  checkUnlockLockout env uid
  let res ← attemptErr (changePasswordInner P J env oldPassword newPassword yk)
  match res with
  | .ok () => pure ()
  | .error e => do
    recordFailedUnlock env uid
    throw (.err e)

/-- An unlocked vault: a VMK in memory, and a connection to a database of the current
schema. -/
structure Unlocked (s : DaemonState) (vmk : Block 32) (db : Database) : Prop where
  vmk : s.vmk = some vmk
  dbOpen : s.dbOpen = true
  vault : ∃ key, s.disk.vault = some (.pages key db)
  current : db.Current
  primaryKeys : db.PrimaryKeys

section

variable {P J} {env : Env} {s t : DaemonState} {old new : Bytes} {yk : Option (Block 20)}
  {uid : UInt32} {vmk : Block 32} {db : Database} {header : VaultHeader}

variable {u : Unit}

/-- **A password is verified** when it unwraps the VMK in memory; nothing changes. -/
theorem verifyMasterPasswordInner_eq_ok (hvmk : s.vmk = some vmk)
    (hs : s.disk.sidecar = some (.ok header)) :
    verifyMasterPasswordInner P env old s = (.ok u, t) ↔
      old.length ≤ 1024 ∧ env.io (.readHeader .request) = .ok () ∧
        unwrapVmk P (env.io (.kdfMemory .request)) header old none = .ok vmk.bytes ∧ t = s := by
  simp only [verifyMasterPasswordInner, bind_eq_ok, require_eq_ok, readHeader_eq_ok, lift_eq_ok,
    gets_run, Prod.mk.injEq, Except.ok.injEq, decide_eq_true_eq]
  constructor
  · rintro ⟨_, _, ⟨hlen, rfl⟩, header', _, ⟨hio, hs', rfl⟩, w, _, ⟨hw, rfl⟩, plain, _,
      ⟨hplain, rfl⟩, _, _, ⟨rfl, rfl⟩, hsame, rfl⟩
    rw [hs] at hs'
    cases hs'
    rw [hvmk, any_some, decide_eq_true_eq] at hsame
    refine ⟨hlen, hio, Result.bind_eq_ok.mpr ⟨w, hw, ?_⟩, rfl⟩
    split at hplain
    · next hunwrap => rw [hunwrap, hsame, hplain]
    · split at hplain <;> cases hplain
  · rintro ⟨hlen, hio, hunwrap, rfl⟩
    obtain ⟨w, hw, hplain⟩ := Result.bind_eq_ok.mp hunwrap
    exact ⟨(), _, ⟨hlen, rfl⟩, header, _, ⟨hio, hs, rfl⟩, w, _, ⟨hw, rfl⟩, vmk.bytes, _,
      ⟨by rw [hplain], rfl⟩, _, _, ⟨rfl, rfl⟩, by simp [hvmk], rfl⟩

theorem verifyMasterPasswordInner_keeps {γ : Type} {f : DaemonState → γ} :
    Keeps f (verifyMasterPasswordInner P env old) :=
  .lift_bind fun _ => (readHeader_keeps env _).bind fun _ => .lift_bind fun _ =>
    .lift_bind fun _ => (Keeps.gets _).bind fun _ => .lift _

theorem rekeyVault_eq_ok {key newKey : Block 32} (hv : s.disk.vault = some (.pages key db)) :
    rekeyVault env newKey s = (.ok u, t) ↔
      env.io .rekey = .ok () ∧ t = s.setVault (.pages newKey db) := by
  simp only [rekeyVault, bind_eq_ok, at_eq_ok, modify_run, Prod.mk.injEq]
  constructor
  · rintro ⟨_, _, ⟨hio, rfl⟩, -, rfl⟩
    exact ⟨hio, by rw [hv]⟩
  · rintro ⟨hio, rfl⟩
    exact ⟨(), s, ⟨hio, rfl⟩, trivial, by rw [hv]⟩

/-- The disk after a successful change: the header stamped under the VMK that was in memory,
the pages under the new one, and no row touched but `password_changed_at`. -/
def changedDisk (P : Primitives) (J : Serde) (env : Env) (kek : Block 64) (header : VaultHeader)
    (vmk : Block 32) (db : Database) : Disk where
  sidecar := some (.ok ((changedHeader P env kek header).stamped P J (some vmk)))
  vault := some (.pages (sqlcipherKey P env.vmk.bytes)
    (db.setMeta "password_changed_at" (.integer env.nowSecs)))

theorem changePasswordInner_eq_ok (hu : Unlocked s vmk db)
    (h : changePasswordInner P J env old new yk s = (.ok u, t)) :
    12 ≤ new.length ∧ new.length ≤ 1024 ∧ ∃ header kek, s.disk.sidecar = some (.ok header) ∧
      deriveKek P (env.io (.kdfMemory .newPassword)) new yk env.salt env.tuned = .ok kek ∧
      t = { s with
        vmk := some env.vmk
        lastActivity := env.nowSecs
        disk := changedDisk P J env kek header vmk db } := by
  obtain ⟨key, hv⟩ := hu.vault
  simp only [changePasswordInner, bind_eq_ok, require_eq_ok, lift_eq_ok, decide_eq_true_eq] at h
  obtain ⟨_, _, ⟨hmin, rfl⟩, _, _, ⟨hmax, rfl⟩, _, _, hverify, kek, _, ⟨hkek, rfl⟩, h⟩ := h
  obtain rfl := verifyMasterPasswordInner_keeps.same hverify
  simp only [reads_eq_ok, gets_run, Prod.mk.injEq] at h
  obtain ⟨_, _, ⟨-, rfl⟩, _, _, ⟨-, rfl⟩, _, _, ⟨-, rfl⟩, _, _, hrekey, _, _, hat, _, _, hset,
    header, _, hread, _, _, hwrite, _, _, hlocked, _, _, ⟨-, rfl⟩, htouch⟩ := h
  obtain ⟨-, rfl⟩ := (rekeyVault_eq_ok hv).mp hrekey
  obtain ⟨-, rfl⟩ := at_eq_ok.mp hat
  obtain ⟨key', db', db'', hv', hdb, rfl⟩ := onDatabase_eq_ok.mp hset
  cases hv'
  cases hdb
  obtain ⟨-, hs, rfl⟩ := readHeader_eq_ok.mp hread
  -- `write_header` comes before the new VMK is put in memory
  obtain ⟨-, -, rfl⟩ := writeHeader_eq_ok.mp hwrite
  obtain ⟨-, rfl⟩ := at_eq_ok.mp hlocked
  cases htouch
  refine ⟨hmin, hmax, header, kek, hs, hkek, ?_⟩
  simp [setSidecar, setVault, changedDisk, hu.vmk]

/-- **What a successful change leaves**, in memory and on disk. -/
theorem changePassword_eq_ok (hu : Unlocked s vmk db)
    (h : changePassword P J env old new yk uid s = (.ok u, t)) :
    12 ≤ new.length ∧ new.length ≤ 1024 ∧ ∃ tracker header kek, s.disk.sidecar = some (.ok header) ∧
      deriveKek P (env.io (.kdfMemory .newPassword)) new yk env.salt env.tuned = .ok kek ∧
      t = { s with
        lockout := tracker
        vmk := some env.vmk
        lastActivity := env.nowSecs
        disk := changedDisk P J env kek header vmk db } := by
  simp only [changePassword, bind_eq_ok] at h
  obtain ⟨_, s', hcheck, res, t', hinner, hres⟩ := h
  obtain ⟨tracker, -, rfl⟩ := checkUnlockLockout_eq_ok hcheck
  cases res with
  | error e => simp [bind_eq_ok] at hres
  | ok u' =>
    cases hres
    rw [attemptErr_eq_ok_ok] at hinner
    have hu' : Unlocked { s with lockout := tracker } vmk db :=
      ⟨hu.vmk, hu.dbOpen, hu.vault, hu.current, hu.primaryKeys⟩
    obtain ⟨hmin, hmax, header, kek, hs, hkek, rfl⟩ := changePasswordInner_eq_ok hu' hinner
    exact ⟨hmin, hmax, tracker, header, kek, hs, hkek, rfl⟩

variable {kek : Block 64}

/-- **A change succeeds** when nothing fails outside, the old password is right and the new
one has a length within bounds. -/
theorem changePassword_succeeds (hq : env.Quiet) (hu : Unlocked s vmk db)
    (hs : s.disk.sidecar = some (.ok header)) (hadmitted : s.lockout.map uid = none)
    (hold : old.length ≤ 1024) (hunwrap : unwrapVmk P (.ok ()) header old none = .ok vmk.bytes)
    (hmin : 12 ≤ new.length) (hmax : new.length ≤ 1024)
    (hkek : deriveKek P (.ok ()) new yk env.salt env.tuned = .ok kek) :
    (changePassword P J env old new yk uid s).1 = .ok () := by
  obtain ⟨key, hv⟩ := hu.vault
  have hcheck : checkUnlockLockout env uid s = (.ok (), s) := by
    simp [checkUnlockLockout, LockoutTracker.checkUnlockLockout_absent hadmitted]
  have hverify : verifyMasterPasswordInner P env old s = (.ok (), s) :=
    (verifyMasterPasswordInner_eq_ok hu.vmk hs).mpr ⟨hold, hq _, by rwa [hq], rfl⟩
  rw [changePassword, bind_run_ok hcheck]
  simp [bind_run, attemptErr, changePasswordInner, require, okOr, hmin, hmax, hverify, hkek, hu.vmk,
    hu.dbOpen, Env.at, outcome, hq _, rekeyVault, hv, onDatabase, setVault, readHeader,
    hs, writeHeader, setSidecar, touch]

/-! ## Opening the vault with the new password -/

variable {alloc : Except VaultError Unit} {key : String} {vmk' : Block 32}

/-- The policy in the sidecar allows passwords. -/
def PasswordLoginEnabled (s : DaemonState) : Prop :=
  ∃ header, s.disk.sidecar = some (.ok header) ∧ header.passwordLoginEnabled = true

theorem unwrapVmk_changedHeader (hP : P.Ideal)
    (hkek : deriveKek P alloc new yk env.salt env.tuned = .ok kek) (k : Option (Block 32)) :
    unwrapVmk P (.ok ()) ((changedHeader P env kek header).stamped P J k) new yk =
      .ok env.vmk.bytes := by
  cases k <;> exact unwrapVmk_wrap hP ⟨rfl, rfl, rfl, rfl⟩ hkek

theorem verifyChain_setMeta (value : SqlValue) :
    verifyChain P (db.setMeta key value) vmk = verifyChain P db vmk := rfl

theorem migrationSafe_setMeta (hkey : key ≠ "data_migrated_to_v2") (value : SqlValue) :
    MigrationSafe P (db.setMeta key value) vmk ↔ MigrationSafe P db vmk := by
  have hget : ∀ id, Credentials.get P (db.setMeta key value) vmk id = Credentials.get P db vmk id :=
    Credentials.get_congr rfl vmk
  have hdone : dataMigrated (db.setMeta key value) = dataMigrated db := by
    simp [dataMigrated, Database.setMeta, Function.update_of_ne hkey.symm]
  simp only [MigrationSafe, hdone, hget]
  rfl

/-- What the disk after a change answers to the new password: the header's MAC is the first
of the three checks to meet the new VMK. -/
theorem unlock_changedDisk_iff (hP : P.Ideal) (hc : db.Current)
    (hchain : verifyChain P db vmk = .ok ())
    (hkek : deriveKek P alloc new yk env.salt env.tuned = .ok kek) (hmax : new.length ≤ 1024)
    (hdisk : t.disk = changedDisk P J env kek header vmk db) {env' : Env} (hq : env'.Quiet) :
    (∃ session t', unlock P J env' new yk uid (lock t) = (.ok session, t')) ↔
      env.vmk = vmk ∧ header.passwordLoginEnabled = true ∧ MigrationSafe P db vmk := by
  have hkey : "password_changed_at" ≠ "schema_version" := by decide
  have hkey' : "password_changed_at" ≠ "data_migrated_to_v2" := by decide
  have hlock : (lock t).disk = changedDisk P J env kek header vmk db := hdisk
  rw [unlock_lock_ok_iff (by rw [hdisk]; rfl), unlockExisting_ok_iff hP hq (by rw [hlock]; rfl)
    (by rw [hlock]; rfl) (hc.setMeta hkey _) rfl]
  simp only [unwrapVmk_changedHeader hP hkek, checkHeaderHmac_stamped hP, verifyChain_setMeta,
    migrationSafe_setMeta hkey', Except.ok.injEq]
  constructor
  · rintro ⟨-, hlogin, vmk', hvmk', rfl, -, -, hsafe⟩
    exact ⟨Block.bytes_inj hvmk', hlogin, hsafe⟩
  · rintro ⟨rfl, hlogin, hsafe⟩
    exact ⟨hmax, hlogin, env.vmk, rfl, rfl, rfl, hchain, hsafe⟩

/-- **A changed password opens the vault only by accident**: if the draw of the new VMK
repeated the old one. -/
theorem unlock_after_changePassword_iff (hP : P.Ideal) (hu : Unlocked s vmk db)
    (hchain : verifyChain P db vmk = .ok ()) {u : Unit}
    (hchange : changePassword P J env old new yk uid s = (.ok u, t)) {env' : Env}
    (hq : env'.Quiet) {uid' : UInt32} :
    (∃ session t', unlock P J env' new yk uid' (lock t) = (.ok session, t')) ↔
      env.vmk = vmk ∧ PasswordLoginEnabled s ∧ MigrationSafe P db vmk := by
  obtain ⟨-, hmax, tracker, header, kek, hs, hkek, rfl⟩ := changePassword_eq_ok hu hchange
  rw [unlock_changedDisk_iff hP hu.current hchain hkek hmax rfl hq]
  have hlogin : PasswordLoginEnabled s ↔ header.passwordLoginEnabled = true := by
    simp [PasswordLoginEnabled, hs]
  rw [hlogin]

/-! ## Reading the rows under the new key -/

/-- Everything readable in `db` under `vmk` reads the same in `db'` under `vmk'`; of the profile the
names, the address and the picture. (The date of the last password change is not sealed.) -/
structure ReadsBack (P : Primitives) (J : Serde) (vaultUuid : String) (db : Database)
    (vmk : Block 32) (db' : Database) (vmk' : Block 32) : Prop where
  credentials : ∀ id blob,
    Credentials.get P db vmk id = .ok blob → Credentials.get P db' vmk' id = .ok blob
  folders : ∀ folder ∈ Folders.list P J db vmk vaultUuid,
    folder ∈ Folders.list P J db' vmk' vaultUuid
  assets : ∀ blob, Assets.get P db vmk = .ok (some blob) → Assets.get P db' vmk' = .ok (some blob)
  profile : ∀ p, UserProfile.get P J db vmk = .ok (some p) →
    ∃ changedAt, UserProfile.get P J db' vmk' = .ok (some { p with passwordChangedAt := changedAt })
  totp : ∀ config, TotpDb.load P db vmk = .ok config → TotpDb.load P db' vmk' = .ok config

/-- Nothing in the vault is sealed under `vmk`, or what is does not open. -/
structure NothingSealed (P : Primitives) (J : Serde) (vaultUuid : String) (db : Database)
    (vmk : Block 32) : Prop where
  credentials : ∀ id blob, Credentials.get P db vmk id ≠ .ok blob
  folders : ∀ row ∈ db.folders, ¬ Folders.Sealed P J row vmk vaultUuid
  assets : ∀ blob, Assets.get P db vmk ≠ .ok (some blob)
  profile : UserProfile.Sealed db → ∀ p, UserProfile.get P J db vmk ≠ .ok (some p)
  totp : ∀ config, TotpDb.load P db vmk ≠ .ok config

theorem userProfile_get_setMeta (value : SqlValue) :
    UserProfile.get P J (db.setMeta key value) vmk =
      (UserProfile.get P J db vmk).map (·.map fun p =>
        { p with passwordChangedAt := UserProfile.passwordChangedAt (db.setMeta key value) }) := by
  unfold UserProfile.get
  rw [show (db.setMeta key value).users = db.users from rfl]
  cases db.users.head? with
  | none => rfl
  | some row =>
    cases hfields : UserProfile.readFields P J vmk row with
    | error e => simp [hfields, bind, Except.bind, Except.map]
    | ok fields =>
      cases hpic : UserProfile.readPic P vmk row with
      | error e => simp [hfields, hpic, bind, Except.bind, Except.map]
      | ok pic => simp [hfields, hpic, bind, Except.bind, Except.map, pure, Except.pure]

theorem readsBack_setMeta (vaultUuid : String) (value : SqlValue) :
    ReadsBack P J vaultUuid db vmk (db.setMeta key value) vmk where
  credentials id _ h := (Credentials.get_congr rfl vmk id).trans h
  folders _ h := h
  assets _ h := h
  profile p h := ⟨_, by rw [userProfile_get_setMeta, h]; rfl⟩
  totp _ h := h

/-- **Under another key the sealed columns are gone**, and only they. -/
theorem readsBack_setMeta_iff (hP : P.Ideal) (hkeys : db.PrimaryKeys) {vaultUuid : String}
    {value : SqlValue} (hne : vmk' ≠ vmk) :
    ReadsBack P J vaultUuid db vmk (db.setMeta key value) vmk' ↔
      NothingSealed P J vaultUuid db vmk := by
  constructor
  · intro h
    refine ⟨fun id blob hget => ?_, fun row hrow hsealed => ?_, fun blob hget => ?_,
      fun hsealed p hget => ?_, fun config hload => ?_⟩
    · exact hne (Credentials.get_key_unique hP (h.credentials id blob hget) hget)
    · obtain ⟨folder, hread⟩ := isSome_iff_exists.mp (hsealed.readRow_iff.mpr hsealed)
      obtain ⟨row', hrow', hread'⟩ :=
        Folders.mem_list.mp (h.folders folder (Folders.mem_list.mpr ⟨row, hrow, hread⟩))
      -- the row that shows this folder under the other key has the same id, so it is `row`
      obtain rfl : row' = row := List.inj_on_of_nodup_map hkeys.folders hrow' hrow
        ((Folders.readRow_id hread').symm.trans (Folders.readRow_id hread))
      exact hne ((hsealed.readRow_iff.mp (by simp [hread'])).key_unique hP hsealed)
    · exact hne (Assets.get_key_unique hP (h.assets blob hget) hget)
    · obtain ⟨changedAt, hget'⟩ := h.profile p hget
      rw [userProfile_get_setMeta] at hget'
      cases hread : UserProfile.get P J db vmk' with
      | error e => simp [hread, Except.map] at hget'
      | ok p' => exact hne (UserProfile.get_key_unique hP hsealed hread hget)
    · exact hne (TotpDb.load_key_unique hP (h.totp config hload) hload)
  · intro h
    refine ⟨fun id blob hget => absurd hget (h.credentials id blob), fun folder hmem => ?_,
      fun blob hget => absurd hget (h.assets blob), fun p hget => ?_,
      fun config hload => absurd hload (h.totp config)⟩
    · obtain ⟨row, hrow, hread⟩ := Folders.mem_list.mp hmem
      exact Folders.mem_list.mpr
        ⟨row, hrow, Folders.readRow_of_not_sealed hread (h.folders row hrow)⟩
    · have hs : ¬ UserProfile.Sealed db := fun hs => h.profile hs p hget
      exact ⟨_, by
        rw [userProfile_get_setMeta, UserProfile.get_of_not_sealed hs, hget]; rfl⟩

theorem unlocked_changed_iff (hu : Unlocked s vmk db) (hvmk : t.vmk = some env.vmk)
    (hopen : t.dbOpen = s.dbOpen) (hdisk : t.disk = changedDisk P J env kek header vmk db)
    {db' : Database} :
    Unlocked t vmk' db' ↔
      vmk' = env.vmk ∧ db' = db.setMeta "password_changed_at" (.integer env.nowSecs) := by
  constructor
  · intro h
    obtain ⟨key, hv⟩ := h.vault
    rw [hdisk] at hv
    cases hv
    exact ⟨(some.inj (hvmk.symm.trans h.vmk)).symm, rfl⟩
  · rintro ⟨rfl, rfl⟩
    exact ⟨hvmk, hopen.trans hu.dbOpen, ⟨_, by rw [hdisk]; rfl⟩,
      hu.current.setMeta (by decide) _, hu.primaryKeys.1, hu.primaryKeys.2⟩

/-- **A password change loses whatever is sealed.** No column is sealed anew, so what was
readable stays readable only if the VMK did not change, or if nothing was sealed. -/
theorem readsBack_after_changePassword_iff (hP : P.Ideal) (hu : Unlocked s vmk db) {u : Unit}
    (hchange : changePassword P J env old new yk uid s = (.ok u, t)) :
    (∃ vmk' db', Unlocked t vmk' db' ∧ ReadsBack P J (vaultUuidStr s) db vmk db' vmk') ↔
      env.vmk = vmk ∨ NothingSealed P J (vaultUuidStr s) db vmk := by
  obtain ⟨-, -, tracker, header, kek, -, -, ht⟩ := changePassword_eq_ok hu hchange
  have hiff : ∀ vmk' db', Unlocked t vmk' db' ↔ _ := fun _ _ =>
    unlocked_changed_iff hu (by rw [ht]) (by rw [ht]) (by rw [ht])
  simp only [hiff, and_assoc]
  rw [exists_comm]
  simp only [exists_eq_left]
  by_cases heq : env.vmk = vmk
  · simp only [heq, true_or, iff_true]
    exact readsBack_setMeta _ _
  · rw [readsBack_setMeta_iff hP hu.primaryKeys heq]
    simp [heq]

end

/-! ### On the symbolic vault -/

def oldPassword : Bytes := utf8 "correct horse"

def newPassword : Bytes := utf8 "battery staple"

theorem unlocked_unlockedVault (hc : db.Current) (hk : db.PrimaryKeys) :
    Unlocked (unlockedVault oldPassword 0 db) symbolicVmk db :=
  ⟨rfl, rfl, ⟨_, rfl⟩, hc, hk⟩

theorem changePassword_unlockedVault (hc : db.Current) (hk : db.PrimaryKeys) (now : Nat)
    (seed : UInt8) :
    (changePassword symbolic symbolicSerde (symbolicEnv now seed) oldPassword newPassword none 1000
      (unlockedVault oldPassword 0 db)).1 = .ok () :=
  changePassword_succeeds (symbolicEnv_quiet now seed) (unlocked_unlockedVault hc hk) rfl rfl
    (by decide) (unwrapVmk_symbolicHeader oldPassword 0 _) (by decide) (by decide)
    (deriveKek_symbolic newPassword _)

theorem unlock_after_changePassword_iff_symbolic :
    (∃ session t', unlock symbolic symbolicSerde (symbolicEnv 3 3) newPassword none 1000
        (lock (changePassword symbolic symbolicSerde (symbolicEnv 2 1) oldPassword newPassword
          none 1000 (unlockedVault oldPassword 0 symbolicDb)).2) = (.ok session, t')) ↔
      (symbolicEnv 2 1).vmk = symbolicVmk ∧
        PasswordLoginEnabled (unlockedVault oldPassword 0 symbolicDb) ∧
        MigrationSafe symbolic symbolicDb symbolicVmk :=
  unlock_after_changePassword_iff symbolic_ideal
    (unlocked_unlockedVault symbolicDb_current symbolicDb_primaryKeys) rfl
    (eq_mk_of_fst (changePassword_unlockedVault symbolicDb_current symbolicDb_primaryKeys 2 1))
    (symbolicEnv_quiet 3 3)

/-- **The vault is lost.** On an empty unlocked vault the change returns `Ok`, and after a lock the
new password does not open it. -/
theorem changePassword_then_unlock_fails :
    symbolic.Ideal ∧ Unlocked (unlockedVault oldPassword 0 symbolicDb) symbolicVmk symbolicDb ∧
      verifyChain symbolic symbolicDb symbolicVmk = .ok () ∧
      (changePassword symbolic symbolicSerde (symbolicEnv 2 2) oldPassword newPassword none 1000
        (unlockedVault oldPassword 0 symbolicDb)).1 = .ok () ∧
      ¬ ∃ session t', unlock symbolic symbolicSerde (symbolicEnv 3 3) newPassword none 1000
        (lock (changePassword symbolic symbolicSerde (symbolicEnv 2 2) oldPassword newPassword
          none 1000 (unlockedVault oldPassword 0 symbolicDb)).2) = (.ok session, t') := by
  have hu := unlocked_unlockedVault symbolicDb_current symbolicDb_primaryKeys
  have hchange := changePassword_unlockedVault symbolicDb_current symbolicDb_primaryKeys 2 2
  refine ⟨symbolic_ideal, hu, rfl, hchange, ?_⟩
  obtain ⟨-, hmax, _, _, _, hs, hkek, ht⟩ := changePassword_eq_ok hu (eq_mk_of_fst hchange)
  rw [ht, unlock_changedDisk_iff symbolic_ideal symbolicDb_current rfl hkek hmax rfl
    (symbolicEnv_quiet 3 3)]
  rintro ⟨hvmk, -⟩
  revert hvmk
  decide

/-- The symbolic vault with an asset holder in it. -/
def symbolicAssetDb : Database :=
  Assets.update symbolic (.replicate 12 7) 0 symbolicDb symbolicVmk (utf8 "u2fKeys")

theorem symbolicAssetDb_current : symbolicAssetDb.Current := symbolicDb_current

theorem symbolicAssetDb_primaryKeys : symbolicAssetDb.PrimaryKeys :=
  ⟨List.nodup_nil, List.nodup_nil⟩

theorem readsBack_after_changePassword_iff_symbolic :
    (∃ vmk' db', Unlocked (changePassword symbolic symbolicSerde (symbolicEnv 2 1) oldPassword
          newPassword none 1000 (unlockedVault oldPassword 0 symbolicAssetDb)).2 vmk' db' ∧
        ReadsBack symbolic symbolicSerde (symbolicEnv 1 1).uuid symbolicAssetDb symbolicVmk db'
          vmk') ↔
      (symbolicEnv 2 1).vmk = symbolicVmk ∨
        NothingSealed symbolic symbolicSerde (symbolicEnv 1 1).uuid symbolicAssetDb symbolicVmk :=
  readsBack_after_changePassword_iff symbolic_ideal
    (unlocked_unlockedVault symbolicAssetDb_current symbolicAssetDb_primaryKeys)
    (eq_mk_of_fst
      (changePassword_unlockedVault symbolicAssetDb_current symbolicAssetDb_primaryKeys 2 1))

/-- **The asset holder is lost**: readable before a change that returns `Ok`, and not afterwards. -/
theorem changePassword_loses_assets :
    Unlocked (unlockedVault oldPassword 0 symbolicAssetDb) symbolicVmk symbolicAssetDb ∧
      Assets.get symbolic symbolicAssetDb symbolicVmk = .ok (some (utf8 "u2fKeys")) ∧
      (changePassword symbolic symbolicSerde (symbolicEnv 2 2) oldPassword newPassword none 1000
        (unlockedVault oldPassword 0 symbolicAssetDb)).1 = .ok () ∧
      ¬ ∃ vmk' db', Unlocked (changePassword symbolic symbolicSerde (symbolicEnv 2 2) oldPassword
          newPassword none 1000 (unlockedVault oldPassword 0 symbolicAssetDb)).2 vmk' db' ∧
        Assets.get symbolic db' vmk' = .ok (some (utf8 "u2fKeys")) := by
  have hu := unlocked_unlockedVault symbolicAssetDb_current symbolicAssetDb_primaryKeys
  have hchange := changePassword_unlockedVault symbolicAssetDb_current symbolicAssetDb_primaryKeys
    2 2
  have hget : Assets.get symbolic symbolicAssetDb symbolicVmk = .ok (some (utf8 "u2fKeys")) := by
    decide
  refine ⟨hu, hget, hchange, ?_⟩
  obtain ⟨-, -, _, _, _, -, -, ht⟩ := changePassword_eq_ok hu (eq_mk_of_fst hchange)
  rintro ⟨vmk', db', hu', hget'⟩
  rw [ht] at hu'
  obtain ⟨key, hv⟩ := hu'.vault
  cases hv
  have hnew : Block.replicate 32 2 = vmk' := some.inj hu'.vmk
  have hold : symbolicVmk = vmk' := Assets.get_key_unique symbolic_ideal hget hget'
  rw [← hnew] at hold
  revert hold
  decide

end PwdNow.Daemon
