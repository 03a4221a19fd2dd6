import PwdNow.Daemon.Symbolic

/-!
# Daemon — what a v1 database looks like once it is migrated

`migrations/v2_defense_in_depth.sql` copies the rows of `folders` and `users` without their
plaintext, and `migrate_data_to_v2` seals the plaintext into the copies at the next unlock.

The folders are sealed with the uuid in memory, which is empty while the vault is locked, and
`folders::list` later asks with the real one (`foldersKept_iff`). The profile is sealed into a row
with the id `profile`, and `user_profile::get` reads the first row, the copy of the legacy one
(`profileKept_iff`).
-/

namespace PwdNow.Daemon

open Kit Kit.Fallible List

/-- A v1 database with these rows in its tables of folders and of users. -/
structure IsV1 (db : Database) (rows : List LegacyFolder) (users : List LegacyUser) :
    Prop where
  version : schemaVersion db = .ok 1
  folders : db.foldersLegacy = some rows
  users : db.usersLegacy = some users
  unmigrated : dataMigrated db = false
  /-- the primary key of `folders` -/
  keys : (rows.map (·.id)).Nodup

section Tables

variable {P : Primitives} {J : Serde} {env : Env} {vmk : Block 32} {vaultUuid : String}
  {db db' : Database} {rows : List LegacyFolder} {users : List LegacyUser}

theorem IsV1.applyMigrations_eq_ok (h : IsV1 db rows users)
    (happly : applyMigrations db = .ok db') :
    db'.folders = rows.map LegacyFolder.stripped ∧
      db'.users = users.map LegacyUser.stripped ∧ db'.foldersLegacy = some rows ∧
      db'.usersLegacy = some users ∧ dataMigrated db' = false := by
  have hcopied : migrateV1ToV2 db = .ok ({ db with
      folders := rows.map LegacyFolder.stripped
      users := users.map LegacyUser.stripped }.setMeta "schema_version" (.integer 2)) := by
    rw [migrateV1ToV2, h.folders, h.users]
  rw [applyMigrations_of_lt h.version (by decide)] at happly
  obtain ⟨db₁, h₁, happly⟩ := Result.bind_eq_ok.mp happly
  obtain ⟨db₂, h₂, happly⟩ := Result.bind_eq_ok.mp happly
  obtain ⟨db₃, h₃, happly⟩ := Result.bind_eq_ok.mp happly
  rw [if_neg (by decide)] at h₁
  cases h₁
  rw [if_pos (by decide), hcopied] at h₂
  cases h₂
  rw [if_pos (by decide)] at h₃
  cases h₃
  cases happly
  refine ⟨rfl, rfl, h.folders, h.users, ?_⟩
  have hflag := h.unmigrated
  simpa [dataMigrated, Database.setMeta, Function.update_of_ne] using hflag

theorem migrateUsers_congr (i : Nat) (h : db.users = db'.users) :
    (migrateUsers P J env vmk i users db).users = (migrateUsers P J env vmk i users db').users := by
  induction users generalizing i db db' with
  | nil => exact h
  | cons user users ih =>
    apply ih
    simp only [UserProfile.update, h]

theorem migrateRows_tables (hnew : dataMigrated db = false)
    (h : migrateRows P J env vmk vaultUuid db = .ok db') :
    db'.folders = (migrateFolders P J env vmk vaultUuid 0 (db.foldersLegacy.getD []) db).folders ∧
      db'.users = (migrateUsers P J env vmk 0 (db.usersLegacy.getD []) db).users := by
  rcases migrateRows_cases h with ⟨hdone, -⟩ | ⟨-, db₁, hcreds, rfl⟩
  · rw [hnew] at hdone
    cases hdone
  · have hkept := migrateCredentials_keeps (f := fun db => (db.folders, db.users))
      (fun _ _ => rfl) hcreds
    simp only [Prod.mk.injEq, migrateLegacyTables] at hkept
    obtain ⟨hfolders, husers⟩ := hkept
    constructor
    · show db₁.folders = _
      rw [hfolders, migrateUsers_keeps (f := (·.folders)) fun _ _ => rfl]
    · show db₁.users = _
      rw [husers, migrateFolders_keeps (f := (·.usersLegacy)) fun _ _ => rfl]
      apply migrateUsers_congr
      exact migrateFolders_keeps (f := (·.users)) (fun _ _ => rfl) _

end Tables

/-! ## Folders -/

def LegacyFolder.metadata (row : LegacyFolder) : FolderMetadata :=
  ⟨row.name, row.description, row.iconSvg⟩

def Folders.FolderRow.metadata (row : Folders.FolderRow) : FolderMetadata :=
  ⟨row.name, row.description, row.iconSvg⟩

/-- What `list` shows for a row that nothing was sealed into. -/
def pendingMetadata : FolderMetadata :=
  ⟨"Pending Migration", some "Data migration in progress", none⟩

variable {rows : List LegacyFolder}

section Folders

variable (P : Primitives) (J : Serde) (env : Env) (vmk : Block 32) (vaultUuid : String)

/-- What the turn of the loop for `row` does to a stored row. -/
def sealFolder (i : Nat) (row : LegacyFolder) (stored : StoredFolder) : StoredFolder :=
  if P.parseUuid row.id = some stored.id then
    { stored with
      ciphertext := some (P.aesGcm.encrypt vmk (env.folderNonce i)
        (Folders.buildAad vaultUuid stored.id) (J.folderJson row.metadata))
      nonce := some (env.folderNonce i).bytes
      updatedAt := env.nowSecs }
  else stored

/-- What the loop does to a stored row. -/
def sealFolders : Nat → List LegacyFolder → StoredFolder → StoredFolder
  | _, [], stored => stored
  | i, row :: rows, stored => sealFolders (i + 1) rows (sealFolder P J env vmk vaultUuid i row stored)

/-- The last legacy folder whose id is a spelling of the UUID `id`. -/
def lastSpelling (rows : List LegacyFolder) (id : String) : Option LegacyFolder :=
  (rows.filter fun row => P.parseUuid row.id = some id).getLast?

variable {P J env vmk vaultUuid}

theorem sealFolder_id (i : Nat) (row : LegacyFolder) (stored : StoredFolder) :
    (sealFolder P J env vmk vaultUuid i row stored).id = stored.id := by
  unfold sealFolder
  split <;> rfl

theorem sealFolders_id (i : Nat) (rows : List LegacyFolder) (stored : StoredFolder) :
    (sealFolders P J env vmk vaultUuid i rows stored).id = stored.id := by
  induction rows generalizing i stored with
  | nil => rfl
  | cons row rows ih => rw [sealFolders, ih, sealFolder_id]

theorem migrateFolders_one (i : Nat) (row : LegacyFolder) (db : Database) :
    (migrateFolders P J env vmk vaultUuid i [row] db).folders =
      db.folders.map (sealFolder P J env vmk vaultUuid i row) := by
  simp only [migrateFolders]
  cases hid : P.parseUuid row.id with
  | none =>
    have hsame : ∀ stored ∈ db.folders, sealFolder P J env vmk vaultUuid i row stored = stored := by
      intro stored _
      rw [sealFolder, hid, if_neg (by simp)]
    exact ((map_congr_left hsame).trans (map_id _)).symm
  | some id =>
    simp only [Folders.update]
    by_cases hmem : db.folders.any (·.id = id)
    · rw [if_pos hmem]
      apply map_congr_left
      intro stored _
      by_cases hrow : stored.id = id
      · rw [if_pos hrow, sealFolder, hid, if_pos (by rw [hrow]), hrow]
        rfl
      · rw [if_neg hrow, sealFolder, hid, if_neg (by simpa using Ne.symm hrow)]
    · rw [if_neg hmem]
      have hsame : ∀ stored ∈ db.folders,
          sealFolder P J env vmk vaultUuid i row stored = stored := by
        intro stored hstored
        rw [sealFolder, hid, if_neg]
        rintro ⟨rfl⟩
        exact hmem (any_eq_true.mpr ⟨stored, hstored, by simp⟩)
      exact ((map_congr_left hsame).trans (map_id _)).symm

/-- **The loop over the folders, row by row.** Induction on the legacy rows. -/
theorem migrateFolders_folders (i : Nat) (db : Database) :
    (migrateFolders P J env vmk vaultUuid i rows db).folders =
      db.folders.map (sealFolders P J env vmk vaultUuid i rows) := by
  induction rows generalizing i db with
  | nil => exact (map_id _).symm
  | cons row rows ih =>
    have hstep : migrateFolders P J env vmk vaultUuid i (row :: rows) db =
        migrateFolders P J env vmk vaultUuid (i + 1) rows
          (migrateFolders P J env vmk vaultUuid i [row] db) := rfl
    rw [hstep, ih, migrateFolders_one, map_map]
    rfl

theorem lastSpelling_cons (row : LegacyFolder) (id : String) :
    lastSpelling P (row :: rows) id =
      (lastSpelling P rows id).or (if P.parseUuid row.id = some id then some row else none) := by
  unfold lastSpelling
  by_cases hrow : P.parseUuid row.id = some id
  · rw [filter_cons_of_pos (by simpa using hrow), if_pos hrow, getLast?_cons]
    cases (rows.filter fun row => P.parseUuid row.id = some id).getLast? <;> rfl
  · rw [filter_cons_of_neg (by simpa using hrow), if_neg hrow, Option.or_none]

theorem sealFolders_cases (i : Nat) (rows : List LegacyFolder) (stored : StoredFolder) :
    (lastSpelling P rows stored.id = none ∧
        sealFolders P J env vmk vaultUuid i rows stored = stored) ∨
      ∃ row nonce, lastSpelling P rows stored.id = some row ∧
        (sealFolders P J env vmk vaultUuid i rows stored).ciphertext =
          some (P.aesGcm.encrypt vmk nonce (Folders.buildAad vaultUuid stored.id)
            (J.folderJson row.metadata)) ∧
        (sealFolders P J env vmk vaultUuid i rows stored).nonce = some nonce.bytes := by
  induction rows generalizing i stored with
  | nil => exact .inl ⟨rfl, rfl⟩
  | cons row rows ih =>
    rw [lastSpelling_cons, sealFolders]
    have hrest := ih (i + 1) (sealFolder P J env vmk vaultUuid i row stored)
    rw [sealFolder_id] at hrest
    rcases hrest with ⟨hnone, hsame⟩ | ⟨later, nonce, hlater, hct, hnonce⟩
    · -- no later spelling: what this turn does is the last word
      rw [hnone, hsame, Option.none_or, sealFolder]
      by_cases hrow : P.parseUuid row.id = some stored.id
      · rw [if_pos hrow, if_pos hrow]
        exact .inr ⟨row, env.folderNonce i, rfl, rfl, rfl⟩
      · rw [if_neg hrow, if_neg hrow]
        exact .inl ⟨rfl, rfl⟩
    · rw [hlater, Option.some_or]
      exact .inr ⟨later, nonce, rfl, hct, hnonce⟩

theorem utf8_eq_nil {text : String} : utf8 text = [] ↔ text = "" :=
  ⟨fun h => utf8_injective (h.trans rfl), fun h => by rw [h]; rfl⟩

theorem buildAad_eq_buildAad_empty {id : String} :
    Folders.buildAad vaultUuid id = Folders.buildAad "" id ↔ vaultUuid = "" := by
  have hempty : utf8 "" = [] := rfl
  rw [Folders.buildAad, Folders.buildAad, hempty, nil_append, append_assoc, ← utf8_eq_nil]
  exact append_left_eq_self

theorem readRow_sealed (hP : P.Ideal) (hjson : ∀ folder, J.parseFolder (J.folderJson folder) =
    .ok folder) {stored : StoredFolder} {nonce : Block 12} {folder shown : FolderMetadata}
    (hct : stored.ciphertext = some (P.aesGcm.encrypt vmk nonce
      (Folders.buildAad "" stored.id) (J.folderJson folder)))
    (hnonce : stored.nonce = some nonce.bytes) :
    (Folders.readRow P J vmk vaultUuid stored).map (·.metadata) = some shown ↔
      vaultUuid = "" ∧ folder = shown := by
  have hopen : ∀ json, openSealed P vmk (P.aesGcm.encrypt vmk nonce
      (Folders.buildAad "" stored.id) (J.folderJson folder)) nonce.bytes
      (Folders.buildAad vaultUuid stored.id) (.crypto "invalid folder nonce length") = .ok json ↔
      vaultUuid = "" ∧ json = J.folderJson folder := by
    intro json
    rw [openSealed_encrypt_iff hP, buildAad_eq_buildAad_empty]
    simp
  simp only [Folders.readRow, hct, hnonce, Folders.decryptFolder]
  generalize openSealed P vmk (P.aesGcm.encrypt vmk nonce (Folders.buildAad "" stored.id)
    (J.folderJson folder)) nonce.bytes (Folders.buildAad vaultUuid stored.id)
    (.crypto "invalid folder nonce length") = opened at hopen ⊢
  cases opened with
  | error e =>
    have huuid : vaultUuid ≠ "" := by
      intro huuid
      cases (hopen _).mpr ⟨huuid, rfl⟩
    simp [bind, Except.bind, huuid]
  | ok json =>
    obtain ⟨huuid, rfl⟩ := (hopen json).mp rfl
    simp [bind, Except.bind, pure, Except.pure, hjson, huuid, Folders.FolderRow.metadata]

/-- A list read element by element, some of which may be skipped, is the whole list exactly
when none is skipped and each is read as what it stands for. -/
theorem perm_filterMap_iff {α β κ : Type} {l : List α} (read : α → Option β) (whole : α → β)
    (key : β → κ) (hkey : ∀ x y, read x = some y → key y = key (whole x))
    (hnodup : (l.map fun x => key (whole x)).Nodup) :
    (l.filterMap read).Perm (l.map whole) ↔ ∀ x ∈ l, read x = some (whole x) := by
  constructor
  · intro hperm x hx
    have hmem : whole x ∈ l.filterMap read := hperm.mem_iff.mpr (mem_map_of_mem hx)
    obtain ⟨x', hx', hread⟩ := mem_filterMap.mp hmem
    have hsame : x = x' := inj_on_of_nodup_map hnodup hx hx' (hkey x' _ hread)
    rw [hsame] at hread ⊢
    exact hread
  · intro hall
    rw [filterMap_congr hall, filterMap_eq_map']

variable (P J) in
/-- The open vault, asked with its own uuid, lists each legacy folder once, with its id, name,
description and icon, and nothing else. -/
def FoldersKept (t : DaemonState) (rows : List LegacyFolder) : Prop :=
  ∃ vmk key db, t.vmk = some vmk ∧ t.disk.vault = some (.pages key db) ∧
    ((Folders.list P J db vmk (vaultUuidStr t)).map fun f => (f.id, f.metadata)).Perm
      (rows.map fun row => (row.id, row.metadata))

variable (P) in
/-- The legacy folder comes through: its id is spelled as a UUID and the vault has no uuid, or
its id is no canonical UUID and it has looked like a pending row all along. -/
def Survives (vaultUuid : String) (rows : List LegacyFolder) (row : LegacyFolder) : Prop :=
  (∃ last, lastSpelling P rows row.id = some last ∧ vaultUuid = "" ∧
      last.metadata = row.metadata) ∨
    (lastSpelling P rows row.id = none ∧ row.metadata = pendingMetadata)

section

variable (hP : P.Ideal) (hjson : ∀ folder, J.parseFolder (J.folderJson folder) = .ok folder)
include hP hjson

theorem readRow_sealFolders (row : LegacyFolder) :
    (Folders.readRow P J vmk vaultUuid (sealFolders P J env vmk "" 0 rows row.stripped)).map
        (fun f => (f.id, f.metadata)) = some (row.id, row.metadata) ↔
      Survives P vaultUuid rows row := by
  -- the id is never in question
  have hid : ∀ stored : StoredFolder, stored.id = row.id →
      ((Folders.readRow P J vmk vaultUuid stored).map (fun f => (f.id, f.metadata)) =
          some (row.id, row.metadata) ↔
        (Folders.readRow P J vmk vaultUuid stored).map (·.metadata) = some row.metadata) := by
    intro stored hstored
    cases hread : Folders.readRow P J vmk vaultUuid stored with
    | none => simp
    | some f => simp [Folders.readRow_id hread, hstored]
  rw [hid _ (sealFolders_id _ _ _)]
  rcases @sealFolders_cases P J env vmk "" 0 rows row.stripped with ⟨hnone, hsame⟩ |
    ⟨last, nonce, hlast, hct, hnonce⟩
  · have hnone' : lastSpelling P rows row.id = none := hnone
    rw [hsame]
    simp [Survives, hnone', Folders.readRow, LegacyFolder.stripped, Folders.FolderRow.metadata,
      pendingMetadata, eq_comm]
  · have hlast' : lastSpelling P rows row.id = some last := hlast
    rw [← @sealFolders_id P J env vmk "" 0 rows row.stripped] at hct
    rw [readRow_sealed hP hjson hct hnonce]
    simp [Survives, hlast']

theorem foldersKept_of_leaves {s t : DaemonState} {key key' : Block 32} {db₀ db' : Database}
    {users : List LegacyUser} {log : List AuditRow} (hv1 : IsV1 db₀ rows users)
    (hv : s.disk.vault = some (.pages key db₀)) (hlocked : s.vaultUuid = none)
    (hdb : LeavesDatabase P J env vmk s db') (hvmk : t.vmk = some vmk)
    (huuid : t.vaultUuid = some vaultUuid)
    (hvault : t.disk.vault = some (.pages key' { db' with auditLog := log })) :
    FoldersKept P J t rows ↔ ∀ row ∈ rows, Survives P vaultUuid rows row := by
  obtain ⟨db₁, db, hkey, happly, -, hrows⟩ := hdb
  have hdb₁ : db₁ = db₀ := by
    rw [hv, Option.getD_some, VaultFile.unlockedBy] at hkey
    split at hkey
    · cases hkey
      rfl
    · cases hkey
  subst hdb₁
  obtain ⟨hcopied, -, hlegacy, -, hnew⟩ := hv1.applyMigrations_eq_ok happly
  rw [vaultUuidStr, hlocked, Option.getD_none] at hrows
  obtain ⟨hfolders, -⟩ := migrateRows_tables hnew hrows
  rw [hlegacy, Option.getD_some, migrateFolders_folders, hcopied, map_map] at hfolders
  -- up to the order of the rows, `list` reads what became of each legacy folder
  have hlist : ((Folders.list P J { db' with auditLog := log } vmk vaultUuid).map
      fun f => (f.id, f.metadata)).Perm (rows.filterMap fun row =>
        (Folders.readRow P J vmk vaultUuid (sealFolders P J env vmk "" 0 rows row.stripped)).map
          fun f => (f.id, f.metadata)) := by
    have hsort := (perm_insertionSort (·.sortOrder ≤ ·.sortOrder) db'.folders).filterMap
      (Folders.readRow P J vmk vaultUuid)
    refine (hsort.map _).trans (Perm.of_eq ?_)
    rw [hfolders, filterMap_map, map_filterMap]
    rfl
  have hread := perm_filterMap_iff (fun row : LegacyFolder =>
      (Folders.readRow P J vmk vaultUuid (sealFolders P J env vmk "" 0 rows row.stripped)).map
        fun f => (f.id, f.metadata))
    (fun row : LegacyFolder => (row.id, row.metadata)) Prod.fst ?_ hv1.keys
  · simp only [readRow_sealFolders hP hjson] at hread
    rw [← hread, FoldersKept, vaultUuidStr, huuid, Option.getD_some]
    constructor
    · rintro ⟨vmk', key'', db'', hvmk', hvault', hperm⟩
      rw [hvmk] at hvmk'
      cases hvmk'
      rw [hvault] at hvault'
      cases hvault'
      exact hlist.symm.trans hperm
    · intro hperm
      exact ⟨vmk, key', _, hvmk, hvault, hlist.trans hperm⟩
  · intro row f hf
    obtain ⟨f', hf', rfl⟩ := Option.map_eq_some_iff.mp hf
    show f'.id = row.id
    rw [Folders.readRow_id hf', sealFolders_id]
    rfl

end

variable (P J) in
/-- The vault was locked, and is unlocked in one of the two ways that migrate it. -/
inductive UnlocksTo (W : Webauthn) (env : Env) (s t : DaemonState) : Prop where
  | password (password : Bytes) (yk : Option (Block 20)) (uid : UInt32) (session : Session)
      (h : unlockExisting P J env password yk uid s = (.ok session, t))
  | passkey (a : Assertion) (uid : UInt32) (session : Session)
      (h : unlockWithPasskey P J W env a uid s = (.ok session, t))

/-- **When the legacy folders survive the migration.** -/
theorem foldersKept_iff (hP : P.Ideal)
    (hjson : ∀ folder, J.parseFolder (J.folderJson folder) = .ok folder) (W : Webauthn)
    {s t : DaemonState} {header : VaultHeader} {key : Block 32} {db₀ : Database}
    {rows : List LegacyFolder} {users : List LegacyUser} (hv1 : IsV1 db₀ rows users)
    (hlocked : s.vmk = none ∧ s.vaultUuid = none) (hs : s.disk.sidecar = some (.ok header))
    (hv : s.disk.vault = some (.pages key db₀)) (h : UnlocksTo P J W env s t) :
    FoldersKept P J t rows ↔ ∀ row ∈ rows, Survives P header.vaultUuid rows row := by
  cases h with
  | password password yk uid session h =>
    obtain ⟨header', vmk, stored, db', hs', -, -, -, -, hdb, hvmk, -, huuid, hdisk⟩ :=
      unlockExisting_ok h
    rw [hs] at hs'
    cases hs'
    exact foldersKept_of_leaves hP hjson hv1 hv hlocked.2 hdb hvmk huuid (congrArg Disk.vault hdisk)
  | passkey a uid session h =>
    obtain ⟨header', vmk, db', log, hs', hdb, hvmk, huuid, hvault⟩ := unlockWithPasskey_ok h
    rw [hs] at hs'
    cases hs'
    exact foldersKept_of_leaves hP hjson hv1 hv hlocked.2 hdb hvmk huuid hvault

end Folders

/-- The database of version 1 with these rows and nothing else. -/
def legacyDb (rows : List LegacyFolder) (users : List LegacyUser) : Database :=
  { Database.empty with
    foldersLegacy := some rows, usersLegacy := some users }.setMeta "schema_version" (.integer 1)

theorem legacyDb_isV1 (users : List LegacyUser) (hkeys : (rows.map (·.id)).Nodup) :
    IsV1 (legacyDb rows users) rows users :=
  ⟨rfl, rfl, rfl, rfl, hkeys⟩

def workFolder : LegacyFolder :=
  ⟨"67e55044-10b1-426f-9247-bb680e5fe0c8", "Work", none, none, 0, 0, 0⟩

/-- A daemon just started, with the files of a v1 vault that holds one folder. -/
def legacyVault (password : Bytes) : DaemonState :=
  closedVault (spelledHeader password 0) (legacyDb [workFolder] [])

theorem legacyVault_unlocks (password : Bytes) :
    ∃ session t, unlockExisting symbolic spelledSerde (symbolicEnv 5 5) password none 1000
      (legacyVault password) = (.ok session, t) :=
  ⟨_, _, ((opensHeader_spelled (symbolicEnv_quiet 5 5) rfl rfl).unlockExisting 1000).trans rfl⟩

theorem foldersKept_iff_legacyVault :
    ∃ t, UnlocksTo symbolic spelledSerde symbolicWebauthn (symbolicEnv 5 5)
        (legacyVault (utf8 "correct horse")) t ∧
      (FoldersKept symbolic spelledSerde t [workFolder] ↔
        ∀ row ∈ [workFolder], Survives symbolic (symbolicEnv 1 1).uuid [workFolder] row) := by
  obtain ⟨session, t, h⟩ := legacyVault_unlocks (utf8 "correct horse")
  have hopen : UnlocksTo symbolic spelledSerde symbolicWebauthn (symbolicEnv 5 5)
      (legacyVault (utf8 "correct horse")) t := .password _ _ _ _ h
  have hv1 : IsV1 (legacyDb [workFolder] []) [workFolder] [] :=
    legacyDb_isV1 [] (nodup_singleton _)
  exact ⟨t, hopen, foldersKept_iff symbolic_ideal spelledSerde_parseFolder symbolicWebauthn hv1
    ⟨rfl, rfl⟩ rfl rfl hopen⟩

/-- The folder of a v1 vault is gone from the list once the vault has been unlocked. -/
theorem legacy_folder_lost :
    ∃ session t, unlockExisting symbolic spelledSerde (symbolicEnv 5 5) (utf8 "correct horse")
        none 1000 (legacyVault (utf8 "correct horse")) = (.ok session, t) ∧
      ¬ FoldersKept symbolic spelledSerde t [workFolder] := by
  obtain ⟨session, t, h⟩ := legacyVault_unlocks (utf8 "correct horse")
  obtain ⟨header', vmk, stored, db', hs, -, -, -, -, hdb, hvmk, -, huuid, hdisk⟩ :=
    unlockExisting_ok h
  cases hs
  refine ⟨session, t, h, ?_⟩
  have hv1 : IsV1 (legacyDb [workFolder] []) [workFolder] [] :=
    legacyDb_isV1 [] (nodup_singleton _)
  rw [foldersKept_of_leaves symbolic_ideal spelledSerde_parseFolder hv1 rfl rfl hdb hvmk huuid
    (congrArg Disk.vault hdisk)]
  intro hall
  rcases hall workFolder (mem_singleton_self _) with ⟨_, -, hempty, -⟩ | ⟨hnone, -⟩
  · exact absurd hempty (by decide)
  · exact absurd hnone (by decide)

/-! ## The profile -/

section Profile

variable {P : Primitives} {J : Serde} {env : Env} {vmk : Block 32}

variable (P J) in
/-- `user_profile::get` returns the names, the address and the picture of the legacy user. -/
def ProfileKept (t : DaemonState) (vmk : Block 32) (user : LegacyUser) : Prop :=
  ∃ key db profile, t.disk.vault = some (.pages key db) ∧
    UserProfile.get P J db vmk = .ok (some profile) ∧ profile.firstName = user.firstName ∧
    profile.lastName = user.lastName ∧ profile.email = user.email ∧
    UserProfile.readPic P vmk user.stripped = .ok profile.profilePic

variable {user : LegacyUser} {db : Database}

section

variable (hP : P.Ideal) (hjson : ∀ fields, J.parseProfile (J.profileJson fields) = .ok fields)
include hP hjson

/-- The first row is the copy of the legacy user; only if that has the id `profile` are the
names sealed into it. -/
theorem migrateUsers_head (husers : db.users = [user.stripped]) :
    ∃ row, (migrateUsers P J env vmk 0 [user] db).users.head? = some row ∧
      row.profilePic = user.profilePic ∧
      UserProfile.readFields P J vmk row = .ok (if user.id = "profile" then
        ⟨user.firstName, user.lastName, user.email⟩ else ⟨"", "", ""⟩) := by
  have hid : user.stripped.id = user.id := rfl
  simp only [migrateUsers, UserProfile.update, husers]
  by_cases hprofile : user.id = "profile"
  · refine ⟨{ user.stripped with
      ciphertext := some (P.aesGcm.encrypt vmk (env.userNonce 0) (utf8 "profile-data-aad-v1")
        (J.profileJson ⟨user.firstName, user.lastName, user.email⟩))
      nonce := some (env.userNonce 0).bytes }, by simp [hid, hprofile], rfl, ?_⟩
    simp [UserProfile.readFields, UserProfile.decryptProfileFields, openSealed_encrypt hP, hjson,
      hprofile, bind, Except.bind, pure, Except.pure]
  · refine ⟨user.stripped, by simp [hid, hprofile], rfl, ?_⟩
    simp [UserProfile.readFields, LegacyUser.stripped, hprofile]

theorem get_migrated {db₀ : Database} {key : Block 32} {s t : DaemonState} {u : Unit}
    (hv1 : IsV1 db₀ rows [user]) (happly : applyMigrations db₀ = .ok db)
    (hv : s.disk.vault = some (.pages key db))
    (hmigrate : migrateDataToV2 P J env vmk s = (.ok u, t)) :
    ∃ db', t.disk.vault = some (.pages key db') ∧
      ∀ profile, UserProfile.get P J db' vmk = .ok (some profile) ↔
        ∃ pic, UserProfile.readPic P vmk user.stripped = .ok pic ∧
          profile = (if user.id = "profile" then
            ⟨user.firstName, user.lastName, user.email, pic, UserProfile.passwordChangedAt db'⟩
            else ⟨"", "", "", pic, UserProfile.passwordChangedAt db'⟩) := by
  obtain ⟨-, hcopied, -, hlegacy, hnew⟩ := hv1.applyMigrations_eq_ok happly
  rw [migrateDataToV2, bind_run_ok (gets_run vaultUuidStr s)] at hmigrate
  obtain ⟨key', db₁, db', hv', hrows, rfl⟩ := onDatabase_eq_ok.mp hmigrate
  rw [hv] at hv'
  cases hv'
  obtain ⟨-, husers⟩ := migrateRows_tables hnew hrows
  rw [hlegacy, Option.getD_some] at husers
  obtain ⟨row, hrow, hpic, hfields⟩ := migrateUsers_head hP hjson hcopied
  rw [← husers] at hrow
  have hread : UserProfile.readPic P vmk row = UserProfile.readPic P vmk user.stripped := by
    rw [UserProfile.readPic, hpic]
    rfl
  refine ⟨db', rfl, fun profile => ?_⟩
  simp only [UserProfile.get, hrow, hfields, hread, Result.bind_eq_ok, pure, Except.pure,
    Except.ok.injEq, Option.some.injEq]
  by_cases hprofile : user.id = "profile" <;> simp [hprofile, eq_comm]

end

/-- **When the legacy profile survives the migration.** -/
theorem profileKept_iff (hP : P.Ideal)
    (hjson : ∀ fields, J.parseProfile (J.profileJson fields) = .ok fields) {user : LegacyUser}
    {rows : List LegacyFolder} {db₀ db : Database} {key : Block 32} {s t : DaemonState}
    (hv1 : IsV1 db₀ rows [user]) (happly : applyMigrations db₀ = .ok db)
    (hv : s.disk.vault = some (.pages key db))
    (hmigrate : migrateDataToV2 P J env vmk s = (.ok (), t)) :
    ProfileKept P J t vmk user ↔
      (user.id = "profile" ∨ (user.firstName = "" ∧ user.lastName = "" ∧ user.email = "")) ∧
        ∃ pic, UserProfile.readPic P vmk user.stripped = .ok pic := by
  obtain ⟨db', hvault, hget⟩ := get_migrated hP hjson hv1 happly hv hmigrate
  constructor
  · rintro ⟨key', db'', profile, hvault', hprofile, hfirst, hlast, hemail, -⟩
    rw [hvault] at hvault'
    cases hvault'
    obtain ⟨pic, hpic, hval⟩ := (hget profile).mp hprofile
    refine ⟨?_, pic, hpic⟩
    by_cases hid : user.id = "profile"
    · exact .inl hid
    · rw [if_neg hid] at hval
      rw [hval] at hfirst hlast hemail
      exact .inr ⟨hfirst.symm, hlast.symm, hemail.symm⟩
  · rintro ⟨hnames, pic, hpic⟩
    refine ⟨key, db', _, hvault, (hget _).mpr ⟨pic, hpic, rfl⟩, ?_⟩
    by_cases hid : user.id = "profile"
    · rw [if_pos hid]
      exact ⟨rfl, rfl, rfl, hpic⟩
    · rw [if_neg hid]
      obtain ⟨hfirst, hlast, hemail⟩ := hnames.resolve_left hid
      exact ⟨hfirst.symm, hlast.symm, hemail.symm, hpic⟩

end Profile

def legacyUser (id : String) : LegacyUser := ⟨id, "ada@example.org", "Ada", "Lovelace", none, 0⟩

theorem legacyUser_migrates (id : String) :
    ∃ db t, applyMigrations (legacyDb [] [legacyUser id]) = .ok db ∧
      migrateDataToV2 symbolic spelledSerde (symbolicEnv 5 5) symbolicVmk
        (closedVault (spelledHeader (utf8 "correct horse") 0) db) = (.ok (), t) :=
  ⟨_, _, rfl, rfl⟩

theorem profileKept_iff_sameId :
    ∃ db t, applyMigrations (legacyDb [] [legacyUser "profile"]) = .ok db ∧
      migrateDataToV2 symbolic spelledSerde (symbolicEnv 5 5) symbolicVmk
        (closedVault (spelledHeader (utf8 "correct horse") 0) db) = (.ok (), t) ∧
      ProfileKept symbolic spelledSerde t symbolicVmk (legacyUser "profile") := by
  obtain ⟨db, t, happly, hrun⟩ := legacyUser_migrates "profile"
  have hv1 : IsV1 (legacyDb [] [legacyUser "profile"]) [] [legacyUser "profile"] :=
    legacyDb_isV1 _ nodup_nil
  exact ⟨db, t, happly, hrun, (profileKept_iff symbolic_ideal spelledSerde_parseProfile hv1 happly
    rfl hrun).mpr ⟨.inl rfl, none, rfl⟩⟩

/-- A legacy user with an id of their own has no name any more. -/
theorem legacy_profile_lost :
    ∃ db t, applyMigrations (legacyDb [] [legacyUser "user-1"]) = .ok db ∧
      migrateDataToV2 symbolic spelledSerde (symbolicEnv 5 5) symbolicVmk
        (closedVault (spelledHeader (utf8 "correct horse") 0) db) = (.ok (), t) ∧
      ¬ ProfileKept symbolic spelledSerde t symbolicVmk (legacyUser "user-1") := by
  obtain ⟨db, t, happly, hrun⟩ := legacyUser_migrates "user-1"
  have hv1 : IsV1 (legacyDb [] [legacyUser "user-1"]) [] [legacyUser "user-1"] :=
    legacyDb_isV1 _ nodup_nil
  refine ⟨db, t, happly, hrun, ?_⟩
  rintro ⟨key, db'', profile, hvault, hget, hfirst, -⟩
  -- the first row is the copy of the legacy one, and nothing is sealed into it
  obtain ⟨db', hvault', hread⟩ :=
    get_migrated symbolic_ideal spelledSerde_parseProfile hv1 happly rfl hrun
  rw [hvault'] at hvault
  cases hvault
  obtain ⟨pic, -, hprofile⟩ := (hread profile).mp hget
  rw [if_neg (by decide)] at hprofile
  have hname : "" = "Ada" := by
    rw [hprofile] at hfirst
    exact hfirst
  exact absurd hname (by decide)

end PwdNow.Daemon
