import PwdNow.Daemon.State

/-!
# Daemon — unlocking with a password

`unlock`, `unlock_existing`, `create_and_unlock`, the transparent re-wrap of the VMK and
`migrate_data_to_v2` of `daemon/src/vault/state.rs`. While the vault is locked no VMK is in
memory, so the header writes inside `unlock_existing` keep the MAC they find.
-/

namespace PwdNow.Daemon

open Kit Kit.Fallible

variable (P : Primitives) (J : Serde)

/-! ## The data migration -/

/-- Legacy folders are sealed into the rows that v2 left without columns. An id that is no
UUID and an update that fails are passed over. -/
def migrateFolders (env : Env) (vmk : Block 32) (vaultUuid : String) :
    Nat → List LegacyFolder → Database → Database
  | _, [], db => db
  | i, row :: rows, db =>
    let db := match P.parseUuid row.id with
      | some id =>
        match Folders.update P J (env.folderNonce i) env.nowSecs db vmk vaultUuid id
            ⟨row.name, row.description, row.iconSvg⟩ with
        | .ok db' => db'
        | .error _ => db
      | none => db
    migrateFolders env vmk vaultUuid (i + 1) rows db

def migrateUsers (env : Env) (vmk : Block 32) : Nat → List LegacyUser → Database → Database
  | _, [], db => db
  | i, row :: rows, db =>
    migrateUsers env vmk (i + 1) rows
      (UserProfile.update P J (env.userNonce i) env.nowSecs db vmk
        ⟨row.firstName, row.lastName, row.email⟩)

/-- A credential without blind indices is read and sealed anew. A read that fails is passed
over; a data key of the wrong length panics in `credentials::get`. -/
def migrateCredential (env : Env) (vmk : Block 32) (vaultUuid : String) (i : Nat)
    (row : CredentialRow) (db : Database) : Result Database :=
  match P.parseUuid row.id with
  | none => .ok db
  | some id =>
    match Credentials.get P db vmk id with
    | .error (.abort site) => .error (.abort site)
    | .error (.err _) => .ok db
    | .ok blob =>
      let folderId := (db.credentials.find? (·.id = row.id)).bind (·.folderId)
      match Credentials.update P J (env.credentialDraws i) env.nowSecs db vmk
          (blindIndexKey P vmk.bytes) vaultUuid id (folderId.bind P.parseUuid) blob with
      | .ok db' => .ok db'
      | .error _ => .ok db

def migrateCredentials (env : Env) (vmk : Block 32) (vaultUuid : String) :
    Nat → List CredentialRow → Database → Result Database
  | _, [], db => .ok db
  | i, row :: rows, db => do
    let db ← migrateCredential P J env vmk vaultUuid i row db
    migrateCredentials env vmk vaultUuid (i + 1) rows db

def dataMigrated (db : Database) : Bool :=
  db.vaultMeta "data_migrated_to_v2" = some (.text "true")

/-- The rows of the two v1 tables, sealed; the tables are dropped. -/
def migrateLegacyTables (env : Env) (vmk : Block 32) (vaultUuid : String) (db : Database) :
    Database :=
  let db := { migrateFolders P J env vmk vaultUuid 0 (db.foldersLegacy.getD []) db with
    foldersLegacy := none }
  { migrateUsers P J env vmk 0 (db.usersLegacy.getD []) db with usersLegacy := none }

/-- The body of the transaction. -/
def migrateTables (env : Env) (vmk : Block 32) (vaultUuid : String) (db : Database) :
    Result Database := do
  let db := migrateLegacyTables P J env vmk vaultUuid db
  let db ← migrateCredentials P J env vmk vaultUuid 0
    (db.credentials.filter (·.serviceHash.isNone)) db
  pure (db.setMeta "data_migrated_to_v2" (.text "true"))

/-- The transaction; a failed statement rolls everything back. -/
def migrateRows (env : Env) (vmk : Block 32) (vaultUuid : String) (db : Database) :
    Result Database :=
  if dataMigrated db then .ok db
  else do
    outcome (env.io .migrationBegin)
    let db ← migrateTables P J env vmk vaultUuid db
    outcome (env.io .migrationBody)
    outcome (env.io .migrationCommit)
    pure db

/-- While the vault is locked, `vault_uuid_str()` is empty. -/
def migrateDataToV2 (env : Env) (vmk : Block 32) : Call Unit := do
  let uuid ← gets vaultUuidStr
  onDatabase (migrateRows P J env vmk uuid)

/-- The migration will not meet a data key of the wrong length. -/
def MigrationSafe (db : Database) (vmk : Block 32) : Prop :=
  dataMigrated db = true ∨
    ∀ row ∈ db.credentials, row.serviceHash = none → ∀ id, P.parseUuid row.id = some id →
      ∀ site, Credentials.get P db vmk id ≠ .error (.abort site)

section Migration

variable {P J} {env : Env} {vmk : Block 32} {vaultUuid : String} {db db' : Database}

/-! ### What the migration leaves alone

Each loop writes one table. `f` is any part of the database that does not look at it. -/

variable {γ : Type} {f : Database → γ} {i : Nat}

theorem migrateFolders_keeps (hf : ∀ db rows, f { db with folders := rows } = f db)
    (rows : List LegacyFolder) : f (migrateFolders P J env vmk vaultUuid i rows db) = f db := by
  induction rows generalizing i db with
  | nil => rfl
  | cons row rows ih =>
    rw [migrateFolders, ih]
    split
    · split
      · next hupdate =>
        unfold Folders.update at hupdate
        split at hupdate
        · cases hupdate
          exact hf db _
        · simp [fail] at hupdate
      · rfl
    · rfl

theorem migrateUsers_keeps (hf : ∀ db rows, f { db with users := rows } = f db)
    (rows : List LegacyUser) : f (migrateUsers P J env vmk i rows db) = f db := by
  induction rows generalizing i db with
  | nil => rfl
  | cons row rows ih =>
    rw [migrateUsers, ih]
    exact hf db _

theorem migrateCredential_keeps (hf : ∀ db rows, f { db with credentials := rows } = f db)
    {row : CredentialRow} (h : migrateCredential P J env vmk vaultUuid i row db = .ok db') :
    f db' = f db := by
  unfold migrateCredential at h
  split at h
  · cases h
    rfl
  · split at h
    · simp at h
    · cases h
      rfl
    · dsimp only at h
      split at h
      · next hupdate =>
        cases h
        obtain ⟨sealed, -, hdb⟩ := Result.bind_eq_ok.mp hupdate
        cases hdb
        exact hf db _
      · cases h
        rfl

theorem migrateCredentials_keeps (hf : ∀ db rows, f { db with credentials := rows } = f db)
    {rows : List CredentialRow} (h : migrateCredentials P J env vmk vaultUuid i rows db = .ok db') :
    f db' = f db := by
  induction rows generalizing i db with
  | nil =>
    cases h
    rfl
  | cons row rows ih =>
    obtain ⟨mid, hmid, hrest⟩ := Result.bind_eq_ok.mp h
    rw [ih hrest, migrateCredential_keeps hf hmid]

@[simp] theorem migrateLegacyTables_credentials :
    (migrateLegacyTables P J env vmk vaultUuid db).credentials = db.credentials := by
  rw [migrateLegacyTables, migrateUsers_keeps (f := (·.credentials)) fun _ _ => rfl,
    migrateFolders_keeps (f := (·.credentials)) fun _ _ => rfl]

theorem migrateRows_cases (h : migrateRows P J env vmk vaultUuid db = .ok db') :
    (dataMigrated db = true ∧ db' = db) ∨
      (dataMigrated db = false ∧ ∃ db₁,
        migrateCredentials P J env vmk vaultUuid 0 (db.credentials.filter (·.serviceHash.isNone))
          (migrateLegacyTables P J env vmk vaultUuid db) = .ok db₁ ∧
        db' = db₁.setMeta "data_migrated_to_v2" (.text "true")) := by
  unfold migrateRows at h
  split at h
  · next hdone =>
    cases h
    exact .inl ⟨hdone, rfl⟩
  · next hnew =>
    obtain ⟨_, -, h⟩ := Result.bind_eq_ok.mp h
    obtain ⟨db₁, htables, h⟩ := Result.bind_eq_ok.mp h
    obtain ⟨_, -, h⟩ := Result.bind_eq_ok.mp h
    obtain ⟨_, -, h⟩ := Result.bind_eq_ok.mp h
    cases h
    obtain ⟨db₂, hcreds, hmeta⟩ := Result.bind_eq_ok.mp htables
    cases hmeta
    rw [migrateLegacyTables_credentials] at hcreds
    exact .inr ⟨by simpa using hnew, db₂, hcreds, rfl⟩

theorem migrateRows_keeps
    (hf : ∀ db vaultMeta credentials folders foldersLegacy users usersLegacy,
      f { db with vaultMeta, credentials, folders, foldersLegacy, users, usersLegacy } = f db)
    (h : migrateRows P J env vmk vaultUuid db = .ok db') : f db' = f db := by
  rcases migrateRows_cases h with ⟨-, rfl⟩ | ⟨-, db₂, hcreds, rfl⟩
  · rfl
  · have hcredentials : f db₂ = f (migrateLegacyTables P J env vmk vaultUuid db) :=
      migrateCredentials_keeps (fun db _ => hf db _ _ _ _ _ _) hcreds
    have hlegacy : f (migrateLegacyTables P J env vmk vaultUuid db) = f db := by
      rw [migrateLegacyTables]
      calc f _ = f (migrateUsers P J env vmk 0 _ _) := hf _ _ _ _ _ _ _
        _ = f { migrateFolders P J env vmk vaultUuid 0 (db.foldersLegacy.getD []) db with
              foldersLegacy := none } := migrateUsers_keeps (fun db _ => hf db _ _ _ _ _ _) _
        _ = f (migrateFolders P J env vmk vaultUuid 0 (db.foldersLegacy.getD []) db) :=
          hf _ _ _ _ _ _ _
        _ = f db := migrateFolders_keeps (fun db _ => hf db _ _ _ _ _ _) _
    calc f _ = f db₂ := hf db₂ _ _ _ _ _ _
      _ = f db := hcredentials.trans hlegacy

theorem migrateRows_eq_ok (h : migrateRows P J env vmk vaultUuid db = .ok db') :
    dataMigrated db' = true ∧ db'.auditLog = db.auditLog ∧
      ∀ key, key ≠ "data_migrated_to_v2" → db'.vaultMeta key = db.vaultMeta key := by
  have hlog : db'.auditLog = db.auditLog :=
    migrateRows_keeps (f := (·.auditLog)) (fun _ _ _ _ _ _ _ => rfl) h
  rcases migrateRows_cases h with ⟨hdone, rfl⟩ | ⟨-, db₂, hcreds, rfl⟩
  · exact ⟨hdone, rfl, fun _ _ => rfl⟩
  · have hvault : db₂.vaultMeta = db.vaultMeta := by
      rw [migrateCredentials_keeps (f := (·.vaultMeta)) (fun _ _ => rfl) hcreds,
        migrateLegacyTables, migrateUsers_keeps (f := (·.vaultMeta)) fun _ _ => rfl,
        migrateFolders_keeps (f := (·.vaultMeta)) fun _ _ => rfl]
    refine ⟨?_, hlog, fun key hkey => ?_⟩
    · simp [dataMigrated, Database.setMeta]
    · rw [← hvault]
      exact Function.update_of_ne hkey _ _

variable (J env vmk vaultUuid)

/-- One row of the loop either panics, because its read does, or goes on with a database
that panics on the same ids. -/
theorem migrateCredential_cases (hP : P.Ideal) (i : Nat) (row : CredentialRow) (db : Database) :
    ((∃ id site, P.parseUuid row.id = some id ∧
        Credentials.get P db vmk id = .error (.abort site)) ∧
      ∃ site, migrateCredential P J env vmk vaultUuid i row db = .error (.abort site)) ∨
    ((∀ id, P.parseUuid row.id = some id →
        ∀ site, Credentials.get P db vmk id ≠ .error (.abort site)) ∧
      ∃ db', migrateCredential P J env vmk vaultUuid i row db = .ok db' ∧
        ∀ id site, Credentials.get P db' vmk id = .error (.abort site) ↔
          Credentials.get P db vmk id = .error (.abort site)) := by
  unfold migrateCredential
  cases hid : P.parseUuid row.id with
  | none => exact .inr ⟨by simp, db, rfl, fun _ _ => .rfl⟩
  | some id =>
    simp only [Option.some.injEq, forall_eq', exists_and_left, exists_eq_left']
    cases hget : Credentials.get P db vmk id with
    | error e =>
      cases e with
      | abort site => exact .inl ⟨⟨site, rfl⟩, site, rfl⟩
      | err e => exact .inr ⟨by simp, db, rfl, fun _ _ => .rfl⟩
    | ok blob =>
      refine .inr ⟨by simp, ?_⟩
      simp only
      split
      · next db' hupdate =>
        refine ⟨db', rfl, fun id' site => ?_⟩
        by_cases hne : id' = id
        · -- the row was there, since it was read, and now reads as `blob`
          subst hne
          have hmem : (db.credentials.find? (·.id = id')).isSome := by
            simp only [Credentials.get, Result.bind_eq_ok, okOr_eq_ok] at hget
            obtain ⟨row, hrow, -⟩ := hget
            simp [hrow]
          rw [Credentials.get_update hP hupdate hmem, hget]
        · rw [Credentials.get_update_other hupdate hne]
      · exact ⟨db, rfl, fun _ _ => .rfl⟩

/-- **The loop of the migration** returns exactly when no row it visits has a read that panics on
the database it started from. -/
theorem migrateCredentials_ok_iff (hP : P.Ideal) (i : Nat) (rows : List CredentialRow)
    (db : Database) :
    (∃ db', migrateCredentials P J env vmk vaultUuid i rows db = .ok db') ↔
      ∀ row ∈ rows, ∀ id, P.parseUuid row.id = some id →
        ∀ site, Credentials.get P db vmk id ≠ .error (.abort site) := by
  induction rows generalizing i db with
  | nil => simp [migrateCredentials]
  | cons row rows ih =>
    simp only [List.forall_mem_cons, migrateCredentials]
    rcases migrateCredential_cases J env vmk vaultUuid hP i row db with
      ⟨⟨id, site, hid, hget⟩, site', hrow⟩ | ⟨hrow, db', hstep, hsame⟩
    · simp only [hrow, bind, Except.bind, reduceCtorEq, exists_false, false_iff]
      exact fun h => h.1 id hid site hget
    · rw [hstep]
      simp only [bind, Except.bind, ih, ne_eq, hsame]
      exact ⟨fun h => ⟨hrow, h⟩, fun h => h.2⟩

theorem migrateTables_ok_iff (hP : P.Ideal) :
    (∃ db', migrateTables P J env vmk vaultUuid db = .ok db') ↔
      ∀ row ∈ db.credentials, row.serviceHash = none → ∀ id, P.parseUuid row.id = some id →
        ∀ site, Credentials.get P db vmk id ≠ .error (.abort site) := by
  have hloop := migrateCredentials_ok_iff J env vmk vaultUuid hP 0
    (db.credentials.filter (·.serviceHash.isNone)) (migrateLegacyTables P J env vmk vaultUuid db)
  simp only [List.mem_filter, Option.isNone_iff_eq_none, and_imp, Credentials.get_congr
    migrateLegacyTables_credentials] at hloop
  rw [← hloop]
  simp only [migrateTables, Result.bind_eq_ok, migrateLegacyTables_credentials]
  exact ⟨fun ⟨_, mid, hmid, _⟩ => ⟨mid, hmid⟩, fun ⟨mid, hmid⟩ => ⟨_, mid, hmid, rfl⟩⟩

theorem migrateRows_ok_iff (hP : P.Ideal) (hq : env.Quiet) :
    (∃ db', migrateRows P J env vmk vaultUuid db = .ok db') ↔ MigrationSafe P db vmk := by
  unfold migrateRows MigrationSafe
  by_cases hdone : dataMigrated db = true
  · simp [hdone]
  · rw [if_neg hdone, ← migrateTables_ok_iff J env vmk vaultUuid hP]
    simp only [hdone, Result.bind_eq_ok, hq _, outcome, Bool.false_eq_true, false_or]
    constructor
    · rintro ⟨_, _, _, mid, hmid, _⟩
      exact ⟨mid, hmid⟩
    · rintro ⟨mid, hmid⟩
      exact ⟨mid, (), trivial, mid, hmid, (), trivial, (), trivial, rfl⟩

end Migration

/-! ## Unlocking -/

def createSession (env : Env) (userId : String) (uid : UInt32) : Call Session := fun s =>
  match s.sessions.create env.nowSecs env.token userId uid defaultTtlSecs with
  | (.ok session, store) => (.ok session, { s with sessions := store })
  | (.error e, store) => (.error (.err e), { s with sessions := store })

/-- Re-wrap the VMK under the current KDF floor. -/
def rewrapVmkWithCurrentKdf (env : Env) (password : Bytes) (yk : Option (Block 20))
    (vmk : Block 32) : Call Unit := do
  let kek ← lift (deriveKek P (env.io (.kdfMemory .rewrap)) password yk env.rewrapSalt env.tuned)
  let header ← readHeader env .rewrap
  writeHeader P J env .rewrap (header.wrap P env.rewrapSalt env.tuned kek env.rewrapNonce vmk)

/-- Headers from before wipe tickets get one; the raw ticket is kept in memory only. -/
def ensureWipeTicket (env : Env) (header : VaultHeader) : Call (Option Bytes) :=
  if header.wipeTicketHash = "" then do
    writeHeader P J env .ticket
      { header with wipeTicketHash := hexEncode (P.sha3 env.wipeTicket.bytes) }
    pure (some env.wipeTicket.bytes)
  else pure none

def migrateKdf (env : Env) (password : Bytes) (yk : Option (Block 20)) (vmk : Block 32)
    (header : VaultHeader) : Call Unit :=
  if isLegacyHeavy header.params then do
    -- a failed migration is logged and passed over
    let _ ← attemptErr (rewrapVmkWithCurrentKdf P J env password yk vmk)
  else pure ()

/-- The VMK under the password, with a header that its MAC vouches for. -/
def openHeader (env : Env) (password : Bytes) (yk : Option (Block 20)) :
    Call (VaultHeader × Block 32) := do
  let header ← readHeader env .request
  require header.passwordLoginEnabled (.auth "password login disabled for this vault")
  let vmkPlain ← lift (unwrapVmk P (env.io (.kdfMemory .request)) header password yk)
  env.at .lockedKey
  let vmk ← lift (copyFromSlice 32 "vmk" vmkPlain)
  lift (checkHeaderHmac P J header vmk)
  pure (header, vmk)

/-- The database under that VMK, verified and migrated. -/
def openDatabase (env : Env) (vmk : Block 32) : Call Unit := do
  openVault env (sqlcipherKey P vmk.bytes)
  onDatabase fun db => do
    verifyChain P db vmk
    pure db
  migrateDataToV2 P J env vmk

/-- What an accepted password leads to: the vault is opened, and is in memory from here on. -/
def enterVault (env : Env) (password : Bytes) (yk : Option (Block 20)) (uid : UInt32)
    (header : VaultHeader) (vmk : Block 32) : Call Session := do
  openDatabase P J env vmk
  let rawTicket ← ensureWipeTicket P J env header
  migrateKdf P J env password yk vmk header
  modify fun s =>
    { s with
      vmk := some vmk
      dbOpen := true
      vaultUuid := some header.vaultUuid
      wipeTicket := rawTicket }
  createSession env header.vaultUuid uid

def unlockExisting (env : Env) (password : Bytes) (yk : Option (Block 20)) (uid : UInt32) :
    Call Session := do
  let opened ← openHeader P J env password yk
  enterVault P J env password yk uid opened.1 opened.2

/-- The header of a new vault, before its MAC. -/
def freshHeader (env : Env) (kek : Block 64) : VaultHeader :=
  VaultHeader.wrap P
    { vaultUuid := env.uuid
      argon2Salt := ""
      params := env.tuned
      kemSuite := 2
      encryptedVmk := ""
      vmkNonce := ""
      passwordLoginEnabled := true
      totpEnabled := false
      emailOtpEnabled := false
      strictPqcMode := false
      passkeyCredentials := []
      pqcCredentials := []
      quickUnlockCredentials := []
      recoveryKeyCopy := none
      duressMaxAttempts := 0
      wipeTicketHash := hexEncode (P.sha3 env.wipeTicket.bytes)
      headerHmac := none }
    env.salt env.tuned kek env.vmkNonce env.vmk

/-- The VMK is in memory before the header is written. -/
def createAndUnlock (env : Env) (password : Bytes) (yk : Option (Block 20)) (uid : UInt32) :
    Call Session := do
  let kek ← lift (deriveKek P (env.io (.kdfMemory .request)) password yk env.salt env.tuned)
  env.at .lockedKey
  modify fun s => { s with vmk := some env.vmk }
  writeHeader P J env .request (freshHeader P env kek)
  openVault env (sqlcipherKey P env.vmk.bytes)
  modify fun s =>
    { s with
      dbOpen := true
      vaultUuid := some env.uuid
      wipeTicket := some env.wipeTicket.bytes }
  createSession env env.uuid uid

/-- The checks before any key is derived; returns whether there is a vault to open. -/
def admitUnlock (env : Env) (password : Bytes) (uid : UInt32) : Call Bool := do
  require (password.length ≤ 1024) (.auth "password too long")
  let present ← gets fun s => s.disk.vault.isSome
  require (present || 12 ≤ password.length) (.auth "password must be at least 12 characters")
  checkUnlockLockout env uid
  checkTotpLockout env uid
  pure present

/-- A success does not reset the failure counters: a second factor may still be due. -/
def settleUnlock (env : Env) (uid : UInt32) (res : Except VaultError Session) : Call Session :=
  match res with
  | .ok session => do
    touch env
    pure session
  | .error e => do
    recordFailedUnlock env uid
    throw (.err e)

def unlock (env : Env) (password : Bytes) (yk : Option (Block 20)) (uid : UInt32) :
    Call Session := do
  let present ← admitUnlock env password uid
  let res ← attemptErr <|
    if present then unlockExisting P J env password yk uid
    else createAndUnlock P J env password yk uid
  settleUnlock env uid res

/-! ## When a locked vault opens -/

section Opens

variable {P J} {env : Env} {s t : DaemonState} {password : Bytes} {yk : Option (Block 20)}
  {uid : UInt32} {header : VaultHeader} {vmk : Block 32} {db : Database}

theorem openHeader_eq_ok (hq : env.Quiet) (hs : s.disk.sidecar = some (.ok header))
    {header' : VaultHeader} :
    openHeader P J env password yk s = (.ok (header', vmk), t) ↔
      header' = header ∧ t = s ∧ header.passwordLoginEnabled = true ∧
        unwrapVmk P (.ok ()) header password yk = .ok vmk.bytes ∧
        checkHeaderHmac P J header vmk = .ok () := by
  simp only [openHeader, bind_eq_ok, readHeader_eq_ok, require_eq_ok, lift_eq_ok, at_eq_ok,
    copyFromSlice_eq_ok, pure_run, Prod.mk.injEq, hq _, hs, Option.some.injEq,
    Except.ok.injEq, true_and]
  constructor
  · rintro ⟨_, _, ⟨rfl, rfl⟩, _, _, ⟨hlogin, rfl⟩, plain, _, ⟨hplain, rfl⟩, _, _, rfl, vmk', _,
      ⟨rfl, rfl⟩, _, _, ⟨hmac, rfl⟩, ⟨rfl, rfl⟩, rfl⟩
    exact ⟨rfl, rfl, hlogin, hplain, hmac⟩
  · rintro ⟨rfl, rfl, hlogin, hplain, hmac⟩
    exact ⟨_, _, ⟨rfl, rfl⟩, (), _, ⟨hlogin, rfl⟩, _, _, ⟨hplain, rfl⟩, (), _, rfl, vmk, _,
      ⟨rfl, rfl⟩, (), _, ⟨hmac, rfl⟩, ⟨rfl, rfl⟩, rfl⟩

variable {key : Block 32} {present : Bool}

theorem migrateDataToV2_ok_iff (hP : P.Ideal) (hq : env.Quiet)
    (hv : s.disk.vault = some (.pages key db)) :
    (∃ t, migrateDataToV2 P J env vmk s = (.ok (), t)) ↔ MigrationSafe P db vmk := by
  rw [← migrateRows_ok_iff J env vmk (vaultUuidStr s) hP hq]
  simp only [migrateDataToV2, bind_run_ok (gets_run vaultUuidStr s), onDatabase_eq_ok]
  constructor
  · rintro ⟨t, key', db', db'', hv', hrows, -⟩
    rw [hv] at hv'
    cases hv'
    exact ⟨db'', hrows⟩
  · rintro ⟨db', hrows⟩
    exact ⟨_, key, db, db', hv, hrows, rfl⟩

theorem openDatabase_ok_iff (hP : P.Ideal) (hq : env.Quiet)
    (hv : s.disk.vault = some (.pages key db)) (hc : db.Current) :
    (∃ t, openDatabase P J env vmk s = (.ok (), t)) ↔
      key = sqlcipherKey P vmk.bytes ∧ verifyChain P db vmk = .ok () ∧
        MigrationSafe P db vmk := by
  rw [← migrateDataToV2_ok_iff (J := J) hP hq hv]
  simp only [openDatabase, bind_eq_ok, openVault_eq_ok hq hv hc]
  constructor
  · rintro ⟨t, _, _, ⟨hkey, rfl⟩, _, _, hverify, hmigrate⟩
    obtain ⟨hchain, rfl⟩ := (onDatabase_read_eq_ok hv).mp hverify
    exact ⟨hkey, hchain, t, hmigrate⟩
  · rintro ⟨hkey, hchain, t, hmigrate⟩
    exact ⟨t, (), s, ⟨hkey, rfl⟩, (), s, (onDatabase_read_eq_ok hv).mpr ⟨hchain, rfl⟩, hmigrate⟩

theorem openDatabase_keeps_sessions : Keeps (·.sessions) (openDatabase P J env vmk) :=
  openVault_keeps_sessions.bind fun _ => (onDatabase_keeps_sessions _).bind fun _ =>
    (Keeps.gets _).bind fun _ => onDatabase_keeps_sessions _

theorem ensureWipeTicket_keeps_sessions : Keeps (·.sessions) (ensureWipeTicket P J env header) := by
  unfold ensureWipeTicket
  split
  · exact writeHeader_keeps_sessions.bind fun _ => .pure _
  · exact .pure _

theorem ensureWipeTicket_run (hq : env.Quiet) :
    ∃ ticket t, ensureWipeTicket P J env header s = (.ok ticket, t) := by
  unfold ensureWipeTicket
  split
  · have hwrite : writeHeader P J env .ticket
        { header with wipeTicketHash := hexEncode (P.sha3 env.wipeTicket.bytes) } s = (.ok (), _) :=
      writeHeader_eq_ok.mpr ⟨hq _, hq _, rfl⟩
    exact ⟨_, _, bind_run_ok hwrite⟩
  · exact ⟨none, s, rfl⟩

theorem rewrapVmkWithCurrentKdf_returns :
    Returns (rewrapVmkWithCurrentKdf P J env password yk vmk) :=
  (Returns.lift fun _ => deriveKek_ne_abort P).bind fun _ =>
    (readHeader_returns env _).bind fun _ => writeHeader_returns env _ _

theorem migrateKdf_keeps_sessions :
    Keeps (·.sessions) (migrateKdf P J env password yk vmk header) := by
  unfold migrateKdf
  split
  · refine (attemptErr_keeps ?_).bind fun _ => .pure ()
    exact .lift_bind fun _ => (readHeader_keeps env _).bind fun _ =>
      writeHeader_keeps_sessions
  · exact .pure ()

theorem migrateKdf_run : ∃ t, migrateKdf P J env password yk vmk header s = (.ok (), t) := by
  unfold migrateKdf
  split
  · obtain ⟨r, hr⟩ := attemptErr_of_returns
      (rewrapVmkWithCurrentKdf_returns (P := P) (J := J)) s
    exact ⟨_, bind_run_ok hr⟩
  · exact ⟨s, rfl⟩

theorem createSession_run (hsessions : s.sessions = .new) (userId : String) :
    ∃ session t, createSession env userId uid s = (.ok session, t) := by
  unfold createSession
  rw [hsessions]
  exact ⟨_, _, rfl⟩

theorem enterVault_run (hq : env.Quiet) (hsessions : s.sessions = .new) {s₁ : DaemonState}
    (hdb : openDatabase P J env vmk s = (.ok (), s₁)) :
    ∃ session t, enterVault P J env password yk uid header vmk s = (.ok session, t) := by
  obtain ⟨ticket, s₂, hticket⟩ := ensureWipeTicket_run (P := P) (J := J) hq
  obtain ⟨s₃, hkdf⟩ := migrateKdf_run
  have hempty : s₃.sessions = .new := by
    rw [migrateKdf_keeps_sessions.eq hkdf, ensureWipeTicket_keeps_sessions.eq hticket,
      openDatabase_keeps_sessions.eq hdb, hsessions]
  rw [enterVault, bind_run_ok hdb, bind_run_ok hticket, bind_run_ok hkdf,
    bind_run_ok (modify_run _ s₃)]
  apply createSession_run
  exact hempty

theorem enterVault_ok_iff (hP : P.Ideal) (hq : env.Quiet) (hv : s.disk.vault = some (.pages key db))
    (hc : db.Current) (hsessions : s.sessions = .new) :
    (∃ session t, enterVault P J env password yk uid header vmk s = (.ok session, t)) ↔
      key = sqlcipherKey P vmk.bytes ∧ verifyChain P db vmk = .ok () ∧
        MigrationSafe P db vmk := by
  rw [← openDatabase_ok_iff (J := J) hP hq hv hc]
  constructor
  · rintro ⟨session, t, h⟩
    obtain ⟨u, s₁, hdb, -⟩ := bind_eq_ok.mp h
    exact ⟨s₁, hdb⟩
  · rintro ⟨s₁, hdb⟩
    exact enterVault_run hq hsessions hdb

/-- **When an existing vault opens** (with room for a session): the password unwraps a VMK
that the header's MAC, the page key and the audit chain all agree with. -/
theorem unlockExisting_ok_iff (hP : P.Ideal) (hq : env.Quiet)
    (hs : s.disk.sidecar = some (.ok header)) (hv : s.disk.vault = some (.pages key db))
    (hc : db.Current) (hsessions : s.sessions = .new) :
    (∃ session t, unlockExisting P J env password yk uid s = (.ok session, t)) ↔
      header.passwordLoginEnabled = true ∧ ∃ vmk,
        unwrapVmk P (.ok ()) header password yk = .ok vmk.bytes ∧
        checkHeaderHmac P J header vmk = .ok () ∧ key = sqlcipherKey P vmk.bytes ∧
        verifyChain P db vmk = .ok () ∧ MigrationSafe P db vmk := by
  constructor
  · rintro ⟨session, t, h⟩
    obtain ⟨⟨header', vmk⟩, s', hopen, henter⟩ := bind_eq_ok.mp h
    obtain ⟨rfl, rfl, hlogin, hunwrap, hmac⟩ := (openHeader_eq_ok hq hs).mp hopen
    exact ⟨hlogin, vmk, hunwrap, hmac,
      (enterVault_ok_iff hP hq hv hc hsessions).mp ⟨session, t, henter⟩⟩
  · rintro ⟨hlogin, vmk, hunwrap, hmac, hrest⟩
    have hopen := (openHeader_eq_ok hq hs).mpr ⟨rfl, rfl, hlogin, hunwrap, hmac⟩
    rw [unlockExisting, bind_run_ok hopen]
    exact (enterVault_ok_iff hP hq hv hc hsessions).mpr hrest

theorem admitUnlock_lock :
    admitUnlock env password uid (lock s) = (.ok present, t) ↔
      present = s.disk.vault.isSome ∧ t = lock s ∧ password.length ≤ 1024 ∧
        (present = true ∨ 12 ≤ password.length) := by
  have hcheck : checkUnlockLockout env uid (lock s) = (.ok (), lock s) := rfl
  have htotp : checkTotpLockout env uid (lock s) = (.ok (), lock s) := rfl
  simp only [admitUnlock, bind_eq_ok, require_eq_ok, gets_run, Prod.mk.injEq,
    decide_eq_true_eq, Except.ok.injEq, pure_run, Bool.or_eq_true]
  constructor
  · rintro ⟨_, _, ⟨hlen, rfl⟩, _, _, ⟨rfl, rfl⟩, _, _, ⟨hshort, rfl⟩, _, _, h₁, _, _, h₂, rfl, rfl⟩
    rw [hcheck] at h₁
    cases h₁
    rw [htotp] at h₂
    cases h₂
    exact ⟨rfl, rfl, hlen, hshort⟩
  · rintro ⟨rfl, rfl, hlen, hshort⟩
    exact ⟨(), _, ⟨hlen, rfl⟩, _, _, ⟨rfl, rfl⟩, (), _, ⟨hshort, rfl⟩, (), _, hcheck, (), _, htotp,
      rfl, rfl⟩

variable {session : Session}

theorem settleUnlock_eq_ok {res : Except VaultError Session} :
    settleUnlock env uid res s = (.ok session, t) ↔
      res = .ok session ∧ t = { s with lastActivity := env.nowSecs } := by
  cases res with
  | ok session' =>
    simp only [settleUnlock, touch, bind_eq_ok, modify_run, pure_run, Prod.mk.injEq,
      Except.ok.injEq]
    constructor
    · rintro ⟨_, _, ⟨-, rfl⟩, rfl, rfl⟩
      exact ⟨rfl, rfl⟩
    · rintro ⟨rfl, rfl⟩
      exact ⟨(), _, ⟨trivial, rfl⟩, rfl, rfl⟩
  | error e => simp [settleUnlock, bind_eq_ok]

theorem unlock_lock_ok_iff (hv : s.disk.vault.isSome) :
    (∃ session t, unlock P J env password yk uid (lock s) = (.ok session, t)) ↔
      password.length ≤ 1024 ∧
        ∃ session t, unlockExisting P J env password yk uid (lock s) = (.ok session, t) := by
  simp only [unlock, bind_eq_ok, admitUnlock_lock, settleUnlock_eq_ok]
  constructor
  · rintro ⟨session, t, _, _, ⟨rfl, rfl, hlen, -⟩, _, s', hrun, rfl, -⟩
    rw [hv, if_pos rfl, attemptErr_eq_ok_ok] at hrun
    exact ⟨hlen, session, s', hrun⟩
  · rintro ⟨hlen, session, s', hrun⟩
    refine ⟨session, _, true, lock s, ⟨hv.symm, rfl, hlen, .inl rfl⟩, .ok session, s', ?_, rfl, rfl⟩
    rwa [if_pos rfl, attemptErr_eq_ok_ok]

/-! ## What an unlock leaves behind

The same functions read the other way: what is known once they have returned `Ok`, whatever
the system calls answered on the way. -/

variable {γ : Type} {f : DaemonState → γ} {u : Unit}

theorem openHeader_ok (h : openHeader P J env password yk s = (.ok (header, vmk), t)) :
    t = s ∧ s.disk.sidecar = some (.ok header) ∧ header.passwordLoginEnabled = true ∧
      unwrapVmk P (.ok ()) header password yk = .ok vmk.bytes ∧
      checkHeaderHmac P J header vmk = .ok () := by
  simp only [openHeader, bind_eq_ok, readHeader_eq_ok, require_eq_ok, lift_eq_ok, at_eq_ok,
    copyFromSlice_eq_ok, pure_run, Prod.mk.injEq, Except.ok.injEq] at h
  obtain ⟨_, _, ⟨-, hs, rfl⟩, _, _, ⟨hlogin, rfl⟩, plain, _, ⟨hplain, rfl⟩, _, _, ⟨-, rfl⟩, _, _,
    ⟨rfl, rfl⟩, _, _, ⟨hmac, rfl⟩, ⟨rfl, rfl⟩, rfl⟩ := h
  exact ⟨rfl, hs, hlogin, unwrapVmk_of_ok hplain, hmac⟩

theorem openHeader_keeps : Keeps f (openHeader P J env password yk) :=
  (readHeader_keeps env _).bind fun _ => .lift_bind fun _ => .lift_bind fun _ =>
    at_keeps.bind fun _ => .lift_bind fun _ => .lift_bind fun _ => .pure _

theorem openDatabase_ok (h : openDatabase P J env vmk s = (.ok u, t)) :
    ∃ db₀ db db', (s.disk.vault.getD .empty).unlockedBy (sqlcipherKey P vmk.bytes) = .ok db₀ ∧
      applyMigrations db₀ = .ok db ∧ verifyChain P db vmk = .ok () ∧
      migrateRows P J env vmk (vaultUuidStr s) db = .ok db' ∧
      t = s.setVault (.pages (sqlcipherKey P vmk.bytes) db') := by
  simp only [openDatabase, migrateDataToV2, bind_eq_ok, gets_run, Prod.mk.injEq,
    Except.ok.injEq] at h
  obtain ⟨_, s₁, hopen, _, s₂, hverify, _, _, ⟨rfl, rfl⟩, hmigrate⟩ := h
  obtain ⟨db₀, db, hkey, happly, rfl⟩ := openVault_ok hopen
  obtain ⟨hchain, rfl⟩ := (onDatabase_read_eq_ok rfl).mp hverify
  obtain ⟨key, db₁, db', hv, hrows, rfl⟩ := onDatabase_eq_ok.mp hmigrate
  cases hv
  exact ⟨db₀, db, db', hkey, happly, hchain, hrows, rfl⟩

/-- The header with a fresh wipe ticket. -/
def VaultHeader.ticketed (P : Primitives) (env : Env) (header : VaultHeader) : VaultHeader :=
  { header with wipeTicketHash := hexEncode (P.sha3 env.wipeTicket.bytes) }

theorem ensureWipeTicket_ok {ticket : Option Bytes}
    (h : ensureWipeTicket P J env header s = (.ok ticket, t)) :
    (header.wipeTicketHash ≠ "" ∧ t = s) ∨
      (header.wipeTicketHash = "" ∧
        t = s.setSidecar ((header.ticketed P env).stamped P J s.vmk)) := by
  unfold ensureWipeTicket at h
  split at h
  · next hempty =>
    obtain ⟨_, _, hwrite, hpure⟩ := bind_eq_ok.mp h
    obtain ⟨-, -, rfl⟩ := writeHeader_eq_ok.mp hwrite
    cases hpure
    exact .inr ⟨hempty, rfl⟩
  · next hne =>
    cases h
    exact .inl ⟨hne, rfl⟩

/-- The transparent migration gets as far as replacing the header: the parameters call for
it, the new KEK can be derived, and the header can be read and written. -/
structure Rewraps (P : Primitives) (env : Env) (password : Bytes) (yk : Option (Block 20))
    (header : VaultHeader) (kek : Block 64) : Prop where
  heavy : isLegacyHeavy header.params = true
  derived : deriveKek P (env.io (.kdfMemory .rewrap)) password yk env.rewrapSalt env.tuned = .ok kek
  read : env.io (.readHeader .rewrap) = .ok ()
  written : env.io (.writeHeader .rewrap) = .ok ()

/-- **The transparent migration replaces the header or leaves the state alone.** It is never
heard of if it fails, also when only the permissions of the new file could not be set. -/
theorem migrateKdf_cases {stored : VaultHeader} (hs : s.disk.sidecar = some (.ok stored))
    (h : migrateKdf P J env password yk vmk header s = (.ok u, t)) :
    (∃ kek, Rewraps P env password yk header kek ∧
      t = s.setSidecar
        ((stored.wrap P env.rewrapSalt env.tuned kek env.rewrapNonce vmk).stamped P J s.vmk)) ∨
      ((∀ kek, ¬ Rewraps P env password yk header kek) ∧ t = s) := by
  unfold migrateKdf at h
  split at h
  · next hheavy =>
    obtain ⟨r, hr⟩ := attemptErr_of_returns
      (rewrapVmkWithCurrentKdf_returns (P := P) (J := J)) s
    rw [bind_run_ok hr] at h
    cases h
    by_cases hw : ∃ kek, Rewraps P env password yk header kek
    · obtain ⟨kek, hw⟩ := hw
      refine .inl ⟨kek, hw, ?_⟩
      -- the file is replaced before its permissions are set
      rw [rewrapVmkWithCurrentKdf, hw.derived, bind_run_ok (lift_run _ s),
        bind_run_ok (readHeader_eq_ok.mpr ⟨hw.read, hs, rfl⟩), writeHeader,
        bind_run_ok (at_run_ok hw.written s), bind_run_ok (modify_run _ s)]
      rfl
    · refine .inr ⟨fun kek h => hw ⟨kek, h⟩, ?_⟩
      -- the re-wrap stops before it writes
      refine Keeps.bind_holds (R := (· = s)) (.lift _) rfl fun kek hkek => ?_
      refine Keeps.bind_holds (R := (· = s)) (readHeader_keeps env .rewrap) rfl fun _ hread => ?_
      refine Keeps.bind_holds (R := (· = s)) at_keeps rfl fun _ hat => ?_
      exact absurd ⟨kek, hheavy, (lift_eq_ok.mp hkek).1, (readHeader_eq_ok.mp hread).1,
        (at_eq_ok.mp hat).1⟩ hw
  · next hlight =>
    cases h
    refine .inr ⟨fun kek hw => hlight hw.heavy, rfl⟩

theorem createSession_keeps (hf : ∀ s store, f { s with sessions := store } = f s) (userId : String) :
    Keeps f (createSession env userId uid) := by
  intro s
  unfold createSession
  split <;> exact hf s _

/-- The header after the first of the two rewrites inside `unlock_existing`; `mem` is the VMK
in memory at that moment. -/
def VaultHeader.withTicket (P : Primitives) (J : Serde) (env : Env) (mem : Option (Block 32))
    (header : VaultHeader) : VaultHeader :=
  if header.wipeTicketHash = "" then (header.ticketed P env).stamped P J mem else header

/-- The header on disk once the vault that `header` stood for is unlocked. -/
def LeavesHeader (P : Primitives) (J : Serde) (env : Env) (password : Bytes)
    (yk : Option (Block 20)) (vmk : Block 32) (mem : Option (Block 32))
    (header stored : VaultHeader) : Prop :=
  (∃ kek, Rewraps P env password yk header kek ∧
    stored = ((header.withTicket P J env mem).wrap P env.rewrapSalt env.tuned kek
      env.rewrapNonce vmk).stamped P J mem) ∨
  ((∀ kek, ¬ Rewraps P env password yk header kek) ∧ stored = header.withTicket P J env mem)

/-- The database that the key of `vmk` opens in `s`, as an unlock leaves it: brought to the
current schema, verified, and migrated. -/
def LeavesDatabase (P : Primitives) (J : Serde) (env : Env) (vmk : Block 32) (s : DaemonState)
    (db' : Database) : Prop :=
  ∃ db₀ db, (s.disk.vault.getD .empty).unlockedBy (sqlcipherKey P vmk.bytes) = .ok db₀ ∧
    applyMigrations db₀ = .ok db ∧ verifyChain P db vmk = .ok () ∧
    migrateRows P J env vmk (vaultUuidStr s) db = .ok db'

/-- **What a successful `unlock_existing` leaves** in memory and on disk. -/
theorem unlockExisting_ok (h : unlockExisting P J env password yk uid s = (.ok session, t)) :
    ∃ header vmk stored db', s.disk.sidecar = some (.ok header) ∧
      header.passwordLoginEnabled = true ∧
      unwrapVmk P (.ok ()) header password yk = .ok vmk.bytes ∧
      checkHeaderHmac P J header vmk = .ok () ∧
      LeavesHeader P J env password yk vmk s.vmk header stored ∧
      LeavesDatabase P J env vmk s db' ∧
      t.vmk = some vmk ∧ t.dbOpen = true ∧ t.vaultUuid = some header.vaultUuid ∧
      t.disk = ⟨some (.ok stored), some (.pages (sqlcipherKey P vmk.bytes) db')⟩ := by
  obtain ⟨⟨header, vmk⟩, s₀, hopen, henter⟩ := bind_eq_ok.mp h
  obtain ⟨rfl, hs, hlogin, hunwrap, hmac⟩ := openHeader_ok hopen
  simp only [enterVault, bind_eq_ok, modify_run, Prod.mk.injEq] at henter
  obtain ⟨_, s₁, hdb, ticket, s₂, hticket, _, s₃, hkdf, _, _, ⟨-, rfl⟩, hsession⟩ := henter
  obtain ⟨db₀, db, db', hkey, happly, hchain, hrows, rfl⟩ := openDatabase_ok hdb
  -- neither the ticket nor the re-wrap touches more than the sidecar
  have hs₂ : s₂ = (s₀.setVault (.pages (sqlcipherKey P vmk.bytes) db')).setSidecar
      (header.withTicket P J env s₀.vmk) := by
    rcases ensureWipeTicket_ok hticket with ⟨hne, rfl⟩ | ⟨hempty, rfl⟩
    · rw [VaultHeader.withTicket, if_neg hne, DaemonState.setSidecar, ← hs]
      rfl
    · rw [VaultHeader.withTicket, if_pos hempty]
      rfl
  have hs₃ : ∃ stored, LeavesHeader P J env password yk vmk s₀.vmk header stored ∧
      s₃ = (s₀.setVault (.pages (sqlcipherKey P vmk.bytes) db')).setSidecar stored := by
    subst hs₂
    rcases migrateKdf_cases rfl hkdf with ⟨kek, hwraps, rfl⟩ | ⟨hnone, rfl⟩
    · exact ⟨_, .inl ⟨kek, hwraps, rfl⟩, rfl⟩
    · exact ⟨_, .inr ⟨hnone, rfl⟩, rfl⟩
  obtain ⟨stored, hstored, rfl⟩ := hs₃
  have hkept := (createSession_keeps (f := fun s : DaemonState =>
    (s.vmk, s.dbOpen, s.vaultUuid, s.disk)) (fun _ _ => rfl) header.vaultUuid).eq hsession
  simp only [Prod.mk.injEq] at hkept
  obtain ⟨hvmk, hopen, huuid, hdisk⟩ := hkept
  exact ⟨header, vmk, stored, db', hs, hlogin, hunwrap, hmac, hstored,
    ⟨db₀, db, hkey, happly, hchain, hrows⟩, hvmk, hopen, huuid, hdisk⟩

theorem createAndUnlock_ok (h : createAndUnlock P J env password yk uid s = (.ok session, t)) :
    ∃ kek db, t.vmk = some env.vmk ∧ t.dbOpen = true ∧
      t.wipeTicket = some env.wipeTicket.bytes ∧
      t.disk = ⟨some (.ok ((freshHeader P env kek).stamped P J (some env.vmk))),
        some (.pages (sqlcipherKey P env.vmk.bytes) db)⟩ := by
  simp only [createAndUnlock, bind_eq_ok, lift_eq_ok, at_eq_ok, modify_run, Prod.mk.injEq] at h
  obtain ⟨kek, _, ⟨-, rfl⟩, _, _, ⟨-, rfl⟩, _, _, ⟨-, rfl⟩, _, s₁, hwrite, _, s₂, hopen, _, _,
    ⟨-, rfl⟩, hsession⟩ := h
  obtain ⟨-, -, rfl⟩ := writeHeader_eq_ok.mp hwrite
  obtain ⟨db₀, db, -, -, rfl⟩ := openVault_ok hopen
  have hkept := (createSession_keeps (f := fun s : DaemonState =>
    (s.vmk, s.dbOpen, s.wipeTicket, s.disk)) (fun _ _ => rfl) env.uuid).eq hsession
  simp only [Prod.mk.injEq] at hkept
  obtain ⟨hvmk, hopen, hticket, hdisk⟩ := hkept
  exact ⟨kek, db, hvmk, hopen, hticket, hdisk⟩

theorem admitUnlock_keeps (hlockout : ∀ s tracker, f { s with lockout := tracker } = f s)
    (htotp : ∀ s tracker, f { s with totpLockout := tracker } = f s) :
    Keeps f (admitUnlock env password uid) :=
  .lift_bind fun _ => (Keeps.gets _).bind fun _ => .lift_bind fun _ =>
    (checkUnlockLockout_keeps hlockout).bind fun _ => (checkTotpLockout_keeps htotp).bind fun _ =>
      .pure _

theorem admitUnlock_ok (h : admitUnlock env password uid s = (.ok present, t)) :
    present = s.disk.vault.isSome ∧ password.length ≤ 1024 := by
  simp only [admitUnlock, bind_eq_ok, require_eq_ok, gets_run, Prod.mk.injEq, Except.ok.injEq,
    pure_run, decide_eq_true_eq] at h
  obtain ⟨_, _, ⟨hlen, rfl⟩, _, _, ⟨rfl, rfl⟩, _, _, -, _, _, -, _, _, -, rfl, -⟩ := h
  exact ⟨rfl, hlen⟩

/-- A successful unlock of a vault that is there is a successful `unlock_existing`, from a
state that differs in the trackers only. -/
theorem unlock_ok (hv : s.disk.vault.isSome)
    (h : unlock P J env password yk uid s = (.ok session, t)) :
    password.length ≤ 1024 ∧ ∃ lockout totpLockout t',
      unlockExisting P J env password yk uid
        { s with lockout := lockout, totpLockout := totpLockout } = (.ok session, t') ∧
      t = { t' with lastActivity := env.nowSecs } := by
  simp only [unlock, bind_eq_ok, settleUnlock_eq_ok] at h
  obtain ⟨present, s₁, hadmitted, res, t', hrun, rfl, rfl⟩ := h
  obtain ⟨rfl, hlen⟩ := admitUnlock_ok hadmitted
  rw [hv, if_pos rfl, attemptErr_eq_ok_ok] at hrun
  have hs₁ : s₁ = { s with lockout := s₁.lockout, totpLockout := s₁.totpLockout } :=
    ((admitUnlock_keeps (f := fun s : DaemonState =>
        { s with lockout := s₁.lockout, totpLockout := s₁.totpLockout })
      (fun _ _ => rfl) fun _ _ => rfl).eq hadmitted)
  rw [hs₁] at hrun
  exact ⟨hlen, s₁.lockout, s₁.totpLockout, t', hrun, rfl⟩

/-- Nothing fails outside, and the password opens the header. -/
structure OpensHeader (P : Primitives) (J : Serde) (env : Env) (password : Bytes)
    (yk : Option (Block 20)) (s : DaemonState) (header : VaultHeader) (vmk : Block 32) : Prop where
  quiet : env.Quiet
  sidecar : s.disk.sidecar = some (.ok header)
  vault : s.disk.vault.isSome
  login : header.passwordLoginEnabled = true
  unwraps : unwrapVmk P (.ok ()) header password yk = .ok vmk.bytes
  mac : checkHeaderHmac P J header vmk = .ok ()

section

variable (h : OpensHeader P J env password yk s header vmk)
include h

theorem OpensHeader.openHeader : openHeader P J env password yk s = (.ok (header, vmk), s) :=
  (openHeader_eq_ok h.quiet h.sidecar).mpr ⟨rfl, rfl, h.login, h.unwraps, h.mac⟩

/-- Such an unlock comes down to what follows the password. -/
theorem OpensHeader.unlockExisting (uid : UInt32) :
    unlockExisting P J env password yk uid s = enterVault P J env password yk uid header vmk s := by
  rw [Daemon.unlockExisting, bind_run_ok h.openHeader]

theorem OpensHeader.unlock (uid : UInt32) :
    unlock P J env password yk uid s =
      (admitUnlock env password uid >>= fun _ =>
        attemptErr (enterVault P J env password yk uid header vmk) >>= settleUnlock env uid) s := by
  rw [Daemon.unlock, bind_run, bind_run]
  cases hrun : admitUnlock env password uid s with
  | mk r t =>
    cases r with
    | error e => rfl
    | ok present =>
      obtain ⟨rfl, -⟩ := admitUnlock_ok hrun
      have hdisk : t.disk = s.disk :=
        (admitUnlock_keeps (f := DaemonState.disk) (fun _ _ => rfl) fun _ _ => rfl).eq hrun
      have ht : OpensHeader P J env password yk t header vmk :=
        { h with sidecar := hdisk ▸ h.sidecar, vault := hdisk ▸ h.vault }
      show (attemptErr (if s.disk.vault.isSome then _ else _) >>= _) t =
        (attemptErr _ >>= settleUnlock env uid) t
      rw [if_pos h.vault, bind_run, bind_run, attemptErr, attemptErr, ht.unlockExisting]

end

end Opens

end PwdNow.Daemon
