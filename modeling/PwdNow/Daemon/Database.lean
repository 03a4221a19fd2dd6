import PwdNow.Daemon.Header

/-!
# Daemon — the tables of `vault.db`, the schema migrations and the audit chain

`daemon/src/vault/db.rs`, `daemon/migrations/*.sql`, `daemon/src/vault/audit.rs`. A table is the
list of its rows in rowid order. v2 renames the plaintext tables `folders` and `users` of v1 to
`folders_legacy` and `users_legacy`, creates tables of sealed columns in their place and leaves the
data to `migrate_data_to_v2`. `foldersLegacy` and `usersLegacy` are the v1 tables under either name,
`none` once dropped.
-/

namespace PwdNow.Daemon

open Kit Result List

structure CredentialRow where
  id : String
  folderId : Option String
  encryptedDek : Bytes
  dekNonce : Bytes
  ciphertext : Bytes
  ctNonce : Bytes
  ctAad : Bytes
  serviceHash : Option String
  urlHash : Option String
  usernameHash : Option String
  createdAt : Int
  updatedAt : Int
  deriving DecidableEq

structure StoredFolder where
  id : String
  ciphertext : Option Bytes
  nonce : Option Bytes
  sortOrder : Int
  createdAt : Int
  updatedAt : Int
  deriving DecidableEq

structure LegacyFolder where
  id : String
  name : String
  description : Option String
  iconSvg : Option String
  sortOrder : Int
  createdAt : Int
  updatedAt : Int
  deriving DecidableEq

structure StoredUser where
  id : String
  ciphertext : Option Bytes
  nonce : Option Bytes
  profilePic : Option Bytes
  createdAt : Int
  deriving DecidableEq

structure LegacyUser where
  id : String
  email : String
  firstName : String
  lastName : String
  profilePic : Option Bytes
  createdAt : Int
  deriving DecidableEq

structure OtpConfigRow where
  id : String
  encryptedSecret : Bytes
  secretNonce : Bytes
  backupCodes : Bytes
  backupNonce : Bytes
  createdAt : Int
  deriving DecidableEq

/-- What assertions read and write of a row of `fido2_credentials`. -/
structure Fido2CredRow where
  id : String
  credentialId : Bytes
  publicKeyCbor : Bytes
  signCount : UInt32
  lastUsedAt : Option Int
  deriving DecidableEq

/-- The table, with its `PRIMARY KEY` and its `UNIQUE` column. -/
structure Fido2Credentials where
  rows : List Fido2CredRow
  ids : (rows.map (·.id)).Nodup
  credentialIds : (rows.map (·.credentialId)).Nodup

/-- The `singleton` row of `asset_holder`. -/
structure AssetHolderRow where
  ciphertext : Bytes
  nonce : Bytes
  updatedAt : Int
  deriving DecidableEq

structure AuditRow where
  id : Int
  /-- nanoseconds since the epoch, an `i64` -/
  ts : Int64
  action : String
  resource : Option String
  prevHash : Bytes
  rowHash : Bytes
  deriving DecidableEq

/-- A value of the untyped column `vault_meta.value`. -/
inductive SqlValue where
  | integer (v : Int)
  | text (v : String)
  deriving DecidableEq

structure Database where
  vaultMeta : String → Option SqlValue
  credentials : List CredentialRow
  folders : List StoredFolder
  foldersLegacy : Option (List LegacyFolder)
  users : List StoredUser
  usersLegacy : Option (List LegacyUser)
  assetHolder : Option AssetHolderRow
  otpConfig : List OtpConfigRow
  fido2Credentials : Fido2Credentials
  auditLog : List AuditRow

namespace Database

/-- A file without pages. -/
def empty : Database where
  vaultMeta := fun _ => none
  credentials := []
  folders := []
  foldersLegacy := none
  users := []
  usersLegacy := none
  assetHolder := none
  otpConfig := []
  fido2Credentials := ⟨[], nodup_nil, nodup_nil⟩
  auditLog := []

/-- `INSERT OR REPLACE INTO vault_meta`. -/
def setMeta (db : Database) (key : String) (value : SqlValue) : Database :=
  { db with vaultMeta := Function.update db.vaultMeta key (some value) }

end Database

/-- The primary keys that readers look rows up by. -/
structure Database.PrimaryKeys (db : Database) : Prop where
  credentials : (db.credentials.map (·.id)).Nodup
  folders : (db.folders.map (·.id)).Nodup

/-! ## Schema migrations -/

def currentSchemaVersion : Nat := 4

/-- `schema_version`: a missing row, like a missing table, is version `0`. -/
def schemaVersion (db : Database) : Result Nat :=
  match db.vaultMeta "schema_version" with
  | none => .ok 0
  | some (.integer v) =>
    if 0 ≤ v ∧ v < 2 ^ 32 then .ok v.toNat else fail (.database "integer out of range")
  | some (.text _) => fail (.database "invalid column type")

/-- The v1 tables are created unless they exist. -/
def migrateV0ToV1 (db : Database) : Result Database :=
  .ok <| { db with
    foldersLegacy := some (db.foldersLegacy.getD [])
    usersLegacy := some (db.usersLegacy.getD []) }.setMeta "schema_version" (.integer 1)

/-- A v1 row as v2 copies it: without its plaintext columns, which are sealed later. -/
def LegacyFolder.stripped (f : LegacyFolder) : StoredFolder where
  id := f.id
  ciphertext := none
  nonce := none
  sortOrder := f.sortOrder
  createdAt := f.createdAt
  updatedAt := f.updatedAt

/-- The picture is copied as it is. -/
def LegacyUser.stripped (u : LegacyUser) : StoredUser where
  id := u.id
  ciphertext := none
  nonce := none
  profilePic := u.profilePic
  createdAt := u.createdAt

def migrateV1ToV2 (db : Database) : Result Database :=
  match db.foldersLegacy, db.usersLegacy with
  | some folders, some users =>
    .ok <| { db with
      folders := folders.map LegacyFolder.stripped
      users := users.map LegacyUser.stripped }.setMeta "schema_version" (.integer 2)
  | _, _ => fail (.database "no such table")

/-- A table for PQC authenticators, empty. -/
def migrateV2ToV3 (db : Database) : Result Database :=
  .ok (db.setMeta "schema_version" (.integer 3))

/-- `credentials` is rebuilt with its rows, for the sake of a foreign key. -/
def migrateV3ToV4 (db : Database) : Result Database :=
  .ok (db.setMeta "schema_version" (.integer 4))

def applyMigrations (db : Database) : Result Database := do
  let version ← schemaVersion db
  if version ≥ currentSchemaVersion then pure db
  else
    let db ← if version < 1 then migrateV0ToV1 db else pure db
    let db ← if version < 2 then migrateV1ToV2 db else pure db
    let db ← if version < 3 then migrateV2ToV3 db else pure db
    migrateV3ToV4 db

/-- The database of an open connection: `open_vault` has brought it to the current schema. -/
def Database.Current (db : Database) : Prop :=
  ∃ version, schemaVersion db = .ok version ∧ currentSchemaVersion ≤ version

variable {db : Database} {γ : Type} {f : Database → γ} {db' : Database} {macKey : Block 32}
  {prev : Bytes} {lastId : Option Int} {rows : List AuditRow}

theorem applyMigrations_of_current (h : db.Current) : applyMigrations db = .ok db := by
  obtain ⟨version, hversion, hle⟩ := h
  simp [applyMigrations, hversion, hle, bind, Except.bind, pure, Except.pure]

theorem keeps_of_step {c : Prop} [Decidable c] {step : Database → Result Database}
    (hstep : ∀ {db db'}, step db = .ok db' → f db' = f db)
    (h : (if c then step db else pure db) = .ok db') : f db' = f db := by
  split at h
  · exact hstep h
  · cases h
    rfl

theorem applyMigrations_of_lt {version : Nat} (hversion : schemaVersion db = .ok version)
    (hlt : ¬ version ≥ currentSchemaVersion) :
    applyMigrations db = ((if version < 1 then migrateV0ToV1 db else pure db) >>= fun db =>
        (if version < 2 then migrateV1ToV2 db else pure db) >>= fun db =>
          (if version < 3 then migrateV2ToV3 db else pure db) >>= migrateV3ToV4) := by
  rw [applyMigrations, hversion]
  show (if version ≥ currentSchemaVersion then pure db else _) = _
  rw [if_neg hlt]
  split_ifs <;> rfl

/-- The steps write the version and the tables of folders and users. `f` is any part of the
database that does not look at them. -/
theorem applyMigrations_keeps (hf : ∀ db version folders foldersLegacy users usersLegacy,
      f ({ db with folders, foldersLegacy, users, usersLegacy }.setMeta "schema_version" version) =
        f db) (h : applyMigrations db = .ok db') : f db' = f db := by
  obtain ⟨version, hversion, -⟩ := bind_eq_ok.mp h
  by_cases hcurrent : version ≥ currentSchemaVersion
  · have hdb := applyMigrations_of_current ⟨version, hversion, hcurrent⟩
    rw [h] at hdb
    cases hdb
    rfl
  · rw [applyMigrations_of_lt hversion hcurrent] at h
    obtain ⟨db₁, h₁, h⟩ := bind_eq_ok.mp h
    obtain ⟨db₂, h₂, h⟩ := bind_eq_ok.mp h
    obtain ⟨db₃, h₃, h⟩ := bind_eq_ok.mp h
    have hkept₁ : f db₁ = f db := by
      refine keeps_of_step (fun {db db'} hstep => ?_) h₁
      cases hstep
      exact hf db _ _ _ _ _
    have hkept₂ : f db₂ = f db₁ := by
      refine keeps_of_step (fun {db db'} hstep => ?_) h₂
      unfold migrateV1ToV2 at hstep
      split at hstep
      · cases hstep
        exact hf db _ _ _ _ _
      · cases hstep
    have hkept₃ : f db₃ = f db₂ := by
      refine keeps_of_step (fun {db db'} hstep => ?_) h₃
      cases hstep
      exact hf db _ _ _ _ _
    cases h
    calc f _ = f db₃ := hf db₃ _ _ _ _ _
      _ = f db := hkept₃.trans (hkept₂.trans hkept₁)

/-- **Opening brings a database to the current schema**, with its log as it was. -/
theorem applyMigrations_eq_ok (h : applyMigrations db = .ok db') :
    db'.Current ∧ db'.auditLog = db.auditLog := by
  refine ⟨?_, applyMigrations_keeps (f := (·.auditLog)) (fun _ _ _ _ _ _ => rfl) h⟩
  obtain ⟨version, hversion, -⟩ := bind_eq_ok.mp h
  by_cases hcurrent : version ≥ currentSchemaVersion
  · have hdb := applyMigrations_of_current ⟨version, hversion, hcurrent⟩
    rw [h] at hdb
    cases hdb
    exact ⟨version, hversion, hcurrent⟩
  · rw [applyMigrations_of_lt hversion hcurrent] at h
    obtain ⟨db₁, -, h⟩ := bind_eq_ok.mp h
    obtain ⟨db₂, -, h⟩ := bind_eq_ok.mp h
    obtain ⟨db₃, -, h⟩ := bind_eq_ok.mp h
    cases h
    refine ⟨4, ?_, le_rfl⟩
    simp [schemaVersion, Database.setMeta]

theorem Database.Current.setMeta (h : db.Current) {key : String} (hkey : key ≠ "schema_version")
    (value : SqlValue) : (db.setMeta key value).Current := by
  obtain ⟨version, hversion, hle⟩ := h
  refine ⟨version, ?_, hle⟩
  simpa [schemaVersion, Database.setMeta, Function.update_of_ne hkey.symm] using hversion

/-! ## The audit chain

Default build (no `cnsa-strict`): a row's hash is keyed BLAKE3 over timestamp, action,
resource and the hash before it, and the chain starts from 32 zero bytes. -/

variable (P : Primitives)

def toBeBytes (ts : Int64) : Bytes :=
  (range 8).map fun i => UInt8.ofNat (ts.toBitVec.toNat >>> (8 * (7 - i)))

def getMacKey (vmk : Block 32) : Block 32 := P.hkdfSha3 32 vmk.bytes (utf8 "vault-audit-mac-key-v1")

def computeRowHash (macKey : Block 32) (ts : Int64) (action : String) (resource : Option String)
    (prevHash : Bytes) : Bytes :=
  P.blake3 macKey (toBeBytes ts ++ utf8 action ++ (resource.map utf8).getD [] ++ prevHash)

def zeroPrevHash : Bytes := replicate 32 0

def lastRowHash (log : List AuditRow) : Bytes :=
  match log.getLast? with
  | some row => row.rowHash
  | none => zeroPrevHash

/-- `audit::log`; the `AUTOINCREMENT` id follows the last one. -/
def auditLog (db : Database) (vmk : Block 32) (ts : Int64) (action : String)
    (resource : Option String) : Database :=
  let prevHash := lastRowHash db.auditLog
  let rowHash := computeRowHash P (getMacKey P vmk) ts action resource prevHash
  let id := match db.auditLog.getLast? with
    | some row => row.id + 1
    | none => 1
  { db with auditLog := db.auditLog ++ [{ id, ts, action, resource, prevHash, rowHash }] }

/-- The loop of `verify_chain`, with `expected_prev` and `last_id` as its accumulators. -/
def verifyRows (macKey : Block 32) (expectedPrev : Bytes) (lastId : Option Int) :
    List AuditRow → Result Unit
  | [] => .ok ()
  | row :: rows =>
    if lastId.any fun prevId => row.id ≠ prevId + 1 then
      fail (.crypto "audit log chain broken: id gap detected")
    else if row.prevHash ≠ expectedPrev then
      fail (.crypto "audit log chain broken: prev_hash mismatch")
    else
      let expectedHash := computeRowHash P macKey row.ts row.action row.resource expectedPrev
      if row.rowHash ≠ expectedHash then
        fail (.crypto "audit log chain broken: row_hash mismatch")
      else verifyRows macKey expectedHash (some row.id) rows

def verifyChain (db : Database) (vmk : Block 32) : Result Unit :=
  verifyRows P (getMacKey P vmk) zeroPrevHash none db.auditLog

variable {P}

@[simp] theorem verifyRows_nil : verifyRows P macKey prev lastId [] = .ok () := rfl

theorem verifyRows_cons {row : AuditRow} :
    verifyRows P macKey prev lastId (row :: rows) = .ok () ↔
      (∀ prevId ∈ lastId, row.id = prevId + 1) ∧ row.prevHash = prev ∧
        row.rowHash = computeRowHash P macKey row.ts row.action row.resource prev ∧
        verifyRows P macKey row.rowHash (some row.id) rows = .ok () := by
  rw [verifyRows]
  by_cases hid : lastId.any fun prevId => row.id ≠ prevId + 1
  · rw [if_pos hid]
    obtain ⟨prevId, hmem, hne⟩ : ∃ prevId ∈ lastId, row.id ≠ prevId + 1 := by
      simpa [Option.any_eq_true] using hid
    simp only [fail, reduceCtorEq, false_iff, not_and]
    exact fun h => absurd (h prevId hmem) hne
  · have hids : ∀ prevId ∈ lastId, row.id = prevId + 1 := by
      intro prevId hmem
      cases hmem
      simpa using hid
    rw [if_neg hid]
    by_cases hprev : row.prevHash = prev
    · by_cases hhash : row.rowHash = computeRowHash P macKey row.ts row.action row.resource prev
      · simp only [hprev, ← hhash, ne_eq, not_true_eq_false, if_false, true_and]
        exact ⟨fun h => ⟨hids, h⟩, fun h => h.2⟩
      · simp [hprev, hhash, fail]
    · simp [hprev, fail]

theorem verifyRows_append {more : List AuditRow} :
    verifyRows P macKey prev lastId (rows ++ more) = .ok () ↔
      verifyRows P macKey prev lastId rows = .ok () ∧
        verifyRows P macKey ((rows.getLast?.map (·.rowHash)).getD prev)
          ((rows.getLast?.map fun r => some r.id).getD lastId) more = .ok () := by
  induction rows generalizing prev lastId with
  | nil =>
    rw [nil_append, verifyRows_nil]
    simp
  | cons first rows ih =>
    -- the accumulators after `first :: rows` are those after `rows`, started from `first`
    have hlast : ∀ {β : Type} (f : AuditRow → β) (d : β),
        ((first :: rows).getLast?.map f).getD d = (rows.getLast?.map f).getD (f first) := by
      intro β f d
      rw [getLast?_cons]
      cases rows.getLast? <;> rfl
    rw [cons_append, verifyRows_cons, ih, hlast, hlast,
      @verifyRows_cons macKey prev lastId rows P first]
    tauto

/-- **Logging keeps the chain.** -/
theorem verifyChain_log {vmk : Block 32} (h : verifyChain P db vmk = .ok ()) (ts : Int64)
    (action : String) (resource : Option String) :
    verifyChain P (auditLog P db vmk ts action resource) vmk = .ok () := by
  unfold verifyChain auditLog
  rw [verifyRows_append, verifyRows_cons]
  refine ⟨h, ?_, ?_, ?_, rfl⟩
  · cases db.auditLog.getLast? <;> simp
  · cases hlast : db.auditLog.getLast? <;> simp [lastRowHash, hlast]
  · cases hlast : db.auditLog.getLast? <;> simp [lastRowHash, hlast]

end PwdNow.Daemon
