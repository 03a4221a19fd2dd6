import PwdNow.Daemon.Items
import PwdNow.Daemon.Lockout
import PwdNow.Daemon.Session
import PwdNow.Kit.Fallible

/-!
# Daemon — `DaemonState`: header, locking, failure counting and the forensic wipe

`daemon/src/vault/state.rs`. The state is what the daemon holds in memory together with the two
files it owns, the sidecar and `vault.db`; an open connection works on the rows of `vault.db` in
place. A request runs in `Call`, where an error keeps what was done before it. What it takes from
outside (random draws, clock readings, the outcome of every system call, the environment) is its
`Env`, which is `Quiet` when no system call fails.
-/

namespace PwdNow.Daemon

open Kit Kit.Fallible

/-- `vault.db`: a file without pages takes the key it is first opened with. -/
inductive VaultFile where
  | empty
  | pages (key : Block 32) (db : Database)

structure Disk where
  /-- `vault.db.meta`, parsed; an error is the text the parser fails with -/
  sidecar : Option (Except String VaultHeader)
  vault : Option VaultFile

structure DaemonState where
  sessions : SessionStore
  dbOpen : Bool
  vmk : Option (Block 32)
  vaultUuid : Option String
  wipeTicket : Option Bytes
  lastActivity : Nat
  /-- issued challenges and when they expire -/
  challenges : List (Block 32 × Nat)
  pendingAudit : List (String × Option String)
  lockout : LockoutTracker
  totpLockout : LockoutTracker
  disk : Disk

/-- Which part of a request a system call belongs to, where there is more than one of its
kind. -/
inductive Part where
  | request | newPassword | ticket | rewrap | duress | signCount
  deriving DecidableEq

/-- The system calls that can fail. -/
inductive Site where
  | readHeader (part : Part) | writeHeader (part : Part) | headerPermissions (part : Part)
  | kdfMemory (part : Part) | lockedKey
  | createVault | openVault | rekey | passwordChangedAt
  | migrationBegin | migrationBody | migrationCommit
  | readMeta | eraseHeader | unlinkVault | unlinkMeta | removeVault | removeMeta
  | overwriteMeta | overwriteVault | backupCodes
  /-- the `i`-th statement on the rows that a request executes -/
  | statement (i : Nat)
  deriving DecidableEq

structure Env where
  io : Site → Except VaultError Unit
  /-- `VAULT_WIPE_MODE` -/
  wipeMode : Option String
  /-- `tune_params()` -/
  tuned : KdfParams
  nowSecs : Nat
  /-- `Instant::now()` in the lockout checks and when a failure is recorded -/
  checkAt : Nat
  totpCheckAt : Nat
  failAt : Nat
  totpFailAt : Nat
  /-- `Instant::now()` where challenges are issued and consumed -/
  challengeAt : Nat
  salt : Block 32
  vmk : Block 32
  vmkNonce : Block 12
  rewrapSalt : Block 32
  rewrapNonce : Block 12
  wipeTicket : Block 32
  challenge : Block 32
  /-- the nonces of a KEK copy and of a passkey's VMK copy -/
  kekNonce : Block 12
  passkeyNonce : Block 24
  uuid : String
  token : String
  /-- the timestamps of the audit rows in the order they are written; `none` where the insert
  fails -/
  auditTs : Nat → Option Int64
  /-- the draws of `migrate_data_to_v2`, row by row -/
  folderNonce : Nat → Block 12
  userNonce : Nat → Block 12
  credentialDraws : Nat → Credentials.Draws

def Env.Quiet (env : Env) : Prop := ∀ site, env.io site = .ok ()

abbrev Call := Fallible Failure DaemonState

def Env.at (env : Env) (site : Site) : Call Unit := lift (outcome (env.io site))

/-- `if !p { return Err(e) }` -/
def require (p : Bool) (e : VaultError) : Call Unit :=
  lift (if p then .ok () else fail e)

/-- `let res = x;`: the caller sees an `Err`, a panic passes it by. -/
def attemptErr {α : Type} (x : Call α) : Call (Except VaultError α) := fun s =>
  match x s with
  | (.ok a, t) => (.ok (.ok a), t)
  | (.error (.err e), t) => (.ok (.error e), t)
  | (.error (.abort site), t) => (.error (.abort site), t)

variable (P : Primitives) (J : Serde)

/-! ## The two files -/

def readHeader (env : Env) (part : Part) : Call VaultHeader := do
  env.at (.readHeader part)
  reads fun s =>
    match s.disk.sidecar with
    | none => fail (.io "No such file or directory")
    | some (.error msg) => fail (.crypto ("invalid header: " ++ msg))
    | some (.ok header) => .ok header

def DaemonState.setSidecar (s : DaemonState) (header : VaultHeader) : DaemonState :=
  { s with disk := { s.disk with sidecar := some (.ok header) } }

def DaemonState.setVault (s : DaemonState) (file : VaultFile) : DaemonState :=
  { s with disk := { s.disk with vault := some file } }

/-- The MAC is renewed only when a VMK is in memory. The file is replaced by a rename, and
its permissions are set after that. -/
def writeHeader (env : Env) (part : Part) (header : VaultHeader) : Call Unit := do
  env.at (.writeHeader part)
  modify fun s => s.setSidecar (header.stamped P J s.vmk)
  env.at (.headerPermissions part)

/-- What the key opens: the pages it encrypted, or a file that has none. -/
def VaultFile.unlockedBy (file : VaultFile) (key : Block 32) : Result Database :=
  match file with
  | .empty => .ok .empty
  | .pages k db => if k = key then .ok db else fail (.database "file is not a database")

/-- A missing file is created, empty and private. -/
def ensureVaultFile (env : Env) : Call Unit := do
  let missing ← gets fun s => s.disk.vault.isNone
  if missing then do
    env.at .createVault
    modify fun s => s.setVault .empty
  else pure ()

def openVault (env : Env) (key : Block 32) : Call Unit := do
  ensureVaultFile env
  env.at .openVault
  let db ← reads fun s => do
    let db ← (s.disk.vault.getD .empty).unlockedBy key
    applyMigrations db
  modify fun s => s.setVault (.pages key db)

/-- A statement on the rows of the vault file. -/
def onDatabase (f : Database → Result Database) : Call Unit := fun s =>
  match s.disk.vault with
  | some (.pages key db) =>
    match f db with
    | .ok db' => (.ok (), s.setVault (.pages key db'))
    | .error e => (.error e, s)
  | _ => (.error (.err (.database "unable to open database file")), s)

/-- `db::rekey_vault`: the pages under a new key, the rows as they are. -/
def rekeyVault (env : Env) (newKey : Block 32) : Call Unit := do
  env.at .rekey
  modify fun s =>
    match s.disk.vault with
    | some (.pages _ db) => s.setVault (.pages newKey db)
    | _ => s

/-! ## Locking and wiping -/

def isLocked (s : DaemonState) : Bool := s.vmk.isNone

def vaultUuidStr (s : DaemonState) : String := s.vaultUuid.getD ""

def lockInternal (clearLockout : Bool) (s : DaemonState) : DaemonState :=
  { s with
    dbOpen := false
    vmk := none
    vaultUuid := none
    wipeTicket := none
    lockout := if clearLockout then s.lockout.clear else s.lockout
    totpLockout := if clearLockout then s.totpLockout.clear else s.totpLockout
    sessions := s.sessions.revokeAll }

def lock : DaemonState → DaemonState := lockInternal true

def lockKeepLockout : DaemonState → DaemonState := lockInternal false

def zeroedHex (byteLen : Nat) : String := String.ofList (List.replicate (2 * byteLen) '0')

/-- `recovery_key_copy` is not among the fields that are cleared. -/
def sanitiseHeader (h : VaultHeader) : VaultHeader :=
  { h with
    argon2Salt := zeroedHex 32
    encryptedVmk := zeroedHex 48
    vmkNonce := zeroedHex 24
    wipeTicketHash := ""
    passkeyCredentials := h.passkeyCredentials.map fun e =>
      { e with
        encryptedVmkCopy := zeroedHex 48, vmkCopyNonce := zeroedHex 24
        pubKeyCborHex := none, signCount := 0 }
    pqcCredentials := h.pqcCredentials.map fun e =>
      { e with
        verifyingKeyHex := "", dkSeedHex := zeroedHex 32, dkNonceHex := zeroedHex 24 }
    quickUnlockCredentials := [] }

def removeSidecar (s : DaemonState) : DaemonState :=
  { s with disk := { s.disk with sidecar := none } }

def removeVault (s : DaemonState) : DaemonState :=
  { s with disk := { s.disk with vault := none } }

def unlinkVault (env : Env) : Call Unit := do
  let present ← gets fun s => s.disk.vault.isSome
  if present then do
    env.at .unlinkVault
    modify removeVault
  else pure ()

/-- Sanitise the header in place, then unlink both files. -/
def cryptographicErase (env : Env) : Call Unit := do
  env.at .readMeta
  let header ← reads fun s =>
    match s.disk.sidecar with
    | none => fail (.io "No such file or directory")
    | some (.error msg) => fail (.crypto ("meta parse: " ++ msg))
    | some (.ok header) => .ok header
  env.at .eraseHeader
  modify fun s => s.setSidecar (sanitiseHeader header)
  unlinkVault env
  env.at .unlinkMeta
  modify removeSidecar

/-- `let _ = std::fs::remove_file(path)`, for both files. -/
def removeFiles (env : Env) : Call Unit := do
  let _ ← attemptErr (do
    env.at .removeVault
    modify removeVault)
  let _ ← attemptErr (do
    env.at .removeMeta
    modify removeSidecar)

/-- Seven passes over a file, then its removal; `legacy-overwrite` deployments. -/
def mediaOverwrite (env : Env) : Call Unit := do
  env.at .overwriteMeta
  modify removeSidecar
  env.at .overwriteVault
  modify removeVault

def forensicWipeInternal (env : Env) : Call Unit := do
  modify lock
  if env.wipeMode = some "overwrite" then mediaOverwrite env
  else
    match (← attemptErr (cryptographicErase env)) with
    | .ok () => pure ()
    | .error _ => removeFiles env

/-! ## Failure counting -/

def checkUnlockLockout (env : Env) (uid : UInt32) : Call Unit := fun s =>
  match s.lockout.checkUnlockLockout env.checkAt uid with
  | (.ok (), t) => (.ok (), { s with lockout := t })
  | (.error e, t) => (.error (.err e), { s with lockout := t })

def checkTotpLockout (env : Env) (uid : UInt32) : Call Unit := fun s =>
  match s.totpLockout.checkUnlockLockout env.totpCheckAt uid with
  | (.ok (), t) => (.ok (), { s with totpLockout := t })
  | (.error e, t) => (.error (.err e), { s with totpLockout := t })

/-- The wipe that ends `record_failed_unlock` and `record_totp_failure`: only a header that
can be read has a threshold, and the outcome is ignored. -/
def wipeIfReached (env : Env) (count : UInt32) : Call Unit := do
  match (← attemptErr (readHeader env .duress)) with
  | .error _ => pure ()
  | .ok header =>
    if header.duressMaxAttempts > 0 ∧ count ≥ header.duressMaxAttempts then
      let _ ← attemptErr (forensicWipeInternal env)
    else pure ()

def recordFailedUnlock (env : Env) (uid : UInt32) : Call Unit := do
  modify fun s =>
    if s.pendingAudit.length < 100 then
      { s with pendingAudit := s.pendingAudit ++ [("UNLOCK_FAILED", none)] }
    else s
  let count ← gets fun s => (s.lockout.recordFailedUnlock env.failAt uid).1
  modify fun s => { s with lockout := (s.lockout.recordFailedUnlock env.failAt uid).2 }
  wipeIfReached env count

def recordTotpFailure (env : Env) (uid : UInt32) : Call Unit := do
  let count ← gets fun s => (s.totpLockout.recordFailedUnlock env.totpFailAt uid).1
  modify fun s =>
    { s with totpLockout := (s.totpLockout.recordFailedUnlock env.totpFailAt uid).2 }
  recordFailedUnlock env uid
  wipeIfReached env count

def touch (env : Env) : Call Unit := modify fun s => { s with lastActivity := env.nowSecs }

/-- One audit row after the other; the outcome of an insert is ignored. -/
def logRows (env : Env) (vmk : Block 32) :
    Nat → List (String × Option String) → Database → Database
  | _, [], db => db
  | i, (action, resource) :: rows, db =>
    logRows env vmk (i + 1) rows <|
      match env.auditTs i with
      | some ts => auditLog P db vmk ts action resource
      | none => db

/-- The events that were kept back while the vault was locked, logged once it is open. -/
def flushPending (env : Env) (s : DaemonState) : DaemonState :=
  match s.vmk with
  | none => s
  | some vmk =>
    let drained := { s with pendingAudit := [] }
    match s.dbOpen, s.disk.vault with
    | true, some (.pages key db) =>
      drained.setVault (.pages key (logRows P env vmk 0 s.pendingAudit db))
    | _, _ => drained

def resetUnlockCounter (env : Env) (uid : UInt32) : Call Unit := modify fun s =>
  flushPending P env { s with lockout := s.lockout.resetLockout uid }

/-- Both factors have been verified. -/
def completeUnlock (env : Env) (uid : UInt32) : Call Unit := do
  resetUnlockCounter P env uid
  modify fun s => { s with totpLockout := s.totpLockout.resetLockout uid }

/-! ## What a call has done when it returns -/

section Rules

variable {P J} {env : Env} {s t : DaemonState} {α β : Type}

variable {site : Site} {u : Unit} {e : Failure}

theorem at_eq_ok : env.at site s = (.ok u, t) ↔ env.io site = .ok () ∧ t = s := by
  rw [Env.at, lift_eq_ok]
  cases env.io site <;> simp [outcome, fail]

theorem require_eq_ok {p : Bool} {e : VaultError} :
    require p e s = (.ok u, t) ↔ p = true ∧ t = s := by
  rw [require, lift_eq_ok]
  cases p <;> simp [fail]

theorem at_run_ok (h : env.io site = .ok ()) (s : DaemonState) :
    env.at site s = (.ok (), s) := at_eq_ok.mpr ⟨h, rfl⟩

theorem at_run_error {e : VaultError} (h : env.io site = .error e) :
    env.at site s = (.error (.err e), s) := by
  rw [Env.at, h]
  rfl

theorem at_eq_error (h : env.at site s = (.error e, t)) : env.io site ≠ .ok () ∧ t = s := by
  obtain ⟨hio, rfl⟩ := lift_eq_error.mp h
  refine ⟨fun hok => ?_, rfl⟩
  rw [hok] at hio
  cases hio

variable {part : Part} {header : VaultHeader}

theorem readHeader_eq_ok :
    readHeader env part s = (.ok header, t) ↔
      env.io (.readHeader part) = .ok () ∧ s.disk.sidecar = some (.ok header) ∧ t = s := by
  rw [readHeader, bind_eq_ok]
  constructor
  · rintro ⟨u, s', hat, hread⟩
    obtain ⟨hio, rfl⟩ := at_eq_ok.mp hat
    obtain ⟨hread, rfl⟩ := reads_eq_ok.mp hread
    refine ⟨hio, ?_, rfl⟩
    split at hread
    · simp [fail] at hread
    · simp [fail] at hread
    · next h hs =>
      cases hread
      exact hs
  · rintro ⟨hio, hs, rfl⟩
    exact ⟨(), t, at_eq_ok.mpr ⟨hio, rfl⟩, reads_eq_ok.mpr ⟨by rw [hs], rfl⟩⟩

theorem readHeader_eq_error (hs : s.disk.sidecar = some (.ok header))
    (h : readHeader env part s = (.error e, t)) : env.io (.readHeader part) ≠ .ok () ∧ t = s := by
  rcases bind_eq_error.mp h with hat | ⟨_, _, hat, hread⟩
  · exact at_eq_error hat
  · obtain ⟨-, rfl⟩ := at_eq_ok.mp hat
    rw [reads_run, hs] at hread
    cases hread

theorem writeHeader_eq_error (h : writeHeader P J env part header s = (.error e, t)) :
    (env.io (.writeHeader part) ≠ .ok () ∧ t = s) ∨
      (env.io (.writeHeader part) = .ok () ∧ t = s.setSidecar (header.stamped P J s.vmk)) := by
  rcases bind_eq_error.mp h with hat | ⟨_, _, hat, hrest⟩
  · exact .inl (at_eq_error hat)
  · -- the file is replaced, and only its permissions could not be set
    obtain ⟨hio, rfl⟩ := at_eq_ok.mp hat
    rw [bind_run_ok (modify_run _ _)] at hrest
    exact .inr ⟨hio, (at_eq_error hrest).2⟩

theorem writeHeader_eq_ok :
    writeHeader P J env part header s = (.ok u, t) ↔
      env.io (.writeHeader part) = .ok () ∧ env.io (.headerPermissions part) = .ok () ∧
        t = s.setSidecar (header.stamped P J s.vmk) := by
  simp only [writeHeader, bind_eq_ok, at_eq_ok, modify_run, Prod.mk.injEq]
  constructor
  · rintro ⟨_, _, ⟨hw, rfl⟩, _, _, ⟨-, rfl⟩, hp, rfl⟩
    exact ⟨hw, hp, rfl⟩
  · rintro ⟨hw, hp, rfl⟩
    exact ⟨(), s, ⟨hw, rfl⟩, (), _, ⟨trivial, rfl⟩, hp, rfl⟩

theorem writeHeader_cases (P : Primitives) (J : Serde) (env : Env) (part : Part)
    (header : VaultHeader) (s : DaemonState) :
    (writeHeader P J env part header s).2 = s ∨
      (writeHeader P J env part header s).2 = s.setSidecar (header.stamped P J s.vmk) := by
  cases h : writeHeader P J env part header s with
  | mk r t =>
    cases r with
    | ok _ =>
      obtain ⟨-, -, rfl⟩ := writeHeader_eq_ok.mp h
      exact .inr rfl
    | error e =>
      rcases writeHeader_eq_error h with ⟨-, rfl⟩ | ⟨-, rfl⟩
      · exact .inl rfl
      · exact .inr rfl

theorem setVault_self {file : VaultFile} (h : s.disk.vault = some file) : s.setVault file = s := by
  obtain ⟨_, _, _, _, _, _, _, _, _, _, ⟨_, _⟩⟩ := s
  cases h
  rfl

theorem onDatabase_eq_ok {f : Database → Result Database} :
    onDatabase f s = (.ok u, t) ↔ ∃ key db db', s.disk.vault = some (.pages key db) ∧
      f db = .ok db' ∧ t = s.setVault (.pages key db') := by
  unfold onDatabase
  split
  · next key db hv =>
    split
    · next db' hf => simp [hv, hf, eq_comm]
    · next e hf => simp [hv, hf]
  · next hv =>
    simp only [Prod.mk.injEq, reduceCtorEq, false_and, false_iff, not_exists]
    rintro key db db' ⟨h, -⟩
    exact hv key db h

variable {key : Block 32} {db : Database}

theorem onDatabase_read_eq_ok {f : Database → Result Unit}
    (hv : s.disk.vault = some (.pages key db)) :
    onDatabase (fun db => do f db; pure db) s = (.ok u, t) ↔ f db = .ok () ∧ t = s := by
  rw [onDatabase_eq_ok]
  constructor
  · rintro ⟨key', db', db'', hv', hf, rfl⟩
    rw [hv] at hv'
    cases hv'
    obtain ⟨_, hread, hdb⟩ := Result.bind_eq_ok.mp hf
    cases hdb
    exact ⟨hread, setVault_self hv⟩
  · rintro ⟨hf, rfl⟩
    exact ⟨key, db, db, hv, Result.bind_eq_ok.mpr ⟨(), hf, rfl⟩, (setVault_self hv).symm⟩

theorem ensureVaultFile_eq_ok :
    ensureVaultFile env s = (.ok u, t) ↔ (s.disk.vault = none → env.io .createVault = .ok ()) ∧
      t = s.setVault (s.disk.vault.getD .empty) := by
  rw [ensureVaultFile, bind_run_ok (gets_run _ s)]
  cases hv : s.disk.vault with
  | some file => simp [setVault_self hv, eq_comm]
  | none =>
    simp only [Option.isNone_none, if_true, bind_eq_ok, at_eq_ok, modify_run, Prod.mk.injEq]
    constructor
    · rintro ⟨_, _, ⟨hio, rfl⟩, -, rfl⟩
      exact ⟨fun _ => hio, rfl⟩
    · rintro ⟨hio, rfl⟩
      exact ⟨(), s, ⟨hio trivial, rfl⟩, trivial, rfl⟩

/-- **When the vault opens**, and as what it is then on disk. -/
theorem openVault_iff :
    openVault env key s = (.ok u, t) ↔
      (s.disk.vault = none → env.io .createVault = .ok ()) ∧ env.io .openVault = .ok () ∧
        ∃ db₀ db, (s.disk.vault.getD .empty).unlockedBy key = .ok db₀ ∧
          applyMigrations db₀ = .ok db ∧ t = s.setVault (.pages key db) := by
  simp only [openVault, bind_eq_ok, ensureVaultFile_eq_ok, at_eq_ok, reads_eq_ok,
    Result.bind_eq_ok, modify_run, Prod.mk.injEq]
  constructor
  · rintro ⟨_, _, ⟨hfile, rfl⟩, _, _, ⟨hopened, rfl⟩, db, _, ⟨⟨db₀, hkey, happly⟩, rfl⟩, -, rfl⟩
    exact ⟨hfile, hopened, db₀, db, hkey, happly, rfl⟩
  · rintro ⟨hfile, hopened, db₀, db, hkey, happly, rfl⟩
    exact ⟨(), _, ⟨hfile, rfl⟩, (), _, ⟨hopened, rfl⟩, db, _, ⟨⟨db₀, hkey, happly⟩, rfl⟩, trivial,
      rfl⟩

theorem openVault_eq_ok (hq : env.Quiet) {k : Block 32} (hv : s.disk.vault = some (.pages k db))
    (hc : db.Current) : openVault env key s = (.ok u, t) ↔ k = key ∧ t = s := by
  simp only [openVault_iff, hq _, hv, Option.getD_some, VaultFile.unlockedBy]
  by_cases hkey : k = key
  · subst hkey
    simp [applyMigrations_of_current hc, setVault_self hv]
  · simp [hkey, fail]

theorem openVault_run (hq : env.Quiet) {db₀ : Database} (hv : s.disk.vault = some (.pages key db₀))
    (hmigrate : applyMigrations db₀ = .ok db) :
    openVault env key s = (.ok (), s.setVault (.pages key db)) := by
  refine openVault_iff.mpr ⟨fun _ => hq _, hq _, db₀, db, ?_, hmigrate, rfl⟩
  rw [hv, Option.getD_some, VaultFile.unlockedBy, if_pos rfl]

theorem openVault_missing (hmissing : s.disk.vault = none) (hfile : env.io .createVault = .ok ())
    (hopened : env.io .openVault = .ok ()) (happly : applyMigrations .empty = .ok db) :
    openVault env key s = (.ok (), s.setVault (.pages key db)) := by
  refine openVault_iff.mpr ⟨fun _ => hfile, hopened, .empty, db, ?_, happly, rfl⟩
  rw [hmissing]
  rfl

theorem openVault_ok (h : openVault env key s = (.ok u, t)) :
    ∃ db₀ db, (s.disk.vault.getD .empty).unlockedBy key = .ok db₀ ∧
      applyMigrations db₀ = .ok db ∧ t = s.setVault (.pages key db) :=
  (openVault_iff.mp h).2.2

/-! ### Frames -/

variable {γ : Type} {f : DaemonState → γ} {uid : UInt32} {x : Call α}

theorem at_keeps : Keeps f (env.at site) := .lift _

theorem checkUnlockLockout_state :
    (checkUnlockLockout env uid s).2 =
      { s with lockout := (s.lockout.checkUnlockLockout env.checkAt uid).2 } := by
  unfold checkUnlockLockout
  split <;> simp only [*]

theorem checkTotpLockout_state :
    (checkTotpLockout env uid s).2 =
      { s with totpLockout := (s.totpLockout.checkUnlockLockout env.totpCheckAt uid).2 } := by
  unfold checkTotpLockout
  split <;> simp only [*]

theorem checkUnlockLockout_keeps (hf : ∀ s tracker, f { s with lockout := tracker } = f s) :
    Keeps f (checkUnlockLockout env uid) := by
  intro s
  rw [checkUnlockLockout_state]
  exact hf s _

theorem checkTotpLockout_keeps (hf : ∀ s tracker, f { s with totpLockout := tracker } = f s) :
    Keeps f (checkTotpLockout env uid) := by
  intro s
  rw [checkTotpLockout_state]
  exact hf s _

theorem checkUnlockLockout_eq_ok (h : checkUnlockLockout env uid s = (.ok u, t)) :
    ∃ tracker, s.lockout.checkUnlockLockout env.checkAt uid = (.ok (), tracker) ∧
      t = { s with lockout := tracker } := by
  unfold checkUnlockLockout at h
  split at h
  · next tracker hadmitted =>
    cases h
    exact ⟨tracker, hadmitted, rfl⟩
  · cases h

theorem checkTotpLockout_eq_ok (h : checkTotpLockout env uid s = (.ok u, t)) :
    ∃ tracker, s.totpLockout.checkUnlockLockout env.totpCheckAt uid = (.ok (), tracker) ∧
      t = { s with totpLockout := tracker } := by
  unfold checkTotpLockout at h
  split at h
  · next tracker hadmitted =>
    cases h
    exact ⟨tracker, hadmitted, rfl⟩
  · cases h

theorem require_keeps (p : Bool) (e : VaultError) : Keeps f (require p e) := .lift _

theorem readHeader_keeps (env : Env) (part : Part) :
    Keeps f (readHeader env part) := at_keeps.bind fun _ => .reads _

theorem attemptErr_keeps (h : Keeps f x) : Keeps f (attemptErr x) := by
  intro s
  have hs := h s
  unfold attemptErr
  split <;> simpa [*] using hs

theorem writeHeader_keeps_sessions : Keeps (·.sessions) (writeHeader P J env part header) := by
  refine at_keeps.bind fun _ => .bind (.modify ?_) fun _ => at_keeps
  exact fun _ => rfl

theorem onDatabase_keeps_sessions (f : Database → Result Database) :
    Keeps (·.sessions) (onDatabase f) := by
  intro s
  unfold onDatabase
  split
  · split <;> rfl
  · rfl

theorem openVault_keeps_sessions : Keeps (·.sessions) (openVault env key) := by
  refine .bind ((Keeps.gets _).bind fun missing => ?_) fun _ => at_keeps.bind
    fun _ => (Keeps.reads _).bind fun _ => .modify fun _ => rfl
  cases missing
  · exact .pure ()
  · exact at_keeps.bind fun _ => .modify fun _ => rfl

/-! ### Invariants -/

variable {I : DaemonState → Prop}

theorem attemptErr_preserves (h : Preserves I x) : Preserves I (attemptErr x) := by
  intro s hs
  have ht := h s hs
  unfold attemptErr
  split <;> simpa [*] using ht

theorem readHeader_preserves :
    Preserves I (readHeader env part) := .of_same (readHeader_keeps env part)

theorem writeHeader_preserves (h : ∀ s, I s → I (s.setSidecar (header.stamped P J s.vmk))) :
    Preserves I (writeHeader P J env part header) :=
  .lift_bind fun _ => (Preserves.modify h).bind fun _ => .lift _

theorem onDatabase_preserves {f : Database → Result Database}
    (h : ∀ s key db db', I s → s.disk.vault = some (.pages key db) → f db = .ok db' →
      I (s.setVault (.pages key db'))) : Preserves I (onDatabase f) := by
  intro s hs
  unfold onDatabase
  split
  · next key db hv =>
    split
    · next db' hf => exact h s key db db' hs hv hf
    · exact hs
  · exact hs

theorem openVault_preserves (hempty : ∀ s, I s → s.disk.vault = none → I (s.setVault .empty))
    (hpages : ∀ s db₀ db, I s → (s.disk.vault.getD .empty).unlockedBy key = .ok db₀ →
      applyMigrations db₀ = .ok db → I (s.setVault (.pages key db))) (env : Env) :
    Preserves I (openVault env key) := by
  refine .bind ?_ fun _ => .lift_bind fun _ => ?_
  · intro s hs
    cases hv : s.disk.vault with
    | none =>
      cases hio : env.io .createVault with
      | error e => simpa [ensureVaultFile, bind_run, hv, at_run_error hio] using hs
      | ok _ => simpa [ensureVaultFile, bind_run, hv, at_run_ok hio] using hempty s hs hv
    | some file => simpa [ensureVaultFile, bind_run, hv] using hs
  · refine (Preserves.reads _).bind_ok fun s db t hs hread _ => ?_
    obtain ⟨hdb, rfl⟩ := reads_eq_ok.mp hread
    obtain ⟨db₀, hopen, happly⟩ := Result.bind_eq_ok.mp hdb
    exact hpages _ db₀ db hs hopen happly

/-! ### Logging what was kept back -/

theorem logRows_eq (env : Env) (vmk : Block 32) (i : Nat) (rows : List (String × Option String))
    (db : Database) : ∃ log, logRows P env vmk i rows db = { db with auditLog := log } := by
  induction rows generalizing i db with
  | nil => exact ⟨db.auditLog, rfl⟩
  | cons row rows ih =>
    obtain ⟨log, hlog⟩ := ih (i + 1) (match env.auditTs i with
      | some ts => auditLog P db vmk ts row.1 row.2
      | none => db)
    refine ⟨log, hlog.trans ?_⟩
    cases env.auditTs i <;> rfl

theorem flushPending_open (P : Primitives) (env : Env) {vmk : Block 32} (hvmk : s.vmk = some vmk)
    (hopen : s.dbOpen = true) (hv : s.disk.vault = some (.pages key db)) :
    flushPending P env s = { s with pendingAudit := [] }.setVault
      (.pages key (logRows P env vmk 0 s.pendingAudit db)) := by
  simp only [flushPending, hvmk, hopen, hv]

/-! ### Panics -/

/-- The call does not panic. -/
def Returns (x : Call α) : Prop := ∀ s site t, x s ≠ (.error (.abort site), t)

theorem Returns.bind {g : α → Call β} (hx : Returns x) (hg : ∀ a, Returns (g a)) :
    Returns (x >>= g) := by
  intro s site t h
  rw [bind_run] at h
  cases hrun : x s with
  | mk r u =>
    rw [hrun] at h
    cases r with
    | ok a => exact hg a u site t h
    | error e =>
      obtain ⟨he, -⟩ := Prod.mk.inj h
      rw [Except.error.inj he] at hrun
      exact hx s site u hrun

theorem Returns.lift {r : Result α} (h : ∀ site, r ≠ .error (.abort site)) :
    Returns (Fallible.lift r) := by
  intro s site t hrun
  exact h site (congrArg Prod.fst hrun)

theorem Returns.modify (f : DaemonState → DaemonState) : Returns (Fallible.modify f) := by
  intro s site t h
  simp at h

theorem Returns.at (env : Env) (site : Site) : Returns (env.at site) := by
  refine .lift fun _ => ?_
  cases h : env.io site <;> simp [outcome, fail]

theorem Returns.pure (a : α) : Returns (Pure.pure a : Call α) := by
  intro s site t h
  simp at h

theorem Returns.gets (f : DaemonState → α) : Returns (Fallible.gets f) := by
  intro s site t h
  simp at h

theorem Returns.attemptErr (h : Returns x) : Returns (Daemon.attemptErr x) := by
  intro s site t hrun
  unfold Daemon.attemptErr at hrun
  split at hrun
  · cases hrun
  · cases hrun
  · next site' u hx => exact h s site' u hx

theorem readHeader_returns (env : Env) (part : Part) : Returns (readHeader env part) := by
  refine (Returns.at env _).bind fun _ s site t h => ?_
  rw [reads_run, Prod.mk.injEq] at h
  split at h <;> simp [fail] at h

theorem writeHeader_returns (env : Env) (part : Part) (header : VaultHeader) :
    Returns (writeHeader P J env part header) :=
  (Returns.at env _).bind fun _ => (Returns.modify _).bind fun _ => .at env _

theorem attemptErr_eq_ok_ok {a : α} : attemptErr x s = (.ok (.ok a), t) ↔ x s = (.ok a, t) := by
  unfold attemptErr
  split <;> simp_all

theorem attemptErr_of_err {e : VaultError} (h : x s = (.error (.err e), t)) :
    attemptErr x s = (.ok (.error e), t) := by
  rw [attemptErr, h]

theorem attemptErr_bind (g : α → Call β) :
    attemptErr (x >>= g) = attemptErr x >>= fun r =>
      match r with
      | .ok a => attemptErr (g a)
      | .error e => pure (.error e) := by
  funext s
  rw [bind_run, attemptErr, attemptErr, bind_run]
  cases x s with
  | mk r t =>
    cases r with
    | ok a => rfl
    | error e => cases e <;> rfl

theorem attemptErr_of_returns (h : Returns x) (s : DaemonState) :
    ∃ r, attemptErr x s = (.ok r, (x s).2) := by
  unfold attemptErr
  cases hrun : x s with
  | mk r u =>
    cases r with
    | ok a => exact ⟨.ok a, rfl⟩
    | error e =>
      cases e with
      | err e => exact ⟨.error e, rfl⟩
      | abort site => exact absurd hrun (h s site u)

end Rules

end PwdNow.Daemon
