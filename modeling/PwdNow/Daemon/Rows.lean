import PwdNow.Daemon.Duress
import PwdNow.Daemon.Grpc

/-!
# Daemon — rows that an unlock leaves alone

An unlock writes to `vault.db` as well: it brings schema and sealed tables up to date and appends to
the audit log. What an `f` that is `Spared` reads is the same after every part of an unlock but the
wipe, after which there are no rows.
-/

namespace PwdNow.Daemon

open Kit Kit.Fallible

variable {γ δ : Type}

/-- What `f` reads of the rows of `vault.db`; without pages there are none. -/
def rowsOf (f : Database → γ) : Option VaultFile → γ
  | some (.pages _ db) => f db
  | _ => f .empty

/-- The sidecar, and what `f` reads. -/
def files (f : Database → γ) (s : DaemonState) : Option (Except String VaultHeader) × γ :=
  (s.disk.sidecar, rowsOf f s.disk.vault)

structure Spared (f : Database → γ) : Prop where
  schema : ∀ {db db'}, applyMigrations db = .ok db' → f db' = f db
  data : ∀ {P J env vmk vaultUuid db db'},
    migrateRows P J env vmk vaultUuid db = .ok db' → f db' = f db
  log : ∀ db auditLog, f { db with auditLog } = f db

variable {f : Database → γ}

theorem Spared.of_tables
    (hf : ∀ db vaultMeta credentials folders foldersLegacy users usersLegacy auditLog, f { db with
        vaultMeta, credentials, folders, foldersLegacy, users, usersLegacy, auditLog } = f db) :
    Spared f where
  schema h := applyMigrations_keeps (fun db _ _ _ _ _ => hf db _ _ _ _ _ _ _) h
  data h := migrateRows_keeps (fun db _ _ _ _ _ _ => hf db _ _ _ _ _ _ _) h
  log db _ := hf db _ _ _ _ _ _ _

theorem Spared.meta {key : String} (hversion : key ≠ "schema_version")
    (hdata : key ≠ "data_migrated_to_v2") : Spared (·.vaultMeta key) where
  schema h :=
    applyMigrations_keeps (f := (·.vaultMeta key))
      (fun _ _ _ _ _ _ => Function.update_of_ne hversion _ _) h
  data h := (migrateRows_eq_ok h).2.2 key hdata
  log _ _ := rfl

theorem Spared.prod {g : Database → δ} (hf : Spared f) (hg : Spared g) :
    Spared fun db => (f db, g db) where
  schema h := Prod.ext (hf.schema h) (hg.schema h)
  data h := Prod.ext (hf.data h) (hg.data h)
  log db log := Prod.ext (hf.log db log) (hg.log db log)

/-! ## The files -/

section Files

variable {P : Primitives} {J : Serde} {env : Env} {uid : UInt32} {s : DaemonState}

variable {key : Block 32} {db : Database}

theorem rowsOf_unlockedBy {file : Option VaultFile} (h : (file.getD .empty).unlockedBy key = .ok db) :
    rowsOf f file = f db := by
  cases file with
  | none =>
    cases h
    rfl
  | some file =>
    cases file with
    | empty =>
      cases h
      rfl
    | pages key' db' =>
      rw [Option.getD_some, VaultFile.unlockedBy] at h
      split at h
      · cases h
        rfl
      · cases h

theorem openVault_keeps_files (hf : Spared f) (env : Env) (key : Block 32) :
    Keeps (files f) (openVault env key) := by
  intro s
  refine openVault_preserves (I := fun t => files f t = files f s) ?_ ?_ env s rfl
  · intro t ht hnone
    rw [← ht, files, files, hnone]
    rfl
  · intro t db₀ db ht hopen happly
    rw [← ht, files, files, rowsOf_unlockedBy hopen, ← hf.schema happly]
    rfl

theorem onDatabase_keeps_files {g : Database → Result Database}
    (hg : ∀ db db', g db = .ok db' → f db' = f db) : Keeps (files f) (onDatabase g) := by
  intro s
  refine onDatabase_preserves (I := fun t => files f t = files f s) ?_ s rfl
  intro t key db db' ht hv hdb
  rw [← ht, files, files, hv]
  exact Prod.ext rfl (hg db db' hdb)

theorem verifyChain_keeps_files (vmk : Block 32) :
    Keeps (files f) (onDatabase fun db => do verifyChain P db vmk; pure db) := by
  apply onDatabase_keeps_files
  intro db db' hdb
  obtain ⟨_, -, hsame⟩ := Result.bind_eq_ok.mp hdb
  cases hsame
  rfl

theorem openVaultWith_keeps_files (hf : Spared f) (vmkPlain : Bytes) :
    Keeps (files f) (openVaultWith P env vmkPlain) :=
  (openVault_keeps_files hf env _).bind fun _ => .lift_bind fun vmk =>
    (verifyChain_keeps_files vmk).bind fun _ => .pure _

theorem migrateDataToV2_keeps_files (hf : Spared f) (vmk : Block 32) :
    Keeps (files f) (migrateDataToV2 P J env vmk) :=
  (Keeps.gets _).bind fun _ => onDatabase_keeps_files fun _ _ hdb => hf.data hdb

theorem logRows_spared (hf : Spared f) (vmk : Block 32) (i : Nat)
    (rows : List (String × Option String)) : f (logRows P env vmk i rows db) = f db := by
  obtain ⟨log, hlog⟩ := logRows_eq env vmk i rows db
  rw [hlog, hf.log]

theorem connection_eq_some (h : s.connection = some (key, db)) :
    s.disk.vault = some (.pages key db) := by
  unfold DaemonState.connection at h
  split at h
  · next hv =>
    cases h
    exact hv
  · cases h

theorem flushPending_files (hf : Spared f) : files f (flushPending P env s) = files f s := by
  unfold flushPending
  split
  · rfl
  · split
    next key db hopen hv =>
      rw [files, files, hv]
      exact Prod.ext rfl (logRows_spared hf _ _ _)
    · rfl

theorem logEvent_keeps_files (hf : Spared f) (i : Nat) (action : String) (session : Session) :
    Keeps (files f) (logEvent P env i action session) := by
  refine .modify fun s => ?_
  split
  next vmk key db hvmk hconn =>
    rw [files, files, connection_eq_some hconn]
    exact Prod.ext rfl (logRows_spared hf _ _ _)
  next => rfl

theorem recordFailedUnlock_files (hq : env.Quiet) (uid : UInt32) (s : DaemonState) :
    files f (recordFailedUnlock env uid s).2 = files f s ∨
      files f (recordFailedUnlock env uid s).2 = (none, f .empty) := by
  rcases recordFailedUnlock_cases env uid s with ⟨⟨-, header, hs, -⟩, hrun⟩ | ⟨-, hrun⟩
  · have hs' : (counted env uid s).disk.sidecar = some (.ok header) := hs
    obtain ⟨t, ht, hsidecar, hvault⟩ := forensicWipeInternal_run hq hs'
    rw [hrun, ht]
    right
    rw [files, hsidecar, hvault]
    rfl
  · rw [hrun]
    exact .inl rfl

end Files

/-! ## Unlocking with a password

The sidecar is written on the way, so that only the rows are kept. -/

section Unlock

variable {P : Primitives} {J : Serde} {F : Factors} {env : Env} {password : Bytes}
  {yk : Option (Block 20)} {uid : UInt32} {s t : DaemonState}

/-- What `f` reads in a state. -/
def rows (f : Database → γ) (s : DaemonState) : γ := rowsOf f s.disk.vault

theorem keeps_rows {α : Type} {x : Call α} (h : Keeps (files f) x) : Keeps (rows f) x :=
  fun s => congrArg Prod.snd (h s)

theorem writeHeader_keeps_rows (part : Part) (header : VaultHeader) :
    Keeps (rows f) (writeHeader P J env part header) := by
  intro s
  rcases writeHeader_cases P J env part header s with hrun | hrun
  · rw [hrun]
  · rw [hrun]
    rfl

theorem openDatabase_keeps_rows (hf : Spared f) (vmk : Block 32) :
    Keeps (rows f) (openDatabase P J env vmk) :=
  keeps_rows <| (openVault_keeps_files hf env _).bind fun _ =>
    (verifyChain_keeps_files vmk).bind fun _ => migrateDataToV2_keeps_files hf vmk

theorem ensureWipeTicket_keeps_rows (header : VaultHeader) :
    Keeps (rows f) (ensureWipeTicket P J env header) := by
  unfold ensureWipeTicket
  split
  · exact (writeHeader_keeps_rows _ _).bind fun _ => .pure _
  · exact .pure _

theorem migrateKdf_keeps_rows (vmk : Block 32) (header : VaultHeader) :
    Keeps (rows f) (migrateKdf P J env password yk vmk header) := by
  unfold migrateKdf
  split
  · refine (attemptErr_keeps ?_).bind fun _ => .pure ()
    exact .lift_bind fun _ => (readHeader_keeps env _).bind fun _ => writeHeader_keeps_rows _ _
  · exact .pure ()

theorem unlockExisting_keeps_rows (hf : Spared f) :
    Keeps (rows f) (unlockExisting P J env password yk uid) :=
  openHeader_keeps.bind fun _ => (openDatabase_keeps_rows hf _).bind fun _ =>
    (ensureWipeTicket_keeps_rows _).bind fun _ => (migrateKdf_keeps_rows _ _).bind fun _ =>
      .bind (.modify fun _ => rfl) fun _ => createSession_keeps (fun _ _ => rfl) _

theorem createAndUnlock_keeps_rows (hf : Spared f) :
    Keeps (rows f) (createAndUnlock P J env password yk uid) :=
  .lift_bind fun _ => at_keeps.bind fun _ =>
    .bind (.modify fun _ => rfl) fun _ => (writeHeader_keeps_rows _ _).bind fun _ =>
      (keeps_rows (openVault_keeps_files hf env _)).bind fun _ =>
        .bind (.modify fun _ => rfl) fun _ => createSession_keeps (fun _ _ => rfl) _

/-- The rows are as they were, or the vault is gone. -/
def RowsOrGone (f : Database → γ) (s t : DaemonState) : Prop :=
  rows f t = rows f s ∨ t.disk.vault = none

variable {s₀ : DaemonState}

theorem wipeIfReached_rows (count : UInt32) :
    Preserves (RowsOrGone f s₀) (wipeIfReached env count) := by
  intro s hs
  rcases wipeIfReached_cases env count s with ⟨-, hrun⟩ | ⟨-, hrun⟩
  · rw [hrun]
    exact forensicWipeInternal_inv (I := RowsOrGone f s₀) (fun _ _ h _ => h) (fun _ h => h)
      (fun _ _ => .inr rfl) env hs
  · rw [hrun]
    exact hs

theorem recordFailedUnlock_rows : Preserves (RowsOrGone f s₀) (recordFailedUnlock env uid) := by
  refine .bind (.modify fun s hs => ?_) fun _ => (Preserves.gets _).bind fun _ =>
    .bind (.modify fun s hs => hs) fun _ => wipeIfReached_rows _
  split
  · exact hs
  · exact hs

theorem recordTotpFailure_rows : Preserves (RowsOrGone f s₀) (recordTotpFailure env uid) :=
  (Preserves.gets _).bind fun _ => .bind (.modify fun _ hs => hs) fun _ =>
    recordFailedUnlock_rows.bind fun _ => wipeIfReached_rows _

theorem settleUnlock_rows (res : Except VaultError Session) :
    Preserves (RowsOrGone f s₀) (settleUnlock env uid res) := by
  cases res with
  | ok session => exact .bind (.modify fun _ hs => hs) fun _ => .pure _
  | error e => exact recordFailedUnlock_rows.bind fun _ => fun _ hs => hs

theorem tryUnlock_keeps_rows (hf : Spared f) (present : Bool) :
    Keeps (rows f) (attemptErr <| if present then unlockExisting P J env password yk uid
      else createAndUnlock P J env password yk uid) := by
  apply attemptErr_keeps
  split
  · exact unlockExisting_keeps_rows hf
  · exact createAndUnlock_keeps_rows hf

theorem unlock_rows (hf : Spared f) : RowsOrGone f s (unlock P J env password yk uid s).2 := by
  refine (admitUnlock_keeps (f := rows f) (fun _ _ => rfl) fun _ _ => rfl).bind_reaches
    (fun _ h => .inl h) fun present s₁ h₁ => ?_
  refine (tryUnlock_keeps_rows hf present).bind_reaches (fun _ h => .inl (h.trans h₁))
    fun res s₂ h₂ => ?_
  exact settleUnlock_rows res s₂ (.inl (h₂.trans h₁))

theorem unlock_ok_rows (hf : Spared f) {session : Session}
    (h : unlock P J env password yk uid s = (.ok session, t)) : rows f t = rows f s := by
  obtain ⟨present, s₁, hadmit, h⟩ := bind_eq_ok.mp h
  obtain ⟨res, s₂, htry, h⟩ := bind_eq_ok.mp h
  obtain ⟨-, rfl⟩ := settleUnlock_eq_ok.mp h
  have hadmitted : rows f s₁ = rows f s :=
    (admitUnlock_keeps (fun _ _ => rfl) fun _ _ => rfl).eq hadmit
  exact ((tryUnlock_keeps_rows hf present).eq htry).trans hadmitted

theorem settleTotp_rows (hf : Spared f) (session : Session) (res : Except VaultError Bool) :
    RowsOrGone f s (settleTotp P env uid session res s).2 := by
  have hreject : ∀ e, Preserves (RowsOrGone f s) (rejectTotp env uid e) := fun e =>
    recordTotpFailure_rows.bind fun _ => .bind (.modify fun _ hs => hs) fun _ =>
      fun _ hs => hs
  match res with
  | .ok true =>
    have hcomplete : Keeps (rows f) (completeUnlock P env uid) :=
      .bind (.modify fun s => congrArg Prod.snd (flushPending_files hf)) fun _ =>
        .modify fun _ => rfl
    have hkeeps : Keeps (rows f) (settleTotp P env uid session (.ok true)) :=
      (Keeps.gets _).bind fun _ => hcomplete.bind fun _ =>
        (keeps_rows (logEvent_keeps_files hf _ _ _)).bind fun _ => .pure _
    exact .inl (hkeeps s)
  | .ok false => exact hreject _ s (.inl rfl)
  | .error e => exact hreject _ s (.inl rfl)

/-- **What `GrpcServer::unlock` does to the rows**: nothing, unless it wipes the vault. -/
theorem handleUnlock_rows (hf : Spared f) (totpCode : Option String) :
    RowsOrGone f s (handleUnlock P J F env password yk totpCode uid s).2 := by
  rw [handleUnlock, bind_run]
  cases hrun : unlock P J env password yk uid s with
  | mk r t =>
    cases r with
    | error e =>
      have hgone : RowsOrGone f s (unlock P J env password yk uid s).2 := unlock_rows hf
      rw [hrun] at hgone
      exact hgone
    | ok session =>
      have hkept : rows f t = rows f s := unlock_ok_rows hf hrun
      have hcheck : Keeps id (attemptErr (checkTotp P F env totpCode)) :=
        attemptErr_keeps (.reads _)
      refine hcheck.bind_reaches (fun u hu => ?_) fun res u hu => ?_
      · obtain rfl : u = t := hu
        exact .inl hkept
      · obtain rfl : u = t := hu
        have hsettled : RowsOrGone f u (settleTotp P env uid session res u).2 :=
          settleTotp_rows hf session res
        rw [RowsOrGone, hkept] at hsettled
        exact hsettled

end Unlock

/-! ## Any run of unlocks -/

inductive UnlockOrLock where
  | unlock (env : Env) (password : Bytes) (yk : Option (Block 20)) (totpCode : Option String)
    (uid : UInt32)
  | lock

def unlockOrLock (P : Primitives) (J : Serde) (F : Factors) (s : DaemonState) :
    UnlockOrLock → DaemonState
  | .unlock env password yk totpCode uid => (handleUnlock P J F env password yk totpCode uid s).2
  | .lock => lock s

/-- The asset holder, the TOTP configuration and the registered keys. -/
def belongings (db : Database) : Option AssetHolderRow × List OtpConfigRow × Fido2Credentials :=
  (db.assetHolder, db.otpConfig, db.fido2Credentials)

/-- **No run of unlocks changes them**, whatever is presented and wherever it fails, but for a wipe,
after which there are none. -/
theorem belongings_after_unlocks (P : Primitives) (J : Serde) (F : Factors) (s : DaemonState)
    (requests : List UnlockOrLock) :
    let t := run (unlockOrLock P J F) s requests
    rows belongings t = rows belongings s ∨ rows belongings t = belongings .empty := by
  have hspared : Spared belongings := .of_tables fun _ _ _ _ _ _ _ _ => rfl
  induction requests using List.reverseRecOn with
  | nil => exact .inl rfl
  | append_singleton requests r ih =>
    rw [run_concat]
    cases r with
    | lock => exact ih
    | unlock env password yk totpCode uid =>
      rcases handleUnlock_rows hspared totpCode with hsame | hgone
      · exact ih.imp hsame.trans hsame.trans
      · -- no file, no rows
        exact .inr (congrArg (rowsOf belongings) hgone)

end PwdNow.Daemon
