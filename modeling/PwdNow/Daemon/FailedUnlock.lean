import PwdNow.Daemon.QuickUnlockRuns

/-!
# Daemon — what a failed unlock leaves in memory

The four ways to unlock of `daemon/src/vault/state.rs`, from a daemon that is locked. Each works on
locals first and then assigns `vmk`, `db`, `vault_uuid` and `wipe_ticket`; what comes after decides
what an `Err` leaves behind. `unlock_existing` and the three others only ask for a session then;
`create_and_unlock` assigns the VMK before it writes the header and opens the file.
-/

namespace PwdNow.Daemon

open Kit Kit.Fallible DaemonState

inductive UnlockEntry where
  | unlock (password : Bytes) (yk : Option (Block 20))
  | passkey (a : Assertion)
  | quickUnlock (a : Assertion) (dbk : Bytes)
  | recoveryKey (key : Bytes)

def UnlockEntry.call (P : Primitives) (J : Serde) (W : Webauthn) (env : Env) (uid : UInt32) :
    UnlockEntry → Call Session
  | .unlock password yk => Daemon.unlock P J env password yk uid
  | .passkey a => unlockWithPasskey P J W env a uid
  | .quickUnlock a dbk => Daemon.quickUnlock P J W env a dbk uid
  | .recoveryKey key => unlockWithRecoveryKey P env key uid

/-- Fewer than `MAX_TOTAL_SESSIONS` sessions are valid. -/
def HasFreeSlot (env : Env) (s : DaemonState) : Prop :=
  (s.sessions.sessions.filter (·.isValid env.nowSecs)).length < maxTotalSessions

/-- The steps of a creation that come after the VMK is in memory succeed. -/
structure CanCreate (env : Env) : Prop where
  write : env.io (.writeHeader .request) = .ok ()
  permissions : env.io (.headerPermissions .request) = .ok ()
  file : env.io .createVault = .ok ()
  opened : env.io .openVault = .ok ()

/-- Locked, and there is room for a session. -/
structure LockedWithRoom (env : Env) (s : DaemonState) : Prop where
  vmk : s.vmk = none
  closed : s.dbOpen = false
  room : HasFreeSlot env s

section

variable {P : Primitives} {J : Serde} {W : Webauthn} {env : Env} {s t : DaemonState} {uid : UInt32}

/-! ## From the assignments on -/

/-- `x` runs to its end, whatever the memory holds, and the sessions stay as they are. -/
def Completes (x : Call Unit) : Prop :=
  ∀ s, ∃ t, x s = (.ok (), t) ∧ t.sessions = s.sessions

theorem Completes.modify {f : DaemonState → DaemonState} (h : ∀ s, (f s).sessions = s.sessions) :
    Completes (Fallible.modify f) := fun s => ⟨f s, rfl, h s⟩

theorem resetUnlockCounter_completes : Completes (resetUnlockCounter P env uid) := by
  refine .modify fun s => ?_
  unfold flushPending
  split
  · rfl
  · split <;> rfl

theorem updateSignCount_completes (cidHex : String) (newCount : Option UInt32) :
    Completes (updateSignCount P J env cidHex newCount) := by
  intro s
  obtain ⟨t, hrun, rfl | ⟨_, _, -, -, rfl⟩⟩ := updateSignCount_cases P J env cidHex newCount s
  · exact ⟨_, hrun, rfl⟩
  · exact ⟨_, hrun, rfl⟩

theorem SessionStore.create_ok {store : SessionStore} {now : Nat}
    (h : (store.sessions.filter (·.isValid now)).length < maxTotalSessions)
    (token userId : String) (ttlSecs : Nat) :
    ∃ session, (store.create now token userId uid ttlSecs).1 = .ok session := by
  obtain ⟨kept, hkept, ⟨hfull, -⟩ | ⟨session, -, hmade⟩⟩ :=
    store.create_cases now token userId uid ttlSecs
  · exact absurd (hfull.trans hkept.length_le) (not_le.mpr h)
  · exact ⟨session, by rw [hmade]⟩

/-- With a free slot, `x` ends in a session. -/
def Grants (env : Env) (x : Call Session) : Prop :=
  ∀ s, HasFreeSlot env s → ∃ session t, x s = (.ok session, t)

theorem createSession_grants (userId : String) : Grants env (createSession env userId uid) := by
  intro s hs
  obtain ⟨session, hsession⟩ := SessionStore.create_ok hs env.token userId defaultTtlSecs
  obtain ⟨t, hcreate⟩ := createSession_room hsession
  exact ⟨session, t, hcreate⟩

theorem Grants.bind {x : Call Unit} {y : Call Session} (hx : Completes x) (hy : Grants env y) :
    Grants env (x >>= fun _ => y) := by
  intro s hs
  obtain ⟨u, hdone, hsessions⟩ := hx s
  have hroom : HasFreeSlot env u := by
    rw [HasFreeSlot, hsessions]
    exact hs
  obtain ⟨session, t, hrest⟩ := hy u hroom
  exact ⟨session, t, (bind_run_ok hdone).trans hrest⟩

/-! ## Before the assignments

Files are opened, headers written and challenges spent; the memory stays as it is. -/

namespace LockedWithRoom

theorem of_eq (h : LockedWithRoom env s) (hvmk : t.vmk = s.vmk) (hopen : t.dbOpen = s.dbOpen)
    (hsessions : t.sessions = s.sessions) : LockedWithRoom env t where
  vmk := hvmk.trans h.vmk
  closed := hopen.trans h.closed
  room := by
    rw [HasFreeSlot, hsessions]
    exact h.room

theorem of_keeps {α : Type} {x : Call α}
    (h : Keeps (fun s : DaemonState => (s.vmk, s.dbOpen, s.sessions)) x) :
    Preserves (LockedWithRoom env) x := by
  intro s hs
  have hkept := h s
  simp only [Prod.mk.injEq] at hkept
  exact hs.of_eq hkept.1 hkept.2.1 hkept.2.2

theorem writeHeader (part : Part) (header : VaultHeader) :
    Preserves (LockedWithRoom env) (writeHeader P J env part header) :=
  writeHeader_preserves (fun _ hs => hs.of_eq rfl rfl rfl)

theorem onDatabase (f : Database → Result Database) :
    Preserves (LockedWithRoom env) (onDatabase f) :=
  onDatabase_preserves fun _ _ _ _ hs _ _ => hs.of_eq rfl rfl rfl

theorem openVault (key : Block 32) : Preserves (LockedWithRoom env) (openVault env key) :=
  openVault_preserves (fun _ hs _ => hs.of_eq rfl rfl rfl)
    (fun _ _ _ hs _ _ => hs.of_eq rfl rfl rfl) env

theorem migrateDataToV2 (vmk : Block 32) :
    Preserves (LockedWithRoom env) (migrateDataToV2 P J env vmk) :=
  (Preserves.gets _).bind fun _ => onDatabase _

theorem openVaultWith (vmkPlain : Bytes) :
    Preserves (LockedWithRoom env) (openVaultWith P env vmkPlain) :=
  (openVault _).bind fun _ => .lift_bind fun _ => (onDatabase _).bind fun _ => .pure _

theorem consumeChallenge (chal : Block 32) :
    Preserves (LockedWithRoom env) (consumeChallenge env chal) := by
  refine (Preserves.gets _).bind fun _ => .bind (.modify ?_) fun _ =>
    .lift _
  exact fun _ hs => hs.of_eq rfl rfl rfl

theorem checkUnlockLockout : Preserves (LockedWithRoom env) (checkUnlockLockout env uid) :=
  of_keeps (checkUnlockLockout_keeps fun _ _ => rfl)

theorem recordFailedUnlock : Preserves (LockedWithRoom env) (recordFailedUnlock env uid) := by
  intro s hs
  rcases recordFailedUnlock_cases env uid s with ⟨-, hrun⟩ | ⟨-, hrun⟩
  · rw [hrun]
    refine forensicWipeInternal_inv (fun _ _ hs _ => hs.of_eq rfl rfl rfl)
      (fun _ hs => hs.of_eq rfl rfl rfl) (fun _ hs => hs.of_eq rfl rfl rfl) env ?_
    refine ⟨rfl, rfl, ?_⟩
    show 0 < maxTotalSessions
    decide
  · rw [hrun]
    exact hs.of_eq rfl rfl rfl

end LockedWithRoom

/-! ## The four entry points -/

variable {x : Call Session} {password : Bytes} {yk : Option (Block 20)} {e : Failure}

theorem Grants.failsWithin (h : Grants env x) : FailsWithin (LockedWithRoom env) x :=
  .of_ok fun s hs => h s hs.room

theorem enterVault_failsWithin {header : VaultHeader} {vmk : Block 32} :
    FailsWithin (LockedWithRoom env) (enterVault P J env password yk uid header vmk) := by
  refine .bind ?_ fun _ => .bind ?_ fun _ => .bind ?_ fun _ =>
    Grants.failsWithin (.bind (.modify ?_) (createSession_grants _))
  · exact (LockedWithRoom.openVault _).bind fun _ => (LockedWithRoom.onDatabase _).bind fun _ =>
      .migrateDataToV2 _
  · unfold ensureWipeTicket
    exact .ite ((LockedWithRoom.writeHeader _ _).bind fun _ => .pure _) (.pure _)
  · unfold migrateKdf
    refine .ite ((attemptErr_preserves ?_).bind fun _ => .pure _) (.pure _)
    exact .lift_bind fun _ => readHeader_preserves.bind fun _ =>
      .writeHeader _ _
  · exact fun _ => rfl

theorem unlockExisting_failsWithin :
    FailsWithin (LockedWithRoom env) (unlockExisting P J env password yk uid) :=
  .bind (.of_same openHeader_keeps) fun _ => enterVault_failsWithin

theorem createAndUnlock_failsWithin (hcreate : CanCreate env) :
    FailsWithin (fun s => LockedWithRoom env s ∧ s.disk.vault = none)
      (createAndUnlock P J env password yk uid) := by
  refine .bind (.lift _) fun kek => .bind (.lift _) fun _ =>
    .of_ok fun s hs => ?_
  let s₁ : DaemonState := { s with vmk := some env.vmk }
  let s₂ := s₁.setSidecar ((freshHeader P env kek).stamped P J (some env.vmk))
  have hwrite : writeHeader P J env .request (freshHeader P env kek) s₁ = (.ok (), s₂) :=
    writeHeader_eq_ok.mpr ⟨hcreate.write, hcreate.permissions, rfl⟩
  obtain ⟨db, happly⟩ : ∃ db, applyMigrations .empty = .ok db := ⟨_, rfl⟩
  have hopen : openVault env (sqlcipherKey P env.vmk.bytes) s₂ =
      (.ok (), s₂.setVault (.pages (sqlcipherKey P env.vmk.bytes) db)) :=
    openVault_missing (s := s₂) hs.2 hcreate.file hcreate.opened happly
  rw [bind_run_ok (modify_run _ s), bind_run_ok hwrite, bind_run_ok hopen]
  refine Grants.bind (Completes.modify ?_) (createSession_grants _) _ hs.1.room
  exact fun _ => rfl

theorem unlockWithPasskeyInner_failsWithin (a : Assertion) :
    FailsWithin (LockedWithRoom env) (unlockWithPasskeyInner P J W env a uid) := by
  refine .bind (.of_keeps (clientChallenge_keeps _)) fun _ =>
    .bind (.consumeChallenge _) fun _ =>
    .bind readHeader_preserves fun _ =>
    .bind (.lift _) fun _ => .bind (.lift _) fun _ =>
    .bind (.lift _) fun _ =>
    .bind (.openVaultWith _) fun _ =>
    .bind (.migrateDataToV2 _) fun _ =>
    .bind (.lift _) fun _ =>
    Grants.failsWithin (.bind (.modify ?_) (.bind
      (updateSignCount_completes _ _) (createSession_grants _)))
  exact fun _ => rfl

theorem quickUnlockInner_failsWithin (a : Assertion) (dbk : Bytes) :
    FailsWithin (LockedWithRoom env) (quickUnlockInner P J W env a dbk uid) := by
  refine .bind (.of_keeps (clientChallenge_keeps _)) fun _ =>
    .bind (.consumeChallenge _) fun _ =>
    .bind readHeader_preserves fun _ =>
    .bind (.lift _) fun _ => .bind (.lift _) fun _ =>
    .bind (.lift _) fun _ => .bind (.lift _) fun _ =>
    .bind (.openVault _) fun _ =>
    .bind (.onDatabase _) fun _ => .bind ?_ fun _ =>
    Grants.failsWithin (.bind (.modify ?_) (createSession_grants _))
  · unfold quickUnlockTicket
    exact .ite ((attemptErr_preserves (.writeHeader _ _)).bind fun _ =>
      .pure _) (.pure _)
  · exact fun _ => rfl

theorem unlockWithRecoveryKey_failsWithin (recoveryKey : Bytes) :
    FailsWithin (LockedWithRoom env) (unlockWithRecoveryKey P env recoveryKey uid) := by
  refine .bind LockedWithRoom.checkUnlockLockout fun _ =>
    .bind readHeader_preserves fun _ =>
    .bind (.lift _) fun _ => .bind (.lift _) fun _ =>
    .bind (.openVaultWith _) fun _ =>
    .bind (.lift _) fun _ =>
    Grants.failsWithin (.bind (.modify ?_) (.bind
      resetUnlockCounter_completes (createSession_grants _)))
  exact fun _ => rfl

/-! ### An error is caught, counted and returned -/

theorem attemptErr_settle {I : DaemonState → Prop}
    {settle : Except VaultError Session → Call Session} (hx : ∀ e u, x s = (.error e, u) → I u)
    (hdone : ∀ session u, ∃ v, settle (.ok session) u = (.ok session, v))
    (hfailed : ∀ e, Preserves I (settle (.error e)))
    (hrun : (attemptErr x >>= settle) s = (.error e, t)) : I t := by
  cases hstop : x s with
  | mk r u =>
    cases r with
    | ok session =>
      obtain ⟨v, hok⟩ := hdone session u
      rw [bind_run_ok (attemptErr_eq_ok_ok.mpr hstop), hok] at hrun
      cases hrun
    | error e' =>
      have hu : I u := hx e' u hstop
      cases e' with
      | err e' =>
        have hcaught : attemptErr x s = (.ok (.error e'), u) := by rw [attemptErr, hstop]
        rw [bind_run_ok hcaught] at hrun
        exact (hfailed e').failsWithin u e t hu hrun
      | abort site =>
        have hpanic : attemptErr x s = (.error (.abort site), u) := by rw [attemptErr, hstop]
        rw [bind_run_error hpanic] at hrun
        cases hrun
        exact hu

theorem recordFailedUnlock_throw_preserves (e : VaultError) : Preserves (LockedWithRoom env)
    (do recordFailedUnlock env uid; throw (.err e) : Call Session) :=
  LockedWithRoom.recordFailedUnlock.bind fun _ _ hs => hs

theorem settleCounted_failsWithin (hx : FailsWithin (LockedWithRoom env) x) :
    FailsWithin (LockedWithRoom env) (attemptErr x >>= settleCounted P env uid) :=
  fun s _ _ hs => attemptErr_settle (hx s · · hs) (fun _ _ => ⟨_, rfl⟩)
    recordFailedUnlock_throw_preserves

theorem unlock_stops_locked (hcreate : s.disk.vault = none → CanCreate env)
    (hs : LockedWithRoom env s) (hrun : unlock P J env password yk uid s = (.error e, t)) :
    LockedWithRoom env t := by
  have hadmit : Keeps (fun s : DaemonState => (s.vmk, s.dbOpen, s.sessions))
      (admitUnlock env password uid) := admitUnlock_keeps (fun _ _ => rfl) fun _ _ => rfl
  rcases bind_eq_error.mp hrun with hrefused | ⟨present, u, hpresent, hrest⟩
  · exact (LockedWithRoom.of_keeps hadmit).failsWithin s e t hs hrefused
  have hu : LockedWithRoom env u := by
    have := LockedWithRoom.of_keeps hadmit s hs
    rwa [hpresent] at this
  have hdisk : u.disk = s.disk :=
    (admitUnlock_keeps (f := disk) (fun _ _ => rfl) fun _ _ => rfl).eq hpresent
  obtain ⟨rfl, -⟩ := admitUnlock_ok hpresent
  refine attemptErr_settle ?_ (fun _ _ => ⟨_, rfl⟩) recordFailedUnlock_throw_preserves hrest
  intro e' v hfails
  cases hv : s.disk.vault with
  | some file =>
    rw [hv, Option.isSome_some, if_pos rfl] at hfails
    exact unlockExisting_failsWithin u e' v hu hfails
  | none =>
    rw [hv, Option.isSome_none, if_neg Bool.false_ne_true] at hfails
    have hmissing : u.disk.vault = none := by rw [hdisk, hv]
    exact (createAndUnlock_failsWithin (hcreate hv) u e' v ⟨hu, hmissing⟩ hfails).1

/-- Only a password creates a vault. -/
def UnlockEntry.MayCreate (entry : UnlockEntry) (s : DaemonState) : Prop :=
  (∃ password yk, entry = .unlock password yk) ∧ s.disk.vault = none

end

/-! ## A first unlock that fails -/

/-- Everything works but the steps at `site`. -/
def failingEnv (site : Site) : Env :=
  { symbolicEnv 1 1 with
    io := fun site' => if site' = site then .error (.io "Cannot allocate memory") else .ok () }

def firstUnlock : UnlockEntry := .unlock (utf8 "correct horse") none

/-- The run of a first unlock, on a daemon without files. -/
def firstRun (site : Site) : Except Failure Session × DaemonState :=
  firstUnlock.call symbolic symbolicSerde symbolicWebauthn (failingEnv site) 1000 .new

end PwdNow.Daemon
