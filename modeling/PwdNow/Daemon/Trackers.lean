import PwdNow.Daemon.Steady

/-!
# Daemon — how a request comes to its end

Between its checks and its outcome a request touches neither of the two failure counters
(`Undisturbed`). What it does to them is decided by how it ends (`Ends`): it is accepted, it panics,
its failure is recorded in one tracker or in both, or, in two handlers, it is recorded after the
trackers were cleared.
-/

namespace PwdNow.Daemon

open Kit Kit.Fallible

/-! ## Leaving the counters alone -/

/-- No threshold, or the one in the header of `s`. -/
def Threshold (s : DaemonState) (count : UInt32) : Prop :=
  count = 0 ∨ ∃ header, s.disk.sidecar = some (.ok header) ∧ header.duressMaxAttempts = count

/-- `t` has the trackers of `s`; a header is there if there was one, and says nothing else about
the threshold. -/
structure Undisturbed (s t : DaemonState) : Prop where
  lockout : t.lockout = s.lockout
  totpLockout : t.totpLockout = s.totpLockout
  present : s.disk.sidecar.isSome → t.disk.sidecar.isSome
  threshold : ∀ header, t.disk.sidecar = some (.ok header) → Threshold s header.duressMaxAttempts

/-- The entries of a tracker are as they were, or gone. -/
def LockoutTracker.Forgets (t t' : LockoutTracker) : Prop :=
  ∀ uid, t'.map uid = t.map uid ∨ t'.map uid = none

/-- As `Undisturbed`, but entries may be gone from the trackers. -/
structure Relaxed (s t : DaemonState) : Prop where
  lockout : s.lockout.Forgets t.lockout
  totpLockout : s.totpLockout.Forgets t.totpLockout
  present : s.disk.sidecar.isSome → t.disk.sidecar.isSome
  threshold : ∀ header, t.disk.sidecar = some (.ok header) → Threshold s header.duressMaxAttempts

variable {totpCode : Option String}

section

variable {P : Primitives} {J : Serde} {W : Webauthn} {F : Factors} {env : Env}
  {s s₀ t u : DaemonState} {uid : UInt32} {header : VaultHeader}

theorem Threshold.of_sidecar (hs : s.disk.sidecar = some (.ok header)) :
    Threshold s header.duressMaxAttempts := .inr ⟨header, hs, rfl⟩

theorem Undisturbed.refl (s : DaemonState) : Undisturbed s s :=
  ⟨rfl, rfl, id, fun _ hs => .of_sidecar hs⟩

theorem Undisturbed.of_eq (h : Undisturbed s t) (hlockout : u.lockout = t.lockout)
    (htotp : u.totpLockout = t.totpLockout) (hsidecar : u.disk.sidecar = t.disk.sidecar) :
    Undisturbed s u := by
  refine ⟨hlockout.trans h.lockout, htotp.trans h.totpLockout, fun hs => ?_, fun header hu => ?_⟩
  · rw [hsidecar]
    exact h.present hs
  · rw [hsidecar] at hu
    exact h.threshold header hu

theorem Undisturbed.setSidecar (h : Undisturbed s t)
    (hheader : Threshold s header.duressMaxAttempts) : Undisturbed s (t.setSidecar header) := by
  refine ⟨h.lockout, h.totpLockout, fun _ => rfl, fun header' hu => ?_⟩
  cases hu
  exact hheader

theorem LockoutTracker.Forgets.refl (t : LockoutTracker) : t.Forgets t := fun _ => .inl rfl

theorem LockoutTracker.Forgets.trans {t t' t'' : LockoutTracker} (h : t.Forgets t')
    (h' : t'.Forgets t'') : t.Forgets t'' := by
  intro uid
  rcases h' uid with hsame | hgone
  · rw [hsame]
    exact h uid
  · exact .inr hgone

theorem LockoutTracker.Forgets.reset (t : LockoutTracker) (uid : UInt32) :
    t.Forgets (t.resetLockout uid) := by
  intro u
  by_cases hu : u = uid
  · exact .inr (by simp [resetLockout, hu])
  · exact .inl (by simp [resetLockout, hu])

theorem LockoutTracker.Forgets.clear (t : LockoutTracker) : t.Forgets t.clear := fun _ => .inr rfl

theorem LockoutTracker.Forgets.check (t : LockoutTracker) (now : Nat) (uid : UInt32) :
    t.Forgets (t.checkUnlockLockout now uid).2 := by
  unfold checkUnlockLockout
  split
  · split
    · exact .reset t uid
    · exact .refl t
  · exact .refl t

theorem Undisturbed.relaxed (h : Undisturbed s t) : Relaxed s t := by
  refine ⟨?_, ?_, h.present, h.threshold⟩
  · rw [h.lockout]
    exact .refl _
  · rw [h.totpLockout]
    exact .refl _

theorem Relaxed.trans (h : Relaxed s t) (h' : Relaxed t u) : Relaxed s u := by
  refine ⟨h.lockout.trans h'.lockout, h.totpLockout.trans h'.totpLockout,
    fun hs => h'.present (h.present hs), fun header hu => ?_⟩
  rcases h'.threshold header hu with hzero | ⟨header', ht, hsame⟩
  · exact .inl hzero
  · rw [← hsame]
    exact h.threshold header' ht

theorem Relaxed.of_eq (h : Relaxed s t) (hlockout : u.lockout = t.lockout)
    (htotp : u.totpLockout = t.totpLockout) (hsidecar : u.disk.sidecar = t.disk.sidecar) :
    Relaxed s u :=
  h.trans ((Undisturbed.refl t).of_eq hlockout htotp hsidecar).relaxed

theorem undisturbed_steady :
    Steady (fun header => Threshold s₀ header.duressMaxAttempts) (Undisturbed s₀) where
  memory hs hdisk hlockout htotp := hs.of_eq hlockout htotp (by rw [hdisk])
  vault hs _ := hs.of_eq rfl rfl rfl
  header hs hsidecar := hs.threshold _ hsidecar
  sidecar hs hheader := hs.setSidecar hheader
  writtenBack hheader hback := by
    rw [hback.threshold]
    exact hheader

/-! ## How a request ends -/

/-- The password opens the VMK in the header, unless it is about to create the vault. -/
def PasswordPasses (P : Primitives) (password : Bytes) (yk : Option (Block 20))
    (s : DaemonState) : Prop :=
  s.disk.vault = none ∨ ∃ header plain, s.disk.sidecar = some (.ok header) ∧
    unwrapVmk P (.ok ()) header password yk = .ok plain

/-- The recovery key opens its copy of the VMK. -/
def RecoveryKeyPasses (P : Primitives) (recoveryKey : Bytes) (s : DaemonState) : Prop :=
  ∃ header entry plain, s.disk.sidecar = some (.ok header) ∧
    header.recoveryKeyCopy = some entry ∧ openRecoveryCopy P (.ok ()) entry recoveryKey = .ok plain

/-- There is a session to be had for the vault on disk. -/
def HasRoom (env : Env) (uid : UInt32) (s : DaemonState) : Prop :=
  ∀ header, s.disk.sidecar = some (.ok header) → ∃ session,
    (s.sessions.create env.nowSecs env.token header.vaultUuid uid defaultTtlSecs).1 = .ok session

/-- How a request that began its outcome in `s` comes to its end. -/
inductive Ends (P : Primitives) (env : Env) (uid : UInt32) (s : DaemonState)
    (request : AuthRequest) {α : Type} : Except Failure α → DaemonState → Prop where
  | accepted {a : α} {t : DaemonState} (h : Relaxed s t) : Ends P env uid s request (.ok a) t
  | panicked {site : String} {t : DaemonState} (h : Undisturbed s t) :
      Ends P env uid s request (.error (.abort site)) t
  | recorded {e : VaultError} {u : DaemonState} (h : Undisturbed s u) :
      Ends P env uid s request (.error (.err e)) (recordFailedUnlock env uid u).2
  | recordedTotp {e : VaultError} {u : DaemonState} (h : Undisturbed s u) :
      Ends P env uid s request (.error (.err e)) (lockKeepLockout (recordTotpFailure env uid u).2)
  /-- a backup code fails after its password has passed -/
  | relocked {e : VaultError} {u : DaemonState} {password : Bytes} {yk : Option (Block 20)}
      {code : String} (hrequest : request = .backupCode password yk code)
      (hpassed : PasswordPasses P password yk s) (h : Undisturbed s u) :
      Ends P env uid s request (.error (.err e)) (recordFailedUnlock env uid (lock u)).2
  /-- a recovery key passes, and there is no room for its session -/
  | crowded {e : VaultError} {u : DaemonState} {recoveryKey : Bytes}
      (hrequest : request = .recoveryKey recoveryKey)
      (hpassed : RecoveryKeyPasses P recoveryKey s) (hroom : ¬ HasRoom env uid s)
      (h : Relaxed s u) :
      Ends P env uid s request (.error (.err e)) (recordFailedUnlock env uid u).2

variable {request : AuthRequest} {α β : Type} {x : Call α} {password : Bytes}
  {yk : Option (Block 20)} {session : Session} {recoveryKey : Bytes}

theorem Ends.bind {g : α → Call β} (h : Ends P env uid s request (x t).1 (x t).2)
    (hg : ∀ a u, Relaxed s u → ∃ b v, g a u = (.ok b, v) ∧ Relaxed s v) :
    Ends P env uid s request ((x >>= g) t).1 ((x >>= g) t).2 := by
  rw [bind_run]
  cases hrun : x t with
  | mk r u =>
    rw [hrun] at h
    cases r with
    | ok a =>
      cases h with
      | accepted hrelaxed =>
        obtain ⟨b, v, hgrun, hv⟩ := hg a u hrelaxed
        show Ends P env uid s request (g a u).1 (g a u).2
        rw [hgrun]
        exact .accepted hv
    | error e =>
      cases h with
      | panicked ht => exact .panicked ht
      | recorded hu => exact .recorded hu
      | recordedTotp hu => exact .recordedTotp hu
      | relocked hrequest hpassed hu => exact .relocked hrequest hpassed hu
      | crowded hrequest hpassed hroom hu => exact .crowded hrequest hpassed hroom hu

theorem Ends.drop (h : Ends P env uid s request (x t).1 (x t).2) :
    Ends P env uid s request ((x >>= fun _ => (pure () : Call Unit)) t).1
      ((x >>= fun _ => (pure () : Call Unit)) t).2 :=
  h.bind fun _ u hu => ⟨(), u, rfl, hu⟩

theorem logEvent_relaxed (i : Nat) (action : String) (h : Relaxed s t) :
    ∃ u, logEvent P env i action session t = (.ok (), u) ∧ Relaxed s u := by
  refine ⟨_, modify_run _ t, ?_⟩
  split
  · exact h.of_eq rfl rfl rfl
  · exact h

theorem Ends.logged {x : Call Session} (h : Ends P env uid s request (x s).1 (x s).2)
    (action : String) :
    Ends P env uid s request (logged P env action x s).1 (logged P env action x s).2 := by
  rw [Daemon.logged, bind_run_ok (gets_run _ s)]
  refine h.bind fun session t ht => ?_
  obtain ⟨u, hlog, hu⟩ := logEvent_relaxed s.pendingAudit.length action ht
  exact ⟨session, u, bind_run_ok hlog, hu⟩

/-- **What is caught**: a result, an error, or nothing at all because of a panic. -/
theorem attemptErr_bind_cases (x : Call α) (k : Except VaultError α → Call β) (s : DaemonState) :
    (∃ a t, x s = (.ok a, t) ∧ (attemptErr x >>= k) s = k (.ok a) t) ∨
    (∃ e t, x s = (.error (.err e), t) ∧ (attemptErr x >>= k) s = k (.error e) t) ∨
    (∃ site t, x s = (.error (.abort site), t) ∧
      (attemptErr x >>= k) s = (.error (.abort site), t)) := by
  rw [bind_run, attemptErr]
  cases x s with
  | mk r t =>
    cases r with
    | ok a => exact .inl ⟨a, t, rfl, rfl⟩
    | error e =>
      cases e with
      | err e => exact .inr (.inl ⟨e, t, rfl, rfl⟩)
      | abort site => exact .inr (.inr ⟨site, t, rfl, rfl⟩)

theorem Preserves.undisturbed (h : Preserves (Undisturbed s) x) {r : Except Failure α}
    (hrun : x s = (r, t)) : Undisturbed s t := by
  have ht := h s (.refl s)
  rw [hrun] at ht
  exact ht

theorem ends_settle (hx : Preserves (Undisturbed s) x) {k : Except VaultError α → Call β}
    (hok : ∀ a t, Undisturbed s t → ∃ b u, k (.ok a) t = (.ok b, u) ∧ Relaxed s u)
    (herr : ∀ e, k (.error e) = recordFailedUnlock env uid >>= fun _ => throw (.err e)) :
    Ends P env uid s request ((attemptErr x >>= k) s).1 ((attemptErr x >>= k) s).2 := by
  rcases attemptErr_bind_cases x k s with ⟨a, t, hrun, hcaught⟩ | ⟨e, t, hrun, hcaught⟩ |
    ⟨site, t, hrun, hcaught⟩
  · obtain ⟨b, u, hk, hu⟩ := hok a t (Preserves.undisturbed hx hrun)
    rw [hcaught, hk]
    exact .accepted hu
  · rw [hcaught, herr, recordFailedUnlock_throw]
    exact .recorded (Preserves.undisturbed hx hrun)
  · rw [hcaught]
    exact .panicked (Preserves.undisturbed hx hrun)

theorem flushPending_relaxed : Undisturbed s (flushPending P env s) := by
  unfold flushPending
  split
  · exact .refl s
  · dsimp only
    split <;> exact (Undisturbed.refl s).of_eq rfl rfl rfl

theorem resetUnlockCounter_relaxed :
    ∃ t, resetUnlockCounter P env uid s = (.ok (), t) ∧ Relaxed s t := by
  refine ⟨_, rfl, Relaxed.trans ⟨?_, ?_, ?_, ?_⟩ flushPending_relaxed.relaxed⟩
  · exact .reset s.lockout uid
  · exact .refl _
  · exact id
  · exact fun header hs => .of_sidecar hs

theorem resetUnlockCounter_keeps_sessions : Keeps (·.sessions) (resetUnlockCounter P env uid) := by
  refine .modify fun s => ?_
  unfold flushPending
  split
  · rfl
  · dsimp only
    split <;> rfl

theorem completeUnlock_relaxed : ∃ t, completeUnlock P env uid s = (.ok (), t) ∧ Relaxed s t := by
  obtain ⟨t, hreset, ht⟩ := resetUnlockCounter_relaxed
  refine ⟨_, bind_run_ok hreset, ht.trans ⟨.refl _, .reset t.totpLockout uid, id, ?_⟩⟩
  exact fun header hs => .of_sidecar hs

theorem settleCounted_relaxed (h : Undisturbed s t) :
    ∃ b u, settleCounted P env uid (.ok session) t = (.ok b, u) ∧ Relaxed s u := by
  obtain ⟨u, hreset, hu⟩ := resetUnlockCounter_relaxed
  have htouch : Relaxed t { u with lastActivity := env.nowSecs } := hu.of_eq rfl rfl rfl
  exact ⟨session, _, bind_run_ok hreset, h.relaxed.trans htouch⟩

/-! ### Passwords -/

/-- A password is accepted because it opens the VMK, or its failure is recorded. -/
theorem tryPassword_cases :
    (∃ session t, tryPassword P J env password yk uid s = (.ok session, t) ∧ Undisturbed s t ∧
      PasswordPasses P password yk s) ∨
    (∃ e u, Undisturbed s u ∧ tryPassword P J env password yk uid s =
      (.error (.err e), (recordFailedUnlock env uid u).2)) ∨
    (∃ site t, tryPassword P J env password yk uid s = (.error (.abort site), t) ∧
      Undisturbed s t) := by
  let x : Call Session := if s.disk.vault.isSome then unlockExisting P J env password yk uid
    else createAndUnlock P J env password yk uid
  have hx : Preserves (Undisturbed s) x :=
    .ite (unlockExisting_steady (undisturbed_steady.within _))
      (createAndUnlock_steady (undisturbed_steady.within _) fun _ => .inl rfl)
  have hrun : tryPassword P J env password yk uid s =
      (attemptErr x >>= settleUnlock env uid) s := by
    rw [tryPassword, bind_run_ok (gets_run _ s)]
  rw [hrun]
  rcases attemptErr_bind_cases x (settleUnlock env uid) s with ⟨session, t, hinner, hcaught⟩ |
    ⟨e, t, hinner, hcaught⟩ | ⟨site, t, hinner, hcaught⟩
  · refine .inl ⟨session, _, hcaught.trans rfl,
      (Preserves.undisturbed hx hinner).of_eq rfl rfl rfl, ?_⟩
    cases hv : s.disk.vault with
    | none => exact .inl hv
    | some file =>
      have hexisting : unlockExisting P J env password yk uid s = (.ok session, t) := by
        rw [← hinner]
        simp only [x, hv, Option.isSome_some, if_true]
      obtain ⟨header, vmk, -, -, hs, -, hunwrap, -⟩ := unlockExisting_ok hexisting
      exact .inr ⟨header, vmk.bytes, hs, hunwrap⟩
  · refine .inr (.inl ⟨e, t, Preserves.undisturbed hx hinner, hcaught.trans ?_⟩)
    exact recordFailedUnlock_throw env (.err e)
  · exact .inr (.inr ⟨site, t, hcaught, Preserves.undisturbed hx hinner⟩)

theorem wipeIfReached_run (count : UInt32) :
    wipeIfReached env count s = (.ok (), (wipeIfReached env count s).2) := by
  rcases wipeIfReached_cases env count s with ⟨-, hrun⟩ | ⟨-, hrun⟩ <;> rw [hrun]

theorem recordFailedUnlock_returns :
    recordFailedUnlock env uid s = (.ok (), (recordFailedUnlock env uid s).2) := by
  rcases recordFailedUnlock_cases env uid s with ⟨-, hrun⟩ | ⟨-, hrun⟩ <;> rw [hrun]

/-- The state once a failed second factor is counted in its own tracker. -/
def countedTotp (env : Env) (uid : UInt32) (s : DaemonState) : DaemonState :=
  { s with totpLockout := (s.totpLockout.recordFailedUnlock env.totpFailAt uid).2 }

def totpFailureCount (env : Env) (uid : UInt32) (s : DaemonState) : UInt32 :=
  (s.totpLockout.recordFailedUnlock env.totpFailAt uid).1

theorem recordTotpFailure_run :
    recordTotpFailure env uid s = (.ok (), (wipeIfReached env (totpFailureCount env uid s)
      (recordFailedUnlock env uid (countedTotp env uid s)).2).2) := by
  rw [recordTotpFailure, bind_run_ok (gets_run _ s), bind_run_ok (modify_run _ s),
    bind_run_ok recordFailedUnlock_returns, wipeIfReached_run]
  rfl

theorem rejectTotp_run (e : VaultError) :
    rejectTotp env uid e s =
      (.error (.err e), lockKeepLockout (recordTotpFailure env uid s).2) := by
  have hrecord : recordTotpFailure env uid s = (.ok (), (recordTotpFailure env uid s).2) := by
    rw [recordTotpFailure_run]
  rw [rejectTotp, bind_run_ok hrecord, bind_run_ok (modify_run _ _)]
  rfl

theorem totpFactor_ends (h : Undisturbed s t) :
    Ends P env uid s request (totpFactor P F env uid totpCode session t).1
      (totpFactor P F env uid totpCode session t).2 := by
  have hsame : ∀ {r u}, checkTotp P F env totpCode t = (r, u) → u = t := fun hrun =>
    (Keeps.reads (f := id) _).same hrun
  rw [totpFactor]
  rcases attemptErr_bind_cases (checkTotp P F env totpCode) (settleTotp P env uid session) t with
    ⟨ok, u, hrun, hcaught⟩ | ⟨e, u, hrun, hcaught⟩ | ⟨site, u, hrun, hcaught⟩
  · rw [hcaught]
    obtain rfl := (hsame hrun).symm
    cases ok with
    | false =>
      rw [settleTotp, rejectTotp_run]
      exact .recordedTotp h
    | true =>
      obtain ⟨v, hcomplete, hv⟩ := completeUnlock_relaxed
      obtain ⟨w, hlog, hw⟩ := logEvent_relaxed t.pendingAudit.length "UNLOCK" (h.relaxed.trans hv)
      rw [settleTotp, bind_run_ok (gets_run _ t), bind_run_ok hcomplete, bind_run_ok hlog]
      exact .accepted hw
  · rw [hcaught, settleTotp, rejectTotp_run]
    obtain rfl := (hsame hrun).symm
    exact .recordedTotp h
  · rw [hcaught]
    obtain rfl := (hsame hrun).symm
    exact .panicked h

theorem rejectBackupCode_run (e : VaultError) :
    rejectBackupCode env uid e s = (.error (.err e), (recordFailedUnlock env uid (lock s)).2) := by
  rw [rejectBackupCode, bind_run_ok (modify_run lock s), recordFailedUnlock_throw]

theorem backupFactor_ends {code : String} (hrequest : request = .backupCode password yk code)
    (hpassed : PasswordPasses P password yk s) (h : Undisturbed s t) :
    Ends P env uid s request (backupFactor P F env uid code session t).1
      (backupFactor P F env uid code session t).2 := by
  have hkept : ∀ {r u}, checkBackupCode P F env code t = (r, u) → Undisturbed s u := by
    intro r u hrun
    have hcheck : Preserves (Undisturbed s) (checkBackupCode P F env code) :=
      checkBackupCode_steady (undisturbed_steady.within _) code
    have hu := hcheck t h
    rw [hrun] at hu
    exact hu
  rw [backupFactor]
  rcases attemptErr_bind_cases (checkBackupCode P F env code) (settleBackupCode P env uid session) t
    with ⟨ok, u, hrun, hcaught⟩ | ⟨e, u, hrun, hcaught⟩ | ⟨site, u, hrun, hcaught⟩
  · rw [hcaught]
    cases ok with
    | false =>
      rw [settleBackupCode, rejectBackupCode_run]
      exact .relocked hrequest hpassed (hkept hrun)
    | true =>
      obtain ⟨v, hreset, hv⟩ := resetUnlockCounter_relaxed
      obtain ⟨w, hlog, hw⟩ := logEvent_relaxed u.pendingAudit.length
        "UNLOCK_BACKUP_CODE" ((hkept hrun).relaxed.trans hv)
      rw [settleBackupCode, bind_run_ok (gets_run _ u), bind_run_ok hreset, bind_run_ok hlog]
      exact .accepted hw
  · rw [hcaught, settleBackupCode, rejectBackupCode_run]
    exact .relocked hrequest hpassed (hkept hrun)
  · rw [hcaught]
    exact .panicked (hkept hrun)

theorem tryPassword_bind_ends {g : Session → Call α}
    (hg : ∀ session t, Undisturbed s t → PasswordPasses P password yk s →
      Ends P env uid s request (g session t).1 (g session t).2) :
    Ends P env uid s request ((tryPassword P J env password yk uid >>= g) s).1
      ((tryPassword P J env password yk uid >>= g) s).2 := by
  rcases tryPassword_cases with ⟨session, t, hrun, ht, hpassed⟩ |
    ⟨e, u, hu, hrun⟩ | ⟨site, t, hrun, ht⟩
  · rw [bind_run_ok hrun]
    exact hg session t ht hpassed
  · rw [bind_run_error hrun]
    exact .recorded hu
  · rw [bind_run_error hrun]
    exact .panicked ht

/-! ### The recovery key -/

theorem openRecoveryCopy_of_ok {alloc : Except VaultError Unit} {entry : RecoveryKeySidecarEntry}
    {plain : Bytes} (h : openRecoveryCopy P alloc entry recoveryKey = .ok plain) :
    openRecoveryCopy P (.ok ()) entry recoveryKey = .ok plain := by
  simp only [openRecoveryCopy, Result.bind_eq_ok] at h ⊢
  obtain ⟨saltBytes, hbytes, salt, hsalt, kek, hkek, hrest⟩ := h
  exact ⟨saltBytes, hbytes, salt, hsalt, kek, deriveKek_of_ok P hkek, hrest⟩

theorem enterRecovered_ok {uuid : String} (h : enterRecovered P env recoveryKey s = (.ok uuid, t)) :
    RecoveryKeyPasses P recoveryKey s ∧ t.sessions = s.sessions ∧
      ∃ header, s.disk.sidecar = some (.ok header) ∧ uuid = header.vaultUuid := by
  have hsessions : Keeps (·.sessions) (enterRecovered P env recoveryKey) := by
    refine (readHeader_keeps env _).bind fun _ => .lift_bind fun _ =>
      .lift_bind fun _ => .bind ?_ fun _ => at_keeps.bind fun _ =>
        .bind (.modify fun _ => rfl) fun _ => .pure _
    exact openVault_keeps_sessions.bind fun _ => .lift_bind fun _ =>
      (onDatabase_keeps_sessions _).bind fun _ => .pure _
  have hkept : t.sessions = s.sessions := hsessions.eq h
  simp only [enterRecovered, bind_eq_ok, readHeader_eq_ok, lift_eq_ok, okOr_eq_ok, modify_run,
    pure_run, Prod.mk.injEq, Except.ok.injEq] at h
  obtain ⟨header, _, ⟨-, hs, rfl⟩, entry, _, ⟨hentry, rfl⟩, plain, _, ⟨hplain, rfl⟩, _, _, -, _, _, -,
    _, _, -, rfl, -⟩ := h
  exact ⟨⟨header, entry, plain, hs, hentry, openRecoveryCopy_of_ok hplain⟩, hkept, header, hs, rfl⟩

theorem recoverVault_ends (hrequest : request = .recoveryKey recoveryKey) :
    Ends P env uid s request
      ((attemptErr (recoverVault P env recoveryKey uid) >>= settleRecovery env uid) s).1
      ((attemptErr (recoverVault P env recoveryKey uid) >>= settleRecovery env uid) s).2 := by
  have henter : Preserves (Undisturbed s) (enterRecovered P env recoveryKey) :=
    enterRecovered_steady (undisturbed_steady.within _) recoveryKey
  cases hrun : enterRecovered P env recoveryKey s with
  | mk r t =>
    have ht := Preserves.undisturbed henter hrun
    cases r with
    | error e =>
      have hfail : recoverVault P env recoveryKey uid s = (.error e, t) := bind_run_error hrun
      cases e with
      | err e =>
        rw [bind_run_ok (attemptErr_of_err hfail), settleRecovery, recordFailedUnlock_throw]
        exact .recorded ht
      | abort site =>
        have hcaught : attemptErr (recoverVault P env recoveryKey uid) s =
            (.error (.abort site), t) := by
          rw [attemptErr, hfail]
        rw [bind_run_error hcaught]
        exact .panicked ht
    | ok uuid =>
      -- the vault is in memory
      obtain ⟨hpassed, hkept, header, hs, rfl⟩ := enterRecovered_ok hrun
      obtain ⟨u, hreset, hu⟩ := resetUnlockCounter_relaxed
      have hcreate : recoverVault P env recoveryKey uid s =
          createSession env header.vaultUuid uid u := by
        rw [recoverVault, bind_run_ok hrun, bind_run_ok hreset]
      rw [createSession, (resetUnlockCounter_keeps_sessions.eq hreset).trans hkept] at hcreate
      cases hslot : s.sessions.create env.nowSecs env.token header.vaultUuid uid defaultTtlSecs with
      | mk r store =>
        rw [hslot] at hcreate
        have hstored : Relaxed s { u with sessions := store } :=
          (ht.relaxed.trans hu).of_eq rfl rfl rfl
        cases r with
        | ok session =>
          rw [bind_run_ok (attemptErr_eq_ok_ok.mpr hcreate)]
          exact .accepted hstored
        | error e =>
          -- the counter is reset, and there is no room
          have hroom : ¬ HasRoom env uid s := by
            intro hroom
            obtain ⟨session, hsession⟩ := hroom header hs
            rw [hslot] at hsession
            cases hsession
          rw [bind_run_ok (attemptErr_of_err hcreate), settleRecovery, recordFailedUnlock_throw]
          exact .crowded hrequest hpassed hroom hstored

/-! ### Every request -/

/-- **Every outcome is one of the six.** -/
theorem outcomeOf_ends (refusal : Option VaultError) :
    Ends P env uid s request (outcomeOf P J W F env uid refusal request s).1
      (outcomeOf P J W F env uid refusal request s).2 := by
  cases request with
  | unlock password yk totpCode =>
    exact tryPassword_bind_ends fun session t ht _ => (totpFactor_ends ht).drop
  | backupCode password yk code =>
    exact tryPassword_bind_ends fun session t ht hpassed =>
      (backupFactor_ends rfl hpassed ht).drop
  | passkey a =>
    refine (Ends.logged ?_ _).drop
    exact ends_settle (unlockWithPasskeyInner_steady (undisturbed_steady.within _) a)
      (fun session t ht => settleCounted_relaxed ht) fun _ => rfl
  | quickUnlock a dbk =>
    refine (Ends.logged ?_ _).drop
    exact ends_settle (quickUnlockInner_steady (undisturbed_steady.within _) a dbk)
      (fun session t ht => settleCounted_relaxed ht) fun _ => rfl
  | recoveryKey recoveryKey =>
    refine (Ends.logged ?_ _).drop
    cases refusal with
    | none => exact recoverVault_ends rfl
    | some e =>
      -- a refused request is recorded all the same
      rw [tryRecoveryKey, bind_run_ok (pure_run _ s), settleRecovery, recordFailedUnlock_throw]
      exact .recorded (.refl s)
  | pqc =>
    refine Ends.drop (x := settleCounted P env uid (.error (.auth "PQC unlock not yet implemented")))
      ?_
    rw [settleCounted, recordFailedUnlock_throw]
    exact .recorded (.refl s)
  | verifyMasterPassword password =>
    exact ends_settle (.of_same verifyMasterPasswordInner_keeps)
      (fun _ t ht => ⟨(), t, rfl, ht.relaxed⟩) fun _ => rfl
  | changePassword old new yk =>
    exact ends_settle (changePasswordInner_steady (undisturbed_steady.within _) old new)
      (fun _ t ht => ⟨(), t, rfl, ht.relaxed⟩) fun _ => rfl

theorem checks_preserves {I : DaemonState → Prop} (hcheck : ∀ s, I s →
      I { s with lockout := (s.lockout.checkUnlockLockout env.checkAt uid).2 }) (htotp : ∀ s, I s →
      I { s with totpLockout := (s.totpLockout.checkUnlockLockout env.totpCheckAt uid).2 })
    (request : AuthRequest) : Preserves I (checks env uid request) := by
  have hunlock : Preserves I (checkUnlockLockout env uid) := by
    intro s hs
    rw [checkUnlockLockout_state]
    exact hcheck s hs
  have hsecond : Preserves I (checkTotpLockout env uid) := by
    intro s hs
    rw [checkTotpLockout_state]
    exact htotp s hs
  have hadmission : ∀ password, Preserves I (admitUnlock env password uid) :=
    fun password => .lift_bind fun _ => (Preserves.gets _).bind fun _ =>
      .lift_bind fun _ => hunlock.bind fun _ => hsecond.bind fun _ => .pure _
  cases request with
  | unlock password yk totpCode => exact (hadmission password).bind fun _ => .pure _
  | backupCode password yk code =>
    exact .lift_bind fun _ => (hadmission password).bind fun _ => .pure _
  | recoveryKey recoveryKey =>
    refine (attemptErr_preserves hunlock).bind fun r => ?_
    cases r <;> exact .pure _
  | passkey a => exact hunlock.bind fun _ => .pure _
  | quickUnlock a dbk => exact hunlock.bind fun _ => .pure _
  | pqc => exact hunlock.bind fun _ => .pure _
  | verifyMasterPassword password => exact hunlock.bind fun _ => .pure _
  | changePassword old new yk => exact hunlock.bind fun _ => .pure _

theorem checks_relaxed (env : Env) (uid : UInt32) (request : AuthRequest) (s : DaemonState) :
    Relaxed s (checks env uid request s).2 := by
  refine checks_preserves (I := Relaxed s) (fun t ht => ?_) (fun t ht => ?_) request s
    (Undisturbed.refl s).relaxed
  · exact ht.trans ⟨.check t.lockout env.checkAt uid, .refl _, id, fun _ hs => .of_sidecar hs⟩
  · exact ht.trans ⟨.refl _, .check t.totpLockout env.totpCheckAt uid, id,
      fun _ hs => .of_sidecar hs⟩

/-! ## The second factor of an accepted password -/

section Gate

variable {password : Bytes} {yk : Option (Block 20)} {session : Session} {vmk key : Block 32}
  {db : Database}

theorem unlock_opens (h : unlock P J env password yk uid s = (.ok session, t)) :
    ∃ vmk key db, t.vmk = some vmk ∧ t.connection = some (key, db) := by
  obtain ⟨present, s₁, -, h⟩ := bind_eq_ok.mp h
  obtain ⟨res, s₂, htry, h⟩ := bind_eq_ok.mp h
  obtain ⟨rfl, rfl⟩ := settleUnlock_eq_ok.mp h
  rw [attemptErr_eq_ok_ok] at htry
  by_cases hpresent : present = true
  · rw [if_pos hpresent] at htry
    obtain ⟨header, vmk, stored, db, -, -, -, -, -, -, hvmk, hopen, -, hdisk⟩ :=
      unlockExisting_ok htry
    refine ⟨vmk, sqlcipherKey P vmk.bytes, db, hvmk, ?_⟩
    simp only [DaemonState.connection, hopen, hdisk]
  · rw [if_neg hpresent] at htry
    obtain ⟨kek, db, hvmk, hopen, -, hdisk⟩ := createAndUnlock_ok htry
    refine ⟨env.vmk, sqlcipherKey P env.vmk.bytes, db, hvmk, ?_⟩
    simp only [DaemonState.connection, hopen, hdisk]

theorem settleTotp_granted : (settleTotp P env uid session (.ok true) s).1 = .ok session := by
  obtain ⟨t, hcomplete, -⟩ := completeUnlock_relaxed
  rw [settleTotp, bind_run_ok (gets_run _ s), bind_run_ok hcomplete]
  rfl

theorem handleUnlock_granted_iff (h : unlock P J env password yk uid s = (.ok session, t)) :
    (handleUnlock P J F env password yk totpCode uid s).1 = .ok session ↔
      (checkTotp P F env totpCode t).1 = .ok true := by
  rw [handleUnlock, bind_run_ok h, totpFactor]
  rcases attemptErr_bind_cases (checkTotp P F env totpCode) (settleTotp P env uid session) t with
    ⟨passes, u, hrun, hcaught⟩ | ⟨e, u, hrun, hcaught⟩ | ⟨site, u, hrun, hcaught⟩
  · rw [hcaught, hrun]
    cases passes with
    | true => simp [settleTotp_granted]
    | false => simp [settleTotp, rejectTotp_run]
  · rw [hcaught, hrun]
    simp [settleTotp, rejectTotp_run]
  · rw [hcaught, hrun]
    simp

theorem handleUnlock_refused (h : unlock P J env password yk uid s = (.ok session, t))
    {e : VaultError} (hgate : (checkTotp P F env totpCode t).1 = .error (.err e)) :
    (handleUnlock P J F env password yk totpCode uid s).1 = .error (.err e) := by
  rw [handleUnlock, bind_run_ok h, totpFactor]
  rcases attemptErr_bind_cases (checkTotp P F env totpCode) (settleTotp P env uid session) t with
    ⟨passes, u, hrun, hcaught⟩ | ⟨e', u, hrun, hcaught⟩ | ⟨site, u, hrun, hcaught⟩
  · rw [hrun] at hgate
    cases hgate
  · rw [hrun] at hgate
    cases hgate
    rw [hcaught, settleTotp, rejectTotp_run]
  · rw [hrun] at hgate
    cases hgate

theorem checkTotp_eq (hvmk : t.vmk = some vmk) (hconn : t.connection = some (key, db))
    (totpCode : Option String) : (checkTotp P F env totpCode t).1 =
      if TotpDb.isActive db then
        if totpCode.getD "" = "" then fail (.auth "TOTP code required")
        else TotpDb.verifyCode P F env.nowSecs db vmk (totpCode.getD "")
      else .ok true := by
  rw [checkTotp, reads, hvmk, hconn]
  rfl

end Gate

end

end PwdNow.Daemon
