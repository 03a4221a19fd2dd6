import PwdNow.Daemon.Failures
import PwdNow.Daemon.Symbolic

/-!
# Daemon — the duress wipe

`record_failed_unlock` wipes the vault once the failure count of the uid reaches
`duress_max_attempts`. The count lives in the lockout tracker, whose check deletes it on every
admitted attempt, so that the count compared is always `1`.
-/

namespace PwdNow.Daemon

open Kit Kit.Fallible

variable (P : Primitives) (J : Serde)

structure UnlockAttempt where
  env : Env
  password : Bytes
  yk : Option (Block 20)

/-- One unlock request of `uid`, whatever it answers. -/
def unlockStep (uid : UInt32) (s : DaemonState) (a : UnlockAttempt) : DaemonState :=
  (unlock P J a.env a.password a.yk uid s).2

/-- `vault.db` and its sidecar are gone. -/
def Erased (s : DaemonState) : Prop := s.disk.sidecar = none ∧ s.disk.vault = none

/-- The attempt passes the checks before the key derivation, the lockouts among them. -/
def Admitted (uid : UInt32) (s : DaemonState) (a : UnlockAttempt) : Prop :=
  ∃ t, admitUnlock a.env a.password uid s = (.ok true, t)

/-- The attempt is turned away before the key derivation. -/
def Refused (uid : UInt32) (s : DaemonState) (a : UnlockAttempt) : Prop :=
  ∃ e t, admitUnlock a.env a.password uid s = (.error e, t)

/-- A well-formed header, and a password that does not open the VMK wrapped in it. -/
def WrongPassword (s : DaemonState) (a : UnlockAttempt) : Prop :=
  ∃ header w e, s.disk.sidecar = some (.ok header) ∧ header.passwordLoginEnabled = true ∧
    wrappedVmk P (.ok ()) header a.password a.yk = .ok w ∧
    (w.nonce.length = 12 ∨ w.nonce.length = 24) ∧ w.unwrap P = .error (.err e)

/-- A run of unlock requests in which every admitted one fails on a wrong password, `n` in
number. -/
inductive WrongStreak (uid : UInt32) : DaemonState → List UnlockAttempt → Nat → Prop where
  | nil (s : DaemonState) : WrongStreak uid s [] 0
  | refused {s : DaemonState} {a : UnlockAttempt} {as : List UnlockAttempt} {n : Nat} :
      Refused uid s a → WrongStreak uid (unlockStep P J uid s a) as n →
      WrongStreak uid s (a :: as) n
  | wrong {s : DaemonState} {a : UnlockAttempt} {as : List UnlockAttempt} {n : Nat} :
      Admitted uid s a → WrongPassword P s a → WrongStreak uid (unlockStep P J uid s a) as n →
      WrongStreak uid s (a :: as) (n + 1)

/-! ## The wipe -/

section

variable {P J} {env : Env} {s t : DaemonState} {uid : UInt32} {header : VaultHeader}

section

variable (hq : env.Quiet) (hs : s.disk.sidecar = some (.ok header))
include hq hs

theorem cryptographicErase_run : ∃ t, cryptographicErase env s = (.ok (), t) ∧ Erased t := by
  have hunlink : ∀ s, ∃ t, unlinkVault env s = (.ok (), t) ∧ t.disk.vault = none := by
    intro s
    cases hv : s.disk.vault with
    | none => exact ⟨s, by simp [unlinkVault, bind_run, hv], hv⟩
    | some file =>
      refine ⟨removeVault s, bind_eq_ok.mpr ⟨true, s, by simp [hv], ?_⟩, rfl⟩
      exact bind_eq_ok.mpr ⟨(), s, at_eq_ok.mpr ⟨hq _, rfl⟩, rfl⟩
  obtain ⟨t, ht, hvault⟩ := hunlink (s.setSidecar (sanitiseHeader header))
  refine ⟨removeSidecar t, ?_, rfl, hvault⟩
  simp only [cryptographicErase, bind_eq_ok, at_eq_ok, reads_eq_ok, hq _]
  exact ⟨(), s, ⟨trivial, rfl⟩, header, s, ⟨by rw [hs], rfl⟩, (), s, ⟨trivial, rfl⟩, (), _, rfl,
    (), t, ht, (), t, ⟨trivial, rfl⟩, rfl⟩

theorem forensicWipeInternal_run : ∃ t, forensicWipeInternal env s = (.ok (), t) ∧ Erased t := by
  have hs' : (lock s).disk.sidecar = some (.ok header) := hs
  simp only [forensicWipeInternal, bind_run_ok (modify_run lock s)]
  split
  · refine ⟨removeVault (removeSidecar (lock s)), ?_, rfl, rfl⟩
    simp only [mediaOverwrite, bind_eq_ok, at_eq_ok, hq _]
    exact ⟨(), _, ⟨trivial, rfl⟩, (), _, rfl, (), _, ⟨trivial, rfl⟩, rfl⟩
  · obtain ⟨t, ht, herased⟩ := cryptographicErase_run hq hs'
    refine ⟨t, ?_, herased⟩
    rw [bind_run_ok (attemptErr_eq_ok_ok.mpr ht)]
    rfl

/-- `t` is `s` after a first failure of `uid` at `now`: the files are as they were, the count
is one, and no second factor has failed. -/
structure FirstFailure (uid : UInt32) (now : Nat) (s t : DaemonState) : Prop where
  disk : t.disk = s.disk
  lockout : t.lockout.map uid = some (1, now)
  totpLockout : t.totpLockout.map uid = none

theorem recordFailedUnlock_absent (habsent : s.lockout.map uid = none)
    (htotp : s.totpLockout.map uid = none) :
    ∃ t, recordFailedUnlock env uid s = (.ok (), t) ∧ (header.duressMaxAttempts = 1 → Erased t) ∧
      (header.duressMaxAttempts ≠ 1 → FirstFailure uid env.failAt s t) := by
  have hcount : s.lockout.recordFailedUnlock env.failAt uid = (1, _) :=
    LockoutTracker.recordFailedUnlock_of_absent habsent
  have hone : Reached env (failureCount env uid s) s ↔ header.duressMaxAttempts = 1 := by
    rw [failureCount, hcount, reached_one_iff hs]
    exact and_iff_right (hq _)
  rcases recordFailedUnlock_cases env uid s with ⟨hreached, hrun⟩ | ⟨hnot, hrun⟩
  · obtain ⟨t, ht, herased⟩ := forensicWipeInternal_run (s := counted env uid s) hq hs
    rw [ht] at hrun
    exact ⟨t, hrun, fun _ => herased, fun hne => absurd (hone.mp hreached) hne⟩
  · refine ⟨_, hrun, fun h => absurd (hone.mpr h) hnot, fun _ => ⟨rfl, ?_, htotp⟩⟩
    simp [counted, hcount]

end

/-! ## One attempt -/

variable {a : UnlockAttempt}

theorem admitUnlock_keeps_disk (password : Bytes) : Keeps (·.disk) (admitUnlock env password uid) :=
  admitUnlock_keeps (fun _ _ => rfl) fun _ _ => rfl

theorem admitUnlock_eq_ok {password : Bytes} {present : Bool}
    (h : admitUnlock env password uid s = (.ok present, t)) :
    t.disk = s.disk ∧ t.lockout.map uid = none ∧ t.totpLockout.map uid = none := by
  refine ⟨(admitUnlock_keeps_disk password).eq h, ?_⟩
  simp only [admitUnlock, bind_eq_ok, require_eq_ok, gets_run, Prod.mk.injEq, Except.ok.injEq,
    pure_run] at h
  obtain ⟨_, _, ⟨-, rfl⟩, _, _, ⟨rfl, rfl⟩, _, _, ⟨-, rfl⟩, _, s₁, hcheck, _, s₂, htotp, -,
    rfl⟩ := h
  obtain ⟨tracker, hok, rfl⟩ := checkUnlockLockout_eq_ok hcheck
  obtain ⟨tracker', hok', rfl⟩ := checkTotpLockout_eq_ok htotp
  exact ⟨LockoutTracker.checkUnlockLockout_ok hok, LockoutTracker.checkUnlockLockout_ok hok'⟩

theorem admitted_of_expired {count : UInt32} {expiry : Nat} (hlen : a.password.length ≤ 1024)
    (hv : s.disk.vault.isSome = true) (hentry : s.lockout.map uid = some (count, expiry))
    (hexpired : expiry ≤ a.env.checkAt) (htotp : s.totpLockout.map uid = none) :
    Admitted uid s a := by
  let s₁ : DaemonState := { s with lockout := s.lockout.resetLockout uid }
  have hcheck : checkUnlockLockout a.env uid s = (.ok (), s₁) := by
    simp [checkUnlockLockout, LockoutTracker.checkUnlockLockout, hentry, hexpired, s₁,
      LockoutTracker.resetLockout]
  have hcheck' : checkTotpLockout a.env uid s₁ = (.ok (), s₁) := by
    simp [checkTotpLockout, LockoutTracker.checkUnlockLockout_absent htotp, s₁]
  refine ⟨s₁, ?_⟩
  simp only [admitUnlock, bind_eq_ok, require_eq_ok, gets_run, pure_run, decide_eq_true_eq,
    Bool.or_eq_true, Prod.mk.injEq]
  exact ⟨(), s, ⟨hlen, rfl⟩, true, s, ⟨by rw [hv], rfl⟩, (), s, ⟨.inl rfl, rfl⟩, (), s₁, hcheck,
    (), s₁, hcheck', rfl, rfl⟩

theorem unlock_refused_disk (h : Refused uid s a) : (unlockStep P J uid s a).disk = s.disk := by
  obtain ⟨e, t, h⟩ := h
  rw [unlockStep, unlock, bind_run_error h]
  exact (admitUnlock_keeps_disk a.password).eq h

theorem unlockExisting_wrong (hq : env.Quiet) (hwrong : WrongPassword P s a) :
    ∃ e, unlockExisting P J env a.password a.yk uid s = (.error (.err e), s) := by
  obtain ⟨header, w, e, hs, hlogin, hw, -, hunwrap⟩ := hwrong
  have hvmk : unwrapVmk P (env.io (.kdfMemory .request)) header a.password a.yk =
      .error (.err e) := by
    rw [hq _, unwrapVmk, hw]
    exact hunwrap
  have hheader : openHeader P J env a.password a.yk s = (.error (.err e), s) := by
    rw [openHeader, bind_run_ok (readHeader_eq_ok.mpr ⟨hq _, hs, rfl⟩),
      bind_run_ok ((require_eq_ok (u := ())).mpr ⟨hlogin, rfl⟩), hvmk, bind_run_error (lift_run _ s)]
  exact ⟨e, bind_run_error hheader⟩

/-- **A wrong password** that gets past the lockout is always a first failure. -/
theorem unlock_wrong (hq : a.env.Quiet) (hadmitted : Admitted uid s a)
    (hwrong : WrongPassword P s a) (hs : s.disk.sidecar = some (.ok header)) :
    (header.duressMaxAttempts = 1 → Erased (unlockStep P J uid s a)) ∧
      (header.duressMaxAttempts ≠ 1 →
        FirstFailure uid a.env.failAt s (unlockStep P J uid s a)) := by
  obtain ⟨t, hadmitted⟩ := hadmitted
  obtain ⟨hdisk, habsent, htotp⟩ := admitUnlock_eq_ok hadmitted
  have hst : t.disk.sidecar = some (.ok header) := by rw [hdisk, hs]
  have hwrong' : WrongPassword P t a := by
    rw [WrongPassword, hdisk]
    exact hwrong
  obtain ⟨e, hopen⟩ := unlockExisting_wrong hq hwrong'
  have hres : attemptErr (unlockExisting P J a.env a.password a.yk uid) t = (.ok (.error e), t) := by
    unfold attemptErr
    rw [hopen]
  obtain ⟨t', hrecord, herased, hkept⟩ := recordFailedUnlock_absent hq hst habsent htotp
  have hstep : unlockStep P J uid s a = t' := by
    rw [unlockStep, unlock, bind_run_ok hadmitted, if_pos rfl, bind_run_ok hres, settleUnlock,
      bind_run_ok hrecord]
    rfl
  rw [hstep]
  exact ⟨herased, fun hne =>
    ⟨(hkept hne).disk.trans hdisk, (hkept hne).lockout, (hkept hne).totpLockout⟩⟩

/-! ## Runs of attempts -/

variable {as : List UnlockAttempt} {n : Nat}

theorem streak_zero_disk (h : WrongStreak P J uid s as n) (hn : n = 0) :
    (run (unlockStep P J uid) s as).disk = s.disk := by
  induction h with
  | nil s => rfl
  | refused hrefused _ ih => exact (ih hn).trans (unlock_refused_disk hrefused)
  | wrong => omega

/-- **The run lemma.** Only with the threshold `1` does a run of wrong passwords touch the files,
and then the first one erases them. -/
theorem streak_disk (h : WrongStreak P J uid s as n) (hquiet : ∀ a ∈ as, a.env.Quiet)
    (hs : s.disk.sidecar = some (.ok header)) :
    (header.duressMaxAttempts ≠ 1 → (run (unlockStep P J uid) s as).disk = s.disk) ∧
      (header.duressMaxAttempts = 1 → n = 1 → Erased (run (unlockStep P J uid) s as)) := by
  induction h with
  | nil s => exact ⟨fun _ => rfl, fun _ hn => absurd hn (by decide)⟩
  | @refused s a as n hrefused hrest ih =>
    have hdisk := unlock_refused_disk (P := P) (J := J) hrefused
    obtain ⟨hkept, herased⟩ := ih (fun b hb => hquiet b (List.mem_cons_of_mem a hb))
      (by rw [hdisk, hs])
    exact ⟨fun hne => (hkept hne).trans hdisk, herased⟩
  | @wrong s a as n hadmitted hwrong hrest ih =>
    obtain ⟨herase, hkeep⟩ :=
      unlock_wrong (J := J) (hquiet a List.mem_cons_self) hadmitted hwrong hs
    refine ⟨fun hne => ?_, fun hone hn => ?_⟩
    · have hdisk := (hkeep hne).disk
      obtain ⟨hkept, -⟩ := ih (fun b hb => hquiet b (List.mem_cons_of_mem a hb)) (by rw [hdisk, hs])
      exact (hkept hne).trans hdisk
    · -- whatever follows the wipe is refused, and leaves the disk empty
      have hdisk := streak_zero_disk hrest (by omega)
      exact ⟨(congrArg Disk.sidecar hdisk).trans (herase hone).1,
        (congrArg Disk.vault hdisk).trans (herase hone).2⟩

/-- **The duress threshold counts to one.** After a run of unlock requests of which
`duress_max_attempts` were admitted and failed on a wrong password, the vault is erased exactly when
that threshold is `1`. -/
theorem erased_after_streak_iff {as : List UnlockAttempt}
    (hs : s.disk.sidecar = some (.ok header)) (hquiet : ∀ a ∈ as, a.env.Quiet)
    (h : WrongStreak P J uid s as header.duressMaxAttempts.toNat) :
    Erased (run (unlockStep P J uid) s as) ↔ header.duressMaxAttempts = 1 := by
  obtain ⟨hkept, herased⟩ := streak_disk h hquiet hs
  constructor
  · intro hgone
    by_contra hne
    have hsidecar := hgone.1
    rw [hkept hne, hs] at hsidecar
    cases hsidecar
  · intro hone
    exact herased hone (by rw [hone]; rfl)

end

/-! ### On the symbolic vault -/

def rightPassword : Bytes := utf8 "correct horse"

def wrongPassword : Bytes := utf8 "incorrect horse"

def duressHeader : VaultHeader :=
  (symbolicHeader rightPassword 2).stamped symbolic symbolicSerde (some symbolicVmk)

/-- The locked symbolic vault with a threshold of two. -/
def duressVault : DaemonState := lock (unlockedVault rightPassword 2 symbolicDb)

/-- A wrong password at second `now`. -/
def wrongAttempt (now : Nat) : UnlockAttempt := ⟨symbolicEnv now 5, wrongPassword, none⟩

theorem wrongPassword_duressVault (now : Nat) {s : DaemonState} (hs : s.disk = duressVault.disk) :
    WrongPassword symbolic s (wrongAttempt now) := by
  have hkek : deriveKek symbolic (.ok ()) wrongPassword none (symbolicEnv 1 1).salt
      (symbolicEnv 1 1).tuned = .ok (symbolicKek wrongPassword) := rfl
  have hne : kekOf (symbolicKek wrongPassword) ≠ kekOf (symbolicKek rightPassword) := by decide
  exact ⟨_, _, _, by rw [hs]; rfl, rfl, wrappedVmk_wrap ⟨rfl, rfl, rfl, rfl⟩ hkek, .inl rfl,
    openSealed_wrong_key symbolic_ideal hne _ _⟩

theorem wrongStreak_duressVault :
    WrongStreak symbolic symbolicSerde 1000 duressVault [wrongAttempt 10, wrongAttempt 20] 2 := by
  have hadmitted : Admitted 1000 duressVault (wrongAttempt 10) :=
    ⟨_, admitUnlock_lock.mpr ⟨rfl, rfl, by decide, .inl rfl⟩⟩
  have hwrong := wrongPassword_duressVault 10 rfl
  have hfailed := (unlock_wrong (J := symbolicSerde) (symbolicEnv_quiet 10 5) hadmitted hwrong rfl).2
    (by decide)
  exact .wrong hadmitted hwrong (.wrong
    (admitted_of_expired (by decide) (by rw [hfailed.disk]; rfl) hfailed.lockout (by decide)
      hfailed.totpLockout)
    (wrongPassword_duressVault 20 hfailed.disk) (.nil _))

theorem erased_after_streak_iff_symbolic :
    Erased (run (unlockStep symbolic symbolicSerde 1000) duressVault
        [wrongAttempt 10, wrongAttempt 20]) ↔
      duressHeader.duressMaxAttempts = 1 :=
  erased_after_streak_iff rfl (by simp [wrongAttempt, symbolicEnv_quiet]) wrongStreak_duressVault

/-- **Two strikes and no wipe.** With a threshold of two, two wrong passwords in a row leave
the vault where it is. -/
theorem not_erased_after_streak :
    duressVault.disk.sidecar = some (.ok duressHeader) ∧
      WrongStreak symbolic symbolicSerde 1000 duressVault [wrongAttempt 10, wrongAttempt 20]
        duressHeader.duressMaxAttempts.toNat ∧
      ¬ Erased (run (unlockStep symbolic symbolicSerde 1000) duressVault
        [wrongAttempt 10, wrongAttempt 20]) := by
  refine ⟨rfl, wrongStreak_duressVault, fun herased => ?_⟩
  have hdisk := (streak_disk wrongStreak_duressVault (by simp [wrongAttempt, symbolicEnv_quiet])
    rfl).1 (by decide)
  have hsidecar := herased.1
  rw [hdisk] at hsidecar
  cases hsidecar

end PwdNow.Daemon
