import PwdNow.Daemon.Duress
import PwdNow.Daemon.Serving
import PwdNow.Daemon.Verdicts

/-!
# Daemon — what a wipe is due to

A run is counted along: how many requests have presented a secret that did not pass. As long as
every request is in order, no tracker has a higher count, so that a wipe is due to as many wrong
secrets as the threshold says. A request that is not in order is counted as well, whatever it failed
on.
-/

namespace PwdNow.Daemon

open Kit Kit.Fallible

/-! ## Counts -/

namespace LockoutTracker

/-- No uid has failed more than `n` times. -/
def AtMost (t : LockoutTracker) (n : Nat) : Prop :=
  ∀ uid count expiry, t.map uid = some (count, expiry) → count.toNat ≤ n

variable {t t' : LockoutTracker} {n m : Nat}

theorem AtMost.mono (h : t.AtMost n) (hle : n ≤ m) : t.AtMost m :=
  fun uid count expiry hentry => (h uid count expiry hentry).trans hle

theorem AtMost.forgets (h : t.AtMost n) (hforgets : t.Forgets t') : t'.AtMost n := by
  intro uid count expiry hentry
  rcases hforgets uid with hsame | hgone
  · rw [hsame] at hentry
    exact h uid count expiry hentry
  · rw [hgone] at hentry
    cases hentry

theorem AtMost.new (n : Nat) : LockoutTracker.new.AtMost n := by
  intro uid count expiry hentry
  cases hentry

theorem AtMost.next (h : t.AtMost n) (now : Nat) (uid : UInt32) :
    (((t.map uid).getD (0, now)).1 + 1).toNat ≤ n + 1 := by
  have hcount : ((t.map uid).getD (0, now)).1.toNat ≤ n := by
    cases hentry : t.map uid with
    | none => simp
    | some entry => exact h uid entry.1 entry.2 hentry
  rw [UInt32.toNat_add]
  have hmod := Nat.mod_le (((t.map uid).getD (0, now)).1.toNat + (1 : UInt32).toNat) (2 ^ 32)
  have hone : (1 : UInt32).toNat = 1 := rfl
  omega

theorem AtMost.record (h : t.AtMost n) (now : Nat) (uid : UInt32) :
    (t.recordFailedUnlock now uid).2.AtMost (n + 1) := by
  intro uid' count expiry hentry
  by_cases hu : uid' = uid
  · subst hu
    rw [recordFailedUnlock_map] at hentry
    obtain ⟨hcount, -⟩ := Prod.mk.inj (Option.some.inj hentry)
    rw [← hcount]
    exact h.next now uid'
  · rw [recordFailedUnlock_other hu] at hentry
    exact (h uid' count expiry hentry).trans (Nat.le_succ n)

end LockoutTracker

open LockoutTracker (AtMost)

section

variable {P : Primitives} {J : Serde} {W : Webauthn} {F : Factors} {env : Env}
  {s t u : DaemonState} {uid : UInt32} {n : Nat}

/-- The header of `s` is gone. -/
def Wiped (s t : DaemonState) : Prop := s.disk.sidecar.isSome ∧ t.disk.sidecar = none

/-- No tracker of `t` counts more than `n` failures, its header has the threshold of that of
`s`, and if that one is gone then its threshold was `n` at most. -/
structure Accounted (s t : DaemonState) (n : Nat) : Prop where
  lockout : t.lockout.AtMost n
  totpLockout : t.totpLockout.AtMost n
  threshold : ∀ header, t.disk.sidecar = some (.ok header) → Threshold s header.duressMaxAttempts
  wiped : Wiped s t → ∃ header, s.disk.sidecar = some (.ok header) ∧
    header.duressMaxAttempts.toNat ≤ n

theorem Relaxed.accounted (h : Relaxed s t) (hlockout : s.lockout.AtMost n)
    (htotp : s.totpLockout.AtMost n) : Accounted s t n where
  lockout := hlockout.forgets h.lockout
  totpLockout := htotp.forgets h.totpLockout
  threshold := h.threshold
  wiped := by
    rintro ⟨hpresent, hgone⟩
    have hkept := h.present hpresent
    rw [hgone] at hkept
    exact nomatch hkept

theorem Accounted.mono {m : Nat} (h : Accounted s t n) (hle : n ≤ m) : Accounted s t m where
  lockout := h.lockout.mono hle
  totpLockout := h.totpLockout.mono hle
  threshold := h.threshold
  wiped hwiped := by
    obtain ⟨header, hs, hcount⟩ := h.wiped hwiped
    exact ⟨header, hs, hcount.trans hle⟩

theorem Accounted.of_sidecar (h : Accounted s t n) (hsidecar : u.disk.sidecar = t.disk.sidecar)
    (hlockout : u.lockout.AtMost n) (htotp : u.totpLockout.AtMost n) : Accounted s u n where
  lockout := hlockout
  totpLockout := htotp
  threshold header hu := h.threshold header (hsidecar ▸ hu)
  wiped hwiped := h.wiped ⟨hwiped.1, hsidecar ▸ hwiped.2⟩

/-- **The comparison with the threshold.** A wipe leaves no header and no count, and the count
that has reached the threshold is accounted for. -/
theorem wipeIfReached_accounted (hq : env.Quiet) (h : Accounted s u n) {count : UInt32}
    (hcount : count.toNat ≤ n) : Accounted s (wipeIfReached env count u).2 n := by
  rcases wipeIfReached_cases env count u with ⟨hreached, hrun⟩ | ⟨-, hrun⟩
  · obtain ⟨-, header, hu, hpos, hle⟩ := hreached
    obtain ⟨t, hwipe, hsidecar, -⟩ := forensicWipeInternal_run hq hu
    have hcleared : (forensicWipeInternal env u).2.lockout.AtMost n ∧
        (forensicWipeInternal env u).2.totpLockout.AtMost n :=
      forensicWipeInternal_inv (I := fun s => s.lockout.AtMost n ∧ s.totpLockout.AtMost n)
        (fun _ _ h _ => h) (fun _ h => h) (fun _ h => h) env ⟨.new n, .new n⟩
    rw [hrun]
    rw [hwipe] at hcleared ⊢
    refine ⟨hcleared.1, hcleared.2, fun header' ht => ?_, fun _ => ?_⟩
    · rw [hsidecar] at ht
      cases ht
    · -- the threshold that was reached is the one of `s`
      rcases h.threshold header hu with hzero | ⟨header₀, hs, hsame⟩
      · rw [hzero] at hpos
        exact absurd hpos (by decide)
      · refine ⟨header₀, hs, ?_⟩
        rw [hsame]
        exact (UInt32.le_iff_toNat_le.mp hle).trans hcount
  · rw [hrun]
    exact h

/-- **A recorded failure** is one more. -/
theorem recordFailedUnlock_accounted (hq : env.Quiet) (hlockout : u.lockout.AtMost n)
    (h : Accounted s u (n + 1)) : Accounted s (recordFailedUnlock env uid u).2 (n + 1) := by
  rw [recordFailedUnlock_run]
  have hcounted : Accounted s (counted env uid u) (n + 1) :=
    h.of_sidecar rfl (hlockout.record env.failAt uid) h.totpLockout
  exact wipeIfReached_accounted hq hcounted (hlockout.next env.failAt uid)

theorem recordTotpFailure_accounted (hq : env.Quiet) (h : Accounted s u n) :
    Accounted s (recordTotpFailure env uid u).2 (n + 1) := by
  rw [recordTotpFailure_run]
  have hcounted : Accounted s (countedTotp env uid u) (n + 1) :=
    (h.mono (Nat.le_succ n)).of_sidecar rfl (h.lockout.mono (Nat.le_succ n))
      (h.totpLockout.record env.totpFailAt uid)
  have hlockout : (countedTotp env uid u).lockout.AtMost n := h.lockout
  have hcount : (totpFailureCount env uid u).toNat ≤ n + 1 := h.totpLockout.next env.totpFailAt uid
  exact wipeIfReached_accounted hq (recordFailedUnlock_accounted hq hlockout hcounted) hcount

/-- **What a request adds to the counts**: one if it is answered with an error, and nothing
otherwise. -/
theorem Ends.accounted {request : AuthRequest} {α : Type} {r : Except Failure α}
    (h : Ends P env uid s request r t) (hq : env.Quiet) (hlockout : s.lockout.AtMost n)
    (htotp : s.totpLockout.AtMost n) :
    Accounted s t (n + 1) ∧ ((∀ e, r ≠ .error (.err e)) → Accounted s t n) := by
  have hrelaxed : ∀ {u}, Relaxed s u → Accounted s u n := fun hu => hu.accounted hlockout htotp
  cases h with
  | accepted ht => exact ⟨(hrelaxed ht).mono (Nat.le_succ n), fun _ => hrelaxed ht⟩
  | panicked ht => exact ⟨(hrelaxed ht.relaxed).mono (Nat.le_succ n), fun _ => hrelaxed ht.relaxed⟩
  | @recorded e u hu =>
    have hu' := hrelaxed hu.relaxed
    exact ⟨recordFailedUnlock_accounted hq hu'.lockout (hu'.mono (Nat.le_succ n)),
      fun hno => absurd rfl (hno e)⟩
  | @recordedTotp e u hu =>
    have hrecorded : Accounted _ (recordTotpFailure env uid u).2 _ :=
      recordTotpFailure_accounted hq (hrelaxed hu.relaxed)
    exact ⟨hrecorded.of_sidecar rfl hrecorded.lockout hrecorded.totpLockout,
      fun hno => absurd rfl (hno e)⟩
  | @relocked e u password yk code _ _ hu =>
    -- the trackers are cleared before the failure is recorded
    have hlocked : Accounted s (lock u) n :=
      (hrelaxed hu.relaxed).of_sidecar rfl (.new n) (.new n)
    exact ⟨recordFailedUnlock_accounted hq hlocked.lockout (hlocked.mono (Nat.le_succ n)),
      fun hno => absurd rfl (hno e)⟩
  | @crowded e u recoveryKey _ _ _ hu =>
    have hu' := hrelaxed hu
    exact ⟨recordFailedUnlock_accounted hq hu'.lockout (hu'.mono (Nat.le_succ n)),
      fun hno => absurd rfl (hno e)⟩

end

/-! ## Runs -/

section

variable (P : Primitives) (J : Serde) (W : Webauthn) (F : Factors)

/-- The event is the outcome of a request whose secret does not pass. -/
def PresentsWrong (s : Serving) : ServeEvent → Prop
  | .finish env i => ∃ p, s.pending[i]? = some p ∧ SecretFails P W F env s.daemon p.request
  | _ => False

open Classical in
/-- The daemon, and how many wrong secrets it has been presented. -/
noncomputable def countingServe (sn : Serving × Nat) (e : ServeEvent) : Serving × Nat :=
  (serve P J W F sn.1 e, sn.2 + if PresentsWrong P W F sn.1 e then 1 else 0)

/-- The request that comes to its outcome is in order, and no system call fails. A request that
presents no secret adds nothing to the trackers. -/
def ServesInOrder (sn : Serving × Nat) : ServeEvent → Prop
  | .finish env i => ∀ p, sn.1.pending[i]? = some p →
      env.Quiet ∧ InOrder P J W F env p.uid p.refusal sn.1.daemon p.request
  | .other effect => sn.1.daemon.lockout.Forgets (effect sn.1.daemon).lockout ∧
      sn.1.daemon.totpLockout.Forgets (effect sn.1.daemon).totpLockout
  | _ => True

/-- If an outcome wipes the vault, as many wrong secrets as its threshold says have been presented.
-/
def WipeDue (sn : Serving × Nat) : ServeEvent → Prop
  | .finish env i => Wiped sn.1.daemon (serve P J W F sn.1 (.finish env i)).daemon →
      ∃ header, sn.1.daemon.disk.sidecar = some (.ok header) ∧
        header.duressMaxAttempts.toNat ≤ (countingServe P J W F sn (.finish env i)).2
  | _ => True

variable {P J W F}

/-- No tracker counts more than the wrong secrets there have been. -/
def Counted (sn : Serving × Nat) : Prop :=
  sn.1.daemon.lockout.AtMost sn.2 ∧ sn.1.daemon.totpLockout.AtMost sn.2

variable {sn : Serving × Nat} {e : ServeEvent}

theorem Counted.forgets (h : Counted sn) {t : Serving × Nat} (hle : sn.2 ≤ t.2)
    (hlockout : sn.1.daemon.lockout.Forgets t.1.daemon.lockout)
    (htotp : sn.1.daemon.totpLockout.Forgets t.1.daemon.totpLockout) : Counted t :=
  ⟨(h.1.forgets hlockout).mono hle, (h.2.forgets htotp).mono hle⟩

theorem countingServe_of_not (h : ¬ PresentsWrong P W F sn.1 e) :
    (countingServe P J W F sn e).2 = sn.2 := by
  rw [countingServe, if_neg h]
  rfl

/-- **The step lemma.** -/
theorem countingServe_counted (horder : ServesInOrder P J W F sn e) (h : Counted sn) :
    Counted (countingServe P J W F sn e) ∧ WipeDue P J W F sn e := by
  have hle : sn.2 ≤ (countingServe P J W F sn e).2 := Nat.le_add_right _ _
  cases e with
  | arrive env uid request =>
    have hrelaxed := checks_relaxed env uid request sn.1.daemon
    exact ⟨h.forgets hle hrelaxed.lockout hrelaxed.totpLockout, trivial⟩
  | lock => exact ⟨h.forgets hle (.clear _) (.clear _), trivial⟩
  | other effect => exact ⟨h.forgets hle horder.1 horder.2, trivial⟩
  | finish env i =>
    cases hp : sn.1.pending[i]? with
    | none =>
      have hsame : serve P J W F sn.1 (.finish env i) = sn.1 := serve_finish_none hp
      refine ⟨?_, fun hwiped => ?_⟩
      · apply h.forgets hle
        · rw [show (countingServe P J W F sn (.finish env i)).1 = sn.1 from hsame]
          exact .refl _
        · rw [show (countingServe P J W F sn (.finish env i)).1 = sn.1 from hsame]
          exact .refl _
      · rw [hsame] at hwiped
        exact absurd hwiped.1 (by rw [hwiped.2]; decide)
    | some p =>
      obtain ⟨hq, hinOrder⟩ := horder p hp
      obtain ⟨hone, hnone⟩ := (settle_ends (P := P) (J := J) (W := W) (F := F) p env
        sn.1.daemon).accounted hq h.1 h.2
      have hdaemon : (serve P J W F sn.1 (.finish env i)).daemon =
          p.settle P J W F env sn.1.daemon := by
        rw [serve_finish_some hp]
      -- the request adds to the trackers no more than to the count of wrong secrets
      have haccounted : Accounted sn.1.daemon (serve P J W F sn.1 (.finish env i)).daemon
          (countingServe P J W F sn (.finish env i)).2 := by
        rw [hdaemon]
        by_cases hwrong : SecretFails P W F env sn.1.daemon p.request
        · have hpresents : PresentsWrong P W F sn.1 (.finish env i) := ⟨p, hp, hwrong⟩
          simp only [countingServe, if_pos hpresents]
          exact hone
        · exact (hnone (outcomeOf_inOrder hq hinOrder hwrong)).mono hle
      exact ⟨⟨haccounted.lockout, haccounted.totpLockout⟩, haccounted.wiped⟩

/-- **Every wipe is due to wrong secrets**, in every run, from a daemon that has just started, of
requests that are in order. -/
theorem wipesDue_of_run {s : DaemonState} (hlockout : s.lockout = .new)
    (htotp : s.totpLockout = .new) {events : List ServeEvent}
    (horder : Along (countingServe P J W F) (idle s, 0) events (ServesInOrder P J W F)) :
    Along (countingServe P J W F) (idle s, 0) events (WipeDue P J W F) := by
  intro pre e post hevents
  have hstart : Counted (idle s, 0) := by
    refine ⟨?_, ?_⟩
    · show s.lockout.AtMost 0
      rw [hlockout]
      exact .new 0
    · show s.totpLockout.AtMost 0
      rw [htotp]
      exact .new 0
  have hcounted := Visits.invariant (I := Counted) hstart horder
    (fun sn e _ hok h => (countingServe_counted hok h).1)
    ⟨pre, ⟨e :: post, hevents.symm⟩, rfl⟩
  exact (countingServe_counted (horder pre e post hevents) hcounted).2

end

/-! ### On the symbolic vault -/

noncomputable def symbolicCount : Serving × Nat → ServeEvent → Serving × Nat :=
  countingServe symbolic spelledSerde symbolicWebauthn symbolicFactors

/-- A locked vault that allows for no failure. -/
def strictVault : DaemonState := closedVault (spelledHeader rightPassword 1) symbolicDb

def wrongUnlock : List ServeEvent :=
  [.arrive (symbolicEnv 10 5) 1000 (.unlock wrongPassword none none), .finish (symbolicEnv 11 5) 0]

theorem inOrder_strictVault (env : Env) {s : DaemonState} (hdisk : s.disk = strictVault.disk)
    (hsessions : s.sessions = .new) (password : Bytes) :
    InOrder symbolic spelledSerde symbolicWebauthn symbolicFactors env 1000 none s
      (.unlock password none none) := by
  have hs : s.disk.sidecar = some (.ok (spelledHeader rightPassword 1)) := by rw [hdisk]; rfl
  have hkek := deriveKek_symbolic password (symbolicEnv 1 1).salt
  refine .inr ⟨spelledHeader rightPassword 1, symbolicVmk, symbolicDb,
    ⟨⟨hs, ?_, rfl⟩, rfl, ?_, ⟨?_, ?_⟩,
    ?_⟩, fun hactive => nomatch hactive⟩
  · exact ⟨symbolicDb, by rw [hdisk]; rfl, applyMigrations_of_current symbolicDb_current⟩
  · exact (checkHeaderHmac_stamped symbolic_ideal).mpr rfl
  · exact ⟨_, wrappedVmk_wrap ⟨rfl, rfl, rfl, rfl⟩ hkek, .inl rfl⟩
  · exact fun plain hplain => ((unwrapVmk_wrap_iff symbolic_ideal ⟨rfl, rfl, rfl, rfl⟩).mp hplain).2
  · intro header _
    rw [hsessions]
    exact ⟨_, rfl⟩

theorem run_symbolicCount (s : Serving) (n : Nat) (events : List ServeEvent) :
    (run symbolicCount (s, n) events).1 = run symbolicServe s events := by
  induction events generalizing s n with
  | nil => rfl
  | cons e events ih => exact ih _ _

theorem wipesDue_of_run_wrongUnlock :
    Wiped strictVault (run symbolicCount (idle strictVault, 0) wrongUnlock).1.daemon ∧
      Along symbolicCount (idle strictVault, 0) wrongUnlock
        (WipeDue symbolic spelledSerde symbolicWebauthn symbolicFactors) := by
  refine ⟨⟨rfl, ?_⟩, wipesDue_of_run rfl rfl ?_⟩
  · have hserved : (run symbolicServe (idle strictVault) wrongUnlock).daemon.disk.sidecar.isNone := by
      decide +kernel
    rw [run_symbolicCount]
    exact Option.isNone_iff_eq_none.mp hserved
  · refine along_cons trivial (along_cons (fun p hp => ?_) (along_nil _))
    cases hp
    exact ⟨symbolicEnv_quiet 11 5, inOrder_strictVault _ rfl rfl wrongPassword⟩

/-- An unlocked vault that allows for no failure. -/
def strictOpenVault : DaemonState := openedVault (spelledHeader rightPassword 1) symbolicDb

/-- A change to a password that is too short, with the right one. -/
def shortChange : List ServeEvent :=
  [.arrive (symbolicEnv 10 5) 1000 (.changePassword rightPassword (utf8 "short") none),
    .finish (symbolicEnv 11 5) 0]

theorem not_presentsWrong_shortChange (sn : Serving × Nat) (hpending : sn.1.pending =
      [⟨.changePassword rightPassword (utf8 "short") none, 1000, none⟩])
    (hdisk : sn.1.daemon.disk = strictOpenVault.disk) :
    ¬ PresentsWrong symbolic symbolicWebauthn symbolicFactors sn.1
      (.finish (symbolicEnv 11 5) 0) := by
  rintro ⟨p, hp, hfails⟩
  rw [hpending] at hp
  cases hp
  obtain ⟨header, hs, hpassword⟩ := hfails
  rw [hdisk] at hs
  cases hs
  exact hpassword.unwrap_ne_ok _ (unwrapVmk_spelledHeader rightPassword 1)

/-- **A new password that is too short wipes the vault**, with no wrong secret presented. -/
theorem shortPassword_wipes :
    ¬ Along symbolicCount (idle strictOpenVault, 0) shortChange
      (WipeDue symbolic spelledSerde symbolicWebauthn symbolicFactors) := by
  intro hdue
  let arrived := symbolicCount (idle strictOpenVault, 0)
    (.arrive (symbolicEnv 10 5) 1000 (.changePassword rightPassword (utf8 "short") none))
  have hwipe := hdue [_] (.finish (symbolicEnv 11 5) 0) [] rfl
  have hcount : (symbolicCount arrived (.finish (symbolicEnv 11 5) 0)).2 = 0 :=
    (countingServe_of_not (not_presentsWrong_shortChange arrived rfl rfl)).trans
      (countingServe_of_not id)
  obtain ⟨header, hs, hle⟩ := hwipe ⟨rfl, rfl⟩
  have hzero : header.duressMaxAttempts.toNat ≤ 0 := hcount ▸ hle
  cases hs
  exact absurd hzero (by decide)

end PwdNow.Daemon
