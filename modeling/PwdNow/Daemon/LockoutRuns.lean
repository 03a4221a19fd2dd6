import PwdNow.Daemon.Serving

/-!
# Daemon — locks that hold while requests overlap

A lock is an entry with an expiry ahead of the clock. A failure recorded while a lock is in force
counts on from its entry, so the lock is extended; a check drops an entry only once it has expired.
What ends a lock early is a handler that clears the trackers on its way to a failure.
-/

namespace PwdNow.Daemon

open Kit Kit.Fallible List DaemonState

/-! ## Locks -/

namespace LockoutTracker

/-- An attempt of the uid at that instant is refused. -/
def Refuses (t : LockoutTracker) (uid : UInt32) (now : Nat) : Prop :=
  (t.checkUnlockLockout now uid).1.isOk = false

/-- Every entry expires when the schedule says so, counted from `now` at the latest. -/
def Due (t : LockoutTracker) (now : Nat) : Prop :=
  ∀ uid count expiry, t.map uid = some (count, expiry) →
    expiry ≤ now + fromSecs (scheduleSecs count.toNat)

/-- There is a lock until `expiry` or longer. -/
def HoldsUntil (t : LockoutTracker) (uid : UInt32) (expiry : Nat) : Prop :=
  ∃ count expiry', t.map uid = some (count, expiry') ∧ expiry ≤ expiry'

/-- From `since` to `till` a tracker that is on schedule stays so, and keeps every lock that
does not expire by then. -/
def Ages (since till : Nat) (t t' : LockoutTracker) : Prop :=
  t.Due since → t'.Due till ∧
    ∀ uid expiry, t.HoldsUntil uid expiry → expiry ≤ till ∨ t'.HoldsUntil uid expiry

/-- The count of the uid can still be incremented. -/
def Countable (t : LockoutTracker) (uid : UInt32) : Prop :=
  ∀ count expiry, t.map uid = some (count, expiry) → count.toNat + 1 < 2 ^ 32

variable {t t' : LockoutTracker} {uid : UInt32} {now since till expiry : Nat} {a b : Nat}

theorem HoldsUntil.refuses (h : t.HoldsUntil uid expiry) (hnow : now < expiry) :
    t.Refuses uid now := by
  obtain ⟨count, expiry', hentry, hle⟩ := h
  rw [Refuses, checkUnlockLockout_of_entry hentry, decide_eq_false_iff_not]
  omega

theorem Due.mono (h : t.Due since) (hle : since ≤ till) : t.Due till := by
  intro uid count expiry hentry
  have := h uid count expiry hentry
  omega

theorem Ages.refl (hle : since ≤ till) (t : LockoutTracker) : Ages since till t t :=
  fun h => ⟨h.mono hle, fun _ _ hlock => .inr hlock⟩

theorem scheduleSecs_mono (h : a ≤ b) : scheduleSecs a ≤ scheduleSecs b := by
  have htable : ∀ i j : Fin 10, i ≤ j →
      lockoutScheduleSecs.getD i.val 0 ≤ lockoutScheduleSecs.getD j.val 0 := by decide
  have hlen : lockoutScheduleSecs.length - 1 = 9 := rfl
  unfold scheduleSecs
  rw [hlen]
  exact htable ⟨min a 9, by omega⟩ ⟨min b 9, by omega⟩ (by simp only [Fin.mk_le_mk]; omega)

theorem fromSecs_mono (h : a ≤ b) : fromSecs a ≤ fromSecs b :=
  Nat.mul_le_mul_right _ h

/-- **A check** drops an entry of its own uid that has expired, and nothing else. -/
theorem Ages.check (h : Ages since till t t') (hnow : now ≤ till) (uid : UInt32) :
    Ages since till t (t'.checkUnlockLockout now uid).2 := by
  intro hdue
  obtain ⟨hdue', hlocks⟩ := h hdue
  cases hentry : t'.map uid with
  | none =>
    rw [checkUnlockLockout_absent hentry]
    exact ⟨hdue', hlocks⟩
  | some entry =>
    obtain ⟨count, expiry⟩ := entry
    by_cases hexpired : now ≥ expiry
    · have hdropped : (t'.checkUnlockLockout now uid).2 = ⟨Function.update t'.map uid none⟩ := by
        simp [checkUnlockLockout, hentry, hexpired]
      rw [hdropped]
      constructor
      · intro uid' count' expiry' hentry'
        by_cases hu : uid' = uid
        · simp [hu] at hentry'
        · exact hdue' uid' count' expiry' (by simpa [hu] using hentry')
      · intro uid' expiry' hlock
        rcases hlocks uid' expiry' hlock with hpast | ⟨c, x, hx, hle⟩
        · exact .inl hpast
        · by_cases hu : uid' = uid
          · -- the entry that is dropped has expired
            subst hu
            rw [hentry] at hx
            cases hx
            exact .inl (by omega)
          · exact .inr ⟨c, x, by simpa [hu] using hx, hle⟩
    · have hkept : (t'.checkUnlockLockout now uid).2 = t' := by
        simp [checkUnlockLockout, hentry, hexpired]
      rw [hkept]
      exact ⟨hdue', hlocks⟩

theorem Ages.record (hsince : since ≤ now) (htill : now ≤ till) (hcount : t.Countable uid) :
    Ages since till t (t.recordFailedUnlock now uid).2 := by
  intro hdue
  -- the count goes up by one, and the expiry that was there is on schedule
  let entry := (t.map uid).getD (0, now)
  have hnext : (entry.1 + 1).toNat = entry.1.toNat + 1 := by
    have hlt : entry.1.toNat + 1 < 2 ^ 32 := by
      cases hentry : t.map uid with
      | none => simp [entry, hentry]
      | some e => simpa [entry, hentry] using hcount e.1 e.2 hentry
    rw [UInt32.toNat_add]
    simp only [UInt32.reduceToNat]
    omega
  have hentry : entry.2 ≤ now + fromSecs (scheduleSecs entry.1.toNat) := by
    cases he : t.map uid with
    | none => simp [entry, he]
    | some e =>
      have := hdue uid e.1 e.2 he
      simp only [entry, he, Option.getD_some]
      omega
  have hlonger : fromSecs (scheduleSecs entry.1.toNat) ≤
      fromSecs (scheduleSecs (entry.1 + 1).toNat) := by
    rw [hnext]
    exact fromSecs_mono (scheduleSecs_mono (by omega))
  let expiry := if scheduleSecs (entry.1 + 1).toNat > 0 then
    now + fromSecs (scheduleSecs (entry.1 + 1).toNat) else entry.2
  have hmap : (t.recordFailedUnlock now uid).2.map uid = some (entry.1 + 1, expiry) :=
    recordFailedUnlock_map
  have hexpiry : entry.2 ≤ expiry ∧ expiry ≤ now + fromSecs (scheduleSecs (entry.1 + 1).toNat) := by
    by_cases hsecs : scheduleSecs (entry.1 + 1).toNat > 0
    · simp only [expiry, if_pos hsecs]
      omega
    · simp only [expiry, if_neg hsecs]
      omega
  constructor
  · intro uid' count' expiry' hentry'
    by_cases hu : uid' = uid
    · subst hu
      rw [hmap] at hentry'
      obtain ⟨hcount', hexpiry'⟩ := Prod.mk.inj (Option.some.inj hentry')
      rw [← hcount', ← hexpiry']
      omega
    · rw [recordFailedUnlock_other hu] at hentry'
      have := hdue uid' count' expiry' hentry'
      omega
  · rintro uid' x ⟨c, x', hx, hle⟩
    right
    by_cases hu : uid' = uid
    · subst hu
      have hsame : entry = (c, x') := by simp [entry, hx]
      refine ⟨_, expiry, hmap, ?_⟩
      rw [hsame] at hexpiry
      exact hle.trans hexpiry.1
    · exact ⟨c, x', by rw [recordFailedUnlock_other hu, hx], hle⟩

end LockoutTracker

/-! ## Runs -/

section

variable (P : Primitives) (J : Serde) (W : Webauthn) (F : Factors)

/-- The clock is never read earlier than before. -/
def Clocked (s : Serving) : ServeEvent → Prop
  | .arrive env _ _ => s.now ≤ env.checkAt ∧ env.checkAt ≤ env.totpCheckAt
  | .finish env _ => s.now ≤ env.totpFailAt ∧ env.totpFailAt ≤ env.failAt
  | _ => True

/-- Only unlocks are served, and none of them succeeds. -/
def Unsuccessful (s : Serving) : ServeEvent → Prop
  | .arrive _ _ _ => True
  | .finish env i => ∀ p, s.pending[i]? = some p → p.answer P J W F env s.daemon ≠ .ok ()
  | _ => False

/-- The next failure of the uid stays below the threshold of the header, if that has one. -/
def BelowThreshold (t : LockoutTracker) (uid : UInt32) (s : DaemonState) : Prop :=
  ∀ header, s.disk.sidecar = some (.ok header) → header.duressMaxAttempts = 0 ∨
    ((t.map uid).map (·.1)).getD 0 + 1 < header.duressMaxAttempts

/-- The outcome of a pending request does not clear or reset the trackers, and is counted. -/
structure SparesLocks (p : Pending) (env : Env) (s : DaemonState) : Prop where
  /-- a backup code comes with a password that fails -/
  backupCode : ∀ password yk code, p.request = .backupCode password yk code →
    ¬ PasswordPasses P password yk s
  /-- a recovery key that passes finds room for its session -/
  recoveryKey : ∀ recoveryKey, p.request = .recoveryKey recoveryKey →
    RecoveryKeyPasses P recoveryKey s → HasRoom env p.uid s
  /-- no wipe is due -/
  threshold : BelowThreshold s.lockout p.uid s
  totpThreshold : BelowThreshold s.totpLockout p.uid s
  /-- the counts do not overflow -/
  countable : s.lockout.Countable p.uid
  totpCountable : s.totpLockout.Countable p.uid

def Sparing (s : Serving) : ServeEvent → Prop
  | .finish env i => ∀ p, s.pending[i]? = some p → SparesLocks P p env s.daemon
  | _ => True

/-- A lock that either tracker holds at some point of the run is in force at every later
instant before its expiry. -/
def LocksHold (s : DaemonState) (events : List ServeEvent) : Prop :=
  ∀ tracker ∈ [lockout, totpLockout], ∀ pre mid post,
    events = pre ++ mid ++ post → ∀ uid count expiry,
      (tracker (run (serve P J W F) (idle s) pre).daemon).map uid = some (count, expiry) →
      ∀ now, (run (serve P J W F) (idle s) (pre ++ mid)).now ≤ now → now < expiry →
        (tracker (run (serve P J W F) (idle s) (pre ++ mid)).daemon).Refuses uid now

variable {P J W F} {s t u : DaemonState} {env : Env} {uid : UInt32} {p : Pending}

/-! ### One request -/

theorem failureCount_eq : failureCount env uid s = ((s.lockout.map uid).map (·.1)).getD 0 + 1 := by
  unfold failureCount LockoutTracker.recordFailedUnlock
  cases s.lockout.map uid <;> rfl

theorem totpFailureCount_eq :
    totpFailureCount env uid s = ((s.totpLockout.map uid).map (·.1)).getD 0 + 1 := by
  unfold totpFailureCount LockoutTracker.recordFailedUnlock
  cases s.totpLockout.map uid <;> rfl

theorem BelowThreshold.not_reached {tracker : LockoutTracker} (h : BelowThreshold tracker uid s)
    (hu : Undisturbed s u) {count : UInt32}
    (hcount : count = ((tracker.map uid).map (·.1)).getD 0 + 1) : ¬ Reached env count u := by
  rintro ⟨-, header, hsidecar, hpos, hreached⟩
  rcases hu.threshold header hsidecar with hzero | ⟨header₀, hs, hsame⟩
  · rw [hzero] at hpos
    exact absurd hpos (by decide)
  · rw [← hsame] at hpos hreached
    rcases h header₀ hs with hzero | hbelow
    · rw [hzero] at hpos
      exact absurd hpos (by decide)
    · rw [hcount] at hreached
      exact absurd hbelow (UInt32.not_lt.mpr hreached)

theorem recordFailedUnlock_below (h : BelowThreshold s.lockout uid s) (hu : Undisturbed s u) :
    (recordFailedUnlock env uid u).2 = counted env uid u := by
  have hcount : failureCount env uid u = ((s.lockout.map uid).map (·.1)).getD 0 + 1 := by
    rw [failureCount_eq, hu.lockout]
  rcases recordFailedUnlock_cases env uid u with ⟨hreached, -⟩ | ⟨-, hrun⟩
  · exact absurd hreached (h.not_reached hu hcount)
  · rw [hrun]

/-- **What a failed request leaves in the trackers** when it clears nothing and wipes nothing:
one more failure in each of them at most. -/
theorem Ends.trackers {r : Except Failure Unit} (h : Ends P env p.uid s p.request r t)
    (hfails : r ≠ .ok ()) (hspares : SparesLocks P p env s) :
    (t.lockout = s.lockout ∨ t.lockout = (s.lockout.recordFailedUnlock env.failAt p.uid).2) ∧
      (t.totpLockout = s.totpLockout ∨
        t.totpLockout = (s.totpLockout.recordFailedUnlock env.totpFailAt p.uid).2) := by
  cases h with
  | accepted => exact absurd rfl hfails
  | panicked ht => exact ⟨.inl ht.lockout, .inl ht.totpLockout⟩
  | recorded hu =>
    rw [recordFailedUnlock_below hspares.threshold hu]
    refine ⟨.inr ?_, .inl hu.totpLockout⟩
    rw [counted, hu.lockout]
  | @recordedTotp _ u hu =>
    -- the tracker of the second factor first, then the other one
    have hfirst : (recordFailedUnlock env p.uid (countedTotp env p.uid u)).2 =
        counted env p.uid (countedTotp env p.uid u) := by
      have hcount : failureCount env p.uid (countedTotp env p.uid u) =
          ((s.lockout.map p.uid).map (·.1)).getD 0 + 1 := by
        rw [failureCount_eq, countedTotp, hu.lockout]
      rcases recordFailedUnlock_cases env p.uid (countedTotp env p.uid u) with
        ⟨hreached, -⟩ | ⟨-, hrun⟩
      · exact absurd hreached (hspares.threshold.not_reached hu hcount)
      · rw [hrun]
    have hsecond : (recordTotpFailure env p.uid u).2 =
        counted env p.uid (countedTotp env p.uid u) := by
      rw [recordTotpFailure_run, hfirst]
      have hcount : totpFailureCount env p.uid u =
          ((s.totpLockout.map p.uid).map (·.1)).getD 0 + 1 := by
        rw [totpFailureCount_eq, hu.totpLockout]
      rcases wipeIfReached_cases env (totpFailureCount env p.uid u)
        (counted env p.uid (countedTotp env p.uid u)) with ⟨hreached, -⟩ | ⟨-, hrun⟩
      · exact absurd hreached (hspares.totpThreshold.not_reached hu hcount)
      · rw [hrun]
    rw [hsecond]
    constructor
    · right
      show (u.lockout.recordFailedUnlock env.failAt p.uid).2 = _
      rw [hu.lockout]
    · right
      show (u.totpLockout.recordFailedUnlock env.totpFailAt p.uid).2 = _
      rw [hu.totpLockout]
  | relocked hrequest hpassed => exact absurd hpassed (hspares.backupCode _ _ _ hrequest)
  | crowded hrequest hpassed hroom =>
    exact absurd (hspares.recoveryKey _ hrequest hpassed) hroom

/-! ### Whole runs -/

/-- Both trackers age. -/
def BothAge (since till : Nat) (s t : DaemonState) : Prop :=
  LockoutTracker.Ages since till s.lockout t.lockout ∧
    LockoutTracker.Ages since till s.totpLockout t.totpLockout

/-- **The step lemma.** -/
theorem serve_ages {s : Serving} {e : ServeEvent} (hclock : Clocked s e)
    (hfails : Unsuccessful P J W F s e) (hspares : Sparing P s e) :
    s.now ≤ (serve P J W F s e).now ∧
      BothAge s.now (serve P J W F s e).now s.daemon (serve P J W F s e).daemon := by
  cases e with
  | arrive env uid request =>
    obtain ⟨hcheck, htotp⟩ := hclock
    have hle : s.now ≤ env.totpCheckAt := hcheck.trans htotp
    refine ⟨hle, ?_⟩
    refine checks_preserves (I := BothAge s.now env.totpCheckAt s.daemon) ?_ ?_ request s.daemon
      ⟨.refl hle _, .refl hle _⟩
    · exact fun t ht => ⟨ht.1.check htotp uid, ht.2⟩
    · exact fun t ht => ⟨ht.1, ht.2.check le_rfl uid⟩
  | finish env i =>
    cases hp : s.pending[i]? with
    | none =>
      rw [serve_finish_none hp]
      exact ⟨le_rfl, .refl le_rfl _, .refl le_rfl _⟩
    | some p =>
      obtain ⟨htotp, hfail⟩ := hclock
      have hle : s.now ≤ env.failAt := htotp.trans hfail
      have hp' := hspares p hp
      obtain ⟨hlockout, hsecond⟩ := (settle_ends p env s.daemon).trackers (hfails p hp) hp'
      rw [serve_finish_some hp]
      refine ⟨hle, ?_, ?_⟩
      · rcases hlockout with hsame | hrecord
        · rw [hsame]
          exact .refl hle _
        · rw [hrecord]
          exact .record hle le_rfl hp'.countable
      · rcases hsecond with hsame | hrecord
        · rw [hsame]
          exact .refl hle _
        · rw [hrecord]
          exact .record htotp hfail hp'.totpCountable
  | lock => exact absurd hfails id
  | other effect => exact absurd hfails id

/-- **Every lock is in force until it expires**, however the requests overlap, from a daemon that
has just started, as long as no unlock succeeds, no backup code is presented with a password that
passes, no recovery key that passes is turned away for lack of room, and no count reaches a
threshold or overflows. -/
theorem locksHold_of_run (hlockout : s.lockout = .new) (htotp : s.totpLockout = .new)
    {events : List ServeEvent} (hclock : Along (serve P J W F) (idle s) events Clocked)
    (hfails : Along (serve P J W F) (idle s) events (Unsuccessful P J W F))
    (hspares : Along (serve P J W F) (idle s) events (Sparing P)) :
    LocksHold P J W F s events := by
  have hall := (hclock.and hfails).and hspares
  intro tracker htracker pre mid post hevents uid count expiry hentry now hnow hahead
  rw [hevents] at hall
  -- the two trackers are on schedule wherever the run has got to
  have hage : ∀ (s : Serving) (e : ServeEvent),
      (Clocked s e ∧ Unsuccessful P J W F s e) ∧ Sparing P s e →
        s.now ≤ (serve P J W F s e).now ∧ (tracker s.daemon).Ages s.now (serve P J W F s e).now
          (tracker (serve P J W F s e).daemon) := by
    intro s e hok
    obtain ⟨hle, hfirst, hsecond⟩ := serve_ages hok.1.1 hok.1.2 hok.2
    simp only [mem_cons, not_mem_nil, or_false] at htracker
    rcases htracker with rfl | rfl
    · exact ⟨hle, hfirst⟩
    · exact ⟨hle, hsecond⟩
  have hempty : (tracker s).Due 0 := by
    simp only [mem_cons, not_mem_nil, or_false] at htracker
    rcases htracker with rfl | rfl
    · rw [hlockout]
      intro _ _ _ hnone
      cases hnone
    · rw [htotp]
      intro _ _ _ hnone
      cases hnone
  have hdue : (tracker (run (serve P J W F) (idle s) pre).daemon).Due
      (run (serve P J W F) (idle s) pre).now := by
    exact Visits.invariant (I := fun s : Serving => (tracker s.daemon).Due s.now) hempty
      hall.left.left (fun s e _ hok hs => ((hage s e hok).2 hs).1) (.last _ _ _)
  -- from there on the lock is kept
  have hkept := Visits.invariant (I := fun s : Serving => (tracker s.daemon).Due s.now ∧
      (expiry ≤ s.now ∨ (tracker s.daemon).HoldsUntil uid expiry))
    ⟨hdue, .inr ⟨count, expiry, hentry, le_rfl⟩⟩ hall.stretch
    (fun s e _ hok hs => by
      obtain ⟨hle, hages⟩ := hage s e hok
      obtain ⟨hdue', hlocks⟩ := hages hs.1
      refine ⟨hdue', ?_⟩
      rcases hs.2 with hpast | hholds
      · exact .inl (hpast.trans hle)
      · exact hlocks uid expiry hholds)
    (.last _ _ _)
  rw [← run_append] at hkept
  rcases hkept.2 with hpast | hholds
  · omega
  · exact hholds.refuses hahead

end

/-! ### On the symbolic vault -/

/-- A vault with a second factor. -/
def guardedDb : Database :=
  { symbolicDb with
    otpConfig :=
      [{ id := "totp"
         encryptedSecret := []
         secretNonce := []
         backupCodes :=
          symbolic.aesGcm.encrypt symbolicVmk (.replicate 12 1) TotpDb.backupAad []
         backupNonce := (Block.replicate 12 1).bytes
         createdAt := 1 }] }

def guardedVault : DaemonState := closedVault (spelledHeader oldPassword 0) guardedDb

/-- Five requests with a recovery key, where none is enrolled, arrive before the first of them
comes to its outcome. -/
def fiveFailures : List ServeEvent :=
  replicate 5 (.arrive (symbolicEnv 1 1) 1000 (.recoveryKey [])) ++
    replicate 5 (.finish (symbolicEnv 2 2) 0)

def guardedRun (events : List ServeEvent) : Serving :=
  run symbolicServe (idle guardedVault) events

variable {s : DaemonState}

theorem sparesLocks_recoveryKey {env : Env} {refusal : Option VaultError}
    (hs : s.disk.sidecar = some (.ok (spelledHeader oldPassword 0)))
    (hcount : s.lockout.Countable 1000) (htotp : s.totpLockout = .new) :
    SparesLocks symbolic ⟨.recoveryKey [], 1000, refusal⟩ env s where
  backupCode := by
    intro password yk code hrequest
    cases hrequest
  recoveryKey := by
    rintro recoveryKey - ⟨header, entry, plain, hs', hentry, -⟩
    rw [hs] at hs'
    cases hs'
    cases hentry
  threshold := by
    intro header hs'
    rw [hs] at hs'
    cases hs'
    exact .inl rfl
  totpThreshold := by
    intro header hs'
    rw [hs] at hs'
    cases hs'
    exact .inl rfl
  countable := hcount
  totpCountable := by
    rw [htotp]
    intro count expiry hentry
    cases hentry

theorem locksHold_of_run_fiveFailures :
    (guardedRun fiveFailures).daemon.lockout.map 1000 = some (5, fromSecs 32 + 1) ∧
      LocksHold symbolic spelledSerde symbolicWebauthn symbolicFactors guardedVault
        fiveFailures := by
  refine ⟨rfl, locksHold_of_run rfl rfl ?_ ?_ ?_⟩
  · repeat' first | exact along_nil _ | refine along_cons ?_ ?_
    all_goals exact ⟨by decide, by decide⟩
  · repeat' first | exact along_nil _ | refine along_cons ?_ ?_
    all_goals first | trivial | exact fun p hp => by cases hp; exact fun h => nomatch h
  · repeat' first | exact along_nil _ | refine along_cons ?_ ?_
    all_goals first
      | trivial
      | exact fun p hp => by
          cases hp
          exact sparesLocks_recoveryKey rfl (fun _ _ h => by cases h <;> decide) rfl

/-- The same, after a request with a backup code has arrived. -/
def crossingFailures : List ServeEvent :=
  .arrive (symbolicEnv 1 1) 1000 (.backupCode oldPassword none "code") ::
    replicate 5 (.arrive (symbolicEnv 1 1) 1000 (.recoveryKey [])) ++
      replicate 5 (.finish (symbolicEnv 2 2) 1)

/-- That request comes to its outcome. Its password is right and its code is not. -/
def relock : ServeEvent := .finish (symbolicEnv 3 3) 0

theorem guardedRun_crossingFailures :
    (guardedRun crossingFailures).daemon.lockout.map 1000 = some (5, fromSecs 32 + 1) ∧
      (guardedRun crossingFailures).daemon.disk = guardedVault.disk ∧
      (guardedRun crossingFailures).pending =
        [⟨.backupCode oldPassword none "code", 1000, none⟩] ∧
      (guardedRun crossingFailures).now = fromSecs 2 + 1 :=
  ⟨rfl, rfl, rfl, rfl⟩

theorem crossingFailures_clocked :
    Along symbolicServe (idle guardedVault) crossingFailures Clocked := by
  repeat' first | exact along_nil _ | refine along_cons ?_ ?_
  all_goals exact ⟨by decide, by decide⟩

theorem crossingFailures_unsuccessful :
    Along symbolicServe (idle guardedVault) crossingFailures
      (Unsuccessful symbolic spelledSerde symbolicWebauthn symbolicFactors) := by
  repeat' first | exact along_nil _ | refine along_cons ?_ ?_
  all_goals first | trivial | exact fun p hp => by cases hp; exact fun h => nomatch h

theorem outcomeOf_backupCode_eq {password : Bytes} {yk : Option (Block 20)} {header : VaultHeader}
    {vmk : Block 32} (h : OpensHeader P J env password yk s header vmk) (uid : UInt32)
    (code : String) :
    outcomeOf P J W F env uid none (.backupCode password yk code) s =
      (attemptErr (enterVault P J env password yk uid header vmk) >>= settleUnlock env uid >>=
        fun session => do let _ ← backupFactor P F env uid code session) s := by
  rw [outcomeOf, bind_run, bind_run, tryPassword, bind_run_ok (gets_run _ s), if_pos h.vault,
    bind_run, bind_run, attemptErr, attemptErr, h.unlockExisting]

theorem outcomeOf_wrong_backupCode :
    ∃ e t, outcomeOf symbolic spelledSerde symbolicWebauthn symbolicFactors (symbolicEnv 3 3) 1000
        none (.backupCode oldPassword none "code") (guardedRun crossingFailures).daemon =
          (.error (.err e), t) ∧
      t.lockout.map 1000 = some (1, fromSecs 3 + 1) := by
  have hdisk := guardedRun_crossingFailures.2.1
  have hs : (guardedRun crossingFailures).daemon.disk.sidecar =
      some (.ok (spelledHeader oldPassword 0)) := by rw [hdisk]; rfl
  have hrun := outcomeOf_backupCode_eq (W := symbolicWebauthn) (F := symbolicFactors)
    (opensHeader_spelled (symbolicEnv_quiet 3 3) hs (by rw [hdisk]; rfl)) 1000 "code"
  refine ⟨.auth "invalid or already-used backup code", _, hrun.trans (eq_mk_of_fst ?_), ?_⟩
  · decide +kernel
  · decide +kernel

/-- **A wrong backup code ends the lock** that five other failures have set. -/
theorem backupCode_ends_lock :
    Along symbolicServe (idle guardedVault) (crossingFailures ++ [relock]) Clocked ∧
      Along symbolicServe (idle guardedVault) (crossingFailures ++ [relock])
        (Unsuccessful symbolic spelledSerde symbolicWebauthn symbolicFactors) ∧
      ¬ LocksHold symbolic spelledSerde symbolicWebauthn symbolicFactors guardedVault
        (crossingFailures ++ [relock]) := by
  obtain ⟨hlock, -, hpending, hnow⟩ := guardedRun_crossingFailures
  obtain ⟨e, t, hrun, hfirst⟩ := outcomeOf_wrong_backupCode
  have hat : (guardedRun crossingFailures).pending[0]? =
      some ⟨.backupCode oldPassword none "code", 1000, none⟩ := by rw [hpending]; rfl
  have hsettled : run symbolicServe (idle guardedVault) (crossingFailures ++ [relock]) =
      ⟨t, (guardedRun crossingFailures).pending.eraseIdx 0, fromSecs 3 + 1⟩ := by
    rw [run_concat]
    refine (serve_finish_some hat).trans ?_
    rw [Pending.settle, hrun]
    rfl
  refine ⟨crossingFailures_clocked.concat ⟨?_, le_rfl⟩,
    crossingFailures_unsuccessful.concat fun p hp => ?_, fun hholds => ?_⟩
  · show (guardedRun crossingFailures).now ≤ fromSecs 3 + 1
    rw [hnow]
    decide
  · have hpresented := Option.some.inj (hat.symm.trans hp)
    rw [← hpresented, Pending.answer]
    intro hok
    exact nomatch (congrArg Prod.fst hrun).symm.trans hok
  · have hstill := hholds lockout (by simp) crossingFailures [relock] [] (by simp) 1000
      5 (fromSecs 32 + 1) hlock (fromSecs 4)
    rw [show run (serve symbolic spelledSerde symbolicWebauthn symbolicFactors)
      (idle guardedVault) (crossingFailures ++ [relock]) = _ from hsettled] at hstill
    have hclock : fromSecs 3 + 1 ≤ fromSecs 4 := by decide
    have hrefuses : t.lockout.Refuses 1000 (fromSecs 4) := hstill hclock (by decide)
    rw [LockoutTracker.Refuses, LockoutTracker.checkUnlockLockout_of_entry hfirst,
      decide_eq_false_iff_not] at hrefuses
    exact hrefuses (by decide)

end PwdNow.Daemon
