import Mathlib.Data.List.DropRight
import Mathlib.Data.UInt
import PwdNow.Daemon.Error
import PwdNow.Kit.Run

/-!
# Daemon — `LockoutTracker` and the brute-force lockout

`daemon/src/vault/lockout.rs`. One map entry `(count, expiry)` per uid is shared by the check, the
failure counter and the pruning. The schedule gives a lock only from the fifth failure on, but the
entry of an earlier failure carries the instant of its insertion as expiry, and a check deletes
every entry whose expiry is not in the future.

Nats are nanoseconds (`std::time::Instant`), counts are `u32` with wrapping addition.
-/

namespace PwdNow.Daemon

open List

/-- `Duration::from_secs`. -/
def fromSecs (secs : Nat) : Nat := secs * 1000000000

def lockoutScheduleSecs : List Nat := [0, 0, 0, 0, 0, 30, 60, 120, 300, 600]

/-- `LOCKOUT_SCHEDULE_SECS[count.min(len - 1)]`. -/
def scheduleSecs (count : Nat) : Nat :=
  lockoutScheduleSecs.getD (min count (lockoutScheduleSecs.length - 1)) 0

structure LockoutTracker where
  map : UInt32 → Option (UInt32 × Nat)

namespace LockoutTracker

def new : LockoutTracker := ⟨fun _ => none⟩

def checkUnlockLockout (t : LockoutTracker) (now : Nat) (uid : UInt32) :
    Except VaultError Unit × LockoutTracker :=
  match t.map uid with
  | some (_, expiry) =>
    if now ≥ expiry then (.ok (), ⟨Function.update t.map uid none⟩)
    else (.error (.auth "locked out"), t)
  | none => (.ok (), t)

def recordFailedUnlock (t : LockoutTracker) (now : Nat) (uid : UInt32) :
    UInt32 × LockoutTracker :=
  -- `entry(uid).or_insert((0, now))`
  let entry := (t.map uid).getD (0, now)
  let count := entry.1 + 1
  let secs := scheduleSecs count.toNat
  let expiry := if secs > 0 then now + fromSecs secs else entry.2
  (count, ⟨Function.update t.map uid (some (count, expiry))⟩)

def resetLockout (t : LockoutTracker) (uid : UInt32) : LockoutTracker :=
  ⟨Function.update t.map uid none⟩

def clear (_ : LockoutTracker) : LockoutTracker := new

def prune (t : LockoutTracker) (now : Nat) : LockoutTracker :=
  ⟨fun uid => (t.map uid).filter fun entry => decide (entry.2 > now)⟩

/-! ## One operation at a time -/

variable {t t' : LockoutTracker} {now : Nat} {uid : UInt32}

theorem checkUnlockLockout_absent (h : t.map uid = none) :
    t.checkUnlockLockout now uid = (.ok (), t) := by
  simp [checkUnlockLockout, h]

/-- **An admitted check leaves no entry.** Either there was none, or the check found it
expired and removed it; the count goes with the expiry. -/
theorem checkUnlockLockout_ok {u : Unit} (h : t.checkUnlockLockout now uid = (.ok u, t')) :
    t'.map uid = none := by
  unfold checkUnlockLockout at h
  split at h
  · split at h
    · cases h
      simp
    · simp at h
  · next hnone =>
    cases h
    exact hnone

theorem checkUnlockLockout_error {e : VaultError}
    (h : t.checkUnlockLockout now uid = (.error e, t')) :
    t' = t ∧ ∃ count expiry, t.map uid = some (count, expiry) ∧ now < expiry := by
  unfold checkUnlockLockout at h
  split at h
  · next count expiry hentry =>
    split at h
    · simp at h
    · next hlt =>
      cases h
      exact ⟨rfl, count, expiry, hentry, by omega⟩
  · simp at h

theorem checkUnlockLockout_of_entry {count : UInt32} {expiry : Nat}
    (h : t.map uid = some (count, expiry)) :
    (t.checkUnlockLockout now uid).1.isOk = decide (expiry ≤ now) := by
  unfold checkUnlockLockout
  rw [h]
  by_cases hle : expiry ≤ now
  · simp [hle, Except.isOk, Except.toBool]
  · simp [hle, Except.isOk, Except.toBool]

/-- A failure with no entry to count from has count `1` and expires at once: the schedule gives no
lock for it. -/
theorem recordFailedUnlock_of_absent (h : t.map uid = none) :
    t.recordFailedUnlock now uid = (1, ⟨Function.update t.map uid (some (1, now))⟩) := by
  simp [recordFailedUnlock, h, scheduleSecs, lockoutScheduleSecs]

theorem recordFailedUnlock_map :
    (t.recordFailedUnlock now uid).2.map uid = some
      (((t.map uid).getD (0, now)).1 + 1,
        if scheduleSecs (((t.map uid).getD (0, now)).1 + 1).toNat > 0 then
          now + fromSecs (scheduleSecs (((t.map uid).getD (0, now)).1 + 1).toNat)
        else ((t.map uid).getD (0, now)).2) := by
  simp [recordFailedUnlock]

theorem recordFailedUnlock_other {u : UInt32} (hne : u ≠ uid) :
    (t.recordFailedUnlock now uid).2.map u = t.map u := by
  simp [recordFailedUnlock, hne]

end LockoutTracker

/-! ## Runs of attempts

An authentication attempt checks the lockout at one clock reading and, when admitted,
records its failure at a later one. `Guarded` keeps the tracker and, as history, the
instants of the failures recorded so far. -/

variable {uid : UInt32} {t : LockoutTracker} {g : Guarded} {a : Attempt}

open LockoutTracker

structure Attempt where
  checkAt : Nat
  failAt : Nat
  deriving DecidableEq

structure Guarded where
  tracker : LockoutTracker
  failures : List Nat

def attempt (uid : UInt32) (g : Guarded) (a : Attempt) : Guarded :=
  match g.tracker.checkUnlockLockout a.checkAt uid with
  | (.ok _, t) =>
    { tracker := (t.recordFailedUnlock a.failAt uid).2, failures := g.failures ++ [a.failAt] }
  | (.error _, t) => { g with tracker := t }

/-- The clock readings of a run, in the order they are taken. -/
def clockReadings (as : List Attempt) : List Nat :=
  as.flatMap fun a => [a.checkAt, a.failAt]

/-- The run of `as` from a tracker, with no failure recorded yet. -/
def attempts (uid : UInt32) (t : LockoutTracker) (as : List Attempt) : Guarded :=
  Kit.run (attempt uid) ⟨t, []⟩ as

/-- **What the lockout is for.** An attempt made after `k ≥ 5` recorded failures and less than
`LOCKOUT_SCHEDULE_SECS[min(k, 9)]` seconds after the `k`-th of them is refused. -/
def LockoutEffective (uid : UInt32) (t : LockoutTracker) (as : List Attempt) : Prop :=
  ∀ pre a post, as = pre ++ a :: post →
    ∀ last, 5 ≤ (attempts uid t pre).failures.length →
      (attempts uid t pre).failures.getLast? = some last →
      a.checkAt < last + fromSecs (scheduleSecs (attempts uid t pre).failures.length) →
      ((attempts uid t pre).tracker.checkUnlockLockout a.checkAt uid).1.isOk = false

/-- Nobody comes back early: after `k ≥ 5` attempts the next one is made only once the time that the
schedule gives for `k` failures has passed. -/
def WaitsOut (as : List Attempt) : Prop :=
  ∀ pre last a post, as = (pre ++ [last]) ++ a :: post → 5 ≤ pre.length + 1 →
    last.failAt + fromSecs (scheduleSecs (pre.length + 1)) ≤ a.checkAt

theorem clockReadings_concat (as : List Attempt) :
    clockReadings (as ++ [a]) = clockReadings as ++ [a.checkAt, a.failAt] := by
  simp [clockReadings]

theorem attempt_admitted (h : (g.tracker.checkUnlockLockout a.checkAt uid).1.isOk = true) :
    (attempt uid g a).failures = g.failures ++ [a.failAt] ∧
      (attempt uid g a).tracker.map uid = some (1, a.failAt) := by
  unfold attempt
  cases hcheck : g.tracker.checkUnlockLockout a.checkAt uid with
  | mk result t =>
    rw [hcheck] at h
    cases result with
    | error e => simp [Except.isOk, Except.toBool] at h
    | ok u =>
      have habsent := checkUnlockLockout_ok hcheck
      simp [recordFailedUnlock_of_absent habsent]

theorem attempt_refused (h : (g.tracker.checkUnlockLockout a.checkAt uid).1.isOk = false) :
    attempt uid g a = g := by
  unfold attempt
  cases hcheck : g.tracker.checkUnlockLockout a.checkAt uid with
  | mk result t =>
    rw [hcheck] at h
    cases result with
    | error e => rw [(checkUnlockLockout_error hcheck).1]
    | ok u => simp [Except.isOk, Except.toBool] at h

/-- The end of the lock a run starts under, if any. -/
def lockedUntil (t : LockoutTracker) (uid : UInt32) : Nat :=
  match t.map uid with
  | some (_, expiry) => expiry
  | none => 0

/-- The attempts of a run from the first one made after the lock it starts under. -/
def afterLock (uid : UInt32) (t : LockoutTracker) (as : List Attempt) : List Attempt :=
  as.dropWhile fun a => a.checkAt < lockedUntil t uid

theorem checkUnlockLockout_lockedUntil {t' : LockoutTracker} (h : t'.map uid = t.map uid)
    (now : Nat) : (t'.checkUnlockLockout now uid).1.isOk = decide (lockedUntil t uid ≤ now) := by
  unfold lockedUntil
  cases hentry : t.map uid with
  | none =>
    rw [checkUnlockLockout_absent (h.trans hentry)]
    simp [Except.isOk, Except.toBool]
  | some entry => exact checkUnlockLockout_of_entry (h.trans hentry)

variable {as : List Attempt}

/-- **The run lemma.** With clock readings that never go back, every attempt made after the lock
that the run started under is admitted and leaves the entry `(1, last failure)`. Induction from the
end. -/
theorem attempts_entry (hclock : (clockReadings as).Pairwise (· ≤ ·)) :
    (attempts uid t as).failures = (afterLock uid t as).map (·.failAt) ∧
      (attempts uid t as).tracker.map uid =
        match (afterLock uid t as).getLast? with
        | some last => some (1, last.failAt)
        | none => t.map uid := by
  induction as using reverseRecOn with
  | nil => exact ⟨rfl, rfl⟩
  | append_singleton as a ih =>
    rw [clockReadings_concat, pairwise_append] at hclock
    obtain ⟨hpre, -, hle⟩ := hclock
    obtain ⟨hfailures, hentry⟩ := ih hpre
    rw [attempts, Kit.run_concat, ← attempts, afterLock, dropWhile_append]
    cases hafter : afterLock uid t as with
    | nil =>
      -- nothing was admitted yet: the run's first lock decides
      rw [show dropWhile (fun a => decide (a.checkAt < lockedUntil t uid)) as = [] from hafter]
      simp only [hafter, getLast?_nil] at hfailures hentry
      have hcheck := checkUnlockLockout_lockedUntil hentry a.checkAt
      by_cases hlocked : a.checkAt < lockedUntil t uid
      · rw [attempt_refused (by rw [hcheck]; simpa using hlocked)]
        simpa [hlocked, hfailures] using hentry
      · obtain ⟨hf, he⟩ := attempt_admitted (a := a) (by rw [hcheck]; simpa using hlocked)
        simp [hlocked, hf, he, hfailures]
    | cons first rest =>
      rw [show dropWhile (fun a => decide (a.checkAt < lockedUntil t uid)) as = first :: rest
        from hafter]
      obtain ⟨last, hlast⟩ : ∃ last, (first :: rest).getLast? = some last := by
        simp [getLast?_cons]
      rw [hafter, hlast] at hentry
      -- the entry expired at the last failure, which is not after this check
      have hmem : last ∈ as :=
        (dropWhile_sublist _).mem (hafter ▸ mem_of_getLast? hlast)
      have hexpired : last.failAt ≤ a.checkAt :=
        hle last.failAt (mem_flatMap.mpr ⟨last, hmem, by simp⟩) a.checkAt (by simp)
      obtain ⟨hf, he⟩ := attempt_admitted (a := a)
        (by rw [checkUnlockLockout_of_entry hentry]; simpa using hexpired)
      have hconcat : (first :: rest ++ [a]).getLast? = some a := getLast?_concat
      rw [hf, he, hfailures, hafter, isEmpty_cons, if_neg Bool.false_ne_true, hconcat]
      exact ⟨by simp, rfl⟩

theorem clockReadings_append {bs : List Attempt} :
    clockReadings (as ++ bs) = clockReadings as ++ clockReadings bs := flatMap_append

theorem afterLock_append (h : afterLock uid t as ≠ []) (bs : List Attempt) :
    afterLock uid t (as ++ bs) = afterLock uid t as ++ bs := by
  unfold afterLock at h ⊢
  rw [dropWhile_append, if_neg (by simpa using h)]

theorem exists_afterLock_eq {pre post : List Attempt} (h : afterLock uid t as = pre ++ post)
    (hne : pre ≠ []) : ∃ as', as = as' ++ post ∧ afterLock uid t as' = pre := by
  let p : Attempt → Bool := fun a => a.checkAt < lockedUntil t uid
  refine ⟨as.takeWhile p ++ pre, ?_, ?_⟩
  · rw [append_assoc, ← h]
    exact takeWhile_append_dropWhile.symm
  · have hdrop : (pre ++ post).dropWhile p = pre ++ post := by
      rw [← h]
      exact dropWhile_idempotent p as
    have hlocked : ∀ a ∈ as.takeWhile p, p a := fun a ha => mem_takeWhile_imp ha
    rw [afterLock, dropWhile_append_of_pos hlocked]
    cases pre with
    | nil => exact absurd rfl hne
    | cons first rest =>
      -- the first attempt after the lock is not under it
      have hfirst : ¬ p first := dropWhile_eq_self_iff.mp hdrop (by simp)
      exact dropWhile_cons_of_neg hfirst

/-- **The lockout never bites.** A run sees the locks it should see exactly when, once past the lock
it may have started under, nobody comes back early. -/
theorem lockoutEffective_iff_waitsOut {uid : UInt32} {t : LockoutTracker} {as : List Attempt}
    (hclock : (clockReadings as).Pairwise (· ≤ ·)) :
    LockoutEffective uid t as ↔ WaitsOut (afterLock uid t as) := by
  constructor
  · intro heff pre last a post hafter hk
    by_contra hearly
    obtain ⟨as', has, hpre⟩ := exists_afterLock_eq hafter (by simp)
    rw [has, clockReadings_append, pairwise_append] at hclock
    obtain ⟨hclock', -, hle⟩ := hclock
    obtain ⟨hfailures, hentry⟩ := attempts_entry hclock'
    rw [hpre] at hfailures hentry
    have hrefused := heff as' a post has last.failAt (by rw [hfailures]; simpa using hk)
      (by rw [hfailures]; simp)
      (by rw [hfailures]; simp only [length_map, length_append, length_singleton]
          omega)
    have hentry' : (attempts uid t as').tracker.map uid = some (1, last.failAt) := by
      simpa using hentry
    have hmem : last ∈ as' :=
      (dropWhile_sublist _).mem (show last ∈ afterLock uid t as' by simp [hpre])
    have hexpired : last.failAt ≤ a.checkAt :=
      hle last.failAt (mem_flatMap.mpr ⟨last, hmem, by simp⟩) a.checkAt (by simp [clockReadings])
    rw [checkUnlockLockout_of_entry hentry', decide_eq_false_iff_not] at hrefused
    exact hrefused hexpired
  · intro hwait pre a post has last hk hlast hearly
    rw [has, clockReadings_append, pairwise_append] at hclock
    have hfailures : (attempts uid t pre).failures = (afterLock uid t pre).map (·.failAt) :=
      (attempts_entry hclock.1).1
    rw [hfailures] at hk hlast hearly
    -- some attempts followed the lock, so the last of them is the one whose window it is
    cases hafter : afterLock uid t pre using reverseRecOn with
    | nil => simp [hafter] at hk
    | append_singleton pre' l =>
      have hl : l.failAt = last := by simpa [hafter] using hlast
      have hsplit : afterLock uid t as = (pre' ++ [l]) ++ a :: post := by
        rw [has, afterLock_append (by simp [hafter]), hafter]
      have := hwait pre' l a post hsplit (by simpa [hafter] using hk)
      simp only [hafter, length_map, length_append, length_singleton] at hearly
      omega

/-- Ten wrong attempts, one nanosecond apart. -/
theorem lockoutEffective_iff_waitsOut_ten :
    LockoutEffective 1000 .new ((range 10).map fun i => ⟨2 * i, 2 * i + 1⟩) ↔
      WaitsOut (afterLock 1000 .new ((range 10).map fun i => ⟨2 * i, 2 * i + 1⟩)) :=
  lockoutEffective_iff_waitsOut (by decide)

/-- Six attempts in a row: the sixth check comes one nanosecond after the fifth failure,
with thirty seconds of lockout due, and is admitted. -/
theorem not_lockoutEffective_six :
    ¬ LockoutEffective 1000 .new ((range 6).map fun i => ⟨2 * i, 2 * i + 1⟩) := by
  intro heff
  have h := heff ((range 5).map fun i => ⟨2 * i, 2 * i + 1⟩) ⟨10, 11⟩ [] (by decide) 9
    (by decide) (by decide) (by decide)
  revert h
  decide

end PwdNow.Daemon
