import PwdNow.Daemon.Symbolic

/-!
# Daemon — the challenge table over time

`new_biometric_challenge`, the three names it also goes by, and `consume_challenge` of
`daemon/src/vault/state.rs`, in any order. The table is behind a mutex, so the calls are a list; the
readings of `Instant::now()` do not go back, and no value is drawn twice.
-/

namespace PwdNow.Daemon

open Kit Kit.Fallible List

def newPasskeyChallenge (env : Env) : Call (Block 32) := newBiometricChallenge env

def newPqcChallenge (env : Env) : Call (Block 32) := newBiometricChallenge env

def newQuickUnlockChallenge (env : Env) : Call (Block 32) := newBiometricChallenge env

inductive ChallengeKind where
  | biometric | passkey | pqc | quickUnlock

def ChallengeKind.new (env : Env) : ChallengeKind → Call (Block 32)
  | biometric => newBiometricChallenge env
  | passkey => newPasskeyChallenge env
  | pqc => newPqcChallenge env
  | quickUnlock => newQuickUnlockChallenge env

inductive ChallengeCall where
  | issue (kind : ChallengeKind) (env : Env)
  | consume (env : Env) (chal : Block 32)

open ChallengeCall

namespace ChallengeCall

def now : ChallengeCall → Nat
  | issue _ env => env.challengeAt
  | consume env _ => env.challengeAt

/-- The value that is drawn, and returned to the client. -/
def draw : ChallengeCall → Option (Block 32)
  | issue _ env => some env.challenge
  | consume _ _ => none

@[simp] theorem filterMap_draw_issue (kind : ChallengeKind) (env : Env)
    (calls : List ChallengeCall) :
    (issue kind env :: calls).filterMap draw = env.challenge :: calls.filterMap draw := rfl

@[simp] theorem filterMap_draw_consume (env : Env) (chal : Block 32) (calls : List ChallengeCall) :
    (consume env chal :: calls).filterMap draw = calls.filterMap draw := rfl

/-- The state after a call, whatever its answer. -/
def step (s : DaemonState) : ChallengeCall → DaemonState
  | issue kind env => (kind.new env s).2
  | consume env chal => (consumeChallenge env chal s).2

end ChallengeCall

/-- `consume_challenge` returns true. -/
def accepts (s : DaemonState) (env : Env) (chal : Block 32) : Bool :=
  match (consumeChallenge env chal s).1 with
  | .ok () => true
  | .error _ => false

/-- The values that are accepted in the course of a run. -/
def acceptances (s : DaemonState) : List ChallengeCall → List (Block 32)
  | [] => []
  | .issue kind env :: calls => acceptances (step s (.issue kind env)) calls
  | .consume env chal :: calls =>
    (if accepts s env chal then [chal] else []) ++ acceptances (step s (.consume env chal)) calls

/-- Fewer than a thousand challenges are outstanding. -/
def HasSpace (s : DaemonState) (env : Env) : Prop :=
  (s.challenges.filter fun c => env.challengeAt < c.2).length < 1000

instance (s : DaemonState) (env : Env) : Decidable (HasSpace s env) :=
  inferInstanceAs (Decidable ((s.challenges.filter fun c => env.challengeAt < c.2).length < 1000))

section

variable {s : DaemonState} {env : Env} {kind : ChallengeKind} {chal : Block 32}
  {entry : Block 32 × Nat} {calls : List ChallengeCall}

/-! ## One call -/

theorem issue_challenges :
    (step s (.issue kind env)).challenges =
      if HasSpace s env then
        (s.challenges.filter fun c => env.challengeAt < c.2).filter (·.1 ≠ env.challenge) ++
          [(env.challenge, env.challengeAt + fromSecs 600)]
      else s.challenges.filter fun c => env.challengeAt < c.2 := by
  cases kind <;> rfl

theorem consume_challenges :
    (step s (.consume env chal)).challenges = s.challenges.filter (·.1 ≠ chal) := by
  simp only [step, consumeChallenge, bind_run_ok (gets_run _ s),
    bind_run_ok (modify_run _ s), require, lift_run]

theorem accepts_iff :
    accepts s env chal = true ↔
      ∃ expiry, (chal, expiry) ∈ s.challenges ∧ env.challengeAt < expiry := by
  have hlive : accepts s env chal =
      s.challenges.any fun c => c.1 = chal && env.challengeAt < c.2 := by
    simp only [accepts, consumeChallenge, bind_run_ok (gets_run _ s),
      bind_run_ok (modify_run _ s), require, lift_run]
    cases s.challenges.any fun c => c.1 = chal && env.challengeAt < c.2 <;> rfl
  rw [hlive, any_eq_true]
  constructor
  · rintro ⟨⟨value, expiry⟩, hmem, hlive⟩
    simp only [Bool.and_eq_true, decide_eq_true_eq] at hlive
    obtain ⟨rfl, hlt⟩ := hlive
    exact ⟨expiry, hmem, hlt⟩
  · rintro ⟨expiry, hmem, hlt⟩
    exact ⟨(chal, expiry), hmem, by simp [hlt]⟩

theorem mem_issue (h : entry ∈ (step s (.issue kind env)).challenges) :
    entry ∈ s.challenges ∨ entry = (env.challenge, env.challengeAt + fromSecs 600) := by
  rw [issue_challenges] at h
  split at h
  · rcases mem_append.mp h with hold | hnew
    · exact .inl (mem_of_mem_filter (mem_of_mem_filter hold))
    · exact .inr (mem_singleton.mp hnew)
  · exact .inl (mem_of_mem_filter h)

/-! ## At most once -/

/-- Whether the value is in the table, as a number. -/
def pending (s : DaemonState) (chal : Block 32) : Nat :=
  if chal ∈ s.challenges.map (·.1) then 1 else 0

theorem pending_mono {t : DaemonState}
    (h : chal ∈ t.challenges.map (·.1) → chal ∈ s.challenges.map (·.1)) :
    pending t chal ≤ pending s chal := by
  unfold pending
  split
  next hmem => rw [if_pos (h hmem)]
  next => exact Nat.zero_le _

theorem pending_issue (kind : ChallengeKind) (env : Env) (s : DaemonState) (chal : Block 32) :
    pending (step s (.issue kind env)) chal ≤ pending s chal + [env.challenge].count chal := by
  by_cases hdraw : env.challenge = chal
  · subst hdraw
    have hle : pending (step s (.issue kind env)) env.challenge ≤ 1 := by
      unfold pending
      split <;> omega
    rw [count_singleton_self]
    omega
  · refine (pending_mono fun hmem => ?_).trans (Nat.le_add_right _ _)
    obtain ⟨entry, hentry, rfl⟩ := mem_map.mp hmem
    rcases mem_issue hentry with hold | rfl
    · exact mem_map.mpr ⟨entry, hold, rfl⟩
    · exact absurd rfl hdraw

theorem pending_consume (env : Env) (s : DaemonState) (value chal : Block 32) :
    (if accepts s env value then [value] else []).count chal +
        pending (step s (.consume env value)) chal ≤ pending s chal := by
  have hkept : pending (step s (.consume env value)) chal ≤ pending s chal := by
    refine pending_mono fun hmem => ?_
    rw [consume_challenges] at hmem
    obtain ⟨entry, hentry, rfl⟩ := mem_map.mp hmem
    exact mem_map.mpr ⟨entry, mem_of_mem_filter hentry, rfl⟩
  split
  next haccepted =>
    by_cases hvalue : value = chal
    · subst hvalue
      -- it was there, and no entry of that value is left
      obtain ⟨expiry, hmem, -⟩ := accepts_iff.mp haccepted
      have hbefore : pending s value = 1 := if_pos (mem_map.mpr ⟨_, hmem, rfl⟩)
      have hafter : pending (step s (.consume env value)) value = 0 := by
        refine if_neg fun hleft => ?_
        rw [consume_challenges] at hleft
        obtain ⟨entry, hentry, heq⟩ := mem_map.mp hleft
        exact of_decide_eq_true (mem_filter.mp hentry).2 heq
      rw [count_singleton_self, hbefore, hafter]
    · rw [count_singleton, beq_eq_false_iff_ne.mpr hvalue]
      simpa using hkept
  next => simpa using hkept

/-- As often as it is in the table or drawn. Induction on the calls. -/
theorem count_acceptances_le (calls : List ChallengeCall) (s : DaemonState) (chal : Block 32) :
    (acceptances s calls).count chal ≤ pending s chal + (calls.filterMap draw).count chal := by
  induction calls generalizing s with
  | nil => exact Nat.zero_le _
  | cons call calls ih =>
    cases call with
    | issue kind env =>
      have hissue := pending_issue kind env s chal
      have hrest := ih (step s (.issue kind env))
      rw [acceptances, filterMap_draw_issue, count_cons]
      rw [count_singleton] at hissue
      omega
    | consume env value =>
      have hconsume := pending_consume env s value chal
      have hrest := ih (step s (.consume env value))
      rw [acceptances, filterMap_draw_consume, count_append]
      omega

/-! ## Never late -/

/-- **What is in the table was issued.** Induction on the calls, from their end. -/
theorem issued_of_mem (hnew : s.challenges = []) :
    ∀ entry ∈ (run step s calls).challenges, ∃ kind env, issue kind env ∈ calls ∧
        entry = (env.challenge, env.challengeAt + fromSecs 600) := by
  induction calls using reverseRecOn with
  | nil =>
    intro entry hentry
    rw [run_nil, hnew] at hentry
    cases hentry
  | append_singleton calls call ih =>
    have hold : ∀ entry ∈ (run step s calls).challenges, ∃ kind env,
        issue kind env ∈ calls ++ [call] ∧
          entry = (env.challenge, env.challengeAt + fromSecs 600) := by
      intro entry hentry
      obtain ⟨kind, env, hissue, heq⟩ := ih entry hentry
      exact ⟨kind, env, mem_append_left _ hissue, heq⟩
    intro entry hentry
    rw [run_concat] at hentry
    cases call with
    | issue kind env =>
      rcases mem_issue hentry with hmem | rfl
      · exact hold entry hmem
      · exact ⟨kind, env, by simp, rfl⟩
    | consume env chal =>
      rw [consume_challenges] at hentry
      exact hold entry (mem_of_mem_filter hentry)

/-! ## In time -/

/-- The call leaves the entry alone: it comes before the entry expires, and neither draws nor
looks up its value. -/
structure Spares (entry : Block 32 × Nat) (call : ChallengeCall) : Prop where
  early : call.now < entry.2
  draw : call.draw ≠ some entry.1
  lookup : ∀ env, call ≠ .consume env entry.1

theorem mem_step (h : entry ∈ s.challenges) {call : ChallengeCall} (hspares : Spares entry call) :
    entry ∈ (step s call).challenges := by
  cases call with
  | issue kind env =>
    have hlive : entry ∈ s.challenges.filter fun c => env.challengeAt < c.2 :=
      mem_filter.mpr ⟨h, decide_eq_true hspares.early⟩
    rw [issue_challenges]
    split
    · refine mem_append_left _ (mem_filter.mpr ⟨hlive, decide_eq_true ?_⟩)
      exact fun heq => hspares.draw (by rw [heq]; rfl)
    · exact hlive
  | consume env chal =>
    rw [consume_challenges]
    refine mem_filter.mpr ⟨h, decide_eq_true fun heq => ?_⟩
    exact hspares.lookup env (by rw [heq])

/-- **An entry stays until it is consumed or expires.** -/
theorem mem_run (h : entry ∈ s.challenges) (hspares : ∀ call ∈ calls, Spares entry call) :
    entry ∈ (run step s calls).challenges := by
  refine Visits.invariant (I := fun s : DaemonState => entry ∈ s.challenges) h
    (along_true _) (fun s call hcall _ hs => ?_) (.last _ _ _)
  exact mem_step hs (hspares call hcall)

theorem mem_issued (hspace : HasSpace s env) :
    (env.challenge, env.challengeAt + fromSecs 600) ∈ (step s (.issue kind env)).challenges := by
  rw [issue_challenges, if_pos hspace]
  exact mem_append_right _ (mem_singleton_self _)

end

/-! ## Runs -/

/-- **Challenges are single-use, and usable while there is room.** Over any calls on an empty table,
at times that do not go back, a value is accepted at most once, less than 600 s after it was issued;
and it is, when first presented in that time, if the table was not full when it was issued. -/
theorem challenges_single_use (s : DaemonState) (hnew : s.challenges = [])
    (calls : List ChallengeCall) (htimes : (calls.map now).Pairwise (· ≤ ·))
    (hdraws : (calls.filterMap draw).Nodup) :
    (∀ chal, (acceptances s calls).count chal ≤ 1) ∧
    (∀ pre env chal post, calls = pre ++ .consume env chal :: post →
      accepts (run step s pre) env chal = true →
      ∃ kind env₀, issue kind env₀ ∈ pre ∧ env₀.challenge = chal ∧
        env.challengeAt < env₀.challengeAt + fromSecs 600) ∧
    (∀ pre kind env₀ mid env post,
      calls = pre ++ .issue kind env₀ :: (mid ++ .consume env env₀.challenge :: post) →
      (∀ env', consume env' env₀.challenge ∉ mid) →
      env.challengeAt < env₀.challengeAt + fromSecs 600 →
      HasSpace (run step s pre) env₀ →
      accepts (run step s (pre ++ .issue kind env₀ :: mid)) env env₀.challenge = true) := by
  refine ⟨fun chal => ?_, ?_, ?_⟩
  · have hcount := count_acceptances_le calls s chal
    have hnone : pending s chal = 0 := by
      rw [pending, hnew]
      rfl
    have hdrawn := nodup_iff_count_le_one.mp hdraws chal
    omega
  · rintro pre env chal post rfl haccepted
    obtain ⟨expiry, hmem, hlt⟩ := accepts_iff.mp haccepted
    obtain ⟨kind, env₀, hissue, heq⟩ := issued_of_mem hnew _ hmem
    cases heq
    exact ⟨kind, env₀, hissue, rfl, hlt⟩
  · rintro pre kind env₀ mid env post rfl hfirst hlt hspace
    -- the entry is made, and what comes in between spares it
    rw [run_append, run_cons]
    refine accepts_iff.mpr ⟨_, mem_run (mem_issued hspace) fun call hcall => ⟨?_, ?_, ?_⟩, hlt⟩
    · have hle : call.now ≤ env.challengeAt := by
        rw [map_append, map_cons, map_append, map_cons,
          pairwise_append, pairwise_cons, pairwise_append] at htimes
        exact htimes.2.1.2.2.2 _ (mem_map_of_mem hcall) _ mem_cons_self
      exact hle.trans_lt hlt
    · intro hdraw
      rw [filterMap_append, filterMap_draw_issue, filterMap_append,
        nodup_append, nodup_cons] at hdraws
      exact hdraws.2.1.1 (mem_append_left _ (mem_filterMap.mpr ⟨call, hcall, hdraw⟩))
    · rintro env' rfl
      exact hfirst env' hcall

/-! ### A thousand challenges -/

def challengeNo (i : Nat) : Block 32 :=
  ⟨UInt8.ofNat (i / 256) :: UInt8.ofNat (i % 256) :: replicate 30 0, by simp⟩

/-- The `i`-th call of all, at the beginning of time. -/
def challengeEnv (i : Nat) : Env := { symbolicEnv 0 0 with challenge := challengeNo i }

def issueMany (n : Nat) : List ChallengeCall :=
  (range n).map fun i => .issue .passkey (challengeEnv i)

theorem challengeNo_inj {i j : Nat} (hi : i < 65536) (hj : j < 65536)
    (h : challengeNo i = challengeNo j) : i = j := by
  have hbytes := congrArg Block.bytes h
  simp only [challengeNo, Block.bytes, cons.injEq, and_true] at hbytes
  have hhigh := congrArg UInt8.toNat hbytes.1
  have hlow := congrArg UInt8.toNat hbytes.2
  rw [UInt8.toNat_ofNat', UInt8.toNat_ofNat'] at hhigh hlow
  omega

theorem challenges_single_use_first :
    DaemonState.new.challenges = [] ∧
      accepts (run step .new [.issue .passkey (challengeEnv 1)]) (challengeEnv 1)
        (challengeNo 1) = true := by
  refine ⟨rfl, (challenges_single_use .new rfl
    [.issue .passkey (challengeEnv 1), .consume (challengeEnv 1) (challengeNo 1)] ?_ ?_).2.2
    [] .passkey (challengeEnv 1) [] (challengeEnv 1) [] rfl ?_ ?_ ?_⟩
  · decide
  · exact nodup_singleton _
  · exact fun _ => not_mem_nil
  · decide
  · decide

theorem live_issued (n i : Nat) :
    ((range n).map fun i => (challengeNo i, fromSecs 600)).filter
        (fun c => (challengeEnv i).challengeAt < c.2) =
      (range n).map fun i => (challengeNo i, fromSecs 600) := by
  rw [filter_eq_self]
  intro c hc
  obtain ⟨i, -, rfl⟩ := mem_map.mp hc
  have hearly : fromSecs 0 < fromSecs 600 := by
    unfold fromSecs
    omega
  exact decide_eq_true hearly

theorem challenges_issueMany {n : Nat} (hn : n ≤ 1000) :
    (run step .new (issueMany n)).challenges =
      (range n).map fun i => (challengeNo i, fromSecs 600) := by
  induction n with
  | zero => rfl
  | succ n ih =>
    have hbefore := ih (by omega)
    have hother : ((range n).map fun i => (challengeNo i, fromSecs 600)).filter
        (·.1 ≠ (challengeEnv n).challenge) =
          (range n).map fun i => (challengeNo i, fromSecs 600) := by
      rw [filter_eq_self]
      intro c hc
      obtain ⟨i, hi, rfl⟩ := mem_map.mp hc
      have hlt : i < n := mem_range.mp hi
      refine decide_eq_true fun heq => ?_
      have := challengeNo_inj (by omega) (by omega) heq
      omega
    have hexpiry : (challengeEnv n).challengeAt + fromSecs 600 = fromSecs 600 := by
      simp [challengeEnv, symbolicEnv, fromSecs]
    have hspace : HasSpace (run step .new (issueMany n)) (challengeEnv n) := by
      rw [HasSpace, hbefore, live_issued, length_map, length_range]
      omega
    rw [issueMany, range_succ, map_append, map_singleton, run_concat, ← issueMany,
      issue_challenges, if_pos hspace, hbefore, live_issued, hother, hexpiry, map_append,
      map_singleton]
    rfl

/-- A challenge that finds the table full is returned all the same, and refused when presented. -/
theorem challenge_of_full_table :
    ((issueMany 1001).filterMap draw).Nodup ∧ (newPasskeyChallenge (challengeEnv 1000)
        (run step .new (issueMany 1000))).1 = .ok (challengeNo 1000) ∧
      accepts (run step .new (issueMany 1001)) (challengeEnv 1000) (challengeNo 1000) = false := by
  have htable := challenges_issueMany (n := 1000) le_rfl
  refine ⟨?_, rfl, ?_⟩
  · rw [issueMany, filterMap_map]
    have hdraw : (draw ∘ fun i => .issue .passkey (challengeEnv i)) = some ∘ challengeNo := rfl
    rw [hdraw, filterMap_eq_map]
    refine Nodup.map_on (fun i hi j hj heq => ?_) nodup_range
    have hi' : i < 1001 := mem_range.mp hi
    have hj' : j < 1001 := mem_range.mp hj
    exact challengeNo_inj (by omega) (by omega) heq
  · rw [← Bool.not_eq_true, accepts_iff]
    rintro ⟨expiry, hmem, -⟩
    rw [issueMany, range_succ, map_append, map_singleton, run_concat, ← issueMany,
      issue_challenges] at hmem
    have hfull : ¬ HasSpace (run step .new (issueMany 1000)) (challengeEnv 1000) := by
      rw [HasSpace, htable, live_issued, length_map, length_range]
      exact lt_irrefl _
    rw [if_neg hfull, htable, live_issued] at hmem
    obtain ⟨i, hi, heq⟩ := mem_map.mp hmem
    have hlt : i < 1000 := mem_range.mp hi
    have := challengeNo_inj (by omega) (by omega) (congrArg Prod.fst heq)
    omega

end PwdNow.Daemon
