import Mathlib.Data.Fintype.Basic
import PwdNow.Kit.Run

/-!
# Kit — threads that take locks

Each thread is the list of the locks it takes and gives back. A lock is taken shared or exclusive,
and nothing is reentrant. Who asks for a lock that it cannot have yet waits, and who waits for one
exclusively keeps new readers out.

`Follows ok` says what a thread takes while it holds what; a run keeps it (`follows_run`).
`exclusive_run` is what the locks guarantee, and `Considerate` the condition under which who waits
for a lock exclusively waits only for threads that have nothing more to take (`patient_run`).
-/

namespace Kit.Locks

open List

variable {L : Type} [DecidableEq L] {n : Nat}

inductive Mode where
  | shared
  | exclusive
  deriving DecidableEq

inductive Action (L : Type) where
  | acquire (l : L) (mode : Mode)
  | release (l : L) (mode : Mode)
  deriving DecidableEq

structure Thread (L : Type) where
  todo : List (Action L)
  held : List (L × Mode)
  /-- it has asked for what it has to do next, and did not get it -/
  waiting : Bool
  deriving DecidableEq

abbrev System (L : Type) (n : Nat) := Fin n → Thread L

def start (programs : Fin n → List (Action L)) : System L n := fun i => ⟨programs i, [], false⟩

def Thread.holds (t : Thread L) (l : L) : Prop := ∃ mode, (l, mode) ∈ t.held

/-- Waiting for `l` exclusively. -/
def Thread.awaits (t : Thread L) (l : L) : Prop :=
  t.waiting = true ∧ t.todo.head? = some (.acquire l .exclusive)

instance (t : Thread L) (l : L) : Decidable (t.holds l) :=
  decidable_of_iff ((l, Mode.shared) ∈ t.held ∨ (l, Mode.exclusive) ∈ t.held)
    ⟨fun h => h.elim (⟨_, ·⟩) (⟨_, ·⟩), fun ⟨mode, h⟩ => by cases mode; exacts [.inl h, .inr h]⟩

instance (t : Thread L) (l : L) : Decidable (t.awaits l) := inferInstanceAs (Decidable (_ ∧ _))

def Grantable (c : System L n) (l : L) : Mode → Prop
  | .exclusive => ∀ j, ¬ (c j).holds l
  | .shared => ∀ j, (l, Mode.exclusive) ∉ (c j).held ∧ ¬ (c j).awaits l

instance (c : System L n) (l : L) (mode : Mode) : Decidable (Grantable c l mode) := by
  cases mode <;> unfold Grantable <;> infer_instance

/-- What thread `i` does when it is its turn. -/
def turn (c : System L n) (i : Fin n) : Thread L :=
  match (c i).todo with
  | [] => c i
  | .release l mode :: rest => ⟨rest, (c i).held.erase (l, mode), false⟩
  | .acquire l mode :: rest =>
    if Grantable c l mode then ⟨rest, (l, mode) :: (c i).held, false⟩
    else { c i with waiting := true }

def step (c : System L n) (i : Fin n) : System L n := Function.update c i (turn c i)

/-! ## Deadlocks -/

/-- Waiting for `l`, which it still cannot have. -/
def Blocked (c : System L n) (i : Fin n) (l : L) : Prop :=
  (c i).waiting = true ∧ ∃ mode, (c i).todo.head? = some (.acquire l mode) ∧ ¬ Grantable c l mode

/-- Threads each of which waits for a lock that one of them holds. -/
def Deadlocked (c : System L n) (threads : Finset (Fin n)) : Prop :=
  threads.Nonempty ∧ ∀ i ∈ threads, ∃ l, Blocked c i l ∧ ∃ j ∈ threads, (c j).holds l

/-! ## Inversion of a turn -/

variable {c : System L n} {i j : Fin n} {l : L} {mode : Mode}

theorem turn_cases (c : System L n) (i : Fin n) :
    turn c i = c i ∨
    (∃ l mode rest, (c i).todo = .release l mode :: rest ∧
      turn c i = ⟨rest, (c i).held.erase (l, mode), false⟩) ∨
    (∃ l mode rest, (c i).todo = .acquire l mode :: rest ∧ Grantable c l mode ∧
      turn c i = ⟨rest, (l, mode) :: (c i).held, false⟩) ∨
    (∃ l mode rest, (c i).todo = .acquire l mode :: rest ∧ ¬ Grantable c l mode ∧
      turn c i = { c i with waiting := true }) := by
  unfold turn
  cases htodo : (c i).todo with
  | nil => exact .inl rfl
  | cons a rest =>
    cases a with
    | release l mode => exact .inr (.inl ⟨l, mode, rest, rfl, rfl⟩)
    | acquire l mode =>
      by_cases hgrant : Grantable c l mode
      · exact .inr (.inr (.inl ⟨l, mode, rest, rfl, hgrant, if_pos hgrant⟩))
      · exact .inr (.inr (.inr ⟨l, mode, rest, rfl, hgrant, if_neg hgrant⟩))

theorem step_self : step c i i = turn c i :=
  Function.update_self _ _ _

theorem step_other (h : j ≠ i) : step c i j = c j :=
  Function.update_of_ne h _ _

theorem mem_held_turn (h : (l, mode) ∈ (turn c i).held) :
    (l, mode) ∈ (c i).held ∨ Grantable c l mode := by
  rcases turn_cases c i with hturn | ⟨l', mode', rest, -, hturn⟩ |
    ⟨l', mode', rest, -, hgrant, hturn⟩ | ⟨l', mode', rest, -, -, hturn⟩
  · rw [hturn] at h
    exact .inl h
  · rw [hturn] at h
    exact .inl (mem_of_mem_erase h)
  · rw [hturn] at h
    rcases mem_cons.mp h with heq | hheld
    · cases heq
      exact .inr hgrant
    · exact .inl hheld
  · rw [hturn] at h
    exact .inl h

/-! ## What the locks guarantee -/

variable {programs : Fin n → List (Action L)} {steps : List (Fin n)}

/-- Who holds a lock exclusively is the only one who holds it. -/
def Exclusive (c : System L n) : Prop :=
  ∀ i j l, (l, Mode.exclusive) ∈ (c i).held → (c j).holds l → i = j

omit [DecidableEq L] in
theorem exclusive_start : Exclusive (start programs) :=
  fun _ _ _ h => absurd h not_mem_nil

theorem exclusive_step (h : Exclusive c) (k : Fin n) : Exclusive (step c k) := by
  intro i j l hi hj
  by_cases hij : i = j
  · exact hij
  exfalso
  by_cases hik : i = k
  · -- `i` takes its turn, `j` does not
    have hjk : j ≠ k := fun hjk => hij (hik.trans hjk.symm)
    rw [hik, step_self] at hi
    rw [step_other hjk] at hj
    rcases mem_held_turn hi with hheld | hgrant
    · exact hjk (h k j l hheld hj).symm
    · exact hgrant j hj
  · rw [step_other hik] at hi
    by_cases hjk : j = k
    · rw [hjk, step_self] at hj
      obtain ⟨mode, hmem⟩ := hj
      rcases mem_held_turn hmem with hheld | hgrant
      · exact hik (h i k l hi ⟨mode, hheld⟩)
      · cases mode with
        | shared => exact (hgrant i).1 hi
        | exclusive => exact hgrant i ⟨_, hi⟩
    · rw [step_other hjk] at hj
      exact hij (h i j l hi hj)

theorem exclusive_run (hc : Visits step (start programs) steps c) : Exclusive c :=
  hc.invariant exclusive_start (along_true _) fun _ k _ _ h => exclusive_step h k

/-! ## What the threads keep to -/

/-- Every lock of the list is taken while only such locks are held as `ok` allows. -/
def Follows (ok : List (L × Mode) → L → Mode → Prop) : List (L × Mode) → List (Action L) → Prop
  | _, [] => True
  | held, .release l mode :: rest => Follows ok (held.erase (l, mode)) rest
  | held, .acquire l mode :: rest => ok held l mode ∧ Follows ok ((l, mode) :: held) rest

instance decidableFollows (ok : List (L × Mode) → L → Mode → Prop)
    [∀ held l mode, Decidable (ok held l mode)] :
    (held : List (L × Mode)) → (todo : List (Action L)) → Decidable (Follows ok held todo)
  | _, [] => inferInstanceAs (Decidable True)
  | held, .release l mode :: rest => decidableFollows ok (held.erase (l, mode)) rest
  | held, .acquire l mode :: rest =>
    have := decidableFollows ok ((l, mode) :: held) rest
    inferInstanceAs (Decidable (_ ∧ _))

/-- What is held after a list. -/
def heldAfter : List (L × Mode) → List (Action L) → List (L × Mode)
  | held, [] => held
  | held, .release l mode :: rest => heldAfter (held.erase (l, mode)) rest
  | held, .acquire l mode :: rest => heldAfter ((l, mode) :: held) rest

variable {ok : List (L × Mode) → L → Mode → Prop}

theorem Follows.append {held : List (L × Mode)} {first rest : List (Action L)}
    (hfirst : Follows ok held first) (hrest : Follows ok (heldAfter held first) rest) :
    Follows ok held (first ++ rest) := by
  induction first generalizing held with
  | nil => exact hrest
  | cons a first ih =>
    cases a with
    | release l mode => exact ih hfirst hrest
    | acquire l mode => exact ⟨hfirst.1, ih hfirst.2 hrest⟩

theorem follows_turn (h : Follows ok (c i).held (c i).todo) :
    Follows ok (turn c i).held (turn c i).todo := by
  rcases turn_cases c i with hturn | ⟨l, mode, rest, htodo, hturn⟩ |
    ⟨l, mode, rest, htodo, -, hturn⟩ | ⟨l, mode, rest, -, -, hturn⟩
  · rw [hturn]
    exact h
  · rw [htodo] at h
    rw [hturn]
    exact h
  · rw [htodo] at h
    rw [hturn]
    exact h.2
  · rw [hturn]
    exact h

theorem follows_run (hprograms : ∀ i, Follows ok [] (programs i))
    (hc : Visits step (start programs) steps c) (i : Fin n) : Follows ok (c i).held (c i).todo := by
  refine hc.invariant (I := fun c => ∀ i, Follows ok (c i).held (c i).todo)
    hprograms (along_true _) (fun c k _ _ h j => ?_) i
  by_cases hjk : j = k
  · rw [hjk, step_self]
    exact follows_turn (h k)
  · rw [step_other hjk]
    exact h j

theorem Blocked.allowed (h : Blocked c i l) (hfollows : Follows ok (c i).held (c i).todo) :
    ∃ mode, ok (c i).held l mode := by
  obtain ⟨-, mode, hhead, -⟩ := h
  obtain ⟨rest, htodo⟩ := head?_eq_some_iff.mp hhead
  rw [htodo] at hfollows
  exact ⟨mode, hfollows.1⟩

/-! ## Waiting for readers -/

def Action.takes : Action L → Bool
  | .acquire _ _ => true
  | .release _ _ => false

/-- Nothing is taken any more. -/
def Done (todo : List (Action L)) : Prop := ∀ a ∈ todo, a.takes = false

instance (todo : List (Action L)) : Decidable (Done todo) :=
  inferInstanceAs (Decidable (∀ a ∈ todo, a.takes = false))

omit [DecidableEq L] in
theorem Done.not_acquire {todo : List (Action L)} (h : Done todo) : .acquire l mode ∉ todo := by
  intro hmem
  have hnot := h _ hmem
  cases hnot

omit [DecidableEq L] in
theorem Blocked.not_done (h : Blocked c i l) : ¬ Done (c i).todo := by
  obtain ⟨-, mode, hhead, -⟩ := h
  exact fun hdone => hdone.not_acquire (mem_of_mem_head? hhead)

/-- The lock `l` is asked for exclusively only when its readers have nothing more to take. -/
def Considerate (l : L) (c : System L n) (i : Fin n) : Prop :=
  (c i).todo.head? = some (.acquire l .exclusive) →
    ∀ j, (l, Mode.shared) ∈ (c j).held → Done (c j).todo

instance (l : L) (c : System L n) (i : Fin n) : Decidable (Considerate l c i) :=
  inferInstanceAs (Decidable (_ → ∀ _, _ → _))

/-- Who waits for `l` exclusively waits for readers that have nothing more to take. -/
def Patient (l : L) (c : System L n) : Prop :=
  ∀ i j, (c i).awaits l → (l, Mode.shared) ∈ (c j).held → Done (c j).todo

theorem done_turn (h : Done (c i).todo) : Done (turn c i).todo := by
  rcases turn_cases c i with hturn | ⟨l, mode, rest, htodo, hturn⟩ |
    ⟨l, mode, rest, htodo, -, hturn⟩ | ⟨l, mode, rest, -, -, hturn⟩
  · rw [hturn]
    exact h
  · rw [hturn]
    intro a hmem
    exact h a (by rw [htodo]; exact mem_cons_of_mem _ hmem)
  · have hmem : Action.acquire l mode ∈ (c i).todo := by
      rw [htodo]
      exact mem_cons_self
    exact absurd hmem h.not_acquire
  · rw [hturn]
    exact h

theorem head_of_awaits_turn (h : (turn c i).awaits l) :
    (c i).todo.head? = some (.acquire l .exclusive) := by
  rcases turn_cases c i with hturn | ⟨_, _, _, -, hturn⟩ | ⟨_, _, _, -, -, hturn⟩ |
    ⟨_, _, _, -, -, hturn⟩
  · rw [hturn] at h
    exact h.2
  · rw [hturn] at h
    cases h.1
  · rw [hturn] at h
    cases h.1
  · rw [hturn] at h
    exact h.2

theorem patient_step {k : Fin n} (h : Patient l c) (hk : Considerate l c k) :
    Patient l (step c k) := by
  intro i j hi hj
  by_cases hik : i = k
  · -- `k` is the one who waits now
    rw [hik, step_self] at hi
    have hhead := head_of_awaits_turn hi
    by_cases hjk : j = k
    · rw [hjk, step_self] at hj ⊢
      -- it asks, so that it is granted nothing in this turn
      rcases mem_held_turn hj with hheld | hgrant
      · exact done_turn (hk hhead k hheld)
      · exfalso
        rcases turn_cases c k with hturn | ⟨_, _, _, htodo, -⟩ | ⟨_, _, _, -, -, hturn⟩ |
          ⟨_, _, _, -, -, hturn⟩
        · rw [hturn] at hi
          exact (hgrant k).2 hi
        · rw [htodo] at hhead
          cases hhead
        · rw [hturn] at hi
          cases hi.1
        · rw [hturn] at hj
          exact (hk hhead k hj).not_acquire (mem_of_mem_head? hhead)
    · rw [step_other hjk] at hj ⊢
      exact hk hhead j hj
  · rw [step_other hik] at hi
    by_cases hjk : j = k
    · rw [hjk, step_self] at hj ⊢
      rcases mem_held_turn hj with hheld | hgrant
      · exact done_turn (h i k hi hheld)
      · exact absurd hi (hgrant i).2
    · rw [step_other hjk] at hj ⊢
      exact h i j hi hj

theorem patient_run (hrun : Along step (start programs) steps (Considerate l))
    (hc : Visits step (start programs) steps c) : Patient l c :=
  hc.invariant (fun _ _ hi => absurd (show false = true from hi.1) (by decide)) hrun
    fun _ _ _ hk h => patient_step h hk

/-- **Nobody who holds `l` is blocked while somebody else waits for it**, provided that who holds
it exclusively takes nothing meanwhile. -/
theorem not_blocked_of_holds (hexclusive : Exclusive c) (hpatient : Patient l c)
    (hfollows : ∀ i, Follows ok (c i).held (c i).todo)
    (hok : ∀ held l' mode, ok held l' mode → (l, Mode.exclusive) ∉ held) (hi : Blocked c i l)
    (hj : (c j).holds l) (l' : L) : ¬ Blocked c j l' := by
  intro hblocked
  obtain ⟨hwaiting, mode, hhead, hgrant⟩ := hi
  -- `j` is about to take something, so that it holds `l` shared
  obtain ⟨mode', hallowed⟩ := hblocked.allowed (hfollows j)
  have hshared : (l, Mode.shared) ∈ (c j).held := by
    obtain ⟨m, hm⟩ := hj
    cases m with
    | shared => exact hm
    | exclusive => exact absurd hm (hok _ _ _ hallowed)
  cases mode with
  | exclusive => exact hblocked.not_done (hpatient i j ⟨hwaiting, hhead⟩ hshared)
  | shared =>
    -- a writer has it, or waits for it
    apply hgrant
    intro k
    constructor
    · intro hk
      obtain rfl : k = j := hexclusive k j l hk ⟨_, hshared⟩
      exact hok _ _ _ hallowed hk
    · intro hk
      exact hblocked.not_done (hpatient k j hk hshared)

end Kit.Locks
