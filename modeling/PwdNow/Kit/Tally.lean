import Mathlib.Data.Finset.Card
import PwdNow.Kit.Serial

/-!
# Kit — counting by reading and writing back

A process that wants to be counted reads a cell, and in a later section writes the next number into
it. Two processes that both read before either writes store the same number. `Tallied`: the cell has
the number of the processes that were counted, as long as no two are about to write at once. Which
sections those are is read off what a section may do to the cell (`AboutToWrite`). The programs keep
to `Idle`: they write what they have read, and write last.
-/

namespace Kit

open Kit.System Function

/-- A number kept in a cell of the shared state. -/
structure Tally (ι σ γ ε α : Type) where
  cell : σ → γ
  /-- The cell of a count that has not begun. -/
  clear : γ
  /-- The number after the one that is read from the cell. -/
  next : ι → γ → ℕ
  /-- What is written for a number. -/
  entry : ℕ → ι → γ
  /-- The outcomes of the processes that are to be counted. -/
  counted : Except ε α → Prop
  inv : σ → Prop
  entry_ne_clear : ∀ n i, entry n i ≠ clear
  cleared : ∃ s, cell s = clear

namespace Tally

variable {π l ι σ γ ε α β : Type} (T : Tally ι σ γ ε α)

/-- The next section may put another entry into the cell. -/
inductive AboutToWrite : Async l ι σ ε α → Prop
  | await {label : l} {ready : ι → σ → Bool} {act : ι → σ → σ} {next : ι → σ → Async l ι σ ε α}
    (i : ι) (s : σ) (hcell : T.cell (act i s) ≠ T.cell s) (hclear : T.cell (act i s) ≠ T.clear) :
    AboutToWrite (.await label ready act next)

/-- The next section is the last one, and writes `n`. -/
def Pending (n : ℕ) : Async l ι σ ε α → Prop
  | .await _ ready act next => ∀ i s, ready i s = true ∧ T.cell (act i s) = T.entry n i ∧
      (T.inv s → T.inv (act i s)) ∧ ∃ r, (next i s).outcome = some r ∧ T.counted r
  | _ => False

/-- The program has not read the cell yet, and is not counted before it does. -/
def Idle : Async l ι σ ε α → Prop
  | .done a => ¬ T.counted (.ok a)
  | .fail e => ¬ T.counted (.error e)
  | .await _ _ act next => ∀ i s,
      (T.cell (act i s) = T.cell s ∨ T.cell (act i s) = T.clear) ∧
      (T.inv s → T.inv (act i s) ∧ (Idle (next i s) ∨ T.Pending (T.next i (T.cell s)) (next i s)))

/-! ## Programs -/

section Programs

variable {T}

/-- What most sections do: they leave the cell as it is. -/
def Keeps (T : Tally ι σ γ ε α) (s s' : σ) : Prop := T.cell s' = T.cell s ∧ (T.inv s → T.inv s')

theorem idle_pure {a : α} (h : ¬ T.counted (.ok a)) : T.Idle (pure a : Async l ι σ ε α) := h

variable {k : β → Async l ι σ ε α}

theorem idle_bind {x : Async l ι σ ε β} (hx : x.Steps T.Keeps)
    (herror : ∀ e, ¬ T.counted (.error e)) (hk : ∀ b, T.Idle (k b)) : T.Idle (x >>= k) := by
  rw [Async.bind_eq]
  induction x with
  | done b => exact hk b
  | fail e => exact herror e
  | await label ready act next ih =>
    intro i s
    obtain ⟨⟨hcell, hinv⟩, hrest⟩ := hx i s
    exact ⟨.inl hcell, fun hs => ⟨hinv hs, .inl (ih i s hrest)⟩⟩

variable {x : Async l ι σ ε α} {r : Except ε α}

theorem idle_of_steps (hx : x.Steps T.Keeps) (herror : ∀ e, ¬ T.counted (.error e))
    (hyields : x.Yields fun a => ¬ T.counted (.ok a)) : T.Idle x := by
  induction x with
  | done a => exact hyields
  | fail e => exact herror e
  | await label ready act next ih =>
    intro i s
    obtain ⟨⟨hcell, hinv⟩, hrest⟩ := hx i s
    exact ⟨.inl hcell, fun hs => ⟨hinv hs, .inl (ih i s hrest (hyields i s))⟩⟩

theorem idle_section_bind {label : l} {f : ι → Fallible ε σ β}
    (hcell : ∀ i s, T.cell (f i s).2 = T.cell s ∨ T.cell (f i s).2 = T.clear)
    (hnext : ∀ i s, T.inv s → T.inv (f i s).2 ∧ ∃ b, (f i s).1 = .ok b ∧
      (T.Idle (k b) ∨ T.Pending (T.next i (T.cell s)) (k b))) :
    T.Idle (Async.section_ label f >>= k) := by
  intro i s
  refine ⟨hcell i s, fun hs => ?_⟩
  obtain ⟨hinv, b, hb, hk⟩ := hnext i s hs
  refine ⟨hinv, ?_⟩
  dsimp only
  rw [hb]
  exact hk

theorem Idle.not_aboutToWrite (h : T.Idle x) : ¬ T.AboutToWrite x := by
  rintro ⟨i, s, hcell, hclear⟩
  rcases (h i s).1 with hsame | hcleared
  · exact hcell hsame
  · exact hclear hcleared

theorem Pending.aboutToWrite [Nonempty ι] {n : ℕ} (h : T.Pending n x) : T.AboutToWrite x := by
  obtain ⟨i⟩ := ‹Nonempty ι›
  obtain ⟨s, hs⟩ := T.cleared
  cases x with
  | done a => exact h.elim
  | fail e => exact h.elim
  | await label ready act next =>
    have hentry := (h i s).2.1
    refine .await i s ?_ ?_ <;> rw [hentry]
    · rw [hs]
      exact T.entry_ne_clear n i
    · exact T.entry_ne_clear n i

theorem not_aboutToWrite_of_outcome (h : x.outcome = some r) : ¬ T.AboutToWrite x := by
  rintro ⟨⟩
  cases h

theorem Idle.not_counted (h : T.Idle x) (hr : x.outcome = some r) : ¬ T.counted r := by
  cases x with
  | done a =>
    cases hr
    exact h
  | fail e =>
    cases hr
    exact h
  | await label ready act next => cases hr

end Programs

/-! ## Processes together -/

/-- Where a process stands when `n` have been counted. -/
def At (n : ℕ) (x : Async l ι σ ε α) : Prop :=
  T.Idle x ∨ T.Pending (n + 1) x ∨ ∃ r, x.outcome = some r

/-- What the cell says when `n` have been counted, the last one with the input `last`. -/
def Shows (V : ι → Prop) (c : γ) (n : ℕ) : Option ι → Prop
  | none => n = 0 ∧ ∀ j, V j → T.next j c = 1
  | some i => V i ∧ c = T.entry n i

variable {T} {V : ι → Prop}

/-- The processes in `F` have been counted. -/
structure Tallied (T : Tally ι σ γ ε α) (V : ι → Prop) (t : System π l ι σ ε α) (F : Finset π)
    (last : Option ι) : Prop where
  inv : T.inv t.shared
  counted : ∀ p, p ∈ F ↔ ∃ r, t.outcomes p = some r ∧ T.counted r
  cell : T.Shows V (T.cell t.shared) F.card last
  procs : ∀ p, T.At F.card (t.procs p)

theorem Shows.next (hnext : ∀ i j n, V i → V j → T.next j (T.entry n i) = n + 1) {c : γ} {n : ℕ}
    {last : Option ι} (h : T.Shows V c n last) {j : ι} (hj : V j) : T.next j c = n + 1 := by
  cases last with
  | none =>
    obtain ⟨rfl, hc⟩ := h
    exact hc j hj
  | some i =>
    obtain ⟨hi, rfl⟩ := h
    exact hnext i j n hi hj

variable {t : System π l ι σ ε α} {F : Finset π} {last : Option ι} {p : π} {i : ι}

theorem Tallied.pending (h : Tallied T V t F last) (hp : T.AboutToWrite (t.procs p)) :
    T.Pending (F.card + 1) (t.procs p) := by
  rcases h.procs p with hidle | hpending | ⟨r, hr⟩
  · exact absurd hp hidle.not_aboutToWrite
  · exact hpending
  · exact absurd hp (not_aboutToWrite_of_outcome hr)

variable [DecidableEq π]

theorem Tallied.write [Nonempty ι] (h : Tallied T V t F last) (hp : T.AboutToWrite (t.procs p))
    (halone : ∀ q, T.AboutToWrite (t.procs q) → q = p) (hi : V i) :
    Tallied T V (step t (p, i)) (insert p F) (some i) := by
  have hpending := h.pending hp
  cases hproc : t.procs p with
  | done a =>
    rw [hproc] at hp
    cases hp
  | fail e =>
    rw [hproc] at hp
    cases hp
  | await label ready act next =>
    rw [hproc] at hpending
    obtain ⟨hready, hcell, hinv, r, hr, hcounted⟩ := hpending i t.shared
    have hstep : step t (p, i) = ⟨act i t.shared, update t.procs p (next i t.shared)⟩ := by
      unfold step
      dsimp only
      rw [hproc]
      exact if_pos hready
    have hnew : p ∉ F := by
      intro hmem
      obtain ⟨r, hr, -⟩ := (h.counted p).mp hmem
      unfold outcomes at hr
      rw [hproc] at hr
      cases hr
    rw [hstep]
    refine ⟨hinv h.inv, fun q => ?_, ⟨hi, ?_⟩, fun q => ?_⟩
    · rw [outcomes_update, Finset.mem_insert]
      by_cases hq : q = p
      · subst hq
        simp only [update_self, true_or, true_iff]
        exact ⟨r, hr, hcounted⟩
      · rw [update_of_ne hq, h.counted q]
        exact or_iff_right hq
    · rw [Finset.card_insert_of_notMem hnew]
      exact hcell
    · dsimp only
      by_cases hq : q = p
      · subst hq
        rw [update_self]
        exact .inr (.inr ⟨r, hr⟩)
      · -- nobody else has read the cell
        rw [update_of_ne hq]
        rcases h.procs q with hidle | hother | hended
        · exact .inl hidle
        · exact absurd (halone q hother.aboutToWrite) hq
        · exact .inr (.inr hended)

theorem Tallied.other [Nonempty ι] (hnext : ∀ i j n, V i → V j → T.next j (T.entry n i) = n + 1)
    (h : Tallied T V t F last) (hp : ¬ T.AboutToWrite (t.procs p))
    (hclear : T.cell t.shared ≠ T.clear → T.cell (step t (p, i)).shared ≠ T.clear)
    (hi : T.AboutToWrite ((step t (p, i)).procs p) → V i) : Tallied T V (step t (p, i)) F last := by
  cases hrun : t.outcomes p with
  | some r =>
    rw [step_of_outcome hrun]
    exact h
  | none =>
    have hidle : T.Idle (t.procs p) := by
      rcases h.procs p with hidle | hpending | ⟨r, hr⟩
      · exact hidle
      · exact absurd hpending.aboutToWrite hp
      · unfold outcomes at hrun
        rw [hr] at hrun
        cases hrun
    rcases step_of_running hrun i with hstep | ⟨label, ready, act, next, hproc, -, hstep⟩
    · rw [hstep]
      exact h
    · rw [hstep] at hclear hi ⊢
      rw [hproc] at hidle
      obtain ⟨hcell, hrest⟩ := hidle i t.shared
      obtain ⟨hinv, hnow⟩ := hrest h.inv
      have hsame : T.cell (act i t.shared) = T.cell t.shared := by
        rcases hcell with hsame | hcleared
        · exact hsame
        · by_cases hold : T.cell t.shared = T.clear
          · rw [hcleared, hold]
          · exact absurd hcleared (hclear hold)
      simp only [update_self] at hi
      have hat : T.At F.card (next i t.shared) := by
        rcases hnow with hidle | hpending
        · exact .inl hidle
        · rw [h.cell.next hnext (hi hpending.aboutToWrite)] at hpending
          exact .inr (.inl hpending)
      refine ⟨hinv, fun q => ?_, ?_, fun q => ?_⟩
      · rw [outcomes_update]
        by_cases hq : q = p
        · subst hq
          rw [update_self, h.counted q, hrun]
          refine ⟨by simp, ?_⟩
          rintro ⟨r, hr, hcounted⟩
          rcases hnow with hidle | hpending
          · exact absurd hcounted (hidle.not_counted hr)
          · exact absurd hpending.aboutToWrite (not_aboutToWrite_of_outcome hr)
        · rw [update_of_ne hq]
          exact h.counted q
      · dsimp only
        rw [hsame]
        exact h.cell
      · dsimp only
        by_cases hq : q = p
        · subst hq
          rw [update_self]
          exact hat
        · rw [update_of_ne hq]
          exact h.procs q

/-! ## Runs -/

/-- No two processes are about to write. -/
def Alone (T : Tally ι σ γ ε α) (t : System π l ι σ ε α) : Prop :=
  ∀ p q, T.AboutToWrite (t.procs p) → T.AboutToWrite (t.procs q) → p = q

/-- The step does not clear the cell. -/
def Spares (T : Tally ι σ γ ε α) (t : System π l ι σ ε α) (e : π × ι) : Prop :=
  T.cell t.shared ≠ T.clear → T.cell (step t e).shared ≠ T.clear

/-- The cell is read, in order to write it, and written on inputs with `V`. -/
def InTime (T : Tally ι σ γ ε α) (V : ι → Prop) (t : System π l ι σ ε α) (e : π × ι) : Prop :=
  T.AboutToWrite (t.procs e.1) ∨ T.AboutToWrite ((step t e).procs e.1) → V e.2

/-- What a run has to meet for the tally to be right. -/
def Orderly (T : Tally ι σ γ ε α) (V : ι → Prop) (t : System π l ι σ ε α) (e : π × ι) : Prop :=
  T.Alone t ∧ T.Spares t e ∧ T.InTime V t e

/-- No step of the run writes. -/
def Quiet (T : Tally ι σ γ ε α) (t : System π l ι σ ε α) (e : π × ι) : Prop :=
  ¬ T.AboutToWrite (t.procs e.1)

variable [Nonempty ι] (hnext : ∀ i j n, V i → V j → T.next j (T.entry n i) = n + 1)
  {es : List (π × ι)}
include hnext

theorem Tallied.run (h : Tallied T V t F last) (horderly : Along step t es (T.Orderly V)) :
    ∃ F' last', Tallied T V (run step t es) F' last' := by
  induction es generalizing t F last with
  | nil => exact ⟨F, last, h⟩
  | cons e es ih =>
    obtain ⟨⟨halone, hspares, htime⟩, hrest⟩ := along_cons_iff.mp horderly
    by_cases hwrite : T.AboutToWrite (t.procs e.1)
    · exact ih (h.write hwrite (fun q hq => halone q e.1 hq hwrite) (htime (.inl hwrite))) hrest
    · exact ih (h.other hnext hwrite hspares fun hnew => htime (.inr hnew)) hrest

theorem Tallied.quiet (h : Tallied T V t F last) (horderly : Along step t es (T.Orderly V))
    (hquiet : Along step t es T.Quiet) : Tallied T V (Kit.run step t es) F last := by
  induction es generalizing t with
  | nil => exact h
  | cons e es ih =>
    obtain ⟨⟨-, hspares, htime⟩, hrest⟩ := along_cons_iff.mp horderly
    obtain ⟨hwrite, hquiet⟩ := along_cons_iff.mp hquiet
    exact ih (h.other hnext hwrite hspares fun hnew => htime (.inr hnew)) hrest hquiet

/-- **The count is right** after the last writing step `e` of an orderly run. -/
theorem tallied_last {pre post : List (π × ι)} {e : π × ι} (h : Tallied T V t F last)
    (horderly : Along step t (pre ++ e :: post) (T.Orderly V))
    (he : T.AboutToWrite ((Kit.run step t pre).procs e.1))
    (hquiet : Along step (Kit.run step t (pre ++ [e])) post T.Quiet) :
    ∃ F', Tallied T V (Kit.run step t (pre ++ e :: post)) F' (some e.2) := by
  obtain ⟨F₁, last₁, h₁⟩ := h.run hnext horderly.left
  obtain ⟨halone, -, htime⟩ := horderly pre e post rfl
  have h₂ : Tallied T V (Kit.run step t (pre ++ [e])) (insert e.1 F₁) (some e.2) := by
    rw [run_concat]
    exact h₁.write he (fun q hq => halone q e.1 hq he) (htime (.inl he))
  have hsplit : pre ++ e :: post = (pre ++ [e]) ++ post := by simp
  have hpost : Along step (Kit.run step t (pre ++ [e])) post (T.Orderly V) := by
    rw [hsplit, ← List.append_nil (pre ++ [e] ++ post)] at horderly
    exact horderly.stretch
  rw [hsplit, run_append]
  exact ⟨_, h₂.quiet hnext hpost hquiet⟩

end Tally

end Kit
