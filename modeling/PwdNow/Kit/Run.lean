import Mathlib.Data.List.Infix

/-!
# Kit — runs of a deterministic step function

A system is a step function `step : σ → ε → σ`; a run feeds it a list of events. The states a run
*visits* are the ones after each prefix of its events. An invariant is proved of every visited state
from one step at a time (`Visits.invariant`).
-/

namespace Kit

variable {σ ε : Type*}

/-- The state after all of `es`, fed in order from `s`. -/
def run (step : σ → ε → σ) (s : σ) (es : List ε) : σ := es.foldl step s

section

variable (step : σ → ε → σ) (s : σ)

@[simp] theorem run_nil : run step s [] = s := rfl

@[simp] theorem run_cons (e : ε) (es : List ε) :
    run step s (e :: es) = run step (step s e) es := rfl

theorem run_append (es fs : List ε) : run step s (es ++ fs) = run step (run step s es) fs := by
  simp [run]

theorem run_concat (es : List ε) (e : ε) : run step s (es ++ [e]) = step (run step s es) e := by
  simp [run]

end

variable {step : σ → ε → σ} {s : σ}

theorem run_related {τ : Type*} {step' : τ → ε → τ} {R : σ → τ → Prop}
    (hstep : ∀ s t e, R s t → R (step s e) (step' t e)) {t : τ} (h0 : R s t) (es : List ε) :
    R (run step s es) (run step' t es) := by
  induction es generalizing s t with
  | nil => exact h0
  | cons e es ih => exact ih (hstep s t e h0)

/-- `Visits step s es t`: the run of `es` from `s` passes through `t`. -/
def Visits (step : σ → ε → σ) (s : σ) (es : List ε) (t : σ) : Prop :=
  ∃ pre, pre <+: es ∧ run step s pre = t

/-- Every step of the run meets `ok`, which may look at the state it is taken in. -/
def Along (step : σ → ε → σ) (s : σ) (es : List ε) (ok : σ → ε → Prop) : Prop :=
  ∀ pre e post, es = pre ++ e :: post → ok (run step s pre) e

theorem along_nil (ok : σ → ε → Prop) : Along step s [] ok := by
  intro pre e post h
  simp at h

theorem along_true (es : List ε) :
    Along step s es fun _ _ => True := fun _ _ _ _ => trivial

variable {e : ε} {es : List ε} {ok : σ → ε → Prop}

theorem along_cons (h : ok s e) (hrest : Along step (step s e) es ok) :
    Along step s (e :: es) ok := by
  intro pre e' post heq
  cases pre with
  | nil =>
    cases heq
    exact h
  | cons x pre =>
    cases heq
    exact hrest pre e' post rfl

theorem along_cons_iff : Along step s (e :: es) ok ↔ ok s e ∧ Along step (step s e) es ok := by
  refine ⟨fun h => ⟨h [] e es rfl, fun pre e' post heq => ?_⟩, fun h => along_cons h.1 h.2⟩
  exact h (e :: pre) e' post (by rw [heq]; rfl)

theorem Along.and {ok' : σ → ε → Prop} (h : Along step s es ok) (h' : Along step s es ok') :
    Along step s es fun s e => ok s e ∧ ok' s e :=
  fun pre e post heq => ⟨h pre e post heq, h' pre e post heq⟩

theorem Along.left {fs : List ε} (h : Along step s (es ++ fs) ok) : Along step s es ok :=
  fun pre e post heq => h pre e (post ++ fs) (by rw [heq]; simp)

theorem Along.concat (h : Along step s es ok) (he : ok (run step s es) e) :
    Along step s (es ++ [e]) ok := by
  intro pre e' post heq
  rcases List.eq_nil_or_concat post with rfl | ⟨rest, last, rfl⟩
  · obtain ⟨rfl, hlast⟩ := List.append_inj' heq rfl
    cases hlast
    exact he
  · have hsplit : es ++ [e] = (pre ++ e' :: rest) ++ [last] := by rw [heq]; simp
    obtain ⟨rfl, -⟩ := List.append_inj' hsplit rfl
    exact h pre e' rest rfl

theorem Along.stretch {pre mid post : List ε} (h : Along step s (pre ++ mid ++ post) ok) :
    Along step (run step s pre) mid ok := by
  intro first e rest heq
  have hok := h (pre ++ first) e (rest ++ post) (by rw [heq]; simp)
  rwa [run_append] at hok

instance decidableAlong (step : σ → ε → σ) (ok : σ → ε → Prop) [∀ s e, Decidable (ok s e)] :
    (s : σ) → (es : List ε) → Decidable (Along step s es ok)
  | s, [] => isTrue (along_nil ok)
  | s, e :: es =>
    have := decidableAlong step ok (step s e) es
    decidable_of_iff' _ along_cons_iff

namespace Visits

variable {step : σ → ε → σ} {s t : σ} {es : List ε}

theorem last (step : σ → ε → σ) (s : σ) (es : List ε) : Visits step s es (run step s es) :=
  ⟨es, List.prefix_rfl, rfl⟩

/-- **The invariant rule.** What holds at the start and is kept by every step that meets the
run's condition holds in every visited state. Induction on the visited prefix, from its end. -/
theorem invariant {I : σ → Prop} (h0 : I s) (hok : Along step s es ok)
    (hstep : ∀ s e, e ∈ es → ok s e → I s → I (step s e)) (ht : Visits step s es t) : I t := by
  obtain ⟨pre, ⟨post, rfl⟩, rfl⟩ := ht
  induction pre using List.reverseRecOn generalizing post with
  | nil => exact h0
  | append_singleton pre e ih =>
    rw [run_concat]
    apply hstep _ _ (by simp)
    · exact hok pre e post (by simp)
    · apply ih (e :: post)
      · simpa using hok
      · simpa using hstep

end Visits

end Kit
