import PwdNow.Kit.Run

/-!
# Kit — watermarks

A store keeps a mark and accepts only what exceeds it: the discipline of a counter that detects
replays. `Watermark step mark ok accepts` says that of one mark of a state machine, for the steps
that are `ok`. Along a run the mark does not go down (`mark_le`), and what is accepted later is
greater than what was accepted before (`lt_of_accepts`).
-/

namespace Kit

variable {σ ε ν : Type*} [Preorder ν]

/-- A mark, if there is one, is at least `n`. -/
def AtLeast (n : ν) (mark : Option ν) : Prop := ∀ m ∈ mark, n ≤ m

structure Watermark (step : σ → ε → σ) (mark : σ → Option ν) (ok : ε → Prop)
    (accepts : σ → ε → ν → Prop) : Prop where
  keeps : ∀ s e n, ok e → AtLeast n (mark s) → AtLeast n (mark (step s e))
  raises : ∀ s e n, ok e → accepts s e n → AtLeast n (mark (step s e))
  exceeds : ∀ s e n, ok e → accepts s e n → ∃ m, mark s = some m ∧ m < n

namespace Watermark

variable {step : σ → ε → σ} {mark : σ → Option ν} {ok : ε → Prop} {accepts : σ → ε → ν → Prop}

variable {s : σ} {n : ν} {es : List ε} {m : ν}

section

variable (h : Watermark step mark ok accepts)
include h

theorem run_atLeast (hok : ∀ e ∈ es, ok e) (hs : AtLeast n (mark s)) :
    AtLeast n (mark (run step s es)) := by
  induction es generalizing s with
  | nil => exact hs
  | cons e es ih =>
    apply ih
    · exact fun e' he' => hok e' (List.mem_cons_of_mem e he')
    · exact h.keeps s e n (hok e List.mem_cons_self) hs

theorem mark_le (hok : ∀ e ∈ es, ok e) (hn : mark s = some n) (hm : mark (run step s es) = some m) :
    n ≤ m := by
  have hs : AtLeast n (mark s) := by
    intro n' hn'
    rw [hn] at hn'
    cases hn'
    exact le_rfl
  exact h.run_atLeast hok hs m hm

theorem lt_of_accepts {e e' : ε} (hok : ∀ x ∈ e :: (es ++ [e']), ok x) (hfirst : accepts s e n)
    (hlater : accepts (run step s (e :: es)) e' m) : n < m := by
  have hraised := h.raises s e n (hok e List.mem_cons_self) hfirst
  have hkept : AtLeast n (mark (run step (step s e) es)) := by
    apply h.run_atLeast _ hraised
    exact fun x hx => hok x (List.mem_cons_of_mem e (List.mem_append_left _ hx))
  obtain ⟨k, hk, hlt⟩ := h.exceeds _ e' m (hok e' (by simp)) hlater
  exact lt_of_le_of_lt (hkept k hk) hlt

end

end Watermark

end Kit
