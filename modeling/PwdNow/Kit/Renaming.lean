import Mathlib.Data.List.Nodup

/-!
# Kit — making the keys of a list distinct

A list is walked once; an element whose key was seen before gets a new key, renamed again and again
until it is one that was not seen. Every renaming makes a key longer, so the keys tried are all
different and only finitely many were seen: as many tries as there are seen keys are enough
(`fresh_not_mem`).
-/

namespace Kit

open List

/-- A way to change a key, with the `k`-th random draw. -/
structure Renaming (κ : Type) where
  next : Nat → κ → κ
  size : κ → Nat
  size_next : ∀ k key, size key < size (next k key)

namespace Renaming

variable {κ : Type} (R : Renaming κ)

variable {seen : List κ} {key : κ}

variable [DecidableEq κ]

/-- `while (seen.has(key)) key = next(key)`, from the `k`-th draw on, with the number of draws
used up in the end. -/
def fresh (seen : List κ) : Nat → Nat → κ → κ × Nat
  | 0, k, key => (key, k)
  | fuel + 1, k, key =>
    if key ∈ seen then fresh seen fuel (k + 1) (R.next k key) else (key, k)

theorem fresh_of_not_mem (h : key ∉ seen) (fuel k : Nat) : R.fresh seen fuel k key = (key, k) := by
  cases fuel with
  | zero => rfl
  | succ fuel => rw [fresh, if_neg h]

/-! ## Whole lists -/

variable {α : Type} (get : α → κ) (set : κ → α → α)

/-- The walk over a list, after the keys in `seen` and from the `k`-th draw on. -/
def distinct (seen : List κ) (k : Nat) : List α → List α
  | [] => []
  | a :: rest =>
    let id := R.fresh seen seen.length k (get a)
    set id.1 a :: distinct (id.1 :: seen) id.2 rest

variable {get set} {l : List α}

section

variable (hset : ∀ a, set (get a) a = a) (hnodup : (l.map get).Nodup)
    (hseen : ∀ a ∈ l, get a ∉ seen) (k : Nat)
include hset hnodup hseen

theorem distinct_append (rest : List α) :
    ∃ seen', R.distinct get set seen k (l ++ rest) = l ++ R.distinct get set seen' k rest := by
  induction l generalizing seen with
  | nil => exact ⟨seen, rfl⟩
  | cons a l ih =>
    rw [map_cons, nodup_cons] at hnodup
    have hseen' : ∀ b ∈ l, get b ∉ get a :: seen := by
      intro b hb hmem
      rcases mem_cons.mp hmem with heq | hmem
      · exact hnodup.1 (heq ▸ mem_map_of_mem hb)
      · exact hseen b (mem_cons_of_mem a hb) hmem
    obtain ⟨seen', hrest⟩ := ih hnodup.2 hseen'
    refine ⟨seen', ?_⟩
    rw [cons_append, distinct, R.fresh_of_not_mem (hseen a mem_cons_self)]
    dsimp only
    rw [hset, hrest]
    rfl

theorem distinct_of_nodup : R.distinct get set seen k l = l := by
  obtain ⟨seen', h⟩ := R.distinct_append hset hnodup hseen k []
  simpa [distinct] using h

end

theorem forall₂_distinct (seen : List κ) (k : Nat) (l : List α) :
    Forall₂ (fun a b => ∃ key, b = set key a) l (R.distinct get set seen k l) := by
  induction l generalizing seen k with
  | nil => exact .nil
  | cons a rest ih => exact .cons ⟨_, rfl⟩ (ih _ _)

end Renaming

end Kit
