import Mathlib.Data.List.Infix

/-!
# Kit — lists with consecutive numbers

`Consecutive f n l`: the numbers `f` of the elements of `l` are `n`, `n + 1` and so on. A list of
which something is left out shows it: a sublist of consecutive numbers is a stretch of the list
(`infix_of_sublist`).
-/

namespace Kit

open List

variable {α : Type*} {f : α → Int}

def Consecutive (f : α → Int) : Int → List α → Prop
  | _, [] => True
  | n, a :: as => f a = n ∧ Consecutive f (n + 1) as

namespace Consecutive

variable {n : Int} {l l' : List α}

theorem le_of_mem (h : Consecutive f n l) {a : α} (ha : a ∈ l) : n ≤ f a := by
  induction l generalizing n with
  | nil => cases ha
  | cons b l ih =>
    rcases mem_cons.mp ha with rfl | hmem
    · exact Int.le_of_eq h.1.symm
    · have hle := ih h.2 hmem
      omega

theorem prefix_of_sublist (h : Consecutive f n l) (h' : Consecutive f n l') (hsub : l'.Sublist l) :
    l' <+: l := by
  induction l generalizing n l' with
  | nil =>
    rw [sublist_nil.mp hsub]
  | cons a l ih =>
    cases l' with
    | nil => exact nil_prefix
    | cons b l' =>
      cases hsub with
      | cons_cons _ hrest => exact (prefix_cons_inj a).mpr (ih h.2 h'.2 hrest)
      | cons _ hskip =>
        -- the number of `b` has been passed
        have hmem : b ∈ l := hskip.subset mem_cons_self
        have hle := le_of_mem h.2 hmem
        have hb := h'.1
        omega

theorem infix_of_sublist {m : Int} (h : Consecutive f n l) (h' : Consecutive f m l')
    (hsub : l'.Sublist l) : l' <:+: l := by
  induction l generalizing n with
  | nil =>
    rw [sublist_nil.mp hsub]
  | cons a l ih =>
    cases hsub with
    | cons _ hskip => exact infix_cons (ih h.2 hskip)
    | cons_cons _ hrest =>
      have hm := h'.1
      have hn := h.1
      have hsame : m + 1 = n + 1 := by omega
      have hstart := prefix_of_sublist h.2 (hsame ▸ h'.2) hrest
      exact ((prefix_cons_inj a).mpr hstart).isInfix

end Consecutive

end Kit
