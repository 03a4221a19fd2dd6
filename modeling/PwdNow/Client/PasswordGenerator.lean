import Mathlib.Data.Int.CardIntervalMod

/-!
# Client — the draws of the password generator

`secureRandInt` and its uses in `generate` of `web/src/pages/PasswordGenerator.tsx`. A draw is a
number below `2 ^ 32`; those from `limit` on are drawn again.
-/

namespace PwdNow.Client

open Finset

def limit (max : ℕ) : ℕ := 0x100000000 - 0x100000000 % max

/-- `secureRandInt(max)`, on what `getRandomValues` gives one after the other. -/
def secureRandInt (max : ℕ) (draws : List ℕ) : Option ℕ :=
  (draws.find? (· < limit max)).map (· % max)

/-- `options[secureRandInt(options.length)]`: a character of the set, or a word of the list. -/
def choose (options : List String) (draws : List ℕ) : Option String :=
  (secureRandInt options.length draws).bind (options[·]?)

/-- The draws with which the loop ends at once. -/
def accepted (max : ℕ) : Finset ℕ := {draw ∈ range (2 ^ 32) | (secureRandInt max [draw]).isSome}

variable {max : ℕ}

theorem secureRandInt_singleton (draw : ℕ) :
    secureRandInt max [draw] = if draw < limit max then some (draw % max) else none := by
  by_cases h : draw < limit max <;> simp [secureRandInt, h]

theorem accepted_eq : accepted max = range (limit max) := by
  ext draw
  simp only [accepted, mem_filter, mem_range, secureRandInt_singleton]
  have hle : limit max ≤ 2 ^ 32 := Nat.sub_le _ _
  split <;> simp <;> omega

/-- `limit` is a multiple of `max`, so that every remainder is there as often as the others. -/
theorem card_accepted_mod {r : ℕ} (hmax : 0 < max) (hr : r < max) :
    #{draw ∈ accepted max | secureRandInt max [draw] = some r} = limit max / max := by
  have hdvd : limit max % max = 0 := Nat.mod_eq_zero_of_dvd (Nat.dvd_sub_mod _)
  have hcount := Nat.count_modEq_card (limit max) hmax r
  rw [hdvd, if_neg (Nat.not_lt_zero _), Nat.add_zero, Nat.count_eq_card_filter_range] at hcount
  rw [← hcount, accepted_eq]
  refine congrArg card (filter_congr fun draw hdraw => ?_)
  rw [secureRandInt_singleton, if_pos (mem_range.mp hdraw), Option.some.injEq, Nat.ModEq,
    Nat.mod_eq_of_lt hr]

/-- **The index is not biased**, and neither is a choice of `generate`: at least half of the draws
are accepted, and every result comes from as many of them. -/
theorem secureRandInt_unbiased (hmax : 1 ≤ max) (hmax' : max ≤ 2 ^ 32) :
    2 ^ 31 ≤ #(accepted max) ∧
      (∀ draw ∈ accepted max, ∃ r < max, secureRandInt max [draw] = some r) ∧
      (∀ r < max, #{draw ∈ accepted max | secureRandInt max [draw] = some r} = limit max / max) ∧
      ∀ options : List String, options.Nodup → options.length = max → ∀ x ∈ options,
        #{draw ∈ accepted max | choose options [draw] = some x} = limit max / max := by
  refine ⟨?_, fun draw hdraw => ?_, fun r hr => card_accepted_mod hmax hr,
    fun options hnodup hlength x hx => ?_⟩
  · rw [accepted_eq, card_range, limit]
    -- there is one whole round at least, and the rest is less than a round
    have hrest := Nat.mod_lt 0x100000000 hmax
    have hround : max ≤ max * (0x100000000 / max) :=
      Nat.le_mul_of_pos_right _ (Nat.div_pos hmax' hmax)
    have hsum := Nat.div_add_mod 0x100000000 max
    omega
  · rw [accepted_eq, mem_range] at hdraw
    exact ⟨draw % max, Nat.mod_lt _ hmax, by rw [secureRandInt_singleton, if_pos hdraw]⟩
  · obtain ⟨i, hi, rfl⟩ := List.getElem_of_mem hx
    rw [← card_accepted_mod hmax (hlength ▸ hi)]
    refine congrArg card (filter_congr fun draw hdraw => ?_)
    rw [accepted_eq, mem_range] at hdraw
    have hlt : draw % max < options.length := hlength.symm ▸ Nat.mod_lt _ hmax
    rw [choose, hlength, secureRandInt_singleton, if_pos hdraw, Option.bind_some,
      List.getElem?_eq_getElem hlt, Option.some.injEq, Option.some.injEq, hnodup.getElem_inj_iff]

theorem secureRandInt_unbiased_digit : 2 ^ 31 ≤ #(accepted 10) ∧
    ∀ r < 10, #{draw ∈ accepted 10 | secureRandInt 10 [draw] = some r} = limit 10 / 10 := by
  obtain ⟨hhalf, -, hequal, -⟩ := @secureRandInt_unbiased 10 (by decide) (by decide)
  exact ⟨hhalf, hequal⟩

end PwdNow.Client
