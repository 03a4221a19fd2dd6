import Mathlib

/-!
# Client — card numbers

`luhnCheck`, `formatPan` and `maskPan` of `web/src/utils/cardUtils.ts`. The loop of `luhnCheck` runs
from the last digit to the first and doubles every second one.
-/

namespace PwdNow.Client

open List

/-- What the loop adds for one digit. -/
def luhnDigit (isEven : Bool) (c : Char) : ℕ :=
  let digit := c.toNat - '0'.toNat
  if isEven then
    if digit * 2 > 9 then digit * 2 - 9 else digit * 2
  else digit

def luhnStep : ℕ × Bool → Char → ℕ × Bool
  | (sum, isEven), c => (sum + luhnDigit isEven c, !isEven)

/-- What is not a digit is dropped first. -/
def luhnCheck (rawDigits : List Char) : Bool :=
  let d := rawDigits.filter (·.isDigit)
  if d.length < 2 then false
  else (d.reverse.foldl luhnStep (0, false)).1 % 10 == 0

/-- `b` is `a` with one digit mistyped, or with two neighbours exchanged that are not 0 and 9. -/
inductive TypingError : List Char → List Char → Prop
  | digit (before after : List Char) (x y : Char) (hne : x ≠ y) :
    TypingError (before ++ x :: after) (before ++ y :: after)
  | exchange (before after : List Char) (x y : Char) (hne : x ≠ y) (h09 : ¬ (x = '0' ∧ y = '9'))
    (h90 : ¬ (x = '9' ∧ y = '0')) :
    TypingError (before ++ x :: y :: after) (before ++ y :: x :: after)

/-! ## The sum -/

def luhnSum : Bool → List Char → ℕ
  | _, [] => 0
  | isEven, c :: rest => luhnDigit isEven c + luhnSum (!isEven) rest

theorem foldl_luhnStep (d : List Char) (sum : ℕ) (isEven : Bool) :
    (d.foldl luhnStep (sum, isEven)).1 = sum + luhnSum isEven d := by
  induction d generalizing sum isEven with
  | nil => rfl
  | cons c d ih =>
    rw [foldl_cons, luhnStep, ih, luhnSum]
    omega

/-- What comes first decides only whether the rest begins on a doubled digit. -/
theorem luhnSum_append (isEven : Bool) (d : List Char) :
    ∃ isEven', ∀ d', luhnSum isEven (d ++ d') = luhnSum isEven d + luhnSum isEven' d' := by
  induction d generalizing isEven with
  | nil => exact ⟨isEven, fun d' => (Nat.zero_add _).symm⟩
  | cons c d ih =>
    obtain ⟨isEven', h⟩ := ih (!isEven)
    refine ⟨isEven', fun d' => ?_⟩
    rw [cons_append, luhnSum, h, luhnSum]
    omega

theorem mod_of_luhnCheck {d : List Char} (hd : ∀ c ∈ d, c.isDigit = true)
    (h : luhnCheck d = true) : luhnSum false d.reverse % 10 = 0 := by
  unfold luhnCheck at h
  rw [filter_eq_self.mpr hd] at h
  dsimp only at h
  split at h
  · cases h
  · rw [foldl_luhnStep, Nat.zero_add] at h
    exact beq_iff_eq.mp h

/-! ## One digit and two -/

theorem toNat_of_isDigit {c : Char} (h : c.isDigit = true) : 48 ≤ c.toNat ∧ c.toNat ≤ 57 := by
  simp only [Char.isDigit, Bool.and_eq_true, decide_eq_true_eq] at h
  exact h

section

variable {x y : Char} (isEven : Bool) (hx : x.isDigit = true) (hy : y.isDigit = true)
include hx hy

theorem luhnDigit_inj (h : luhnDigit isEven x % 10 = luhnDigit isEven y % 10) : x = y := by
  have hx' := toNat_of_isDigit hx
  have hy' := toNat_of_isDigit hy
  refine Char.toNat_inj.mp ?_
  cases isEven with
  | false =>
    simp only [luhnDigit, Bool.false_eq_true, if_false, Char.reduceToNat] at h
    omega
  | true =>
    simp only [luhnDigit, if_true, Char.reduceToNat] at h
    split_ifs at h <;> omega

theorem luhnDigit_exchange (h : (luhnDigit isEven y + luhnDigit (!isEven) x) % 10 =
      (luhnDigit isEven x + luhnDigit (!isEven) y) % 10) :
    x = y ∨ x = '0' ∧ y = '9' ∨ x = '9' ∧ y = '0' := by
  have hx' := toNat_of_isDigit hx
  have hy' := toNat_of_isDigit hy
  simp only [← Char.toNat_inj, Char.reduceToNat]
  cases isEven <;>
    simp only [luhnDigit, Bool.not_false, Bool.not_true, Bool.false_eq_true, if_false, if_true,
      Char.reduceToNat] at h <;>
    split_ifs at h <;> omega

end

/-- **A mistyped digit or an exchange is noticed**: not both numbers pass. -/
theorem luhnCheck_detects {a b : List Char} (ha : ∀ c ∈ a, c.isDigit = true)
    (hb : ∀ c ∈ b, c.isDigit = true) (h : TypingError a b) :
    ¬ (luhnCheck a = true ∧ luhnCheck b = true) := by
  rintro ⟨hcheck, hcheck'⟩
  have hsum := mod_of_luhnCheck ha hcheck
  have hsum' := mod_of_luhnCheck hb hcheck'
  cases h with
  | digit before after x y hne =>
    obtain ⟨isEven, happend⟩ := luhnSum_append false after.reverse
    simp only [reverse_append, reverse_cons, append_assoc, happend,
      singleton_append, luhnSum] at hsum hsum'
    exact hne (luhnDigit_inj isEven (ha x (by simp)) (hb y (by simp)) (by omega))
  | exchange before after x y hne h09 h90 =>
    obtain ⟨isEven, happend⟩ := luhnSum_append false after.reverse
    simp only [reverse_append, reverse_cons, append_assoc, happend,
      cons_append, nil_append, luhnSum] at hsum hsum'
    rcases luhnDigit_exchange isEven (ha x (by simp)) (hb y (by simp)) (by omega) with h | h | h
    · exact hne h
    · exact h09 h
    · exact h90 h

theorem luhnCheck_detects_last :
    ¬ (luhnCheck "4111111111111111".toList = true ∧ luhnCheck "4111111111111112".toList = true) :=
  luhnCheck_detects (all_eq_true.mp rfl) (all_eq_true.mp rfl)
    (.digit "411111111111111".toList [] '1' '2' (by decide))

/-! ## Groups of digits -/

inductive CardNetwork where
  | visa | mastercard | amex | discover | jcb | diners | unionpay | maestro | rupay

namespace CardNetwork

def lengths : CardNetwork → List ℕ
  | visa => [13, 16]
  | amex => [15]
  | diners => [14]
  | jcb | unionpay => [16, 17, 18, 19]
  | maestro => [12, 13, 14, 15, 16, 17, 18, 19]
  | mastercard | discover | rupay => [16]

def format : CardNetwork → List ℕ
  | amex => [4, 6, 5]
  | diners => [4, 6, 4]
  | _ => [4, 4, 4, 4]

end CardNetwork

/-- `PAN_MAX_LENGTH` is 16. -/
def maxPanLength : Option CardNetwork → ℕ
  | none => 16
  | some network => network.lengths.foldr max 0

def groupsOf (network : Option CardNetwork) : List ℕ := (network.map (·.format)).getD [4, 4, 4, 4]

/-- The loop of `formatPan`. -/
def parts (digits : List Char) (pos : ℕ) : List ℕ → List (List Char)
  | [] => []
  | len :: groups =>
    let chunk := (digits.take (pos + len)).drop pos
    if chunk = [] then [] else chunk :: parts digits (pos + len) groups

def formatPan (digits : List Char) (network : Option CardNetwork) : List Char :=
  [' '].intercalate (parts digits 0 (groupsOf network))

def maskPan (digits : List Char) (unhideCount : ℕ) : List Char :=
  if digits = [] then []
  else
    let visibleStart := digits.length - unhideCount
    formatPan (replicate visibleStart 'X' ++ digits.drop visibleStart) none

def withoutBlanks (text : List Char) : List Char := text.filter (· ≠ ' ')

theorem withoutBlanks_intercalate (chunks : List (List Char)) :
    withoutBlanks ([' '].intercalate chunks) = withoutBlanks chunks.flatten := by
  induction chunks with
  | nil => rfl
  | cons chunk chunks ih =>
    cases chunks with
    | nil => simp
    | cons => simp_all [intercalate_cons_cons, withoutBlanks]

/-- The loop stops after the last group. -/
theorem flatten_parts (digits : List Char) {groups : List ℕ} (h : ∀ len ∈ groups, 0 < len) (pos : ℕ) :
    (parts digits pos groups).flatten = (digits.drop pos).take groups.sum := by
  induction groups generalizing pos with
  | nil => simp [parts]
  | cons len groups ih =>
    have hlen : 0 < len := h len mem_cons_self
    rw [parts, drop_take, Nat.add_sub_cancel_left, sum_cons, take_add, drop_drop]
    split
    · next hnone =>
      have hend : digits.drop pos = [] := by
        rcases take_eq_nil_iff.mp hnone with hzero | hend
        · omega
        · exact hend
      simp [← drop_drop, hend]
    · rw [flatten_cons, ih fun len' hmem => h len' (mem_cons_of_mem _ hmem)]

theorem withoutBlanks_formatPan {text : List Char} (h : ∀ c ∈ text, c ≠ ' ')
    (network : Option CardNetwork) :
    withoutBlanks (formatPan text network) = text.take (groupsOf network).sum := by
  have hpos : ∀ len ∈ groupsOf network, 0 < len := by
    rcases network with _ | network
    · decide
    · cases network <;> decide
  rw [formatPan, withoutBlanks_intercalate, flatten_parts _ hpos, drop_zero]
  exact filter_eq_self.mpr fun c hc => decide_eq_true (h c (mem_of_mem_take hc))

/-- **No digit is lost** exactly if there is room for all of them in the groups of the network, and
in the four groups of a masked number. -/
theorem digits_kept_iff {d : List Char} (hd : ∀ c ∈ d, c.isDigit = true)
    (network : Option CardNetwork) :
    (withoutBlanks (formatPan d network) = d ∧ ∀ u, withoutBlanks (maskPan d u) =
        replicate (d.length - u) 'X' ++ d.drop (d.length - u)) ↔
      d.length ≤ (groupsOf network).sum ∧ d.length ≤ 16 := by
  have hdigit : ∀ c ∈ d, c ≠ ' ' := by
    rintro c hc rfl
    exact absurd (hd _ hc) (by decide)
  have hmasked : ∀ u, ∀ c ∈ replicate (d.length - u) 'X' ++ d.drop (d.length - u), c ≠ ' ' := by
    intro u c hc
    rcases mem_append.mp hc with hx | hx
    · rw [eq_of_mem_replicate hx]
      decide
    · exact hdigit c (mem_of_mem_drop hx)
  have hmask : ∀ u, withoutBlanks (maskPan d u) =
      (replicate (d.length - u) 'X' ++ d.drop (d.length - u)).take 16 := by
    intro u
    unfold maskPan
    split
    · next hnil => simp [hnil, withoutBlanks]
    · exact withoutBlanks_formatPan (hmasked u) none
  have hlength : ∀ u, (replicate (d.length - u) 'X' ++ d.drop (d.length - u)).length = d.length := by
    intro u
    rw [length_append, length_replicate, length_drop]
    omega
  simp only [withoutBlanks_formatPan hdigit, hmask, take_eq_self_iff, hlength, forall_const]

theorem digits_kept_iff_visa :
    (withoutBlanks (formatPan "4111111111111111".toList (some .visa)) = "4111111111111111".toList ∧
      ∀ u, withoutBlanks (maskPan "4111111111111111".toList u) =
        replicate (16 - u) 'X' ++ "4111111111111111".toList.drop (16 - u)) :=
  (digits_kept_iff (all_eq_true.mp rfl) (some .visa)).mpr (by decide)

/-- **The last digit of 17 is lost.** -/
theorem unionpay_digit_lost :
    "62000000000000019".toList.length ≤ maxPanLength (some .unionpay) ∧
      withoutBlanks (formatPan "62000000000000019".toList (some .unionpay)) ≠
        "62000000000000019".toList := by
  decide

end PwdNow.Client
