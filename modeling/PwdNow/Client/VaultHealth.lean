import Mathlib.Data.List.Induction

/-!
# Client — the health report

`computeHealth` of `web/src/pages/VaultHealth.tsx`, over any type of credentials with a password
(empty if there is none). Equal passwords are found through a hash of 32 bits. `healthScore`, which
is computed from the counts in floating point, is left out.
-/

namespace PwdNow.Client

open List

/-- A string as `charCodeAt` sees it. -/
abbrev CodeUnits := List (BitVec 16)

/-- `djb2`; the key of the map is its hexadecimal text. -/
def djb2 (s : CodeUnits) : BitVec 32 :=
  s.foldl (fun h c => (h <<< 5) + h ^^^ c.setWidth 32) 5381

structure HealthEntry (C : Type) where
  credential : C
  score : ℕ
  isWeak : Bool
  isReused : Bool
  isCommon : Bool

structure HealthReport (C : Type) where
  entries : List (HealthEntry C)
  weakCount : ℕ
  reusedCount : ℕ
  commonCount : ℕ

section

variable {C : Type} (password : C → CodeUnits)

def withPasswords (credentials : List C) : List C := credentials.filter fun c => password c ≠ []

def hashCounts (credentials : List C) : BitVec 32 → Option ℕ :=
  credentials.foldl (fun counts c =>
    Function.update counts (djb2 (password c)) (some ((counts (djb2 (password c))).getD 0 + 1)))
    fun _ => none

def computeHealth (passwordScore : CodeUnits → ℕ) (commonPasswords : CodeUnits → Bool)
    (credentials : List C) : HealthReport C :=
  let counts := hashCounts password (withPasswords password credentials)
  let entries := (withPasswords password credentials).map fun c =>
    let score := passwordScore (password c)
    { credential := c
      score
      isWeak := score ≤ 1
      isReused := (counts (djb2 (password c))).getD 1 > 1
      isCommon := commonPasswords (password c) : HealthEntry C }
  { entries
    weakCount := entries.countP (·.isWeak)
    reusedCount := entries.countP (·.isReused)
    commonCount := entries.countP (·.isCommon) }

/-- The password is not empty, and another credential of the list has it as well. -/
def Reused (credentials : List C) (c : C) : Prop :=
  password c ≠ [] ∧ 1 < credentials.countP (password · = password c)

instance (credentials : List C) (c : C) : Decidable (Reused password credentials c) :=
  inferInstanceAs (Decidable (_ ∧ _))

end

section

variable {C : Type} {password : C → CodeUnits} {credentials : List C}

theorem getD_hashCounts (cs : List C) (key : BitVec 32) :
    (hashCounts password cs key).getD 0 = cs.countP fun c => djb2 (password c) = key := by
  induction cs using reverseRecOn with
  | nil => rfl
  | append_singleton cs c ih =>
    rw [countP_append, countP_singleton, ← ih]
    unfold hashCounts
    rw [foldl_append, foldl_cons, foldl_nil]
    by_cases hkey : djb2 (password c) = key
    · subst hkey
      simp
    · rw [Function.update_of_ne (Ne.symm hkey)]
      simp [hkey]

/-- Where the hash tells the passwords apart, the counts are those of the passwords. -/
theorem isReused_iff (hapart : ∀ c ∈ credentials, ∀ c' ∈ credentials,
      djb2 (password c) = djb2 (password c') → password c = password c')
    {c : C} (hc : c ∈ withPasswords password credentials) :
    (hashCounts password (withPasswords password credentials) (djb2 (password c))).getD 1 > 1 ↔
      Reused password credentials c := by
  obtain ⟨hmem, hne⟩ := mem_filter.mp hc
  have hcount : (hashCounts password (withPasswords password credentials)
      (djb2 (password c))).getD 0 = credentials.countP (password · = password c) := by
    rw [getD_hashCounts, withPasswords, countP_filter]
    refine countP_congr fun c' hc' => ?_
    simp only [Bool.and_eq_true, decide_eq_true_eq]
    refine ⟨fun h => hapart c' hc' c hmem h.1, fun h => ⟨by rw [h], ?_⟩⟩
    rw [h]
    exact of_decide_eq_true hne
  rw [Reused, ← hcount]
  cases hashCounts password (withPasswords password credentials) (djb2 (password c)) with
  | none => simp
  | some n => simpa using fun _ => of_decide_eq_true hne

end

/-- "bC", "c" and "bC", in code units. -/
def twiceUsed : List CodeUnits := [[98, 67], [99], [98, 67]]

end PwdNow.Client
