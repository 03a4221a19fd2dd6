import Mathlib.Data.List.Nodup

/-!
# Kit — two lists with the same keys

Lists whose elements have distinct keys, and two such lists that are related element by element
(`List.Forall₂`): the operations on the element under a key keep them so. `findIdx` and `set`
exchange the element that `find?` finds.
-/

namespace Kit

open List

variable {α β κ : Type} {ka : α → κ} {kb : β → κ} {R : α → β → Prop} {as : List α} {bs : List β}
  {b : β} {a : α} {l : List α}

theorem key_ne_of_notMem {c : β} (h : kb b ∉ bs.map kb) (hc : c ∈ bs) : kb c ≠ kb b :=
  fun heq => h (mem_map.mpr ⟨c, hc, heq⟩)

theorem find?_key [DecidableEq κ] (hn : (as.map ka).Nodup) (ha : a ∈ as) :
    as.find? (fun x => ka x = ka a) = some a := by
  induction as with
  | nil => cases ha
  | cons x as ih =>
    rw [map_cons, nodup_cons] at hn
    rcases mem_cons.mp ha with rfl | ha
    · simp
    · have hne : ka x ≠ ka a := (key_ne_of_notMem hn.1 ha).symm
      rw [find?_cons, decide_eq_false hne]
      exact ih hn.2 ha

variable {p : α → Bool} {q : β → Bool}

theorem forall₂_find? (hpq : ∀ a b, R a b → p a = q b) (h : Forall₂ R as bs) :
    (as.find? p = none ∧ bs.find? q = none) ∨
      ∃ a b, as.find? p = some a ∧ bs.find? q = some b ∧ R a b := by
  induction h with
  | nil => exact Or.inl ⟨rfl, rfl⟩
  | @cons a b as bs hab _ ih =>
    rw [find?_cons, find?_cons, ← hpq a b hab]
    cases p a with
    | true => exact Or.inr ⟨a, b, rfl, rfl, hab⟩
    | false => exact ih

theorem forall₂_any (hpq : ∀ a b, R a b → p a = q b) (h : Forall₂ R as bs) :
    as.any p = bs.any q := by
  induction h with
  | nil => rfl
  | @cons a b as bs hab _ ih => rw [any_cons, any_cons, ih, hpq a b hab]

theorem set_findIdx_of_find? (h : l.find? p = some a) : l.set (l.findIdx p) a = l := by
  induction l with
  | nil => rfl
  | cons x l ih =>
    rw [find?_cons] at h
    rw [findIdx_cons]
    cases hx : p x with
    | true =>
      rw [hx] at h
      simp [Option.some.inj h]
    | false =>
      rw [hx] at h
      simp [ih h]

theorem find?_set_findIdx {a' : α} (h : l.find? p = some a) (ha' : p a' = true) :
    (l.set (l.findIdx p) a').find? p = some a' := by
  induction l with
  | nil => cases h
  | cons x l ih =>
    rw [find?_cons] at h
    rw [findIdx_cons]
    cases hx : p x with
    | true => simp [ha']
    | false =>
      rw [hx] at h
      simpa [hx] using ih h

section

variable (hk : ∀ a b, R a b → ka a = kb b)
include hk

theorem forall₂_keys (h : Forall₂ R as bs) : as.map ka = bs.map kb := by
  induction h with
  | nil => rfl
  | @cons a b as bs hab _ ih => rw [map_cons, map_cons, ih, hk a b hab]

theorem forall₂_exchange [DecidableEq κ] (h : Forall₂ R as bs)
    (hn : (bs.map kb).Nodup) (key : κ) {a' : α} {b' : β} (hab' : R a' b') :
    Forall₂ R (as.set (as.findIdx fun a => ka a = key) a')
      (bs.map fun b => if kb b = key then b' else b) := by
  induction h with
  | nil => exact .nil
  | @cons a b as bs hab htail ih =>
    rw [map_cons, nodup_cons] at hn
    rw [findIdx_cons, map_cons, hk a b hab]
    by_cases hkey : kb b = key
    · have hothers : (bs.map fun b => if kb b = key then b' else b) = bs := by
        conv_rhs => rw [← map_id bs]
        exact map_congr_left fun c hc => if_neg (hkey ▸ key_ne_of_notMem hn.1 hc)
      simp only [hkey, decide_true, cond_true, set_cons_zero, if_true, hothers]
      exact .cons hab' htail
    · simp only [hkey, decide_false, cond_false, set_cons_succ, if_false]
      exact .cons hab (ih hn.2)

theorem forall₂_remove [DecidableEq κ] (h : Forall₂ R as bs) (hn : (bs.map kb).Nodup)
    (key : κ) : Forall₂ R (as.eraseP fun a => ka a = key) (bs.filter fun b => kb b ≠ key) := by
  induction h with
  | nil => exact .nil
  | @cons a b as bs hab htail ih =>
    rw [map_cons, nodup_cons] at hn
    rw [eraseP_cons, filter_cons, hk a b hab]
    by_cases hkey : kb b = key
    · have hothers : (bs.filter fun b => kb b ≠ key) = bs := by
        rw [filter_eq_self]
        exact fun c hc => decide_eq_true (hkey ▸ key_ne_of_notMem hn.1 hc)
      simp only [hkey, ne_eq, decide_true, cond_true, not_true_eq_false, decide_false,
        Bool.false_eq_true, if_false]
      exact hothers.symm ▸ htail
    · simpa [hkey] using Forall₂.cons hab (ih hn.2)

end

theorem forall₂_of_keys (h : as.map ka = bs.map kb)
    (hR : ∀ a ∈ as, ∀ b ∈ bs, ka a = kb b → R a b) : Forall₂ R as bs := by
  induction as generalizing bs with
  | nil =>
    cases bs with
    | nil => exact .nil
    | cons b bs => simp at h
  | cons a as ih =>
    cases bs with
    | nil => simp at h
    | cons b bs =>
      rw [map_cons, map_cons, cons.injEq] at h
      refine .cons (hR a mem_cons_self b mem_cons_self h.1) (ih h.2 ?_)
      exact fun a' ha' b' hb' => hR a' (mem_cons_of_mem _ ha') b' (mem_cons_of_mem _ hb')

theorem exists_right_of_forall₂ (h : Forall₂ R as bs) (hb : b ∈ bs) : ∃ a ∈ as, R a b := by
  induction h with
  | nil => cases hb
  | @cons a c as bs hac _ ih =>
    rcases mem_cons.mp hb with rfl | hb
    · exact ⟨a, mem_cons_self, hac⟩
    · obtain ⟨a', ha', hab⟩ := ih hb
      exact ⟨a', mem_cons_of_mem _ ha', hab⟩

theorem exists_left_of_forall₂ (h : Forall₂ R as bs) (ha : a ∈ as) : ∃ b ∈ bs, R a b :=
  exists_right_of_forall₂ h.flip ha

end Kit
