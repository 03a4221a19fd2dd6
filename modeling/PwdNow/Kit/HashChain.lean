import Mathlib.Data.List.Infix

/-!
# Kit — chains of tags

Each entry of a chain carries a tag over its own data and the tag before it, the first one over a
fixed start. Where the tag determines what it was made over and the start is no tag, the last tag
of a chain determines the whole chain (`Chained.eq_of_lastTag`), so that a chain which ends in a
tag of another one is the beginning of it (`Chained.prefix_of_lastTag`).
-/

namespace Kit

open List

variable {β τ : Type*} {tag : τ → β → τ} {start : τ}

/-- `Chained tag start l`: the entries of `l` are chained from `start` on. -/
def Chained (tag : τ → β → τ) : τ → List (β × τ) → Prop
  | _, [] => True
  | start, (b, t) :: rest => t = tag start b ∧ Chained tag t rest

/-- The tag that the next entry is chained to. -/
def lastTag : τ → List (β × τ) → τ
  | start, [] => start
  | _, (_, t) :: rest => lastTag t rest

@[simp] theorem lastTag_nil : lastTag start ([] : List (β × τ)) = start := rfl

@[simp] theorem lastTag_concat (l : List (β × τ)) (entry : β × τ) :
    lastTag start (l ++ [entry]) = entry.2 := by
  induction l generalizing start with
  | nil => rfl
  | cons first l ih => exact ih

theorem lastTag_append (l l' : List (β × τ)) :
    lastTag start (l ++ l') = lastTag (lastTag start l) l' := by
  induction l generalizing start with
  | nil => rfl
  | cons first l ih => exact ih

namespace Chained

variable {l : List (β × τ)}

theorem concat {b : β} {t : τ} :
    Chained tag start (l ++ [(b, t)]) ↔ Chained tag start l ∧ t = tag (lastTag start l) b := by
  induction l generalizing start with
  | nil => simp [Chained]
  | cons entry l ih => simp [Chained, ih, lastTag, and_assoc]

variable {l' : List (β × τ)}

theorem left (h : Chained tag start (l ++ l')) : Chained tag start l := by
  induction l generalizing start with
  | nil => trivial
  | cons entry l ih => exact ⟨h.1, ih h.2⟩

theorem of_prefix (h : Chained tag start l) (hpre : l' <+: l) : Chained tag start l' := by
  obtain ⟨rest, rfl⟩ := hpre
  exact h.left

theorem right (h : Chained tag start (l ++ l')) : Chained tag (lastTag start l) l' := by
  induction l generalizing start with
  | nil => exact h
  | cons entry l ih => exact ih h.2

theorem tag_of_mem (h : Chained tag start l) {entry : β × τ} (hentry : entry ∈ l) :
    ∃ prev, entry.2 = tag prev entry.1 := by
  induction l generalizing start with
  | nil => cases hentry
  | cons first l ih =>
    rcases mem_cons.mp hentry with rfl | hentry
    · exact ⟨start, h.1⟩
    · exact ih h.2 hentry

section

variable {ok : β → Prop}
  (htag : ∀ p p' b b', ok b → ok b' → tag p b = tag p' b' → p = p' ∧ b = b')
  (hstart : ∀ p b, tag p b ≠ start)

include htag hstart

variable {l l' : List (β × τ)}

section

variable (h : Chained tag start l) (h' : Chained tag start l') (hok : ∀ entry ∈ l, ok entry.1)
    (hok' : ∀ entry ∈ l', ok entry.1)
include h h' hok hok'

/-- **The last tag commits to the chain.** Both chains are taken apart from the end: the last
tag gives the last data and the tag before it. -/
theorem eq_of_lastTag (hlast : lastTag start l = lastTag start l') : l = l' := by
  induction l using reverseRecOn generalizing l' with
  | nil =>
    cases l' using reverseRecOn with
    | nil => rfl
    | append_singleton l' entry' =>
      rw [lastTag_nil, lastTag_concat] at hlast
      exact absurd ((concat.mp h').2.symm.trans hlast.symm) (hstart _ _)
  | append_singleton l entry ih =>
    obtain ⟨b, t⟩ := entry
    cases l' using reverseRecOn with
    | nil =>
      rw [lastTag_nil, lastTag_concat] at hlast
      exact absurd ((concat.mp h).2.symm.trans hlast) (hstart _ _)
    | append_singleton l' entry' =>
      obtain ⟨b', t'⟩ := entry'
      obtain ⟨hl, ht⟩ := concat.mp h
      obtain ⟨hl', ht'⟩ := concat.mp h'
      rw [lastTag_concat, lastTag_concat] at hlast
      have hb : ok b := hok (b, t) (by simp)
      have hb' : ok b' := hok' (b', t') (by simp)
      obtain ⟨hprev, rfl⟩ := htag _ _ _ _ hb hb' (ht.symm.trans (hlast.trans ht'))
      have hrest := ih hl hl' (fun x hx => hok x (mem_append_left _ hx))
        (fun x hx => hok' x (mem_append_left _ hx)) hprev
      rw [hrest, show t = t' from hlast]

theorem prefix_of_lastTag {pre post : List (β × τ)} {b : β}
    (hl' : l' = pre ++ (b, lastTag start l) :: post) : l <+: l' := by
  have hsplit : l' = pre ++ [(b, lastTag start l)] ++ post := by rw [hl']; simp
  have hpre : Chained tag start (pre ++ [(b, lastTag start l)]) :=
    h'.of_prefix ⟨post, hsplit.symm⟩
  have heq : l = pre ++ [(b, lastTag start l)] :=
    eq_of_lastTag htag hstart h hpre hok
      (fun x hx => hok' x (hsplit ▸ mem_append_left _ hx)) (by rw [lastTag_concat])
  refine ⟨post, ?_⟩
  rw [hsplit, ← heq]

end

end

end Chained

end Kit
