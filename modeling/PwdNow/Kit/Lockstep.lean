import PwdNow.Kit.Serial

/-!
# Kit — two runs of one schedule

Two programs are in `Lockstep` along a relation `R` of their states if, resumed with the same
input in related states, they run related sections and end in the same way. Programs that are
built alike from sections in lockstep are in lockstep.
-/

namespace Kit

namespace Async

variable {l l' ι σ τ ε α β : Type}

inductive Lockstep (R : σ → τ → Prop) : Async l ι σ ε α → Async l' ι τ ε α → Prop
  | done (a : α) : Lockstep R (.done a) (.done a)
  | fail (e : ε) : Lockstep R (.fail e) (.fail e)
  | await {label : l} {ready : ι → σ → Bool} {act : ι → σ → σ} {next : ι → σ → Async l ι σ ε α}
    {label' : l'} {ready' : ι → τ → Bool} {act' : ι → τ → τ} {next' : ι → τ → Async l' ι τ ε α}
    (hready : ∀ i s t, R s t → ready i s = ready' i t)
    (hact : ∀ i s t, R s t → R (act i s) (act' i t))
    (hnext : ∀ i s t, R s t → Lockstep R (next i s) (next' i t)) :
    Lockstep R (.await label ready act next) (.await label' ready' act' next')

variable {R : σ → τ → Prop}

theorem lockstep_pure {a : α} : Lockstep R (pure a : Async l ι σ ε α) (pure a : Async l' ι τ ε α) :=
  .done a

variable {x : Async l ι σ ε α} {y : Async l' ι τ ε α}

theorem lockstep_bind {k : α → Async l ι σ ε β} {k' : α → Async l' ι τ ε β} (hx : Lockstep R x y)
    (hk : ∀ a, Lockstep R (k a) (k' a)) : Lockstep R (x >>= k) (y >>= k') := by
  simp only [bind_eq]
  induction hx with
  | done a => exact hk a
  | fail e => exact .fail e
  | await hready hact _ ih => exact .await hready hact ih

theorem lockstep_tryCatch {k : ε → Async l ι σ ε α} {k' : ε → Async l' ι τ ε α}
    (hx : Lockstep R x y) (hk : ∀ e, Lockstep R (k e) (k' e)) :
    Lockstep R (tryCatch x k) (tryCatch y k') := by
  change Lockstep R (Async.tryCatch x k) (Async.tryCatch y k')
  induction hx with
  | done a => exact .done a
  | fail e => exact hk e
  | await hready hact _ ih => exact .await hready hact ih

theorem lockstep_finally {z : Async l ι σ ε Unit} {z' : Async l' ι τ ε Unit} (hx : Lockstep R x y)
    (hz : Lockstep R z z') : Lockstep R (x.finally_ z) (y.finally_ z') := by
  induction hx with
  | done a => exact lockstep_bind hz fun _ => .done a
  | fail e => exact lockstep_bind hz fun _ => .fail e
  | await hready hact _ ih => exact .await hready hact ih

theorem lockstep_ite {c : Prop} [Decidable c] {x' : Async l ι σ ε α} {y' : Async l' ι τ ε α}
    (hx : Lockstep R x y) (hy : Lockstep R x' y') :
    Lockstep R (if c then x else x') (if c then y else y') := by
  split
  · exact hx
  · exact hy

variable {label : l} {label' : l'} {f : ι → Fallible ε σ α} {g : ι → Fallible ε τ α}

theorem lockstep_waiting {ready : ι → σ → Bool} {ready' : ι → τ → Bool}
    (hready : ∀ i s t, R s t → ready i s = ready' i t)
    (h : ∀ i s t, R s t → (f i s).1 = (g i t).1 ∧ R (f i s).2 (g i t).2) :
    Lockstep R (waiting label ready f) (waiting label' ready' g) := by
  refine .await hready (fun i s t hR => (h i s t hR).2) fun i s t hR => ?_
  rw [(h i s t hR).1]
  cases (g i t).1 with
  | ok a => exact .done a
  | error e => exact .fail e

theorem lockstep_section (h : ∀ i s t, R s t → (f i s).1 = (g i t).1 ∧ R (f i s).2 (g i t).2) :
    Lockstep R (section_ label f) (section_ label' g) :=
  lockstep_waiting (fun _ _ _ _ => rfl) h

theorem Lockstep.outcome (h : Lockstep R x y) : x.outcome = y.outcome := by
  cases h <;> rfl

theorem Lockstep.run (h : Lockstep R x y) (inputs : ℕ → ι) {s : σ} {t : τ} (hR : R s t) :
    (x.run inputs s).1 = (y.run inputs t).1 := by
  induction h generalizing inputs s t with
  | done a => rfl
  | fail e => rfl
  | await hready hact _ ih =>
    unfold Async.run
    rw [hready _ _ _ hR]
    split
    · exact ih _ _ _ hR _ (hact _ _ _ hR)
    · rfl

end Async

namespace System

variable {π l l' ι σ τ ε α : Type} {R : σ → τ → Prop}

/-- The states are related, and every process is in lockstep with its counterpart. -/
structure Lockstep (R : σ → τ → Prop) (t : System π l ι σ ε α) (t' : System π l' ι τ ε α) :
    Prop where
  shared : R t.shared t'.shared
  procs : ∀ p, (t.procs p).Lockstep R (t'.procs p)

variable {t : System π l ι σ ε α} {t' : System π l' ι τ ε α}

theorem Lockstep.outcomes (h : Lockstep R t t') : t.outcomes = t'.outcomes :=
  funext fun p => (h.procs p).outcome

variable [DecidableEq π]

theorem lockstep_step (e : π × ι) (h : Lockstep R t t') : Lockstep R (step t e) (step t' e) := by
  have hp := h.procs e.1
  unfold step
  generalize hx : t.procs e.1 = x at hp
  generalize hy : t'.procs e.1 = y at hp
  cases hp with
  | done a => exact h
  | fail a => exact h
  | await hready hact hnext =>
    dsimp only
    rw [hready e.2 _ _ h.shared]
    split
    · refine ⟨hact _ _ _ h.shared, fun q => ?_⟩
      dsimp only
      by_cases hq : q = e.1
      · subst hq
        rw [Function.update_self, Function.update_self]
        exact hnext _ _ _ h.shared
      · rw [Function.update_of_ne hq, Function.update_of_ne hq]
        exact h.procs q
    · exact h

/-- **Two runs of one schedule** stay in lockstep. -/
theorem lockstep_run (h : Lockstep R t t') (es : List (π × ι)) :
    Lockstep R (run step t es) (run step t' es) :=
  run_related (fun _ _ e => lockstep_step e) h es

end System

end Kit
