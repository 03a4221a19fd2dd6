import PwdNow.Kit.Async

/-!
# Kit — a program, and another that keeps a record beside it

`beside` runs a program on the first of two components. A program `Shadows` another if on that
component it does the same, section by section, except that in between it may run sections of its
own, which leave the component alone and never wait.
-/

namespace Kit

namespace Async

variable {l ι σ τ ε α β : Type}

/-- The program on the first component. -/
def beside : Async l ι σ ε α → Async l ι (σ × τ) ε α
  | done a => done a
  | fail e => fail e
  | await label ready act next =>
    await label (fun i st => ready i st.1) (fun i st => (act i st.1, st.2)) fun i st =>
      (next i st.1).beside

inductive Shadows : Async l ι (σ × τ) ε α → Async l ι σ ε α → Prop
  | done (a : α) : Shadows (.done a) (.done a)
  | fail (e : ε) : Shadows (.fail e) (.fail e)
  | both {label label' : l} {ready : ι → σ → Bool} {act : ι → σ → σ}
    {next : ι → σ → Async l ι σ ε α} {ready' : ι → σ × τ → Bool} {act' : ι → σ × τ → σ × τ}
    {next' : ι → σ × τ → Async l ι (σ × τ) ε α}
    (hready : ∀ i st, ready' i st = ready i st.1) (hact : ∀ i st, (act' i st).1 = act i st.1)
    (hnext : ∀ i st, Shadows (next' i st) (next i st.1)) :
    Shadows (.await label' ready' act' next') (.await label ready act next)
  | aside {label' : l} {ready' : ι → σ × τ → Bool} {act' : ι → σ × τ → σ × τ}
    {next' : ι → σ × τ → Async l ι (σ × τ) ε α} {y : Async l ι σ ε α}
    (hready : ∀ i st, ready' i st = true) (hact : ∀ i st, (act' i st).1 = st.1)
    (hnext : ∀ i st, Shadows (next' i st) y) : Shadows (.await label' ready' act' next') y

theorem shadows_pure (a : α) :
    Shadows (pure a : Async l ι (σ × τ) ε α) (pure a : Async l ι σ ε α) :=
  .done a

theorem shadows_beside (x : Async l ι σ ε α) : Shadows (x.beside : Async l ι (σ × τ) ε α) x := by
  induction x with
  | done a => exact .done a
  | fail e => exact .fail e
  | await label ready act next ih =>
    exact .both (fun _ _ => rfl) (fun _ _ => rfl) fun i st => ih i st.1

variable {x' : Async l ι (σ × τ) ε α} {x : Async l ι σ ε α} {k' : α → Async l ι (σ × τ) ε β}

theorem shadows_bind {k : α → Async l ι σ ε β} (hx : Shadows x' x) (hk : ∀ a, Shadows (k' a) (k a)) :
    Shadows (x' >>= k') (x >>= k) := by
  simp only [bind_eq]
  induction hx with
  | done a => exact hk a
  | fail e => exact .fail e
  | both hready hact _ ih => exact .both hready hact ih
  | aside hready hact _ ih => exact .aside hready hact ih

variable {label' : l} {f' : ι → Fallible ε (σ × τ) α}

theorem shadows_section {label : l} {f : ι → Fallible ε σ α}
    (h : ∀ i st, (f' i st).1 = (f i st.1).1 ∧ (f' i st).2.1 = (f i st.1).2) :
    Shadows (section_ label' f') (section_ label f) := by
  refine .both (fun _ _ => rfl) (fun i st => (h i st).2) fun i st => ?_
  rw [(h i st).1]
  cases (f i st.1).1 with
  | ok a => exact .done a
  | error e => exact .fail e

theorem shadows_aside {y : Async l ι σ ε β}
    (h : ∀ i st, ∃ a, (f' i st).1 = .ok a ∧ Shadows (k' a) y) (hact : ∀ i st, (f' i st).2.1 = st.1) :
    Shadows (section_ label' f' >>= k') y := by
  refine .aside (fun _ _ => rfl) hact fun i st => ?_
  obtain ⟨a, ha, hk⟩ := h i st
  change Shadows (Async.bind (ofExcept (f' i st).1) k') y
  rw [ha]
  exact hk

theorem shadows_ite {c : Prop} [Decidable c] {y' : Async l ι (σ × τ) ε α} {y : Async l ι σ ε α}
    (hx : Shadows x' x) (hy : Shadows y' y) :
    Shadows (if c then x' else y') (if c then x else y) := by
  split
  · exact hx
  · exact hy

theorem Shadows.returns (h : Shadows x' x) {V : ι → Prop} {Q : Except ε α → σ → Prop} {st : σ × τ}
    (hx : x.Returns V Q st.1) : x'.Returns V (fun r st' => Q r st'.1) st := by
  induction h generalizing st with
  | done a => exact hx
  | fail e => exact hx
  | both hready hact _ ih =>
    intro i hi
    obtain ⟨hr, hnext⟩ := hx i hi
    refine ⟨(hready i st).trans hr, ih i st ?_⟩
    rwa [hact i st]
  | aside hready hact _ ih =>
    intro i _
    refine ⟨hready i st, ih i st ?_⟩
    rwa [hact i st]

end Async

end Kit
