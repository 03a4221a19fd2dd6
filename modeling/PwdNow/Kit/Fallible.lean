/-!
# Kit — fallible computations over a state

`Fallible ε σ α` runs on a state and returns a value or an error *together with the state it left
behind*. Sequencing stops at the first error. `bind_eq_ok` and `bind_eq_error` take a computation
apart one step at a time; `Keeps` and `Preserves` say what it leaves alone, whichever way it ends.
-/

namespace Kit

def Fallible (ε σ α : Type) := σ → Except ε α × σ

namespace Fallible

variable {ε σ α β : Type}

instance : Monad (Fallible ε σ) where
  pure a := fun s => (.ok a, s)
  bind x f := fun s =>
    match x s with
    | (.ok a, s') => f a s'
    | (.error e, s') => (.error e, s')

instance : MonadExceptOf ε (Fallible ε σ) where
  throw e := fun s => (.error e, s)
  tryCatch x handler := fun s =>
    match x s with
    | (.ok a, s') => (.ok a, s')
    | (.error e, s') => handler e s'

/-- Read something of the state. -/
def gets (f : σ → α) : Fallible ε σ α := fun s => (.ok (f s), s)

/-- Change the state. -/
def modify (f : σ → σ) : Fallible ε σ Unit := fun s => (.ok (), f s)

/-- A computation that only looks at the state and may fail. -/
def reads (f : σ → Except ε α) : Fallible ε σ α := fun s => (f s, s)

/-- A result that is already there. -/
def lift (r : Except ε α) : Fallible ε σ α := fun s => (r, s)

@[simp] theorem pure_run (a : α) (s : σ) : (pure a : Fallible ε σ α) s = (.ok a, s) := rfl

@[simp] theorem throw_run (e : ε) (s : σ) : (throw e : Fallible ε σ α) s = (.error e, s) := rfl

@[simp] theorem gets_run (f : σ → α) (s : σ) : (gets f : Fallible ε σ α) s = (.ok (f s), s) := rfl

@[simp] theorem modify_run (f : σ → σ) (s : σ) :
    (modify f : Fallible ε σ Unit) s = (.ok (), f s) := rfl

@[simp] theorem reads_run (f : σ → Except ε α) (s : σ) : reads f s = (f s, s) := rfl

@[simp] theorem lift_run (r : Except ε α) (s : σ) : lift r s = (r, s) := rfl

theorem bind_run (x : Fallible ε σ α) (f : α → Fallible ε σ β) (s : σ) :
    (x >>= f) s = match x s with
      | (.ok a, s') => f a s'
      | (.error e, s') => (.error e, s') := rfl

variable {x : Fallible ε σ α} {f : α → Fallible ε σ β} {s s' : σ} {a : α} {e : ε} {r : Except ε α}

theorem bind_run_ok (h : x s = (.ok a, s')) : (x >>= f) s = f a s' := by
  rw [bind_run, h]

theorem bind_run_error (h : x s = (.error e, s')) : (x >>= f) s = (.error e, s') := by
  rw [bind_run, h]

theorem eq_mk_of_fst {p : Except ε α × σ} (h : p.1 = r) : p = (r, p.2) := by
  rw [← h]

theorem bind_assoc {γ : Type} (x : Fallible ε σ α) (f : α → Fallible ε σ β)
    (g : β → Fallible ε σ γ) : x >>= f >>= g = x >>= fun a => f a >>= g := by
  funext s
  simp only [bind_run]
  cases h : x s with
  | mk r u => cases r <;> rfl

theorem pure_bind : (pure a : Fallible ε σ α) >>= f = f a := rfl

theorem bind_pure_unit (x : Fallible ε σ Unit) : (x >>= fun _ => pure ()) = x := by
  funext s
  rw [bind_run]
  cases h : x s with
  | mk r u => cases r <;> rfl

theorem lift_ok_bind : lift (.ok a) >>= f = f a := rfl

variable {t : σ}

/-- **Inversion of success.** A sequence succeeds only through a success of its first part. -/
theorem bind_eq_ok {b : β} :
    (x >>= f) s = (.ok b, t) ↔ ∃ a u, x s = (.ok a, u) ∧ f a u = (.ok b, t) := by
  rw [bind_run]
  split
  · next a u h => simp [h, and_assoc]
  · next e u h => simp [h]

/-- **Inversion of failure.** A sequence fails in its first part, or after it. -/
theorem bind_eq_error :
    (x >>= f) s = (.error e, t) ↔
      x s = (.error e, t) ∨ ∃ a u, x s = (.ok a, u) ∧ f a u = (.error e, t) := by
  rw [bind_run]
  split
  · next a u h => simp [h, and_assoc]
  · next e u h => simp [h]

theorem lift_eq_error : lift r s = (.error e, t) ↔ r = .error e ∧ t = s := by
  rw [lift_run, Prod.mk.injEq, eq_comm (a := s)]

theorem lift_eq_ok : lift r s = (.ok a, t) ↔ r = .ok a ∧ t = s := by
  rw [lift_run, Prod.mk.injEq, eq_comm (a := s)]

theorem reads_eq_ok {f : σ → Except ε α} : reads f s = (.ok a, t) ↔ f s = .ok a ∧ t = s := by
  rw [reads_run, Prod.mk.injEq, eq_comm (a := s)]

/-! ## Frames

`Keeps f x`: whatever `x` returns, it leaves `f` of the state as it was. -/

section Keeps

variable {γ : Type} {f : σ → γ}

def Keeps (f : σ → γ) (x : Fallible ε σ α) : Prop := ∀ s, f (x s).2 = f s

variable {x : Fallible ε σ α} {g : α → Fallible ε σ β} {s t : σ} {r : Except ε α}

theorem Keeps.eq (h : Keeps f x) (hrun : x s = (r, t)) : f t = f s := by
  have := h s
  rwa [hrun] at this

theorem Keeps.bind (hx : Keeps f x) (hg : ∀ a, Keeps f (g a)) : Keeps f (x >>= g) := by
  intro s
  rw [bind_run]
  split
  · next a t h => exact (hg a t).trans (hx.eq h)
  · next e t h => exact hx.eq h

theorem Keeps.pure (a : α) : Keeps f (Pure.pure a : Fallible ε σ α) := fun _ => rfl

theorem Keeps.lift (r : Except ε α) : Keeps f (lift r) := fun _ => rfl

theorem Keeps.lift_bind (hg : ∀ a, Keeps f (g a)) :
    Keeps f (Fallible.lift r >>= g) := (Keeps.lift r).bind hg

theorem Keeps.reads (g : σ → Except ε α) : Keeps f (reads g) := fun _ => rfl

theorem Keeps.gets (g : σ → α) : Keeps f (gets g : Fallible ε σ α) := fun _ => rfl

theorem Keeps.modify {g : σ → σ} (h : ∀ s, f (g s) = f s) :
    Keeps f (modify g : Fallible ε σ Unit) := h

theorem Keeps.same (h : Keeps id x) (hrun : x s = (r, t)) : t = s := h.eq hrun

/-- A sequence whose first part only reads stops there, or goes on from the same state. -/
theorem Keeps.bind_holds {R : σ → Prop} (h : Keeps id x) (hstop : R s)
    (hgo : ∀ a, x s = (.ok a, s) → R (g a s).2) : R ((x >>= g) s).2 := by
  rw [bind_run]
  split
  · next a t hrun =>
    obtain rfl := h.same hrun
    exact hgo a hrun
  · next e t hrun => rwa [h.same hrun]

theorem Keeps.bind_reaches (h : Keeps f x) {R : σ → Prop} (hstop : ∀ t, f t = f s → R t)
    (hgo : ∀ a t, f t = f s → R (g a t).2) : R ((x >>= g) s).2 := by
  rw [bind_run]
  split
  · next a t hrun => exact hgo a t (h.eq hrun)
  · next e t hrun => exact hstop t (h.eq hrun)

theorem gets_bind_comm {δ : Type} (h : Keeps f x) (g : γ → α → Fallible ε σ δ) :
    (gets f >>= fun c => x >>= g c) = x >>= fun a => gets f >>= fun c => g c a := by
  funext s
  rw [bind_run_ok (gets_run f s), bind_run, bind_run]
  split
  · next a t hrun => rw [bind_run_ok (gets_run f t), h.eq hrun]
  · rfl

end Keeps

/-! ## Views

`Respects f x`: all that `x` knows of the state is `f` of it. From two states that look the same
it returns the same, and leaves states that look the same. -/

section Respects

variable {γ : Type} {f : σ → γ}

def Respects (f : σ → γ) (x : Fallible ε σ α) : Prop :=
  ∀ s t, f s = f t → (x s).1 = (x t).1 ∧ f (x s).2 = f (x t).2

theorem Respects.bind {g : α → Fallible ε σ β} (hx : Respects f x) (hg : ∀ a, Respects f (g a)) :
    Respects f (x >>= g) := by
  intro s t hst
  have hsame := hx s t hst
  rw [bind_run, bind_run]
  cases hs : x s with
  | mk r s' =>
    cases ht : x t with
    | mk r' t' =>
      rw [hs, ht] at hsame
      obtain ⟨hr, hst'⟩ := hsame
      obtain rfl : r = r' := hr
      cases r with
      | ok a => exact hg a s' t' hst'
      | error e => exact ⟨rfl, hst'⟩

theorem Respects.pure (a : α) : Respects f (Pure.pure a : Fallible ε σ α) :=
  fun _ _ hst => ⟨rfl, hst⟩

theorem Respects.lift (r : Except ε α) : Respects f (Fallible.lift r) :=
  fun _ _ hst => ⟨rfl, hst⟩

theorem Respects.reads {g : σ → Except ε α} (hg : ∀ s t, f s = f t → g s = g t) :
    Respects f (Fallible.reads g) := fun s t hst => ⟨hg s t hst, hst⟩

theorem Respects.gets {g : σ → α} (hg : ∀ s t, f s = f t → g s = g t) :
    Respects f (Fallible.gets g : Fallible ε σ α) :=
  fun s t hst => ⟨congrArg Except.ok (hg s t hst), hst⟩

theorem Respects.of_keeps (hkeeps : Keeps f x) (hresult : ∀ s t, f s = f t → (x s).1 = (x t).1) :
    Respects f x :=
  fun s t hst => ⟨hresult s t hst, (hkeeps s).trans (hst.trans (hkeeps t).symm)⟩

theorem Respects.modify {g : σ → σ} (hg : ∀ s t, f s = f t → f (g s) = f (g t)) :
    Respects f (Fallible.modify g : Fallible ε σ Unit) := fun s t hst => ⟨rfl, hg s t hst⟩

end Respects

/-! ## Invariants

`Preserves I x`: started where `I` holds, `x` stops where `I` holds, whatever it returns. -/

section Preserves

variable {I : σ → Prop}

def Preserves (I : σ → Prop) (x : Fallible ε σ α) : Prop := ∀ s, I s → I (x s).2

variable {x : Fallible ε σ α} {g : α → Fallible ε σ β}

theorem Preserves.holds (hx : Preserves I x) (hs : I s) (hrun : x s = (r, t)) : I t := by
  have := hx s hs
  rwa [hrun] at this

/-- The rest of a sequence has to preserve the invariant only for what its first part returns. -/
theorem Preserves.bind_ok (hx : Preserves I x)
    (hg : ∀ s a t, I s → x s = (.ok a, t) → I t → I (g a t).2) : Preserves I (x >>= g) := by
  intro s hs
  rw [bind_run]
  split
  · next a t h => exact hg s a t hs h (hx.holds hs h)
  · next e t h => exact hx.holds hs h

theorem Preserves.bind (hx : Preserves I x) (hg : ∀ a, Preserves I (g a)) : Preserves I (x >>= g) :=
  hx.bind_ok fun _ a t _ _ ht => hg a t ht

theorem Keeps.preserves {γ : Type} {f : σ → γ} (h : Keeps f x) (Q : γ → Prop) :
    Preserves (fun s => Q (f s)) x := by
  intro s hs
  rw [h s]
  exact hs

theorem Preserves.of_same (h : Keeps id x) : Preserves I x := by
  intro s hs
  rw [show (x s).2 = s from h s]
  exact hs

theorem Preserves.pure (a : α) : Preserves I (Pure.pure a : Fallible ε σ α) := fun _ hs => hs

theorem Preserves.lift (r : Except ε α) : Preserves I (Fallible.lift r) := fun _ hs => hs

theorem Preserves.lift_bind (hg : ∀ a, Preserves I (g a)) :
    Preserves I (Fallible.lift r >>= g) := (Preserves.lift r).bind hg

theorem Preserves.gets (f : σ → α) : Preserves I (Fallible.gets f : Fallible ε σ α) :=
  fun _ hs => hs

theorem Preserves.reads (f : σ → Except ε α) : Preserves I (Fallible.reads f) := fun _ hs => hs

theorem Preserves.modify {f : σ → σ} (h : ∀ s, I s → I (f s)) :
    Preserves I (Fallible.modify f : Fallible ε σ Unit) := h

theorem Preserves.ite {c : Prop} [Decidable c] {y : Fallible ε σ α} (hx : Preserves I x)
    (hy : Preserves I y) : Preserves I (if c then x else y) := by
  split
  · exact hx
  · exact hy

/-- `Leads I R x`: started where `I` holds, `x` stops where `R` holds. -/
def Leads (I R : σ → Prop) (x : Fallible ε σ α) : Prop := ∀ s, I s → R (x s).2

variable {R : σ → Prop}

theorem Preserves.leads (hx : Preserves R x) (hIR : ∀ s, I s → R s) :
    Leads I R x := fun s hs => hx s (hIR s hs)

theorem Leads.bind (hx : Leads I R x) (hg : ∀ a, Preserves R (g a)) : Leads I R (x >>= g) := by
  intro s hs
  have hreached := hx s hs
  rw [bind_run]
  split
  · next a t hrun =>
    rw [hrun] at hreached
    exact hg a t hreached
  · next e t hrun => rwa [hrun] at hreached

theorem Preserves.bind_leads (hx : Preserves I x) (hIR : ∀ s, I s → R s) (hg : ∀ a, Leads I R (g a)) :
    Leads I R (x >>= g) := by
  intro s hs
  rw [bind_run]
  split
  · next a t hrun => exact hg a t (hx.holds hs hrun)
  · next e t hrun => exact hIR t (hx.holds hs hrun)

end Preserves

/-! ### Errors that leave the state alone -/

section FailsClean

def FailsClean (x : Fallible ε σ α) : Prop := ∀ s e t, x s = (.error e, t) → t = s

theorem FailsClean.of_same (h : Keeps id x) : FailsClean x :=
  fun _ _ _ hrun => h.same hrun

theorem FailsClean.bind {g : α → Fallible ε σ β} (hx : Keeps id x) (hg : ∀ a, FailsClean (g a)) :
    FailsClean (x >>= g) := by
  intro s e t hrun
  rcases bind_eq_error.mp hrun with hstop | ⟨a, s', hok, hrest⟩
  · exact hx.same hstop
  · have hsame : s' = s := hx.same hok
    rw [hsame] at hrest
    exact hg a s e t hrest

theorem FailsClean.modify (f : σ → σ) : FailsClean (Fallible.modify f : Fallible ε σ Unit) := by
  intro s e t hrun
  cases hrun

end FailsClean

/-! ### Errors that leave an invariant

`FailsWithin I x`: started where `I` holds, `x` stops where `I` holds if it fails. -/

section FailsWithin

variable {I : σ → Prop}

def FailsWithin (I : σ → Prop) (x : Fallible ε σ α) : Prop :=
  ∀ s e t, I s → x s = (.error e, t) → I t

variable {x : Fallible ε σ α}

theorem Preserves.failsWithin (h : Preserves I x) : FailsWithin I x :=
  fun _ _ _ hs hrun => h.holds hs hrun

theorem FailsWithin.of_ok (h : ∀ s, I s → ∃ a t, x s = (.ok a, t)) : FailsWithin I x := by
  intro s e t hs hrun
  obtain ⟨a, u, hok⟩ := h s hs
  rw [hok] at hrun
  cases hrun

theorem FailsWithin.bind {g : α → Fallible ε σ β} (hx : Preserves I x)
    (hg : ∀ a, FailsWithin I (g a)) : FailsWithin I (x >>= g) := by
  intro s e t hs hrun
  rcases bind_eq_error.mp hrun with hstop | ⟨a, u, hok, hrest⟩
  · exact hx.holds hs hstop
  · exact hg a u e t (hx.holds hs hok) hrest

end FailsWithin

end Fallible

end Kit
