import PwdNow.Kit.Fallible
import PwdNow.Kit.Run

/-!
# Kit — cooperative processes that share a state

An `Async` is a program suspended at its await points. Resumed, it runs one section on the shared
state without interruption and is suspended again, or ends with a value or an error. A section may
have to wait (`ready`), for a lock say; `ι` is what the outside world hands to a section. The label
of an await point only serves to speak about it.
-/

namespace Kit

/-- The program of one process. -/
inductive Async (l ι σ ε α : Type) where
  | done (a : α)
  | fail (e : ε)
  | await (label : l) (ready : ι → σ → Bool) (act : ι → σ → σ) (next : ι → σ → Async l ι σ ε α)

namespace Async

variable {l ι σ ε α β : Type} {x : Async l ι σ ε α} {k : α → Async l ι σ ε β}
    {last : Async l ι σ ε Unit} {handler : ε → Async l ι σ ε α} {label : l} {ready : ι → σ → Bool}
    {f : ι → Fallible ε σ α} {a : α} {e : ε} {s s' s'' : σ}

protected def bind : Async l ι σ ε α → (α → Async l ι σ ε β) → Async l ι σ ε β
  | done a, k => k a
  | fail e, _ => fail e
  | await label ready act next, k => await label ready act fun i s => (next i s).bind k

protected def tryCatch :
    Async l ι σ ε α → (ε → Async l ι σ ε α) → Async l ι σ ε α
  | done a, _ => done a
  | fail e, handler => handler e
  | await label ready act next, handler =>
    await label ready act fun i s => (next i s).tryCatch handler

instance : Monad (Async l ι σ ε) where
  pure := done
  bind := Async.bind

instance : MonadExceptOf ε (Async l ι σ ε) where
  throw := fail
  tryCatch := Async.tryCatch

/-- A result that is already there. -/
def ofExcept : Except ε α → Async l ι σ ε α
  | .ok a => done a
  | .error e => fail e

/-- A section that may have to wait. -/
def waiting (label : l) (ready : ι → σ → Bool) (f : ι → Fallible ε σ α) : Async l ι σ ε α :=
  await label ready (fun i s => (f i s).2) fun i s => ofExcept (f i s).1

/-- One uninterrupted section. -/
def section_ (label : l) (f : ι → Fallible ε σ α) : Async l ι σ ε α :=
  waiting label (fun _ _ => true) f

/-- The program `x`, and then `last` whichever way it ended. -/
def finally_ : Async l ι σ ε α → Async l ι σ ε Unit → Async l ι σ ε α
  | done a, last => last.bind fun _ => done a
  | fail e, last => last.bind fun _ => fail e
  | await label ready act next, last => await label ready act fun i s => (next i s).finally_ last

theorem bind_eq : x >>= k = x.bind k := rfl

theorem bind_assoc {γ : Type} (x : Async l ι σ ε α) (f : α → Async l ι σ ε β)
    (g : β → Async l ι σ ε γ) : x >>= f >>= g = x >>= fun a => f a >>= g := by
  simp only [bind_eq]
  induction x with
  | done a => rfl
  | fail e => rfl
  | await label ready act next ih =>
    simp only [Async.bind]
    congr 1
    funext i s
    exact ih i s

/-! ## A process alone -/

/-- Run from start to end with nobody else around; `none` if it waits for ever. -/
def run (inputs : ℕ → ι) : Async l ι σ ε α → σ → Option (Except ε α) × σ
  | done a, s => (some (.ok a), s)
  | fail e, s => (some (.error e), s)
  | await _ ready act next, s =>
    if ready (inputs 0) s then (next (inputs 0) s).run (fun n => inputs (n + 1)) (act (inputs 0) s)
    else (none, s)

section Constant

/-! With the same input for every section, a lone run is computed from those of the parts. -/

variable {i : ι}

theorem run_const_bind :
    (x >>= k).run (fun _ => i) s = match x.run (fun _ => i) s with
      | (some (.ok a), s') => (k a).run (fun _ => i) s'
      | (some (.error e), s') => (some (.error e), s')
      | (none, s') => (none, s') := by
  rw [bind_eq]
  induction x generalizing s with
  | done a => rfl
  | fail e => rfl
  | await label ready act next ih =>
    simp only [Async.bind, Async.run]
    split
    · exact ih i s
    · rfl

theorem run_const_bind_ok (h : x.run (fun _ => i) s = (some (.ok a), s')) :
    (x >>= k).run (fun _ => i) s = (k a).run (fun _ => i) s' := by
  rw [run_const_bind, h]

theorem run_const_waiting (hready : ready i s = true) (h : f i s = (.ok a, s')) :
    (waiting label ready f).run (fun _ => i) s = (some (.ok a), s') := by
  simp only [waiting, Async.run, hready, if_true, h, ofExcept]

theorem run_const_section (h : f i s = (.ok a, s')) :
    (section_ label f).run (fun _ => i) s = (some (.ok a), s') :=
  run_const_waiting rfl h

theorem run_const_finally (hx : x.run (fun _ => i) s = (some (.ok a), s'))
    (hlast : last.run (fun _ => i) s' = (some (.ok ()), s'')) :
    (x.finally_ last).run (fun _ => i) s = (some (.ok a), s'') := by
  induction x generalizing s with
  | done b =>
    cases hx
    exact run_const_bind_ok hlast
  | fail e => cases hx
  | await label ready act next ih =>
    simp only [finally_, Async.run] at hx ⊢
    split at hx
    · rename_i hready
      rw [if_pos hready]
      exact ih i s hx
    · cases hx

end Constant

/-- A lone run from `s` on inputs that meet `V` ends with `Q`, if it ends. -/
def Ends (V : ι → Prop) (Q : Except ε α → σ → Prop) : Async l ι σ ε α → σ → Prop
  | done a, s => Q (.ok a) s
  | fail e, s => Q (.error e) s
  | await _ ready act next, s =>
    ∀ i, V i → ready i s = true → (next i s).Ends V Q (act i s)

section Ends

variable {V : ι → Prop} {Q Q' : Except ε α → σ → Prop} {r : Except ε α}

theorem Ends.of_run (h : x.Ends V Q s) {inputs : ℕ → ι} (hV : ∀ n, V (inputs n))
    (hrun : x.run inputs s = (some r, s')) : Q r s' := by
  induction x generalizing s inputs with
  | done a =>
    cases hrun
    exact h
  | fail e =>
    cases hrun
    exact h
  | await label ready act next ih =>
    unfold Async.run at hrun
    split at hrun
    · exact ih _ _ (h _ (hV 0) ‹_›) (fun n => hV (n + 1)) hrun
    · cases hrun

theorem Ends.mono (h : x.Ends V Q s) (hQ : ∀ r s, Q r s → Q' r s) : x.Ends V Q' s := by
  induction x generalizing s with
  | done a => exact hQ _ _ h
  | fail e => exact hQ _ _ h
  | await label ready act next ih => exact fun i hi hready => ih _ _ (h i hi hready)

theorem ends_of_forall (hQ : ∀ r s, Q r s) (x : Async l ι σ ε α) (s : σ) : x.Ends V Q s := by
  induction x generalizing s with
  | done a => exact hQ _ _
  | fail e => exact hQ _ _
  | await label ready act next ih => exact fun i _ _ => ih i s _

theorem Ends.and (h : x.Ends V Q s) (h' : x.Ends V Q' s) :
    x.Ends V (fun r s => Q r s ∧ Q' r s) s := by
  induction x generalizing s with
  | done a => exact ⟨h, h'⟩
  | fail e => exact ⟨h, h'⟩
  | await label ready act next ih =>
    exact fun i hi hready => ih _ _ (h i hi hready) (h' i hi hready)

/-- What a continuation has to make of the end of the program before it. -/
def Then (V : ι → Prop) (Q : Except ε β → σ → Prop) (k : α → Async l ι σ ε β) :
    Except ε α → σ → Prop
  | .ok a, s => (k a).Ends V Q s
  | .error e, s => Q (.error e) s

theorem ends_bind {Q : Except ε β → σ → Prop} : (x >>= k).Ends V Q s ↔ x.Ends V (Then V Q k) s := by
  rw [bind_eq]
  induction x generalizing s with
  | done a => exact Iff.rfl
  | fail e => exact Iff.rfl
  | await label ready act next ih =>
    exact forall_congr' fun i => forall_congr' fun _ => forall_congr' fun _ => ih i s

@[simp] theorem ends_pure : (pure a : Async l ι σ ε α).Ends V Q s ↔ Q (.ok a) s := Iff.rfl

theorem ends_ofExcept : (ofExcept r : Async l ι σ ε α).Ends V Q s ↔ Q r s := by
  cases r <;> exact Iff.rfl

theorem ends_waiting :
    (waiting label ready f).Ends V Q s ↔ ∀ i, V i → ready i s = true → Q (f i s).1 (f i s).2 :=
  forall_congr' fun _ => forall_congr' fun _ => forall_congr' fun _ => ends_ofExcept

theorem ends_section : (section_ label f).Ends V Q s ↔ ∀ i, V i → Q (f i s).1 (f i s).2 :=
  ends_waiting.trans (forall_congr' fun _ => forall_congr' fun _ => forall_prop_of_true rfl)

theorem ends_finally :
    (x.finally_ last).Ends V Q s ↔ x.Ends V (fun r => last.Ends V (fun
      | .ok _ => Q r
      | .error e => Q (.error e))) s := by
  induction x generalizing s with
  | done a =>
    refine ends_bind.trans ⟨fun h => Ends.mono (x := last) h ?_, fun h =>
      Ends.mono (x := last) h ?_⟩ <;>
    · intro r s h
      cases r <;> exact h
  | fail e =>
    refine ends_bind.trans ⟨fun h => Ends.mono (x := last) h ?_, fun h =>
      Ends.mono (x := last) h ?_⟩ <;>
    · intro r s h
      cases r <;> exact h
  | await label ready act next ih =>
    exact forall_congr' fun i => forall_congr' fun _ => forall_congr' fun _ => ih i s

theorem ends_tryCatch :
    (tryCatch x handler).Ends V Q s ↔ x.Ends V (fun
      | .ok a => Q (.ok a)
      | .error e => (handler e).Ends V Q) s := by
  change (Async.tryCatch x handler).Ends V Q s ↔ _
  induction x generalizing s with
  | done a => exact Iff.rfl
  | fail e => exact Iff.rfl
  | await label ready act next ih =>
    exact forall_congr' fun i => forall_congr' fun _ => forall_congr' fun _ => ih i s

end Ends

/-! ## Frames -/

/-- Every section does to the state what `K` allows. -/
def Steps (K : σ → σ → Prop) : Async l ι σ ε α → Prop
  | done _ => True
  | fail _ => True
  | await _ _ act next => ∀ i s, K s (act i s) ∧ (next i s).Steps K

section Steps

variable {K : σ → σ → Prop}

@[simp] theorem steps_pure : (pure a : Async l ι σ ε α).Steps K := trivial

@[simp] theorem steps_throw : (throw e : Async l ι σ ε α).Steps K := trivial

@[simp] theorem steps_ofExcept {r : Except ε α} : (ofExcept r : Async l ι σ ε α).Steps K := by
  cases r <;> trivial

theorem steps_bind (hx : x.Steps K) (hk : ∀ a, (k a).Steps K) : (x >>= k).Steps K := by
  rw [bind_eq]
  induction x with
  | done a => exact hk a
  | fail e => trivial
  | await label ready act next ih => exact fun i s => ⟨(hx i s).1, ih i s (hx i s).2⟩

theorem steps_waiting (h : ∀ i s, K s (f i s).2) : (waiting label ready f).Steps K :=
  fun i s => ⟨h i s, steps_ofExcept⟩

theorem steps_section (h : ∀ i s, K s (f i s).2) : (section_ label f).Steps K :=
  steps_waiting h

theorem steps_section_bind (h : ∀ i s, K s (f i s).2)
    (hk : ∀ i s a, (f i s).1 = .ok a → (k a).Steps K) : (section_ label f >>= k).Steps K := by
  intro i s
  refine ⟨h i s, ?_⟩
  dsimp only
  cases hres : (f i s).1 with
  | ok a => exact hk i s a hres
  | error e => trivial

theorem steps_finally (hx : x.Steps K) (hlast : last.Steps K) : (x.finally_ last).Steps K := by
  induction x with
  | done a => exact steps_bind hlast fun _ => trivial
  | fail e => exact steps_bind hlast fun _ => trivial
  | await label ready act next ih => exact fun i s => ⟨(hx i s).1, ih i s (hx i s).2⟩

theorem steps_tryCatch (hx : x.Steps K) (hh : ∀ e, (handler e).Steps K) :
    (tryCatch x handler).Steps K := by
  change (Async.tryCatch x handler).Steps K
  induction x with
  | done a => trivial
  | fail e => exact hh e
  | await label ready act next ih => exact fun i s => ⟨(hx i s).1, ih i s (hx i s).2⟩

theorem Steps.ends (hx : x.Steps K) (hrefl : ∀ s, K s s)
    (htrans : ∀ {s s' s''}, K s s' → K s' s'' → K s s'') (V : ι → Prop) (s : σ) :
    x.Ends V (fun _ s' => K s s') s := by
  induction x generalizing s with
  | done a => exact hrefl s
  | fail e => exact hrefl s
  | await label ready act next ih =>
    intro i _ _
    exact (ih i s (hx i s).2 (act i s)).mono fun _ _ h => htrans (hx i s).1 h

theorem Steps.ends_bind {V : ι → Prop} {Q : Except ε β → σ → Prop} (hx : x.Steps K)
    (hrefl : ∀ s, K s s) (htrans : ∀ {s s' s''}, K s s' → K s' s'' → K s s'')
    (hk : ∀ r s', K s s' → Then V Q k r s') : (x >>= k).Ends V Q s :=
  Async.ends_bind.mpr ((hx.ends hrefl htrans V s).mono hk)

end Steps

/-- Every value the program can end with satisfies `P`. -/
def Yields (P : α → Prop) : Async l ι σ ε α → Prop
  | done a => P a
  | fail _ => True
  | await _ _ _ next => ∀ i s, (next i s).Yields P

section Yields

variable {P : α → Prop}

theorem yields_pure (h : P a) : (pure a : Async l ι σ ε α).Yields P := h

theorem yields_bind {P : β → Prop} (hk : ∀ a, (k a).Yields P) : (x >>= k).Yields P := by
  rw [bind_eq]
  induction x with
  | done a => exact hk a
  | fail e => trivial
  | await label ready act next ih => exact fun i s => ih i s

theorem Yields.mono {P' : α → Prop} (h : x.Yields P) (hP : ∀ a, P a → P' a) : x.Yields P' := by
  induction x with
  | done a => exact hP a h
  | fail e => trivial
  | await label ready act next ih => exact fun i s => ih i s (h i s)

theorem Yields.ends (h : x.Yields P) (V : ι → Prop) (s : σ) :
    x.Ends V (fun r _ => ∀ a, r = .ok a → P a) s := by
  induction x generalizing s with
  | done a =>
    intro a' ha
    cases ha
    exact h
  | fail e =>
    intro a ha
    cases ha
  | await label ready act next ih => exact fun i _ _ => ih i s (h i s) _

end Yields

/-- Every error the program can end with satisfies `P`. -/
def Throws (P : ε → Prop) : Async l ι σ ε α → Prop
  | done _ => True
  | fail e => P e
  | await _ _ _ next => ∀ i s, (next i s).Throws P

section Throws

variable {P : ε → Prop}

@[simp] theorem throws_pure : (pure a : Async l ι σ ε α).Throws P := trivial

theorem throws_bind (hx : x.Throws P) (hk : ∀ a, (k a).Throws P) : (x >>= k).Throws P := by
  rw [bind_eq]
  induction x with
  | done a => exact hk a
  | fail e => exact hx
  | await label ready act next ih => exact fun i s => ih i s (hx i s)

theorem throws_waiting (h : ∀ i s e, (f i s).1 = .error e → P e) :
    (waiting label ready f).Throws P := by
  intro i s
  dsimp only
  cases hres : (f i s).1 with
  | ok a => trivial
  | error e => exact h i s e hres

theorem throws_section (h : ∀ i s e, (f i s).1 = .error e → P e) : (section_ label f).Throws P :=
  throws_waiting h

theorem throws_finally (hx : x.Throws P) (hlast : last.Throws P) : (x.finally_ last).Throws P := by
  induction x with
  | done a => exact throws_bind hlast fun _ => trivial
  | fail e => exact throws_bind hlast fun _ => hx
  | await label ready act next ih => exact fun i s => ih i s (hx i s)

theorem Throws.ends (h : x.Throws P) (V : ι → Prop) (s : σ) :
    x.Ends V (fun r _ => ∀ e, r = .error e → P e) s := by
  induction x generalizing s with
  | done a =>
    intro e he
    cases he
  | fail e =>
    intro e' he
    cases he
    exact h
  | await label ready act next ih => exact fun i _ _ => ih i s (h i s) _

end Throws

/-- No section has to wait. -/
def Free : Async l ι σ ε α → Prop
  | done _ => True
  | fail _ => True
  | await _ ready _ next => ∀ i s, ready i s = true ∧ (next i s).Free

section Free

@[simp] theorem free_pure : (pure a : Async l ι σ ε α).Free := trivial

@[simp] theorem free_throw : (throw e : Async l ι σ ε α).Free := trivial

theorem free_bind (hx : x.Free) (hk : ∀ a, (k a).Free) : (x >>= k).Free := by
  rw [bind_eq]
  induction x with
  | done a => exact hk a
  | fail e => trivial
  | await label ready act next ih => exact fun i s => ⟨(hx i s).1, ih i s (hx i s).2⟩

theorem free_section : (section_ label f).Free := by
  intro i s
  refine ⟨rfl, ?_⟩
  dsimp only
  cases (f i s).1 <;> trivial

theorem free_finally (hx : x.Free) (hlast : last.Free) : (x.finally_ last).Free := by
  induction x with
  | done a => exact free_bind hlast fun _ => trivial
  | fail e => exact free_bind hlast fun _ => trivial
  | await label ready act next ih => exact fun i s => ⟨(hx i s).1, ih i s (hx i s).2⟩

theorem free_tryCatch (hx : x.Free) (hh : ∀ e, (handler e).Free) : (tryCatch x handler).Free := by
  change (Async.tryCatch x handler).Free
  induction x with
  | done a => trivial
  | fail e => exact hh e
  | await label ready act next ih => exact fun i s => ⟨(hx i s).1, ih i s (hx i s).2⟩

end Free

/-- A lone run from `s` on inputs that meet `V` never has to wait, and ends with `Q`. -/
def Returns (V : ι → Prop) (Q : Except ε α → σ → Prop) : Async l ι σ ε α → σ → Prop
  | done a, s => Q (.ok a) s
  | fail e, s => Q (.error e) s
  | await _ ready act next, s => ∀ i, V i → ready i s = true ∧ (next i s).Returns V Q (act i s)

section Returns

variable {V : ι → Prop} {Q : Except ε α → σ → Prop} {inputs : ℕ → ι}

theorem Returns.mono {Q' : Except ε α → σ → Prop} (h : x.Returns V Q s)
    (hQ : ∀ r s, Q r s → Q' r s) : x.Returns V Q' s := by
  induction x generalizing s with
  | done a => exact hQ _ _ h
  | fail e => exact hQ _ _ h
  | await label ready act next ih =>
    intro i hi
    obtain ⟨hready, hnext⟩ := h i hi
    exact ⟨hready, ih i s hnext⟩

theorem Returns.run_ends (h : x.Returns V Q s) (hV : ∀ n, V (inputs n)) :
    ∃ r s', x.run inputs s = (some r, s') ∧ Q r s' := by
  induction x generalizing s inputs with
  | done a => exact ⟨_, _, rfl, h⟩
  | fail e => exact ⟨_, _, rfl, h⟩
  | await label ready act next ih =>
    obtain ⟨hready, hnext⟩ := h (inputs 0) (hV 0)
    rw [Async.run, if_pos hready]
    exact ih _ _ hnext fun n => hV (n + 1)

theorem returns_bind {Q : Except ε β → σ → Prop}
    (h : x.Returns V (fun | .ok a => (k a).Returns V Q | .error e => Q (.error e)) s) :
    (x >>= k).Returns V Q s := by
  rw [bind_eq]
  induction x generalizing s with
  | done a => exact h
  | fail e => exact h
  | await label ready act next ih =>
    intro i hi
    obtain ⟨hready, hnext⟩ := h i hi
    exact ⟨hready, ih i s hnext⟩

theorem Free.returns (hx : x.Free) (h : x.Ends V Q s) : x.Returns V Q s := by
  induction x generalizing s with
  | done a => exact h
  | fail e => exact h
  | await label ready act next ih =>
    intro i hi
    obtain ⟨hready, hnext⟩ := hx i s
    exact ⟨hready, ih i s hnext (h i hi hready)⟩

theorem Free.run_ends (hx : x.Free) (h : x.Ends V Q s) (hV : ∀ n, V (inputs n)) :
    ∃ r s', x.run inputs s = (some r, s') ∧ Q r s' :=
  (hx.returns h).run_ends hV

end Returns

end Async

/-! ## Processes together -/

/-- What the processes of a system agree on: the invariant of the shared state, and what each
may rely on while others run. A section is only accounted for where `may` allows it. -/
structure Protocol (π l ι σ : Type) where
  inv : σ → Prop
  rely : π → σ → σ → Prop
  refl : ∀ p s, rely p s s
  trans : ∀ {p s s' s''}, rely p s s' → rely p s' s'' → rely p s s''
  may : l → ι → σ → Prop

namespace Protocol

variable {π l ι σ ε α β : Type} (P : Protocol π l ι σ) (p : π)

/-- A section of `p` leads from `s` to `s'` as agreed. -/
structure Fair (s s' : σ) : Prop where
  inv : P.inv s → P.inv s'
  relied : ∀ q, q ≠ p → P.rely q s s'

variable {P p} in
theorem Fair.refl (s : σ) : P.Fair p s s := ⟨id, fun q _ => P.refl q s⟩

variable {Q : Except ε α → σ → Prop} {x : Async l ι σ ε α} {k : α → Async l ι σ ε β}
    {last : Async l ι σ ε Unit} {handler : ε → Async l ι σ ε α} {label : l} {ready : ι → σ → Bool}
    {f : ι → Fallible ε σ α} {s s' s'' : σ}

variable {P p} in
theorem Fair.trans (h : P.Fair p s s') (h' : P.Fair p s' s'') : P.Fair p s s'' :=
  ⟨fun hinv => h'.inv (h.inv hinv), fun q hq => P.trans (h.relied q hq) (h'.relied q hq)⟩

/-- Every section that `p` may run keeps to the protocol, whatever the others do in between,
and where the program has ended `Q` holds and stays. -/
def Safe (Q : Except ε α → σ → Prop) : Async l ι σ ε α → σ → Prop
  | .done a, s => ∀ s', P.rely p s s' → Q (.ok a) s'
  | .fail e, s => ∀ s', P.rely p s s' → Q (.error e) s'
  | .await label ready act next, s => ∀ i s', P.rely p s s' → P.inv s' → ready i s' = true →
      P.may label i s' → P.Fair p s' (act i s') ∧ Safe Q (next i s') (act i s')

variable {P p}

theorem Safe.of_rely (h : P.Safe p Q x s) (hr : P.rely p s s') : P.Safe p Q x s' := by
  cases x with
  | done a => exact fun t ht => h t (P.trans hr ht)
  | fail e => exact fun t ht => h t (P.trans hr ht)
  | await label ready act next => exact fun i t ht => h i t (P.trans hr ht)

theorem Safe.bind {Q : Except ε β → σ → Prop} (h : P.Safe p (fun
      | .ok a => P.Safe p Q (k a)
      | .error e => fun s => ∀ s', P.rely p s s' → Q (.error e) s') x s) :
    P.Safe p Q (x >>= k) s := by
  rw [Async.bind_eq]
  induction x generalizing s with
  | done a => exact h s (P.refl p s)
  | fail e => exact h s (P.refl p s)
  | await label ready act next ih =>
    intro i s' hr hinv hready hmay
    obtain ⟨hfair, hnext⟩ := h i s' hr hinv hready hmay
    exact ⟨hfair, ih _ _ hnext⟩

theorem Safe.mono {Q' : Except ε α → σ → Prop} (h : P.Safe p Q x s) (hQ : ∀ r s, Q r s → Q' r s) :
    P.Safe p Q' x s := by
  induction x generalizing s with
  | done a => exact fun s' hr => hQ _ _ (h s' hr)
  | fail e => exact fun s' hr => hQ _ _ (h s' hr)
  | await label ready act next ih =>
    intro i s' hr hinv hready hmay
    obtain ⟨hfair, hnext⟩ := h i s' hr hinv hready hmay
    exact ⟨hfair, ih _ _ hnext⟩

theorem Safe.finally_ (h : P.Safe p (fun r => P.Safe p (fun
      | .ok _ => fun s => ∀ s', P.rely p s s' → Q r s'
      | .error e => fun s => ∀ s', P.rely p s s' → Q (.error e) s') last) x s) :
    P.Safe p Q (x.finally_ last) s := by
  induction x generalizing s with
  | done a =>
    refine Safe.bind ((h s (P.refl p s)).mono fun r s hr => ?_)
    cases r <;> exact hr
  | fail e =>
    refine Safe.bind ((h s (P.refl p s)).mono fun r s hr => ?_)
    cases r <;> exact hr
  | await label ready act next ih =>
    intro i s' hr hinv hready hmay
    obtain ⟨hfair, hnext⟩ := h i s' hr hinv hready hmay
    exact ⟨hfair, ih _ _ hnext⟩

theorem safe_waiting (h : ∀ i s', P.rely p s s' → P.inv s' → ready i s' = true → P.may label i s' →
      P.Fair p s' (f i s').2 ∧ ∀ t, P.rely p (f i s').2 t → Q (f i s').1 t) :
    P.Safe p Q (Async.waiting label ready f) s := by
  intro i s' hr hinv hready hmay
  obtain ⟨hfair, hQ⟩ := h i s' hr hinv hready hmay
  refine ⟨hfair, ?_⟩
  dsimp only
  cases hres : (f i s').1 <;> rw [hres] at hQ <;> exact hQ

theorem Safe.bind_any {Q : Except ε β → σ → Prop} (hx : P.Safe p (fun _ _ => True) x s)
    (herror : ∀ e s, Q (.error e) s) (hk : ∀ a s, P.Safe p Q (k a) s) : P.Safe p Q (x >>= k) s := by
  refine Safe.bind (hx.mono fun r s' _ => ?_)
  cases r with
  | ok a => exact hk a s'
  | error e => exact fun t _ => herror e t

theorem Safe.finally_any (hx : P.Safe p (fun _ _ => True) x s)
    (hlast : ∀ s, P.Safe p (fun _ _ => True) last s) :
    P.Safe p (fun _ _ => True) (x.finally_ last) s := by
  refine Safe.finally_ (hx.mono fun r s' _ => (hlast s').mono fun r' _ _ => ?_)
  cases r' <;> exact fun _ _ => trivial

theorem safe_of_steps {K : σ → σ → Prop} {R : σ → Prop} (hx : x.Steps K)
    (hK : ∀ s s', K s s' → P.Fair p s s') (hRK : ∀ s s', K s s' → R s → R s')
    (hRr : ∀ s s', P.rely p s s' → R s → R s') (hQ : ∀ r s, R s → Q r s) (hs : R s) :
    P.Safe p Q x s := by
  induction x generalizing s with
  | done a => exact fun s' hr => hQ _ _ (hRr s s' hr hs)
  | fail e => exact fun s' hr => hQ _ _ (hRr s s' hr hs)
  | await label ready act next ih =>
    intro i s' hr hinv hready hmay
    have hact := (hx i s').1
    exact ⟨hK _ _ hact, ih i s' (hx i s').2 (hRK _ _ hact (hRr _ _ hr hs))⟩

section Obeys

variable (P) in
/-- Whoever runs `x`, and from wherever, every section keeps to the protocol. -/
def Obeys (x : Async l ι σ ε α) : Prop := ∀ p s, P.Safe p (fun _ _ => True) x s

theorem obeys_pure (a : α) : P.Obeys (pure a : Async l ι σ ε α) := fun _ _ _ _ => trivial

theorem obeys_throw (e : ε) : P.Obeys (throw e : Async l ι σ ε α) := fun _ _ _ _ => trivial

theorem obeys_waiting (h : ∀ p i s, P.inv s → P.may label i s → P.Fair p s (f i s).2) :
    P.Obeys (Async.waiting label ready f) := fun p _ =>
  safe_waiting fun i s' _ hinv _ hmay => ⟨h p i s' hinv hmay, fun _ _ => trivial⟩

theorem obeys_section (h : ∀ p i s, P.inv s → P.may label i s → P.Fair p s (f i s).2) :
    P.Obeys (Async.section_ label f) :=
  obeys_waiting h

theorem Obeys.bind (hx : P.Obeys x) (hk : ∀ a, P.Obeys (k a)) : P.Obeys (x >>= k) := fun p s =>
  (hx p s).bind_any (fun _ _ => trivial) fun a => hk a p

theorem Obeys.finally_ (hx : P.Obeys x) (hlast : P.Obeys last) :
    P.Obeys (x.finally_ last) := fun p s =>
  (hx p s).finally_any (hlast p)

theorem Obeys.tryCatch (hx : P.Obeys x) (hhandler : ∀ e, P.Obeys (handler e)) :
    P.Obeys (tryCatch x handler) := by
  change P.Obeys (Async.tryCatch x handler)
  intro p s
  have hsafe := hx p s
  clear hx
  induction x generalizing s with
  | done a => exact fun _ _ => trivial
  | fail e => exact hhandler e p s
  | await label ready act next ih =>
    intro i s' hr hinv hready hmay
    obtain ⟨hfair, hnext⟩ := hsafe i s' hr hinv hready hmay
    exact ⟨hfair, ih _ _ _ hnext⟩

end Obeys

end Protocol

/-- The shared state, and where each process stands. -/
structure System (π l ι σ ε α : Type) where
  shared : σ
  procs : π → Async l ι σ ε α

namespace System

variable {π l ι σ ε α : Type} [DecidableEq π]

/-- Process `e.1` is resumed with the input `e.2`. One that has ended, or has to wait, stays
where it is. -/
def step (t : System π l ι σ ε α) (e : π × ι) : System π l ι σ ε α :=
  match t.procs e.1 with
  | .await _ ready act next =>
    if ready e.2 t.shared then
      { shared := act e.2 t.shared, procs := Function.update t.procs e.1 (next e.2 t.shared) }
    else t
  | _ => t

/-- The section resumed by `e`, if any, is one the protocol accounts for. -/
def Allowed (P : Protocol π l ι σ) (t : System π l ι σ ε α) (e : π × ι) : Prop :=
  match t.procs e.1 with
  | .await label _ _ _ => P.may label e.2 t.shared
  | _ => True

variable {P : Protocol π l ι σ} {Q : π → Except ε α → σ → Prop}

/-- The invariant holds, and every process is safe from where it stands. -/
structure Sound (P : Protocol π l ι σ) (Q : π → Except ε α → σ → Prop)
    (t : System π l ι σ ε α) : Prop where
  inv : P.inv t.shared
  safe : ∀ p, P.Safe p (Q p) (t.procs p) t.shared

variable {t : System π l ι σ ε α} {es : List (π × ι)}

theorem sound_step {e : π × ι} (h : Sound P Q t) (hallowed : Allowed P t e) :
    Sound P Q (step t e) := by
  obtain ⟨p, i⟩ := e
  have hp := h.safe p
  unfold step Allowed at *
  dsimp only at *
  split
  · rename_i label ready act next hproc
    rw [hproc] at hp hallowed
    split
    · rename_i hready
      obtain ⟨hfair, hnext⟩ := hp i t.shared (P.refl p _) h.inv hready hallowed
      refine ⟨hfair.inv h.inv, fun q => ?_⟩
      by_cases hq : q = p
      · subst hq
        simpa using hnext
      · dsimp only
        rw [Function.update_of_ne hq]
        exact (h.safe q).of_rely (hfair.relied q hq)
    · exact h
  · exact h

/-- **Interleaving.** Processes that are each safe keep the protocol in every state of every
interleaving of their sections. -/
theorem invariant {t' : System π l ι σ ε α} (h : Sound P Q t)
    (hallowed : Along step t es (Allowed P)) (hvisit : Visits step t es t') : Sound P Q t' :=
  Visits.invariant h hallowed (fun _ _ _ hok hs => sound_step hs hok) hvisit

section Steps

variable {K : σ → σ → Prop} {p : π}

theorem steps_procs_step (h : (t.procs p).Steps K) (e : π × ι) : ((step t e).procs p).Steps K := by
  unfold step
  split
  · rename_i label ready act next hproc
    split
    · by_cases hp : p = e.1
      · subst hp
        rw [hproc] at h
        simpa using (h e.2 t.shared).2
      · dsimp only
        rwa [Function.update_of_ne hp]
    · exact h
  · exact h

theorem steps_procs_run (h : (t.procs p).Steps K) : ((run step t es).procs p).Steps K := by
  induction es generalizing t with
  | nil => exact h
  | cons e es ih => exact ih (steps_procs_step h e)

theorem invariant_of_steps {I : σ → Prop}
    (hsteps : ∀ e ∈ es, (t.procs e.1).Steps fun s s' => I s → I s') (h : I t.shared) :
    I (run step t es).shared := by
  induction es generalizing t with
  | nil => exact h
  | cons e es ih =>
    refine ih (fun e' he' => steps_procs_step (hsteps e' (List.mem_cons_of_mem e he')) e) ?_
    have hself := hsteps e List.mem_cons_self
    unfold step
    split
    · rename_i label ready act next hproc
      split
      · rw [hproc] at hself
        exact (hself e.2 t.shared).1 h
      · exact h
    · exact h

end Steps

end System

end Kit
