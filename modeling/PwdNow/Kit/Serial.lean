import PwdNow.Kit.Async

/-!
# Kit — processes that do not overlap

A schedule is `Serial` if a process is resumed only when every other that was resumed before has
ended. Each process has to hand on a property `J` of the shared state and the outcomes so far, from
its start to its end, and to keep up a weaker one, `D`, while it is under way (`Serial.invariant`).
What it needs of the state when it is first resumed (`start`) is asked of the schedule.
-/

namespace Kit

open List Function

namespace Async

variable {l ι σ ε α β : Type}

/-- How the program has ended, if it has. -/
def outcome : Async l ι σ ε α → Option (Except ε α)
  | done a => some (.ok a)
  | fail e => some (.error e)
  | await .. => none

/-- A lone run ends with `Q`, if it ends, and every section of it leads to a state with `K`. -/
def Through (V : ι → Prop) (K : σ → Prop) (Q : Except ε α → σ → Prop) :
    Async l ι σ ε α → σ → Prop
  | done a, s => Q (.ok a) s
  | fail e, s => Q (.error e) s
  | await _ ready act next, s =>
    ∀ i, V i → ready i s = true → K (act i s) ∧ (next i s).Through V K Q (act i s)

section Through

variable {V : ι → Prop} {K : σ → Prop} {Q Q' : Except ε α → σ → Prop} {x : Async l ι σ ε α} {s : σ}

theorem Ends.through (h : x.Ends V Q s) (hK : ∀ s, K s) : x.Through V K Q s := by
  induction x generalizing s with
  | done a => exact h
  | fail e => exact h
  | await label ready act next ih => exact fun i hi hready => ⟨hK _, ih i s (h i hi hready)⟩

theorem Through.of_outcome {r : Except ε α} (h : x.Through V K Q s) (hr : x.outcome = some r) :
    Q r s := by
  cases x with
  | done a =>
    cases hr
    exact h
  | fail e =>
    cases hr
    exact h
  | await label ready act next => cases hr

theorem Through.weaken {K' : σ → Prop} (h : x.Through V K Q s) (hK : ∀ s, K s → K' s)
    (hQ : ∀ r s, Q r s → Q' r s) : x.Through V K' Q' s := by
  induction x generalizing s with
  | done a => exact hQ _ _ h
  | fail e => exact hQ _ _ h
  | await label ready act next ih =>
    exact fun i hi hready => ⟨hK _ (h i hi hready).1, ih i s (h i hi hready).2⟩

theorem Through.mono (h : x.Through V K Q s) (hQ : ∀ r s, Q r s → Q' r s) : x.Through V K Q' s :=
  h.weaken (fun _ hs => hs) hQ

theorem through_bind {Q : Except ε β → σ → Prop} {k : α → Async l ι σ ε β} :
    (x >>= k).Through V K Q s ↔ x.Through V K (fun
      | .ok a => (k a).Through V K Q
      | .error e => Q (.error e)) s := by
  rw [bind_eq]
  induction x generalizing s with
  | done a => exact Iff.rfl
  | fail e => exact Iff.rfl
  | await label ready act next ih =>
    exact forall_congr' fun i => forall_congr' fun _ => forall_congr' fun _ =>
      and_congr_right fun _ => ih i s

theorem through_section {label : l} {f : ι → Fallible ε σ α} :
    (section_ label f).Through V K Q s ↔ ∀ i, V i → K (f i s).2 ∧ Q (f i s).1 (f i s).2 := by
  refine forall_congr' fun i => forall_congr' fun _ => ?_
  refine (forall_prop_of_true rfl).trans (and_congr_right fun _ => ?_)
  dsimp only
  cases (f i s).1 <;> exact Iff.rfl

theorem through_finally {last : Async l ι σ ε Unit} :
    (x.finally_ last).Through V K Q s ↔ x.Through V K (fun r => last.Through V K (fun
      | .ok _ => Q r
      | .error e => Q (.error e))) s := by
  induction x generalizing s with
  | done a =>
    refine through_bind.trans ⟨fun h => Through.mono (x := last) h ?_,
      fun h => Through.mono (x := last) h ?_⟩ <;>
    · intro r s h
      cases r <;> exact h
  | fail e =>
    refine through_bind.trans ⟨fun h => Through.mono (x := last) h ?_,
      fun h => Through.mono (x := last) h ?_⟩ <;>
    · intro r s h
      cases r <;> exact h
  | await label ready act next ih =>
    exact forall_congr' fun i => forall_congr' fun _ => forall_congr' fun _ =>
      and_congr_right fun _ => ih i s

theorem Through.ends (h : x.Through V K Q s) : x.Ends V Q s := by
  induction x generalizing s with
  | done a => exact h
  | fail e => exact h
  | await label ready act next ih => exact fun i hi hready => ih i s (h i hi hready).2

end Through

end Async

namespace System

variable {π l ι σ ε α : Type} [DecidableEq π]

def outcomes (t : System π l ι σ ε α) (p : π) : Option (Except ε α) := (t.procs p).outcome

/-- The schedule serves one process after the other. Those in `begun` were resumed before. -/
def Serial (start : π → σ → Prop) : System π l ι σ ε α → List π → List (π × ι) → Prop
  | _, _, [] => True
  | t, begun, e :: es =>
    (∀ q ∈ begun, q ≠ e.1 → (t.outcomes q).isSome) ∧ (e.1 ∉ begun → start e.1 t.shared) ∧
      Serial start (step t e) (e.1 :: begun) es

instance decidableSerial (start : π → σ → Prop) [∀ p s, Decidable (start p s)] :
    (t : System π l ι σ ε α) → (begun : List π) → (es : List (π × ι)) →
      Decidable (Serial start t begun es)
  | _, _, [] => isTrue trivial
  | t, begun, e :: es =>
    have := decidableSerial start (step t e) (e.1 :: begun) es
    inferInstanceAs (Decidable (_ ∧ _ ∧ _))

variable {es : List (π × ι)}

theorem Serial.left {start : π → σ → Prop} {t : System π l ι σ ε α} {begun : List π}
    {fs : List (π × ι)} (h : Serial start t begun (es ++ fs)) : Serial start t begun es := by
  induction es generalizing t begun with
  | nil => trivial
  | cons e es ih => exact ⟨h.1, h.2.1, ih h.2.2⟩

section Step

variable {t : System π l ι σ ε α} {p : π} {r : Except ε α}

theorem step_of_outcome (h : t.outcomes p = some r) (i : ι) : step t (p, i) = t := by
  unfold step
  dsimp only
  unfold outcomes at h
  cases hproc : t.procs p with
  | done a => rfl
  | fail e => rfl
  | await label ready act next =>
    rw [hproc] at h
    cases h

omit [DecidableEq π] in
theorem steps_of_outcome {K : σ → σ → Prop} (h : (t.outcomes p).isSome) : (t.procs p).Steps K := by
  unfold outcomes at h
  cases hproc : t.procs p with
  | done a => trivial
  | fail e => trivial
  | await label ready act next =>
    rw [hproc] at h
    cases h

omit [DecidableEq π] in
theorem Sound.of_outcome {P : Protocol π l ι σ} {Q : π → Except ε α → σ → Prop} (h : Sound P Q t)
    (hr : t.outcomes p = some r) : Q p r t.shared := by
  have hsafe := h.safe p
  unfold outcomes at hr
  cases hproc : t.procs p with
  | done a =>
    rw [hproc] at hr hsafe
    cases hr
    exact hsafe _ (P.refl p _)
  | fail e =>
    rw [hproc] at hr hsafe
    cases hr
    exact hsafe _ (P.refl p _)
  | await label ready act next =>
    rw [hproc] at hr
    cases hr

theorem step_of_running (h : t.outcomes p = none) (i : ι) :
    step t (p, i) = t ∨ ∃ label ready act next, t.procs p = .await label ready act next ∧
        ready i t.shared = true ∧
        step t (p, i) = ⟨act i t.shared, update t.procs p (next i t.shared)⟩ := by
  unfold outcomes at h
  cases hproc : t.procs p with
  | done a =>
    rw [hproc] at h
    cases h
  | fail e =>
    rw [hproc] at h
    cases h
  | await label ready act next =>
    unfold step
    dsimp only
    rw [hproc]
    dsimp only
    split
    · rename_i hready
      exact .inr ⟨label, ready, act, next, rfl, hready, rfl⟩
    · exact .inl rfl

theorem step_procs_of_ne {e : π × ι} (h : p ≠ e.1) : (step t e).procs p = t.procs p := by
  unfold step
  split
  · split
    · exact update_of_ne h ..
    · rfl
  · rfl

theorem run_procs_of_notMem (h : p ∉ es.map Prod.fst) : (run step t es).procs p = t.procs p := by
  induction es generalizing t with
  | nil => rfl
  | cons e es ih =>
    rw [map_cons, mem_cons, not_or] at h
    rw [run_cons, ih h.2, step_procs_of_ne h.1]

theorem outcomes_update (s : σ) (procs : π → Async l ι σ ε α) (x : Async l ι σ ε α) :
    (⟨s, update procs p x⟩ : System π l ι σ ε α).outcomes =
      update (fun q => (procs q).outcome) p x.outcome := by
  funext q
  unfold outcomes
  by_cases hq : q = p
  · subst hq
    simp
  · simp [hq]

end Step

/-- Each process keeps up `D` and hands on `J`. -/
structure HandsOn (start : π → σ → Prop) (V : ι → Prop)
    (J D : (π → Option (Except ε α)) → σ → Prop) (t₀ : System π l ι σ ε α) : Prop where
  during : ∀ o s, J o s → D o s
  run : ∀ p o s, J o s → start p s → o p = none →
    (t₀.procs p).Through V (D o) (fun r s' => J (update o p (some r)) s') s

variable {start : π → σ → Prop} {V : ι → Prop} {J D : (π → Option (Except ε α)) → σ → Prop}
  {t₀ t : System π l ι σ ε α} {begun : List π} {p : π} {i : ι}

/-- Process `p`, from where it stands, hands on `J`. -/
def UnderWay (V : ι → Prop) (J D : (π → Option (Except ε α)) → σ → Prop)
    (t : System π l ι σ ε α) (p : π) : Prop :=
  D t.outcomes t.shared ∧ (t.procs p).Through V (D t.outcomes)
    (fun r s => J (update t.outcomes p (some r)) s) t.shared

/-- Where a serial run stands: nobody is under way, or just one process is. -/
structure Stands (V : ι → Prop) (J D : (π → Option (Except ε α)) → σ → Prop)
    (t₀ t : System π l ι σ ε α) (begun : List π) : Prop where
  waiting : ∀ q ∉ begun, t.procs q = t₀.procs q
  phase : ((∀ q ∈ begun, (t.outcomes q).isSome) ∧ J t.outcomes t.shared) ∨
    ∃ p ∈ begun, t.outcomes p = none ∧ (∀ q ∈ begun, q ≠ p → (t.outcomes q).isSome) ∧
      UnderWay V J D t p

theorem Stands.underWay (h : Stands V J D t₀ t begun) (hhands : HandsOn start V J D t₀)
    (hothers : ∀ q ∈ begun, q ≠ p → (t.outcomes q).isSome)
    (hstart : p ∉ begun → start p t.shared) (hp : t.outcomes p = none) : UnderWay V J D t p := by
  rcases h.phase with ⟨hended, hJ⟩ | ⟨p', hp', hnone, -, hway⟩
  · have hnew : p ∉ begun := by
      intro hmem
      have := hended p hmem
      simp [hp] at this
    refine ⟨hhands.during _ _ hJ, ?_⟩
    rw [h.waiting p hnew]
    exact hhands.run p _ _ hJ (hstart hnew) hp
  · by_cases heq : p' = p
    · subst heq
      exact hway
    · have := hothers p' hp' heq
      simp [hnone] at this

theorem UnderWay.next (h : UnderWay V J D t p) (hp : t.outcomes p = none) {label : l}
    {ready : ι → σ → Bool} {act : ι → σ → σ} {next : ι → σ → Async l ι σ ε α}
    (hproc : t.procs p = .await label ready act next) (hi : V i) (hready : ready i t.shared = true)
    (hothers : ∀ q ∈ begun, q ≠ p → (t.outcomes q).isSome)
    (hwaiting : ∀ q ∉ begun, t.procs q = t₀.procs q) :
    Stands V J D t₀ ⟨act i t.shared, update t.procs p (next i t.shared)⟩ (p :: begun) := by
  obtain ⟨-, hthrough⟩ := h
  rw [hproc] at hthrough
  obtain ⟨hD, hnext⟩ := hthrough i hi hready
  have houtcomes : _ = update t.outcomes p (next i t.shared).outcome :=
    outcomes_update (p := p) (act i t.shared) t.procs (next i t.shared)
  have hrest : ∀ q ∈ p :: begun, q ≠ p →
      (update t.outcomes p (next i t.shared).outcome q).isSome := by
    intro q hq hne
    rw [update_of_ne hne]
    exact hothers q ((mem_cons.mp hq).resolve_left hne) hne
  refine ⟨fun q hq => ?_, ?_⟩
  · have hne : q ≠ p := fun heq => hq (heq ▸ mem_cons_self)
    dsimp only
    rw [update_of_ne hne]
    exact hwaiting q (fun hmem => hq (mem_cons_of_mem p hmem))
  · cases hnew : (next i t.shared).outcome with
    | some r =>
      -- the section was the last one of the process
      refine .inl ⟨fun q hq => ?_, ?_⟩
      · rw [houtcomes]
        by_cases heq : q = p
        · simp [heq, hnew]
        · exact hrest q hq heq
      · rw [houtcomes, hnew]
        exact hnext.of_outcome hnew
    | none =>
      have hsame : update t.outcomes p none = t.outcomes := by
        rw [← hp, update_eq_self]
      refine .inr ⟨p, mem_cons_self, ?_, fun q hq hne => ?_, ?_, ?_⟩
      · rw [houtcomes]
        simp [hnew]
      · rw [houtcomes]
        exact hrest q hq hne
      · rw [houtcomes, hnew, hsame]
        exact hD
      · rw [houtcomes, hnew, hsame]
        dsimp only
        rw [update_self]
        exact hnext

theorem Stands.step (h : Stands V J D t₀ t begun) (hhands : HandsOn start V J D t₀) (hi : V i)
    (hothers : ∀ q ∈ begun, q ≠ p → (t.outcomes q).isSome) (hstart : p ∉ begun → start p t.shared) :
    Stands V J D t₀ (System.step t (p, i)) (p :: begun) := by
  have hwaiting : ∀ q ∉ p :: begun, t.procs q = t₀.procs q := fun q hq =>
    h.waiting q (fun hmem => hq (mem_cons_of_mem p hmem))
  have hrest : ∀ q ∈ p :: begun, q ≠ p → (t.outcomes q).isSome := fun q hq hne =>
    hothers q ((mem_cons.mp hq).resolve_left hne) hne
  cases hp : t.outcomes p with
  | some r =>
    rw [step_of_outcome hp]
    refine ⟨hwaiting, ?_⟩
    have hended : ∀ q ∈ p :: begun, (t.outcomes q).isSome := by
      intro q hq
      by_cases heq : q = p
      · simp [heq, hp]
      · exact hrest q hq heq
    rcases h.phase with ⟨-, hJ⟩ | ⟨p', hp', hnone, -⟩
    · exact .inl ⟨hended, hJ⟩
    · have := hended p' (mem_cons_of_mem p hp')
      simp [hnone] at this
  | none =>
    have hway := h.underWay hhands hothers hstart hp
    rcases step_of_running hp i with hstep | ⟨label, ready, act, next, hproc, hready, hstep⟩
    · rw [hstep]
      exact ⟨hwaiting, .inr ⟨p, mem_cons_self, hp, hrest, hway⟩⟩
    · rw [hstep]
      exact hway.next hp hproc hi hready hothers h.waiting

theorem Serial.stands (hhands : HandsOn start V J D t₀) (hV : ∀ e ∈ es, V e.2)
    (hserial : Serial start t begun es) (h : Stands V J D t₀ t begun) :
    ∃ begun', Stands V J D t₀ (run System.step t es) begun' := by
  induction es generalizing t begun with
  | nil => exact ⟨begun, h⟩
  | cons e es ih =>
    exact ih (fun e' he' => hV e' (mem_cons_of_mem e he')) hserial.2.2
      (h.step hhands (hV e mem_cons_self) hserial.1 hserial.2.1)

/-- In a serial run only the process that is resumed can be in a phase `P` that none begins in. -/
theorem Serial.alone {P : Async l ι σ ε α → Prop} (hended : ∀ x r, x.outcome = some r → ¬ P x)
    (hserial : Serial start t begun es) (hbegin : ∀ q ∉ begun, ¬ P (t.procs q)) :
    Along System.step t es fun t _ => ∀ p q, P (t.procs p) → P (t.procs q) → p = q := by
  induction es generalizing t begun with
  | nil => exact along_nil _
  | cons e es ih =>
    obtain ⟨hothers, -, hrest⟩ := hserial
    have hself : ∀ q, P (t.procs q) → q = e.1 := by
      intro q hq
      by_contra hne
      by_cases hmem : q ∈ begun
      · obtain ⟨r, hr⟩ := Option.isSome_iff_exists.mp (hothers q hmem hne)
        exact hended _ r hr hq
      · exact hbegin q hmem hq
    refine along_cons (fun p q hp hq => (hself p hp).trans (hself q hq).symm) (ih hrest ?_)
    intro q hq
    rw [step_procs_of_ne fun heq => hq (heq ▸ mem_cons_self)]
    exact hbegin q fun hmem => hq (mem_cons_of_mem _ hmem)

/-- **One after the other.** If `J` holds at the start, and every process alone keeps up `D`
and hands on `J`, then `D` holds in every state of a serial run. -/
theorem Serial.invariant (hserial : Serial start t₀ [] es) (hV : ∀ e ∈ es, V e.2)
    (h0 : J t₀.outcomes t₀.shared) (hhands : HandsOn start V J D t₀)
    (hvisit : Visits System.step t₀ es t) : D t.outcomes t.shared := by
  obtain ⟨pre, ⟨post, rfl⟩, rfl⟩ := hvisit
  have hbegin : Stands V J D t₀ t₀ [] := ⟨fun _ _ => rfl, .inl ⟨by simp, h0⟩⟩
  obtain ⟨begun, hstands⟩ := hserial.left.stands hhands
    (fun e he => hV e (mem_append_left post he)) hbegin
  rcases hstands.phase with ⟨-, hJ⟩ | ⟨-, -, -, -, hD, -⟩
  · exact hhands.during _ _ hJ
  · exact hD

end System

end Kit
