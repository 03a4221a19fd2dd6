import Mathlib.Data.List.Permutation
import PwdNow.Daemon.HeaderRequest

/-!
# Daemon — the header under concurrent requests

Any number of requests of `HeaderRequest` at once, each cut into what it does before the database
mutex, the wait for it, the reading of `vault.db.meta`, the writing, and (for a change of the
password) the replacement of the VMK in memory.

Every request writes back the whole header it has read: an update is lost when another write comes
in between. The mutex prevents that among the requests that take it; `quick_unlock_enroll` and
`quick_unlock_revoke` do not (`loginPolicy_lost`). A change of the password lets go of the mutex
before the new VMK is in memory, and verifies the old password before it takes it. In runs that keep
clear of both (`Orderly`) the header is the one of the serial run, in the order of the writes
(`sidecar_serial_of_run`).
-/

namespace PwdNow.Daemon

open Kit Kit.Fallible Function

variable (P : Primitives) (J : Serde) (requests : Nat → HeaderRequest)

/-! ## Steps -/

/-- How far a request is. -/
inductive Phase where
  | idle
  | prepared (edit : Edit)
  /-- it holds the database mutex, if it is one that takes it -/
  | locked (edit : Edit)
  /-- the header that it will write is in hand -/
  | loaded (header : VaultHeader)
  /-- the header is written, and the VMK in memory still to be replaced -/
  | stored
  | ended

def Phase.underWay : Phase → Bool
  | .idle => false
  | .ended => false
  | _ => true

def Phase.inHand : Phase → Bool
  | .loaded _ => true
  | _ => false

structure Concurrent where
  daemon : DaemonState
  /-- who holds the database mutex -/
  holder : Option Nat
  /-- who holds the read guard of the VMK all along -/
  readers : List Nat
  phase : Nat → Phase
  /-- who has written the header, in the order of the writes -/
  written : List Nat

def Concurrent.start (s : DaemonState) : Concurrent where
  daemon := s
  holder := none
  readers := []
  phase _ := .idle
  written := []

inductive HeaderStep where
  | prepare (i : Nat)
  | acquire (i : Nat)
  | load (i : Nat)
  | store (i : Nat)
  | settle (i : Nat)

def Concurrent.goOn (c : Concurrent) (i : Nat) (p : Phase) (s : DaemonState) : Concurrent :=
  { c with daemon := s, phase := update c.phase i p }

/-- The guards of a request are dropped. -/
def Concurrent.release (c : Concurrent) (i : Nat) : Concurrent :=
  { c with
    holder := if c.holder = some i then none else c.holder
    readers := c.readers.filter (· ≠ i) }

/-- Only the change of the password has something to do after its write. -/
def Phase.afterStore (use : VmkUse) : Result Unit → Phase
  | .ok () => if use = .replaced then .stored else .ended
  | .error _ => .ended

/-- A step that is not the next one of its request, or has to wait, changes nothing. -/
def advance (c : Concurrent) : HeaderStep → Concurrent
  | .prepare i =>
    match c.phase i with
    | .idle =>
      match (requests i).prepare c.daemon with
      | (.ok edit, s) =>
        { c.goOn i (.prepared edit) s with
          readers := if (requests i).use = .held then i :: c.readers else c.readers }
      | (.error _, s) => c.goOn i .ended s
    | _ => c
  | .acquire i =>
    match c.phase i with
    | .prepared edit =>
      if (requests i).guarded then
        if c.holder = none then { c.goOn i (.locked edit) c.daemon with holder := some i } else c
      else c.goOn i (.locked edit) c.daemon
    | _ => c
  | .load i =>
    match c.phase i with
    | .locked edit =>
      match (requests i).load edit c.daemon with
      | (.ok header, s) => c.goOn i (.loaded header) s
      | (.error _, s) => (c.goOn i .ended s).release i
    | _ => c
  | .store i =>
    match c.phase i with
    | .loaded header =>
      match (requests i).store P J header c.daemon with
      | (r, s) =>
        { (c.goOn i (.afterStore (requests i).use r) s).release i with
          written := c.written ++ [i] }
    | _ => c
  | .settle i =>
    match c.phase i with
    | .stored =>
      -- the write guard waits for the read guards
      if c.readers = [] then c.goOn i .ended ((requests i).settle c.daemon).2 else c
    | _ => c

/-- One request after the other. -/
def serial (s : DaemonState) (order : List Nat) : DaemonState :=
  run (fun s i => ((requests i).whole P J s).2) s order

theorem serial_concat (s : DaemonState) (order : List Nat) (i : Nat) :
    serial P J requests s (order ++ [i]) =
      ((requests i).whole P J (serial P J requests s order)).2 := run_concat _ _ _ _

/-! ## Orderly runs -/

/-- A change of the password is between its first look at the header and the end. -/
def Replacing (c : Concurrent) (j : Nat) : Prop :=
  (requests j).use = .replaced ∧ (c.phase j).underWay = true

/-- Nobody writes between the reading and the writing of a request that does not take the
mutex, nor does such a request between those of another; while the password is changed nobody
else writes, and nobody who looks at the VMK is under way. -/
def Orderly (c : Concurrent) : HeaderStep → Prop
  | .prepare i => (requests i).use ≠ .unused → ∀ j, j ≠ i → ¬ Replacing requests c j
  | .store i => ∀ j, j ≠ i →
      ((c.phase j).inHand = true → (requests i).guarded = true ∧ (requests j).guarded = true) ∧
      ¬ Replacing requests c j ∧
      ((requests i).use = .replaced → (c.phase j).underWay = true → (requests j).use = .unused)
  | _ => True

/-! ## What the parts look at -/

/-- The files, the VMK and the connection: all of a state that matters here. -/
def DaemonState.view (s : DaemonState) :
    (Option (Except String VaultHeader) × Bool) × Option (Block 32) × Bool :=
  (s.files, s.vmk, s.dbOpen)

open DaemonState

theorem DaemonState.view_eq {s t : DaemonState} :
    s.view = t.view ↔ s.files = t.files ∧ s.vmk = t.vmk ∧ s.dbOpen = t.dbOpen := by
  simp [view]

namespace HeaderRequest

variable (r : HeaderRequest)

theorem readHeader_respects (env : Env) (part : Part) :
    Respects DaemonState.files (readHeader env part) := by
  refine (Respects.lift _).bind fun _ => .reads fun s t hst => ?_
  rw [show s.disk.sidecar = t.disk.sidecar from (Prod.mk.inj hst).1]

theorem load_respects (edit : Edit) : Respects DaemonState.files (r.load edit) :=
  r.enter_respects.bind fun _ => (readHeader_respects _ _).bind fun _ => .lift _

theorem load_keeps (edit : Edit) : Keeps view (r.load edit) :=
  .bind (r.enter_keeps) fun _ => (readHeader_keeps _ _).bind fun _ => .lift _

theorem store_respects (header : VaultHeader) : Respects view (r.store P J header) := by
  refine (Respects.lift _).bind fun _ => .bind (.modify fun s t hst => ?_) fun _ => .lift _
  obtain ⟨hfiles, hvmk, hopen⟩ := view_eq.mp hst
  refine view_eq.mpr ⟨?_, hvmk, hopen⟩
  show (some (Except.ok (header.stamped P J s.vmk)), s.files.2) =
    (some (Except.ok (header.stamped P J t.vmk)), t.files.2)
  rw [hvmk, hfiles]

theorem store_keeps_vmk (header : VaultHeader) : Keeps vmk (r.store P J header) :=
  at_keeps.bind fun _ => .bind (.modify fun _ => rfl) fun _ => at_keeps

theorem whole_of_loaded {q : DaemonState} {header : VaultHeader}
    (h : ((r.prepare >>= r.load) q).1 = .ok header) :
    ∃ q', q'.view = q.view ∧ r.whole P J q = (r.store P J header >>= fun _ => r.settle) q' := by
  cases hrun : (r.prepare >>= r.load) q with
  | mk result q' =>
    rw [hrun] at h
    obtain rfl : result = .ok header := h
    obtain ⟨edit, u, hprepare, hload⟩ := bind_eq_ok.mp hrun
    have hsame : u = q := r.prepare_keeps.same hprepare
    refine ⟨q', ?_, ?_⟩
    · rw [← hsame]
      exact (r.load_keeps edit).eq hload
    · rw [whole, bind_run_ok hprepare, bind_run_ok hload]

end HeaderRequest

/-! ## The serial run -/

section Agreement

variable {P J requests}

/-- What the phase of a request says, beside the state `q` of the serial run. -/
def Fits (requests : Nat → HeaderRequest) (c : Concurrent) (q : DaemonState) (j : Nat) :
    Phase → Prop
  | .idle => True
  | .prepared edit => ((requests j).prepare q).1 = .ok edit
  | .locked edit => ((requests j).prepare q).1 = .ok edit ∧
      ((requests j).guarded = true → c.holder = some j)
  | .loaded header => (((requests j).prepare >>= (requests j).load) q).1 = .ok header ∧
      ((requests j).guarded = true → c.holder = some j)
  | .stored => (requests j).use = .replaced ∧ ((requests j).settle c.daemon).2.vmk = q.vmk
  | .ended => True

/-- The concurrent run beside the serial one. The VMK in memory lags behind between the write of
a change and its end. -/
structure Agrees (requests : Nat → HeaderRequest) (c : Concurrent) (q : DaemonState) : Prop where
  files : c.daemon.files = q.files
  dbOpen : c.daemon.dbOpen = q.dbOpen
  vmk : (∀ i, c.phase i ≠ .stored) → c.daemon.vmk = q.vmk
  fits : ∀ j, Fits requests c q j (c.phase j)
  alone : ∀ i j, Replacing requests c i → Replacing requests c j → i = j

theorem Agrees.start (s : DaemonState) : Agrees requests (.start s) s where
  files := rfl
  dbOpen := rfl
  vmk _ := rfl
  fits _ := trivial
  alone _ _ h := absurd h.2 (by simp [Concurrent.start, Phase.underWay])

variable {c : Concurrent} {q : DaemonState}

theorem Agrees.view (h : Agrees requests c q) (hstored : ∀ i, c.phase i ≠ .stored) :
    c.daemon.view = q.view :=
  view_eq.mpr ⟨h.files, h.vmk hstored, h.dbOpen⟩

variable {j : Nat}

theorem Agrees.replacing (h : Agrees requests c q) (hj : c.phase j = .stored) :
    Replacing requests c j := by
  have hfits := h.fits j
  rw [hj] at hfits
  exact ⟨hfits.1, by rw [hj]; rfl⟩

variable {i : Nat} {p : Phase} {c' : Concurrent}

theorem update_cases {f : Nat → Phase} {Q : Phase → Prop} (hi : j = i → Q p) (hj : j ≠ i → Q (f j)) :
    Q (update f i p j) := by
  by_cases hji : j = i
  · rw [hji, update_self]
    exact hi hji
  · rw [update_of_ne hji]
    exact hj hji

theorem Agrees.goOn (h : Agrees requests c q) (hview : c'.daemon.view = c.daemon.view)
    (hphase : c'.phase = update c.phase i p)
    (hholder : ∀ j, j ≠ i → c.holder = some j → c'.holder = some j) (hstored : c.phase i ≠ .stored)
    (hfits : Fits requests c' q i p) (halone : p.underWay = true → (c.phase i).underWay = true ∨
      ((requests i).use = .replaced → ∀ j, j ≠ i → ¬ Replacing requests c j)) :
    Agrees requests c' q := by
  obtain ⟨hfiles, hvmk, hopen⟩ := view_eq.mp hview
  refine ⟨hfiles.trans h.files, hopen.trans h.dbOpen, ?_, ?_, ?_⟩
  · intro hnone
    refine hvmk.trans (h.vmk fun j hj => ?_)
    have hji : j ≠ i := fun hji => hstored (hji ▸ hj)
    apply hnone j
    rw [hphase, update_of_ne hji, hj]
  · intro j
    rw [hphase]
    refine update_cases (fun hji => hji ▸ hfits) fun hji => ?_
    have hold := h.fits j
    cases hj : c.phase j with
    | idle => trivial
    | ended => trivial
    | prepared edit =>
      rw [hj] at hold
      exact hold
    | locked edit =>
      rw [hj] at hold
      exact ⟨hold.1, fun hg => hholder j hji (hold.2 hg)⟩
    | loaded header =>
      rw [hj] at hold
      exact ⟨hold.1, fun hg => hholder j hji (hold.2 hg)⟩
    | stored =>
      rw [hj] at hold
      exact ⟨hold.1, ((requests j).settle_vmk _ _ hvmk).trans hold.2⟩
  · -- whoever is replacing now was replacing before, `i` perhaps apart
    have hbefore : ∀ j, j ≠ i → Replacing requests c' j → Replacing requests c j := by
      rintro j hji ⟨huse, hway⟩
      rw [hphase, update_of_ne hji] at hway
      exact ⟨huse, hway⟩
    have hself : ∀ j, j ≠ i → Replacing requests c' i → ¬ Replacing requests c' j := by
      rintro j hji ⟨huse, hway⟩ hj
      rw [hphase, update_self] at hway
      rcases halone hway with hwas | hnobody
      · exact hji (h.alone j i (hbefore j hji hj) ⟨huse, hwas⟩)
      · exact hnobody huse j hji (hbefore j hji hj)
    intro j k hj hk
    by_cases hji : j = i
    · by_cases hki : k = i
      · rw [hji, hki]
      · exact absurd hk (hself k hki (hji ▸ hj))
    · by_cases hki : k = i
      · exact absurd hj (hself j hji (hki ▸ hk))
      · exact h.alone j k (hbefore j hji hj) (hbefore k hki hk)

/-! ### One step -/

variable {header : VaultHeader} {e : HeaderStep}

theorem agrees_prepare (h : Agrees requests c q) (hok : Orderly requests c (.prepare i)) :
    Agrees requests (advance P J requests c (.prepare i)) q := by
  cases hi : c.phase i with
  | idle =>
    have hresult : ((requests i).prepare c.daemon).1 = ((requests i).prepare q).1 := by
      refine (requests i).prepare_result _ _ (fun huse => ?_) fun _ => ⟨h.files, h.dbOpen⟩
      -- nobody is about to replace the VMK
      refine h.vmk fun j hj => ?_
      have hji : j ≠ i := by
        rintro rfl
        rw [hi] at hj
        cases hj
      exact hok huse j hji (h.replacing hj)
    have hstored : c.phase i ≠ .stored := by simp [hi]
    cases hrun : (requests i).prepare c.daemon with
    | mk r s =>
      have hsame : s = c.daemon := (requests i).prepare_keeps.same hrun
      rw [hrun] at hresult
      cases r with
      | ok edit =>
        simp only [advance, hi, hrun]
        refine h.goOn (congrArg _ hsame) rfl (fun _ _ hj => hj) hstored hresult.symm fun _ => ?_
        exact .inr fun huse => hok (by rw [huse]; decide)
      | error e =>
        simp only [advance, hi, hrun]
        exact h.goOn (congrArg _ hsame) rfl (fun _ _ hj => hj) hstored trivial
          (fun hway => by cases hway)
  | _ =>
    simp only [advance, hi]
    exact h

theorem agrees_acquire (h : Agrees requests c q) :
    Agrees requests (advance P J requests c (.acquire i)) q := by
  cases hi : c.phase i with
  | prepared edit =>
    have hstored : c.phase i ≠ .stored := by simp [hi]
    have hway : (c.phase i).underWay = true := by rw [hi]; rfl
    have hfits : ((requests i).prepare q).1 = .ok edit := by
      have := h.fits i
      rwa [hi] at this
    by_cases hguarded : (requests i).guarded = true
    · by_cases hholder : c.holder = none
      · simp only [advance, hi, hguarded, hholder, if_true]
        refine h.goOn rfl rfl (fun j _ hj => ?_) hstored ⟨hfits, fun _ => rfl⟩ fun _ => .inl hway
        rw [hholder] at hj
        cases hj
      · simp only [advance, hi, hguarded, hholder, if_true, if_false]
        exact h
    · simp only [advance, hi, hguarded]
      exact h.goOn rfl rfl (fun _ _ hj => hj) hstored ⟨hfits, fun hg => absurd hg hguarded⟩
        fun _ => .inl hway
  | _ =>
    simp only [advance, hi]
    exact h

theorem release_holder (hji : j ≠ i) (hj : c.holder = some j) : (c.release i).holder = some j := by
  have hother : c.holder ≠ some i := by
    rw [hj]
    exact fun heq => hji (Option.some.inj heq)
  rw [Concurrent.release, if_neg hother, hj]

section

variable (h : Agrees requests c q)
include h

theorem agrees_load : Agrees requests (advance P J requests c (.load i)) q := by
  cases hi : c.phase i with
  | locked edit =>
    have hstored : c.phase i ≠ .stored := by simp [hi]
    have hway : (c.phase i).underWay = true := by rw [hi]; rfl
    have hfits := h.fits i
    rw [hi] at hfits
    obtain ⟨hprepare, hholder⟩ := hfits
    have hresult := ((requests i).load_respects edit c.daemon q h.files).1
    have hview := (requests i).load_keeps edit c.daemon
    cases hrun : (requests i).load edit c.daemon with
    | mk r s =>
      rw [hrun] at hresult hview
      cases r with
      | ok header =>
        simp only [advance, hi, hrun]
        refine h.goOn hview rfl (fun _ _ hj => hj) hstored ⟨?_, hholder⟩ fun _ => .inl hway
        cases hq : (requests i).prepare q with
        | mk r' q' =>
          have hsame : q' = q := (requests i).prepare_keeps.same hq
          rw [hq] at hprepare
          obtain rfl : r' = .ok edit := hprepare
          rw [bind_run_ok hq, hsame]
          exact hresult.symm
      | error e =>
        simp only [advance, hi, hrun]
        exact h.goOn hview rfl (fun j hji hj => release_holder (c := c.goOn i .ended s) hji hj)
          hstored trivial fun hended => by cases hended
  | _ =>
    simp only [advance, hi]
    exact h

theorem agrees_settle : Agrees requests (advance P J requests c (.settle i)) q := by
  cases hi : c.phase i with
  | stored =>
    by_cases hreaders : c.readers = []
    · simp only [advance, hi, hreaders, if_true]
      have hfits := h.fits i
      rw [hi] at hfits
      obtain ⟨huse, hvmk⟩ := hfits
      have hkeeps := Prod.mk.inj ((requests i).settle_keeps c.daemon)
      have hreplacing : Replacing requests c i := h.replacing hi
      -- nobody else is at that point
      have hothers : ∀ j, j ≠ i → c.phase j ≠ .stored :=
        fun j hji hj => hji (h.alone j i (h.replacing hj) hreplacing)
      have hbefore : ∀ j, Replacing requests (c.goOn i .ended ((requests i).settle c.daemon).2) j →
          Replacing requests c j := by
        rintro j ⟨hj, hway⟩
        by_cases hji : j = i
        · rw [hji]
          exact hreplacing
        · have hj' : (c.goOn i .ended ((requests i).settle c.daemon).2).phase j = c.phase j :=
            update_of_ne hji _ _
          rw [hj'] at hway
          exact ⟨hj, hway⟩
      refine ⟨hkeeps.1.trans h.files, hkeeps.2.trans h.dbOpen, fun _ => hvmk, fun j => ?_,
        fun j k hj hk => h.alone j k (hbefore j hj) (hbefore k hk)⟩
      refine update_cases (fun _ => trivial) fun hji => ?_
      have hold := h.fits j
      cases hj : c.phase j with
      | stored => exact absurd hj (hothers j hji)
      | _ =>
        rw [hj] at hold
        exact hold
    · simp only [advance, hi, hreaders, if_false]
      exact h
  | _ =>
    simp only [advance, hi]
    exact h

theorem Fits.after_store {w : DaemonState} (hok : Orderly requests c (.store i)) (hji : j ≠ i)
    (hi : c.phase i = .loaded header) (hholder : c.holder = some j → c'.holder = some j)
    (hvmk : (requests i).use ≠ .replaced → w.vmk = q.vmk) : Fits requests c' w j (c.phase j) := by
  obtain ⟨hhand, hreplacing, hlook⟩ := hok j hji
  have hold := h.fits j
  -- what `j` has prepared, it would prepare again
  have hprepare : (c.phase j).underWay = true →
      ((requests j).prepare w).1 = ((requests j).prepare q).1 := by
    intro hway
    refine (requests j).prepare_result _ _ (fun huse => hvmk fun hi => ?_)
      fun huse => absurd ⟨huse, hway⟩ hreplacing
    exact huse (hlook hi hway)
  cases hj : c.phase j with
  | idle => trivial
  | ended => trivial
  | prepared edit =>
    rw [hj] at hold hprepare
    exact (hprepare rfl).trans hold
  | locked edit =>
    rw [hj] at hold hprepare
    exact ⟨(hprepare rfl).trans hold.1, fun hg => hholder (hold.2 hg)⟩
  | loaded header' =>
    -- two in the mutex
    rw [hj] at hold
    obtain ⟨hgi, hgj⟩ := hhand (by rw [hj]; rfl)
    have hfits := h.fits i
    rw [hi] at hfits
    have hboth : some j = some i := (hold.2 hgj).symm.trans (hfits.2 hgi)
    exact absurd (Option.some.inj hboth) hji
  | stored => exact absurd (h.replacing hj) hreplacing

/-- **The write.** The serial run takes request `i` as a whole where the concurrent one writes. -/
theorem agrees_store (hi : c.phase i = .loaded header) (hok : Orderly requests c (.store i)) :
    Agrees requests (advance P J requests c (.store i)) ((requests i).whole P J q).2 := by
  have hfits := h.fits i
  rw [hi] at hfits
  obtain ⟨hloaded, hholder⟩ := hfits
  -- nobody is about to replace the VMK, so that the states look the same
  have hstored : ∀ j, c.phase j ≠ .stored := by
    intro j hj
    by_cases hji : j = i
    · rw [hji, hi] at hj
      cases hj
    · exact (hok j hji).2.1 (h.replacing hj)
  obtain ⟨q', hq', hwhole⟩ := (requests i).whole_of_loaded P J hloaded
  have hsame := (requests i).store_respects P J header c.daemon q' ((h.view hstored).trans hq'.symm)
  have hvmk : ((requests i).store P J header q').2.vmk = q.vmk :=
    ((requests i).store_keeps_vmk P J header q').trans (view_eq.mp hq').2.1
  cases hc : (requests i).store P J header c.daemon with
  | mk r s =>
    cases hrun : (requests i).store P J header q' with
    | mk r' u =>
      rw [hc, hrun] at hsame
      rw [hrun] at hvmk
      obtain ⟨rfl, hview⟩ := hsame
      obtain ⟨hfiles, hvmk', hopen⟩ := view_eq.mp hview
      -- what the serial run does after its write, if anything
      have hafter : (r = .ok () ∧ (requests i).use = .replaced ∧
            ((requests i).whole P J q).2 = ((requests i).settle u).2) ∨
          (.afterStore (requests i).use r = Phase.ended ∧ ((requests i).whole P J q).2 = u) := by
        rw [hwhole]
        cases r with
        | error e => exact .inr ⟨rfl, by rw [bind_run_error hrun]⟩
        | ok _ =>
          rw [bind_run_ok hrun]
          by_cases huse : (requests i).use = .replaced
          · exact .inl ⟨rfl, huse, rfl⟩
          · refine .inr ⟨if_neg huse, ?_⟩
            rw [(requests i).settle_unused huse]
            rfl
      have hkept : ((requests i).whole P J q).2.files = u.files ∧
          ((requests i).whole P J q).2.dbOpen = u.dbOpen := by
        rcases hafter with ⟨-, -, hw⟩ | ⟨-, hw⟩ <;> rw [hw]
        · exact Prod.mk.inj ((requests i).settle_keeps u)
        · exact ⟨rfl, rfl⟩
      have hreplaced : ∀ j, j ≠ i → ¬ Replacing requests (advance P J requests c (.store i)) j := by
        rintro j hji ⟨huse, hway⟩
        simp only [advance, hi, hc, Concurrent.release, Concurrent.goOn] at hway
        rw [update_of_ne hji] at hway
        exact (hok j hji).2.1 ⟨huse, hway⟩
      refine ⟨?_, ?_, ?_, ?_, ?_⟩
      · simp only [advance, hi, hc]
        exact hfiles.trans hkept.1.symm
      · simp only [advance, hi, hc]
        exact hopen.trans hkept.2.symm
      · simp only [advance, hi, hc]
        intro hnone
        rcases hafter with ⟨hr, huse, -⟩ | ⟨-, hw⟩
        · refine absurd ?_ (hnone i)
          rw [hr]
          simp [Concurrent.release, Concurrent.goOn, Phase.afterStore, huse]
        · rw [hw]
          exact hvmk'
      · intro j
        simp only [advance, hi, hc]
        refine update_cases (fun hji => ?_) fun hji => ?_
        · rcases hafter with ⟨hr, huse, hw⟩ | ⟨hended, -⟩
          · rw [hr, Phase.afterStore, if_pos huse, hji]
            refine ⟨huse, ?_⟩
            rw [hw]
            exact (requests i).settle_vmk s u hvmk'
          · rw [hended]
            trivial
        · refine Fits.after_store h hok hji hi (fun hj => release_holder hji hj) fun huse => ?_
          rcases hafter with ⟨-, hreplaced, -⟩ | ⟨-, hw⟩
          · exact absurd hreplaced huse
          · rw [hw]
            exact hvmk
      · intro j k hj hk
        have hji : j = i := by
          by_contra hne
          exact hreplaced j hne hj
        have hki : k = i := by
          by_contra hne
          exact hreplaced k hne hk
        rw [hji, hki]

end

theorem written_other (he : ∀ i header, e = .store i → c.phase i ≠ .loaded header) :
    (advance P J requests c e).written = c.written := by
  cases e with
  | store i =>
    cases hi : c.phase i with
    | loaded header => exact absurd hi (he i header rfl)
    | _ => simp only [advance, hi]
  | _ =>
    simp only [advance]
    repeat' split
    all_goals rfl

/-- **One step.** The serial run of those who have written keeps up. -/
theorem agrees_advance {s₀ : DaemonState} (hok : Orderly requests c e)
    (h : Agrees requests c (serial P J requests s₀ c.written)) :
    Agrees requests (advance P J requests c e)
      (serial P J requests s₀ (advance P J requests c e).written) := by
  cases e with
  | store i =>
    cases hi : c.phase i with
    | loaded header =>
      have hwritten : (advance P J requests c (.store i)).written = c.written ++ [i] := by
        simp only [advance, hi]
      rw [hwritten, serial_concat]
      exact agrees_store h hi hok
    | _ =>
      simp only [advance, hi]
      exact h
  | prepare i =>
    rw [written_other (by simp)]
    exact agrees_prepare h hok
  | acquire i =>
    rw [written_other (by simp)]
    exact agrees_acquire h
  | load i =>
    rw [written_other (by simp)]
    exact agrees_load h
  | settle i =>
    rw [written_other (by simp)]
    exact agrees_settle h

end Agreement

/-- **No update is lost in an orderly run**: the header is the one that the requests leave which
have written so far, one after the other in some order. -/
theorem sidecar_serial_of_run {s₀ : DaemonState} {steps : List HeaderStep} {c : Concurrent}
    (hrun : Along (advance P J requests) (.start s₀) steps (Orderly requests))
    (hc : Visits (advance P J requests) (.start s₀) steps c) :
    ∃ order, order.Perm c.written ∧
      c.daemon.disk.sidecar = (serial P J requests s₀ order).disk.sidecar := by
  have hagrees : Agrees requests c (serial P J requests s₀ c.written) :=
    hc.invariant (I := fun c => Agrees requests c (serial P J requests s₀ c.written))
      (Agrees.start s₀) hrun fun _ _ _ hok h => agrees_advance hok h
  exact ⟨c.written, List.Perm.refl _, (Prod.mk.inj hagrees.files).1⟩

/-- Password login is disabled, and the quick-unlock credentials are revoked. -/
def disableAndRevoke : Nat → HeaderRequest
  | 0 => .updateLoginPolicy (symbolicEnv 2 2) false true false 0
  | _ => .quickUnlockRevoke (symbolicEnv 3 3)

theorem disableAndRevoke_use (j : Nat) : (disableAndRevoke j).use = .unused := by
  cases j <;> rfl

/-- One request begins while the other waits for nothing, and writes after it. -/
def revokeAfter : List HeaderStep :=
  [.prepare 0, .prepare 1, .acquire 0, .load 0, .store 0, .acquire 1, .load 1, .store 1]

/-- The revocation has the header in hand while the policy is written. -/
def revokeAcross : List HeaderStep :=
  [.prepare 1, .acquire 1, .load 1, .prepare 0, .acquire 0, .load 0, .store 0, .store 1]

def policyVault : DaemonState := unlockedVault oldPassword 0 symbolicDb

/-- Requests that leave the VMK alone have to be orderly in their writes only. -/
theorem orderly_of_unused {requests : Nat → HeaderRequest} {c : Concurrent} {e : HeaderStep}
    (huse : ∀ j, (requests j).use = .unused)
    (hhand : ∀ i, e = .store i → ∀ j, j ≠ i → (c.phase j).inHand = false) :
    Orderly requests c e := by
  have hnobody : ∀ j, ¬ Replacing requests c j := by
    rintro j ⟨hj, -⟩
    rw [huse j] at hj
    cases hj
  cases e with
  | prepare i => exact fun _ j _ => hnobody j
  | store i =>
    intro j hji
    refine ⟨fun hj => ?_, hnobody j, fun _ _ => huse j⟩
    rw [hhand i rfl j hji] at hj
    cases hj
  | _ => trivial

theorem revokeAfter_inHand :
    Along (advance symbolic symbolicSerde disableAndRevoke) (.start policyVault) revokeAfter
      fun c e => ∀ i, e = .store i → ∀ j, j ≠ i → (c.phase j).inHand = false := by
  have hother : ∀ {c : Concurrent} {i : Nat}, (∀ j, j ≠ i → (c.phase j).inHand = false) →
      ∀ i', HeaderStep.store i = .store i' → ∀ j, j ≠ i' → (c.phase j).inHand = false := by
    rintro c i h i' hi j hj
    cases hi
    exact h j hj
  refine along_cons nofun (along_cons nofun (along_cons nofun (along_cons nofun ?_)))
  refine along_cons (hother fun j hj => ?_) (along_cons nofun (along_cons nofun ?_))
  · -- the revocation has not begun to read
    match j with
    | 0 => exact absurd rfl hj
    | 1 => rfl
    | j + 2 => rfl
  · refine along_cons (hother fun j hj => ?_) (along_nil _)
    match j with
    | 0 => rfl
    | 1 => exact absurd rfl hj
    | j + 2 => rfl

theorem sidecar_serial_of_run_revokeAfter :
    (run (advance symbolic symbolicSerde disableAndRevoke) (.start policyVault)
      revokeAfter).written = [0, 1] ∧
    ∃ order, order.Perm (run (advance symbolic symbolicSerde disableAndRevoke)
        (.start policyVault) revokeAfter).written ∧
      (run (advance symbolic symbolicSerde disableAndRevoke) (.start policyVault)
        revokeAfter).daemon.disk.sidecar =
        (serial symbolic symbolicSerde disableAndRevoke policyVault order).disk.sidecar := by
  have horderly : Along (advance symbolic symbolicSerde disableAndRevoke) (.start policyVault)
      revokeAfter (Orderly disableAndRevoke) :=
    fun pre e post heq =>
      orderly_of_unused disableAndRevoke_use (revokeAfter_inHand pre e post heq)
  exact ⟨rfl, sidecar_serial_of_run symbolic symbolicSerde disableAndRevoke horderly (.last _ _ _)⟩

/-- **The policy is lost.** Password login stays enabled, although both requests are done. -/
theorem loginPolicy_lost :
    (run (advance symbolic symbolicSerde disableAndRevoke) (.start policyVault)
      revokeAcross).written = [0, 1] ∧
    ¬ ∃ order, order.Perm [0, 1] ∧
      (run (advance symbolic symbolicSerde disableAndRevoke) (.start policyVault)
        revokeAcross).daemon.disk.sidecar =
        (serial symbolic symbolicSerde disableAndRevoke policyVault order).disk.sidecar := by
  refine ⟨rfl, ?_⟩
  rintro ⟨order, hperm, hsidecar⟩
  have horder : order = [0, 1] ∨ order = [1, 0] := by
    have hmem := List.mem_permutations'.mpr hperm
    simpa [List.permutations'] using hmem
  have henabled : ∀ order, order = [0, 1] ∨ order = [1, 0] →
      (serial symbolic symbolicSerde disableAndRevoke policyVault order).disk.sidecar.map
        (·.map (·.passwordLoginEnabled)) = some (.ok false) := by
    rintro _ (rfl | rfl)
    · rfl
    · rfl
  have hlost : (run (advance symbolic symbolicSerde disableAndRevoke) (.start policyVault)
      revokeAcross).daemon.disk.sidecar.map (·.map (·.passwordLoginEnabled)) = some (.ok true) := rfl
  rw [hsidecar, henabled order horder] at hlost
  cases hlost

end PwdNow.Daemon
