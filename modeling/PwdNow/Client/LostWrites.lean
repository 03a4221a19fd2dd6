import PwdNow.Client.Symbolic

/-!
# Client — queued writes are not lost

`queueWrite` calls, flushes, and the key becoming available or not, in one tab. `NothingLost`: every
write that was queued, or was in the outbox before, has been sent or is in the outbox, or a newer
write of the same resource has or is.
-/

namespace PwdNow.Client

open Kit Async List

inductive OutboxOp where
  | queueWrite (r : Resource) (value : Token)
  | flushOutbox
  /-- The v1 key is derived or restored, or the key store is cleared. -/
  | setKey (available : Bool)

variable {Rest : Type} (P : Platform Rest) (J : Codec Outbox) (K : Block 32)

def OutboxOp.task (me : ℕ) : OutboxOp → OutboxTask Unit
  | queueWrite r value => Client.queueWrite P J me r value
  | flushOutbox => do
    let _ ← Client.flushOutbox P J
  | setKey available => section_ () fun _ => .modify fun s =>
      { s with keys := { s.keys with localKeyV1 := if available then some K else none } }

/-- A write is queued while the key is there. -/
def OutboxOp.Ready (s : OutboxState) : OutboxOp → Prop
  | queueWrite _ _ => s.keys.localKeyV1.isSome
  | flushOutbox => True
  | setKey _ => True

instance decidableReady (s : OutboxState) (op : OutboxOp) : Decidable (op.Ready s) := by
  cases op <;> unfold OutboxOp.Ready <;> infer_instance

/-- The tab, with every operation about to begin. -/
def outboxTab (ops : ℕ → OutboxOp) (s : OutboxState) :
    System ℕ Unit Moment OutboxState ClientError Unit :=
  ⟨s, fun p => (ops p).task P J K p⟩

/-- The value, or that of a newer write of the resource, has been sent or is in the outbox. -/
def OutboxState.Covered (s : OutboxState) (r : Resource) (value : Token)
    (newer : List (ℕ × Resource × Token)) : Prop :=
  ∃ w, (w = value ∨ ∃ q, (q, r, w) ∈ newer) ∧
    (w ∈ s.put r ∨ ∃ outbox entry, Stores P J K s.stored outbox ∧ outbox.get r = some entry ∧
      entry.encryptedValue = w)

/-- No write is lost: not one that was queued, nor one of the outbox at the start. -/
structure NothingLost (outbox₀ : Outbox) (ops : ℕ → OutboxOp)
    (o : ℕ → Option (Except ClientError Unit)) (s : OutboxState) : Prop where
  queued : ∀ p r value, ops p = .queueWrite r value → o p = some (.ok ()) →
    ∃ before newer, s.calls = before ++ (p, r, value) :: newer ∧ s.Covered P J K r value newer
  before : ∀ r entry, outbox₀.get r = some entry → s.Covered P J K r entry.encryptedValue s.calls

/-! ## What each operation leaves covered -/

variable {P J K} {s s' : OutboxState} {outbox : Outbox} {r : Resource} {value : Token}
  {newer newer' : List (ℕ × Resource × Token)}

namespace OutboxState

theorem Covered.mono (h : s.Covered P J K r value newer)
    (hnewer : ∀ call ∈ newer, call ∈ newer') : s.Covered P J K r value newer' := by
  obtain ⟨w, hw, hwhere⟩ := h
  exact ⟨w, hw.imp_right fun ⟨q, hq⟩ => ⟨q, hnewer _ hq⟩, hwhere⟩

theorem Covered.congr (h : s.Covered P J K r value newer) (hput : s'.put = s.put)
    (hstored : s'.stored = s.stored) : s'.Covered P J K r value newer := by
  unfold Covered
  rwa [hput, hstored]

section

variable (hP : P.aesGcm.Ideal) (hJ : J.Lawful) (h : s.Covered P J K r value newer)
    (hstores : Stores P J K s.stored outbox)
include hP hJ h hstores

theorem Covered.drains (hdrains : Drains P J K outbox s s') : s'.Covered P J K r value newer := by
  obtain ⟨w, hw, hwhere⟩ := h
  obtain ⟨-, -, outbox', hstores', hdrained⟩ := hdrains
  refine ⟨w, hw, ?_⟩
  rcases hwhere with hput | ⟨outbox'', entry, hstores'', hentry, rfl⟩
  · left
    cases hdrained r with
    | kept _ hsame => rwa [hsame]
    | sent _ hsent _ =>
      rw [hsent]
      exact mem_append_right _ hput
  · cases hstores''.unique hP hJ hstores
    cases hdrained r with
    | kept hget _ => exact .inr ⟨outbox', entry, hstores', hget.trans hentry, rfl⟩
    | sent hget hsent _ =>
      left
      rw [hentry] at hget
      cases hget
      rw [hsent]
      exact mem_append_left _ (by simp)

/-- A write that is stored replaces an older one of the same resource, and no other. -/
theorem Covered.stored {me now : ℕ} {r' : Resource} {value' : Token} {token : Option Token}
    (htoken : Stores P J K token (Outbox.set r' ⟨value', now⟩ outbox)) :
    ({ s.noted me r' value' with stored := token } : OutboxState).Covered P J K r value
      (newer ++ [(me, r', value')]) := by
  obtain ⟨w, hw, hwhere⟩ := h
  have hmore : w = value ∨ ∃ q, (q, r, w) ∈ newer ++ [(me, r', value')] :=
    hw.imp_right fun ⟨q, hq⟩ => ⟨q, mem_append_left _ hq⟩
  rcases hwhere with hput | ⟨outbox', entry, hstores', hentry, rfl⟩
  · exact ⟨w, hmore, .inl hput⟩
  · cases hstores'.unique hP hJ hstores
    by_cases hr : r = r'
    · subst hr
      exact ⟨value', .inr ⟨me, by simp⟩, .inr ⟨_, _, htoken, Outbox.get_set_self, rfl⟩⟩
    · exact ⟨_, hmore, .inr ⟨_, entry, htoken, (Outbox.get_set_of_ne hr).trans hentry, rfl⟩⟩

end

end OutboxState

/-! ## One after the other -/

section Serial

variable (P J K)

/-- What an operation hands on: the outbox is stored under the key, and every call is covered,
whether it has ended or not. -/
structure Handed (outbox₀ : Outbox) (ops : ℕ → OutboxOp)
    (o : ℕ → Option (Except ClientError Unit)) (s : OutboxState) : Prop where
  key : s.KeyIs K
  stored : ∃ outbox, Stores P J K s.stored outbox
  called : ∀ p r value, ops p = .queueWrite r value → o p = some (.ok ()) → (p, r, value) ∈ s.calls
  covered : ∀ before call newer, s.calls = before ++ call :: newer →
    s.Covered P J K call.2.1 call.2.2 newer
  before : ∀ r entry, outbox₀.get r = some entry → s.Covered P J K r entry.encryptedValue s.calls

variable {P J K} {outbox₀ : Outbox} {ops : ℕ → OutboxOp}
  {o : ℕ → Option (Except ClientError Unit)} {p : ℕ}

theorem Handed.nothingLost (h : Handed P J K outbox₀ ops o s) :
    NothingLost P J K outbox₀ ops o s := by
  refine ⟨fun p r value hop hp => ?_, h.before⟩
  obtain ⟨before, newer, hcalls⟩ := append_of_mem (h.called p r value hop hp)
  exact ⟨before, newer, hcalls, h.covered before _ newer hcalls⟩

theorem Handed.of_covered {res : Except ClientError Unit} (h : Handed P J K outbox₀ ops o s)
    (hop : ∀ r value, ops p ≠ .queueWrite r value) (hkey : s'.KeyIs K)
    (hstored : ∃ outbox, Stores P J K s'.stored outbox) (hcalls : s'.calls = s.calls)
    (hcovered : ∀ r value newer, s.Covered P J K r value newer → s'.Covered P J K r value newer) :
    Handed P J K outbox₀ ops (Function.update o p (some res)) s' where
  key := hkey
  stored := hstored
  called q r value hq ho := by
    have hne : q ≠ p := fun heq => hop r value (heq ▸ hq)
    rw [Function.update_of_ne hne] at ho
    rw [hcalls]
    exact h.called q r value hq ho
  covered before call newer heq := by
    rw [hcalls] at heq
    exact hcovered _ _ _ (h.covered before call newer heq)
  before r entry hentry := by
    rw [hcalls]
    exact hcovered _ _ _ (h.before r entry hentry)

theorem NothingLost.of_covered (h : NothingLost P J K outbox₀ ops o s) (hcalls : s'.calls = s.calls)
    (hcovered : ∀ r value newer, s.Covered P J K r value newer → s'.Covered P J K r value newer) :
    NothingLost P J K outbox₀ ops o s' where
  queued p r value hop hp := by
    obtain ⟨before, newer, heq, hc⟩ := h.queued p r value hop hp
    exact ⟨before, newer, hcalls.trans heq, hcovered _ _ _ hc⟩
  before r entry hentry := by
    rw [hcalls]
    exact hcovered _ _ _ (h.before r entry hentry)

theorem NothingLost.noted (h : NothingLost P J K outbox₀ ops o s) :
    NothingLost P J K outbox₀ ops o (s.noted p r value) where
  queued q r' value' hop hq := by
    obtain ⟨before, newer, heq, hc⟩ := h.queued q r' value' hop hq
    refine ⟨before, newer ++ [(p, r, value)], ?_, ?_⟩
    · change s.calls ++ _ = _
      rw [heq, append_assoc, cons_append]
    · have hmore := hc.mono fun call hcall => mem_append_left [(p, r, value)] hcall
      exact hmore.congr rfl rfl
  before r' entry hentry := by
    have hmore := (h.before r' entry hentry).mono fun call hcall =>
      mem_append_left [(p, r, value)] hcall
    exact hmore.congr rfl rfl

theorem Handed.queued (hP : P.aesGcm.Ideal) (hJ : J.Lawful) (h : Handed P J K outbox₀ ops o s)
    (hop : ops p = .queueWrite r value) (hstores : Stores P J K s.stored outbox) {now : ℕ}
    {token : Option Token} (htoken : Stores P J K token (Outbox.set r ⟨value, now⟩ outbox)) :
    Handed P J K outbox₀ ops (Function.update o p (some (.ok ())))
      { s.noted p r value with stored := token } where
  key := h.key
  stored := ⟨_, htoken⟩
  called q r' value' hq ho := by
    by_cases hne : q = p
    · subst hne
      rw [hop] at hq
      cases hq
      exact mem_append_right _ mem_cons_self
    · rw [Function.update_of_ne hne] at ho
      exact mem_append_left _ (h.called q r' value' hq ho)
  covered before call newer heq := by
    change s.calls ++ [(p, r, value)] = before ++ call :: newer at heq
    rcases eq_nil_or_concat newer with rfl | ⟨newer, last, rfl⟩
    · -- the call itself
      obtain ⟨-, hcall⟩ := append_inj' heq rfl
      cases hcall
      exact ⟨value, .inl rfl, .inr ⟨_, _, htoken, Outbox.get_set_self, rfl⟩⟩
    · rw [concat_eq_append, ← cons_append, ← append_assoc] at heq
      obtain ⟨hcalls, hlast⟩ := append_inj' heq rfl
      cases hlast
      rw [concat_eq_append]
      exact (h.covered before call newer hcalls).stored hP hJ hstores htoken
  before r' entry hentry := (h.before r' entry hentry).stored hP hJ hstores htoken

theorem outboxTab_handsOn (hP : P.aesGcm.Ideal) (hJ : J.Lawful) (s₀ : OutboxState) :
    System.HandsOn (fun p s => (ops p).Ready s) (fun _ => True) (Handed P J K outbox₀ ops)
      (NothingLost P J K outbox₀ ops) (outboxTab P J K ops s₀) where
  during o s h := h.nothingLost
  run p o s h hready hp := by
    obtain ⟨outbox, hstores⟩ := h.stored
    change ((ops p).task P J K p).Through ..
    cases hop : ops p with
    | queueWrite r value =>
      rw [hop] at hready
      have hkey : s.keys.localKeyV1 = some K := by
        refine h.key.resolve_left fun hnone => ?_
        simp [OutboxOp.Ready, hnone] at hready
      refine queueWrite_through hP hJ hstores hkey h.nothingLost.noted fun now token htoken => ?_
      constructor
      · have hhanded := (h.queued hP hJ hop hstores htoken).nothingLost
        refine ⟨fun q r' value' hq ho => hhanded.queued q r' value' hq ?_, hhanded.before⟩
        rwa [Function.update_of_ne]
        rintro rfl
        rw [hp] at ho
        cases ho
      · exact h.queued hP hJ hop hstores htoken
    | flushOutbox =>
      have hcovered : ∀ s', Drains P J K outbox s s' → ∀ r value newer,
          s.Covered P J K r value newer → s'.Covered P J K r value newer :=
        fun s' hdrains r value newer hc => hc.drains hP hJ hstores hdrains
      refine through_bind.mpr ((flushOutbox_through hP hJ hstores h.key).weaken ?_ ?_)
      · exact fun s' hdrains => h.nothingLost.of_covered hdrains.calls (hcovered s' hdrains)
      · intro res s' hdrains
        have hkey : s'.KeyIs K := h.key.congr hdrains.keys
        have hstored : ∃ outbox, Stores P J K s'.stored outbox :=
          hdrains.content.imp fun _ hcontent => hcontent.1
        have hnone : ∀ r value, ops p ≠ .queueWrite r value := by simp [hop]
        cases res <;> exact h.of_covered hnone hkey hstored hdrains.calls (hcovered s' hdrains)
    | setKey available =>
      have hcovered : ∀ keys r value newer, s.Covered P J K r value newer →
          ({ s with keys := keys } : OutboxState).Covered P J K r value newer :=
        fun keys r value newer hc => hc.congr rfl rfl
      have hnone : ∀ r value, ops p ≠ .queueWrite r value := by simp [hop]
      refine through_section.mpr fun _ _ => ⟨h.nothingLost.of_covered rfl (hcovered _), ?_⟩
      refine h.of_covered hnone ?_ ⟨outbox, hstores⟩ rfl (hcovered _)
      cases available
      · exact .inl rfl
      · exact .inr rfl

/-- **Nothing is lost**, if the operations do not overlap and no write is queued without the key. -/
theorem nothingLost_of_serial (hP : P.aesGcm.Ideal) (hJ : J.Lawful) {ops : ℕ → OutboxOp}
    (hkey : s.KeyIs K) (hstores : Stores P J K s.stored outbox₀) (hcalls : s.calls = [])
    {es : List (ℕ × Moment)}
    (hserial : (outboxTab P J K ops s).Serial (fun p s => (ops p).Ready s) [] es)
    {t : System ℕ Unit Moment OutboxState ClientError Unit}
    (hvisit : Visits System.step (outboxTab P J K ops s) es t) :
    NothingLost P J K outbox₀ ops t.outcomes t.shared := by
  have hbegin : Handed P J K outbox₀ ops (outboxTab P J K ops s).outcomes s := by
    refine ⟨hkey, ⟨_, hstores⟩, fun p r value hop hp => ?_, fun before call newer heq => ?_,
      fun r entry hentry => ?_⟩
    · unfold System.outcomes outboxTab at hp
      dsimp only at hp
      rw [hop] at hp
      cases hp
    · rw [hcalls] at heq
      cases before <;> cases heq
    · exact ⟨_, .inl rfl, .inr ⟨_, entry, hstores, hentry, rfl⟩⟩
  exact hserial.invariant (fun _ _ => trivial) hbegin (outboxTab_handsOn hP hJ s) hvisit

end Serial

/-! ## Runs of a tab -/

/-- A write is queued; the key goes, a flush finds nothing it can read, the key is back. -/
def lockedFlush : ℕ → OutboxOp
  | 0 => .queueWrite .folders (.base64url [1])
  | 1 => .setKey false
  | 2 => .flushOutbox
  | _ => .setKey true

set_option maxRecDepth 8000 in
theorem lockedFlush_serial :
    (outboxTab symbolicPlatform symbolicOutbox (.replicate 32 1) lockedFlush symbolicTab).Serial
      (fun p s => (lockedFlush p).Ready s) []
      ([0, 0, 0, 0, 1, 2, 2, 2, 3].map (·, symbolicMoment)) := by
  decide

theorem nothingLost_of_serial_locked :
    NothingLost symbolicPlatform symbolicOutbox (.replicate 32 1) [] lockedFlush (run System.step
        (outboxTab symbolicPlatform symbolicOutbox (.replicate 32 1) lockedFlush symbolicTab)
        ([0, 0, 0, 0, 1, 2, 2, 2, 3].map (·, symbolicMoment))).outcomes
      (run System.step
        (outboxTab symbolicPlatform symbolicOutbox (.replicate 32 1) lockedFlush symbolicTab)
        ([0, 0, 0, 0, 1, 2, 2, 2, 3].map (·, symbolicMoment))).shared :=
  nothingLost_of_serial symbolicPlatform_ideal.aesGcm symbolicOutbox_lawful (.inr rfl) .empty rfl
    lockedFlush_serial (.last _ _ _)

/-- Folders and credentials are written while the network is down. -/
def twoWrites : ℕ → OutboxOp
  | 0 => .queueWrite .folders (.base64url [1])
  | _ => .queueWrite .credentials (.base64url [2])

/-- Both read the outbox, empty, before either has stored it. -/
def overlapping : System ℕ Unit Moment OutboxState ClientError Unit :=
  run System.step
    (outboxTab symbolicPlatform symbolicOutbox (.replicate 32 1) twoWrites symbolicTab)
    ([0, 1, 0, 0, 0, 1, 1, 1].map (·, symbolicMoment))

/-- **Two overlapping writes.** Both calls return, and the folders are neither sent nor queued. -/
theorem overlapping_queueWrites_lose :
    overlapping.outcomes 0 = some (.ok ()) ∧ overlapping.outcomes 1 = some (.ok ()) ∧
      ¬ NothingLost symbolicPlatform symbolicOutbox (.replicate 32 1) [] twoWrites
        overlapping.outcomes overlapping.shared := by
  have hended : overlapping.outcomes 0 = some (.ok ()) := rfl
  refine ⟨hended, rfl, fun h => ?_⟩
  obtain ⟨before, newer, hcalls, w, hw, hwhere⟩ := h.queued 0 .folders (.base64url [1]) rfl hended
  rcases hwhere with hput | ⟨outbox, entry, hstores, hentry, -⟩
  · exact not_mem_nil hput
  · cases hstores.unique symbolicPlatform_ideal.aesGcm symbolicOutbox_lawful
      (.sealed (.replicate 12 0) [(.credentials, ⟨.base64url [2], 0⟩)])
    cases hentry

end PwdNow.Client
