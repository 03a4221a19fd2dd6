import PwdNow.Client.Symbolic

/-!
# Client — the newest write wins

`_localWrite` with a server session and `attemptFlush`, one after the other. `NewestWins`: a
resource with no queued write has on the server what was written last.
-/

namespace PwdNow.Client

open Kit Async List

variable {Rest : Type} (P : Platform Rest) (J : Codec Outbox) (K : Block 32)

/-- `_localWrite`, with a server session. -/
def localWriteTask (r : Resource) (text : Bytes) : OutboxTask Unit := do
  match ← section_ () fun i => .gets fun s => encryptForServer P s.keys i.iv text with
  | none => throw (.error "vault encryption key not ready")
  | some token =>
    match ← apiPut r token with
    | .ok => return ()
    | .status code =>
      if code = 401 then do
        section_ () fun _ => .modify fun s => { s with keys := s.keys.clear }
        throw (.error "session expired")
      else throw (.error ("vault PUT " ++ r.endpoint ++ " failed: " ++ toString code))
    | .network _ =>
      queueWrite P J 0 r token
      throw (.queuedOffline r)

def getQueueSize : OutboxTask ℕ := do
  let outbox ← readOutbox P J
  return outbox.length

/-- `attemptFlush`; what follows a flush only tells the user and reads. -/
def attemptFlush : OutboxTask Unit := do
  let size ← getQueueSize P J
  if size = 0 then return ()
  else
    let _ ← flushOutbox P J

inductive SyncOp where
  | localWrite (r : Resource) (text : Bytes)
  | attemptFlush

def SyncOp.task : SyncOp → OutboxTask Unit
  | localWrite r text => localWriteTask P J r text
  | attemptFlush => Client.attemptFlush P J

/-- The tab, and for each resource the text of the last write that was sent or queued. -/
structure Synced where
  tab : OutboxState
  latest : Resource → Option Bytes

open Synced

/-- The write reached the server or the outbox. -/
def SyncOp.written (res : Option (Except ClientError Unit)) (latest : Resource → Option Bytes) :
    SyncOp → Resource → Option Bytes
  | localWrite r text =>
    if res = some (.ok ()) ∨ res = some (.error (.queuedOffline r)) then
      Function.update latest r (some text)
    else latest
  | attemptFlush => latest

/-- One operation, from start to end. -/
def Synced.step (w : Synced) (e : SyncOp × (ℕ → Moment)) : Synced :=
  let done := (e.1.task P J).run e.2 w.tab
  ⟨done.2, e.1.written done.1 w.latest⟩

/-- A resource with nothing queued has its last write on the server. -/
def Synced.NewestWins (w : Synced) : Prop :=
  ∀ r text outbox, w.latest r = some text → Stores P J K w.tab.stored outbox → outbox.get r = none →
    ∃ iv, (w.tab.put r).head? = some (.base64url (sealPayload P K iv [] text))

/-- A write that goes through finds no older one of its resource in the outbox. -/
def Synced.NothingPending (w : Synced) (e : SyncOp × (ℕ → Moment)) : Prop :=
  ∀ r text, e.1 = .localWrite r text → ((e.1.task P J).run e.2 w.tab).1 = some (.ok ()) →
    ∀ outbox, Stores P J K w.tab.stored outbox → outbox.get r = none

/-! ## The operations do not wait -/

section Free

theorem decryptOutbox_free (stored : Option Token) : (decryptOutbox P J stored).Free := by
  cases stored with
  | none => trivial
  | some raw => exact free_section

theorem readOutbox_free : (readOutbox P J).Free :=
  free_bind free_section fun _ => decryptOutbox_free P J _

theorem writeOutbox_free (outbox : Outbox) : (writeOutbox P J outbox).Free :=
  iteInduction (fun _ => free_section) fun _ => free_bind free_section fun _ => free_section

theorem queueWrite_free (me : ℕ) (r : Resource) (value : Token) :
    (queueWrite P J me r value).Free :=
  free_bind free_section fun _ => free_bind (decryptOutbox_free P J _) fun _ =>
    free_bind free_section fun _ => writeOutbox_free P J _

theorem clearQueuedWrite_free (r : Resource) : (clearQueuedWrite P J r).Free :=
  free_bind (readOutbox_free P J) fun _ =>
    iteInduction (fun _ => writeOutbox_free P J _) fun _ => trivial

theorem flushEntries_free (outbox : Outbox) (flushed rs : List Resource) :
    (flushEntries P J outbox flushed rs).Free := by
  induction rs generalizing flushed with
  | nil => trivial
  | cons r rest ih =>
    unfold flushEntries
    split
    · exact ih flushed
    · refine free_bind free_section fun answer => ?_
      cases answer with
      | ok => exact free_bind (clearQueuedWrite_free P J r) fun _ => ih _
      | status code => trivial
      | network delivered => trivial

theorem flushOutbox_free : (flushOutbox P J).Free := by
  refine free_bind free_section fun start => ?_
  cases start with
  | none => trivial
  | some raw =>
    exact free_finally (free_bind (decryptOutbox_free P J raw) fun _ =>
      flushEntries_free P J _ _ _) free_section

theorem localWriteTask_free (r : Resource) (text : Bytes) : (localWriteTask P J r text).Free := by
  refine free_bind free_section fun encrypted => ?_
  cases encrypted with
  | none => trivial
  | some token =>
    refine free_bind free_section fun answer => ?_
    cases answer with
    | ok => trivial
    | status code => exact iteInduction (fun _ => free_bind free_section fun _ => trivial) fun _ => trivial
    | network delivered => exact free_bind (queueWrite_free P J 0 r token) fun _ => trivial

theorem SyncOp.task_free (op : SyncOp) : (op.task P J).Free := by
  cases op with
  | localWrite r text => exact localWriteTask_free P J r text
  | attemptFlush =>
    refine free_bind (free_bind (readOutbox_free P J) fun _ => trivial) fun _ => ?_
    exact iteInduction (fun _ => trivial) fun _ =>
      free_bind (flushOutbox_free P J) fun _ => trivial

end Free

/-! ## How each operation ends -/

/-- How a write from `s` ends, where `outbox` is stored. -/
inductive WriteEnd (r : Resource) (text : Bytes) (outbox : Outbox) (s : OutboxState) :
    Except ClientError Unit → OutboxState → Prop
  /-- The write is refused, by the tab or the server. -/
  | refused {e : ClientError} {s' : OutboxState} (he : e ≠ .queuedOffline r)
    (hkey : s'.KeyIs K) (hstored : s'.stored = s.stored) (hput : s'.put = s.put) :
    WriteEnd r text outbox s (.error e) s'
  | sent (iv : Block 12) :
    WriteEnd r text outbox s (.ok ()) (s.recordPut r (.base64url (sealPayload P K iv [] text)))
  | queued {s' : OutboxState} {now : ℕ} (iv : Block 12) (hkeys : s'.keys = s.keys)
    (hput : ∀ r', r' ≠ r → s'.put r' = s.put r')
    (hstored : Stores P J K s'.stored
      (Outbox.set r ⟨.base64url (sealPayload P K iv [] text), now⟩ outbox)) :
    WriteEnd r text outbox s (.error (.queuedOffline r)) s'

variable {P J K} {V : Moment → Prop} {s s' : OutboxState} {outbox : Outbox} {r : Resource}
  {text : Bytes}

section

variable (hP : P.aesGcm.Ideal) (hJ : J.Lawful) (hkey : s.KeyIs K)
    (hstores : Stores P J K s.stored outbox)
include hP hJ hkey hstores

theorem localWriteTask_ends :
    (localWriteTask P J r text).Ends V (WriteEnd P J K r text outbox s) s := by
  refine ends_bind.mpr (ends_section.mpr fun i _ => ?_)
  rcases hkey with hnone | hsome
  · simp only [Then, Fallible.gets_run, encryptForServer, hnone, Option.map_none]
    exact .refused (by simp) (.inl hnone) rfl rfl
  simp only [Then, Fallible.gets_run, encryptForServer, hsome, Option.map_some]
  refine ends_bind.mpr (ends_section.mpr fun j _ => ?_)
  -- the key is there, so the answer decides
  cases hanswer : j.put with
  | ok => exact .sent i.iv
  | status code =>
    dsimp only [Then]
    split
    · refine ends_bind.mpr (ends_section.mpr fun _ _ => ?_)
      exact .refused (by simp) (.inl rfl) rfl rfl
    · exact .refused (by simp) (.inr hsome) rfl rfl
  | network delivered =>
    dsimp only [Then]
    have hqueue : ∀ s₁ : OutboxState, s₁.keys = s.keys → s₁.stored = s.stored →
        (∀ r', r' ≠ r → s₁.put r' = s.put r') →
        (queueWrite P J 0 r (.base64url (sealPayload P K i.iv [] text)) >>= fun _ =>
          throw (.queuedOffline r)).Ends V (WriteEnd P J K r text outbox s) s₁ := by
      intro s₁ hkeys hstored hput
      have hstores₁ : Stores P J K s₁.stored outbox := by rwa [hstored]
      have hkey₁ : s₁.keys.localKeyV1 = some K := by rwa [hkeys]
      refine ends_bind.mpr (Through.ends (K := fun _ => True) ?_)
      refine queueWrite_through hP hJ hstores₁ hkey₁ trivial fun now token htoken => ⟨trivial, ?_⟩
      exact .queued i.iv hkeys hput htoken
    cases delivered
    · exact hqueue s rfl rfl fun _ _ => rfl
    · exact hqueue _ rfl rfl fun r' hr => OutboxState.put_recordPut_of_ne hr

theorem attemptFlush_ends : (attemptFlush P J).Ends V (fun _ => Drains P J K outbox s) s := by
  unfold attemptFlush getQueueSize
  rw [bind_assoc]
  refine Through.ends (K := fun _ => True) ?_
  refine through_readOutbox hP hJ hstores trivial fun read _ _ => ?_
  change Through _ _ _ (if read.length = 0 then _ else _) _
  split
  · exact Drains.refl hstores
  · refine through_bind.mpr ?_
    refine (flushOutbox_through hP hJ hstores hkey).weaken (fun _ _ => trivial) ?_
    intro res s' hdrains
    cases res <;> exact hdrains

end

/-! ## Runs -/

variable (P J K) in
/-- The invariant: what was written last is queued, or nothing is and the server has it. -/
structure OutboxState.Current (s : OutboxState) (latest : Resource → Option Bytes) : Prop where
  key : s.KeyIs K
  stored : ∃ outbox, Stores P J K s.stored outbox ∧ ∀ r text, latest r = some text →
    ∃ iv, (∃ entry, outbox.get r = some entry ∧
        entry.encryptedValue = .base64url (sealPayload P K iv [] text)) ∨
      (outbox.get r = none ∧ (s.put r).head? = some (.base64url (sealPayload P K iv [] text)))

section Current

variable {latest : Resource → Option Bytes}

section

variable (hP : P.aesGcm.Ideal) (hJ : J.Lawful) (h : s.Current P J K latest)
include hP hJ h

theorem OutboxState.Current.newestWins : (Synced.mk s latest).NewestWins P J K := by
  intro r text outbox' hlatest hstores' hnone
  obtain ⟨outbox, hstores, hcurrent⟩ := h.stored
  cases hstores.unique hP hJ hstores'
  obtain ⟨iv, ⟨entry, hget, -⟩ | ⟨-, hhead⟩⟩ := hcurrent r text hlatest
  · rw [hnone] at hget
    cases hget
  · exact ⟨iv, hhead⟩

theorem OutboxState.Current.write (hstores : Stores P J K s.stored outbox)
    {res : Except ClientError Unit} (hend : WriteEnd P J K r text outbox s res s')
    (hpending : res = .ok () → outbox.get r = none) :
    s'.Current P J K ((SyncOp.localWrite r text).written (some res) latest) := by
  obtain ⟨hkey, outbox', hstores', hlatest⟩ := h
  cases hstores'.unique hP hJ hstores
  cases hend with
  | refused he hkey' hstored hput =>
    simp only [SyncOp.written, Option.some.injEq, reduceCtorEq, Except.error.injEq, he, or_self,
      if_false]
    refine ⟨hkey', outbox, by rwa [hstored], fun r' text' h => ?_⟩
    rw [hput]
    exact hlatest r' text' h
  | sent iv =>
    simp only [SyncOp.written, true_or, if_true]
    refine ⟨hkey, outbox, hstores, fun r' text' h => ?_⟩
    by_cases hr : r' = r
    · subst hr
      rw [Function.update_self] at h
      cases h
      -- nothing older is left that a flush could send
      exact ⟨iv, .inr ⟨hpending rfl, by simp⟩⟩
    · rw [Function.update_of_ne hr] at h
      rw [OutboxState.put_recordPut_of_ne hr]
      exact hlatest r' text' h
  | queued iv hkeys hput hstored =>
    simp only [SyncOp.written, or_true, if_true]
    refine ⟨?_, _, hstored, fun r' text' h => ?_⟩
    · exact hkey.congr hkeys
    by_cases hr : r' = r
    · subst hr
      rw [Function.update_self] at h
      cases h
      exact ⟨iv, .inl ⟨_, Outbox.get_set_self, rfl⟩⟩
    · rw [Function.update_of_ne hr] at h
      rw [Outbox.get_set_of_ne hr, hput r' hr]
      exact hlatest r' text' h

theorem OutboxState.Current.flush (hstores : Stores P J K s.stored outbox)
    (hdrains : Drains P J K outbox s s') : s'.Current P J K latest := by
  obtain ⟨hkey, outbox', hstores', hlatest⟩ := h
  cases hstores'.unique hP hJ hstores
  obtain ⟨hkeys, -, outbox'', hstores'', hdrained⟩ := hdrains
  refine ⟨?_, outbox'', hstores'', fun r text h => ?_⟩
  · exact hkey.congr hkeys
  obtain ⟨iv, hcase⟩ := hlatest r text h
  refine ⟨iv, ?_⟩
  cases hdrained r with
  | kept hget hput => rwa [hget, hput]
  | @sent entry n hget hput hrest =>
    rcases hcase with ⟨entry', hget', hvalue⟩ | ⟨hnone, -⟩
    -- sent once or several times, the queued value is the last on the server
    · rw [hget] at hget'
      cases hget'
      rcases hrest with hrest | hrest
      · exact .inl ⟨entry, hrest, hvalue⟩
      · refine .inr ⟨hrest, ?_⟩
        rw [hput, replicate_succ, cons_append, head?_cons, hvalue]
    · rw [hget] at hnone
      cases hnone

end

end Current

variable {w w' : Synced}

theorem Synced.current_step (hP : P.aesGcm.Ideal) (hJ : J.Lawful)
    (h : w.tab.Current P J K w.latest) {e : SyncOp × (ℕ → Moment)}
    (hpending : w.NothingPending P J K e) :
    (w.step P J e).tab.Current P J K (w.step P J e).latest := by
  obtain ⟨op, inputs⟩ := e
  obtain ⟨outbox, hstores, -⟩ := h.stored
  unfold step
  cases op with
  | localWrite r text =>
    have hends : (localWriteTask P J r text).Ends (fun _ => True)
        (WriteEnd P J K r text outbox w.tab) w.tab := localWriteTask_ends hP hJ h.key hstores
    obtain ⟨res, s', hrun, hend⟩ :=
      (localWriteTask_free P J r text).run_ends hends fun n => trivial
    have hnone : res = .ok () → outbox.get r = none := by
      rintro rfl
      exact hpending r text rfl (congrArg Prod.fst hrun) outbox hstores
    dsimp only [SyncOp.task]
    rw [hrun]
    exact h.write hP hJ hstores hend hnone
  | attemptFlush =>
    have hends := attemptFlush_ends (V := fun _ => True) hP hJ h.key hstores
    obtain ⟨res, s', hrun, hdrains⟩ :=
      (SyncOp.task_free P J .attemptFlush).run_ends hends fun n => trivial
    dsimp only
    rw [hrun]
    exact h.flush hP hJ hstores hdrains

/-- **The newest write wins**, if no write reaches the server while an older one of the same
resource is queued. -/
theorem newestWins_of_nothing_pending (hP : P.aesGcm.Ideal) (hJ : J.Lawful)
    (hkey : w.tab.KeyIs K) (hstores : Stores P J K w.tab.stored outbox)
    (hlatest : ∀ r, w.latest r = none) {es : List (SyncOp × (ℕ → Moment))}
    (hpending : Along (step P J) w es (NothingPending P J K))
    (hvisit : Visits (step P J) w es w') : w'.NewestWins P J K := by
  have hbegin : w.tab.Current P J K w.latest := by
    refine ⟨hkey, outbox, hstores, fun r text h => ?_⟩
    rw [hlatest r] at h
    cases h
  have hcurrent : w'.tab.Current P J K w'.latest :=
    Visits.invariant (I := fun w => w.tab.Current P J K w.latest) hbegin hpending
      (fun _ _ _ hpending h => current_step hP hJ h hpending) hvisit
  exact hcurrent.newestWins hP hJ

/-- A write while the network is up, one while it is down, and a flush. -/
def upAndDown : List (SyncOp × (ℕ → Moment)) :=
  [(.localWrite .folders [1], fun _ => { symbolicMoment with put := .ok }),
    (.localWrite .folders [2], fun _ => symbolicMoment),
    (.attemptFlush, fun _ => { symbolicMoment with put := .ok })]

theorem upAndDown_nothingPending :
    Along (step symbolicPlatform symbolicOutbox) ⟨symbolicTab, fun _ => none⟩ upAndDown
      (NothingPending symbolicPlatform symbolicOutbox (.replicate 32 1)) := by
  refine along_cons ?_ (along_cons ?_ (along_cons ?_ (along_nil _)))
  · intro r text _ _ outbox hstores
    cases hstores
    rfl
  · intro r text _ hsent
    cases hsent
  · intro r text hop
    cases hop

theorem newestWins_of_nothing_pending_upAndDown :
    (Kit.run (step symbolicPlatform symbolicOutbox) ⟨symbolicTab, fun _ => none⟩
      upAndDown).NewestWins symbolicPlatform symbolicOutbox (.replicate 32 1) :=
  newestWins_of_nothing_pending symbolicPlatform_ideal.aesGcm symbolicOutbox_lawful (.inr rfl)
    .empty (fun _ => rfl) upAndDown_nothingPending (.last _ _ _)

/-! ## A stale write -/

section Lone

variable {entry : QueueEntry}

section

variable (hP : P.aesGcm.Ideal) (hJ : J.Lawful) (hkey : s.keys.localKeyV1 = some K)
    (hstores : Stores P J K s.stored [(r, entry)])
include hP hJ hkey hstores

theorem clearQueuedWrite_lone :
    (clearQueuedWrite P J r).Ends V (fun res s' => res = .ok () ∧ s' = { s with stored := none })
      s := by
  refine Through.ends (K := fun _ => True) ?_
  refine through_readOutbox hP hJ hstores trivial fun read _ hread => ?_
  cases hread hkey
  have hget : (Outbox.get [(r, entry)] r).isSome = true := by simp [Outbox.get]
  have hdelete : (Outbox.delete [(r, entry)] r).isEmpty = true := by simp [Outbox.delete]
  rw [if_pos hget, writeOutbox, if_pos hdelete]
  exact through_section.mpr fun _ _ => ⟨trivial, rfl, rfl⟩

theorem flushOutbox_lone (hflushing : s.flushing = false) (hV : ∀ i, V i → i.put = .ok) :
    (flushOutbox P J).Ends V
      (fun _ s' => s'.stored = none ∧ s'.put r = entry.encryptedValue :: s.put r) s := by
  have hget : Outbox.get [(r, entry)] r = some entry := by simp [Outbox.get]
  refine ends_bind.mpr (ends_section.mpr fun _ _ => ?_)
  simp only [hflushing, Bool.false_eq_true, if_false, Then]
  refine ends_finally.mpr (Through.ends (K := fun _ => True) ?_)
  refine through_decryptOutbox hP hJ hstores trivial fun read _ hread => ?_
  cases hread hkey
  simp only [map_cons, map_nil, flushEntries, hget]
  refine through_bind.mpr (through_section.mpr fun i hi => ⟨trivial, ?_⟩)
  simp only [hV i hi]
  have hclear := clearQueuedWrite_lone (V := V) (s := ({ s with flushing := true } :
    OutboxState).recordPut r entry.encryptedValue) hP hJ hkey hstores
  refine through_bind.mpr ((hclear.through fun _ => trivial).mono ?_)
  rintro _ s' ⟨rfl, rfl⟩
  exact fun _ _ _ => ⟨rfl, OutboxState.put_recordPut_self ..⟩

theorem attemptFlush_lone (hflushing : s.flushing = false) (hV : ∀ i, V i → i.put = .ok) :
    (attemptFlush P J).Ends V
      (fun _ s' => s'.stored = none ∧ s'.put r = entry.encryptedValue :: s.put r) s := by
  unfold attemptFlush getQueueSize
  rw [bind_assoc]
  refine Through.ends (K := fun _ => True) ?_
  refine through_readOutbox hP hJ hstores trivial fun read _ hread => ?_
  cases hread hkey
  have hflush := flushOutbox_lone hP hJ hkey hstores hflushing hV
  change (flushOutbox P J >>= fun _ => pure ()).Through ..
  refine through_bind.mpr ((hflush.through fun _ => trivial).mono fun res s' h => ?_)
  cases res <;> exact h

end

theorem Synced.step_flush_lone {inputs : ℕ → Moment} (hP : P.aesGcm.Ideal) (hJ : J.Lawful)
    (hkey : w.tab.keys.localKeyV1 = some K) (hstores : Stores P J K w.tab.stored [(r, entry)])
    (hflushing : w.tab.flushing = false) (hinputs : ∀ n, (inputs n).put = .ok) :
    (w.step P J (.attemptFlush, inputs)).tab.stored = none ∧
      (w.step P J (.attemptFlush, inputs)).tab.put r = entry.encryptedValue :: w.tab.put r := by
  have hends := attemptFlush_lone (V := fun i => i.put = .ok) hP hJ hkey hstores hflushing
    fun _ hi => hi
  obtain ⟨res, s', hrun, hend⟩ := (SyncOp.task_free P J .attemptFlush).run_ends hends hinputs
  unfold step
  dsimp only
  rw [hrun]
  exact hend

end Lone

/-- The network is down for a write of the folders, and is back for the next one. -/
def staleEntry : Synced :=
  Kit.run (step symbolicPlatform symbolicOutbox) ⟨symbolicTab, fun _ => none⟩
    [(.localWrite .folders [1], fun _ => symbolicMoment),
      (.localWrite .folders [2], fun _ => { symbolicMoment with put := .ok })]

theorem staleEntry_stores : Stores symbolicPlatform symbolicOutbox (.replicate 32 1)
    staleEntry.tab.stored [(.folders, ⟨.base64url
      (sealPayload symbolicPlatform (.replicate 32 1) (.replicate 12 0) [] [1]), 0⟩)] :=
  .sealed (.replicate 12 0) _

/-- **The older write wins**: a flush sends it over the newer one. -/
theorem stale_write_sent :
    ¬ (staleEntry.step symbolicPlatform symbolicOutbox
      (.attemptFlush, fun _ => { symbolicMoment with put := .ok })).NewestWins symbolicPlatform
        symbolicOutbox (.replicate 32 1) := by
  intro h
  have hlatest : staleEntry.latest .folders = some [2] := rfl
  have hinputs : ∀ n : ℕ, ((fun _ => { symbolicMoment with put := .ok }) n : Moment).put = .ok :=
    fun _ => rfl
  obtain ⟨hstored, hput⟩ := step_flush_lone symbolicPlatform_ideal.aesGcm
    symbolicOutbox_lawful rfl staleEntry_stores rfl hinputs
  obtain ⟨iv, hhead⟩ := h .folders [2] [] hlatest (by rw [hstored]; exact .empty) rfl
  rw [hput, head?_cons] at hhead
  have hsealed := sealPayload_inj symbolicPlatform_ideal.aesGcm
    (Token.base64url.inj (Option.some.inj hhead))
  cases hsealed

end PwdNow.Client
