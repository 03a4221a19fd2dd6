import PwdNow.Client.Storage
import PwdNow.Kit.Serial

/-!
# Client — the offline outbox

`web/src/utils/offlineQueue.ts`. A write that the network did not take is kept in `localStorage`, in
one sealed value for all resources, and sent when the network is back. Every operation reads and
decrypts the whole, changes it, and encrypts and stores the whole, with an await between any two of
these; an `OutboxTask` is suspended at the awaits of the source.

Recorded for the statements alone: every value that the server has been sent (`put`), and the calls
of `queueWrite` in their order (`calls`).
-/

namespace PwdNow.Client

open Kit Async

structure QueueEntry where
  encryptedValue : Token
  queuedAt : Nat

/-- `Partial<Record<QueueResource, QueueEntry>>`, in the order of insertion. -/
abbrev Outbox := List (Resource × QueueEntry)

namespace Outbox

def get (outbox : Outbox) (r : Resource) : Option QueueEntry := (outbox.find? (·.1 = r)).map (·.2)

/-- `outbox[r] = entry`. -/
def set (r : Resource) (entry : QueueEntry) : Outbox → Outbox
  | [] => [(r, entry)]
  | x :: rest => if x.1 = r then (r, entry) :: rest else x :: set r entry rest

/-- `delete outbox[r]`. -/
def delete (outbox : Outbox) (r : Resource) : Outbox := outbox.filter (·.1 ≠ r)

variable {outbox : Outbox} {r r' : Resource} {entry : QueueEntry}

theorem get_set_self : get (set r entry outbox) r = some entry := by
  induction outbox with
  | nil => simp [set, get]
  | cons x rest ih =>
    unfold set
    split
    · simp [get]
    · rename_i hx
      simpa [get, hx] using ih

theorem get_set_of_ne (h : r' ≠ r) : get (set r entry outbox) r' = get outbox r' := by
  induction outbox with
  | nil => simp [set, get, h.symm]
  | cons x rest ih =>
    unfold set
    split
    · rename_i hx
      simp [get, hx, h.symm]
    · by_cases hx' : x.1 = r'
      · simp [get, hx']
      · simpa [get, hx'] using ih

theorem get_delete_self : get (delete outbox r) r = none := by
  simp [get, delete]

theorem get_delete_of_ne (h : r' ≠ r) : get (delete outbox r) r' = get outbox r' := by
  unfold get delete
  rw [List.find?_filter]
  congr 2
  funext x
  by_cases hx : x.1 = r'
  · simp [hx, h]
  · simp [hx]

end Outbox

/-- What the tasks of one browser tab share. -/
structure OutboxState where
  keys : KeyStore
  /-- `localStorage['vault_outbox']` -/
  stored : Option Token
  flushing : Bool
  /-- What the server has been sent for a resource, the last first. -/
  put : Resource → List Token
  /-- The calls of `queueWrite`: the task, the resource and the value. -/
  calls : List (ℕ × Resource × Token)

/-- What a section gets from outside: `Date.now()`, the nonce, and the fate of a `PUT`. -/
structure Moment where
  now : Nat
  iv : Block 12
  put : PutAnswer

abbrev OutboxTask := Async Unit Moment OutboxState ClientError

/-! ## The operations -/

variable {Rest : Type} (P : Platform Rest) (J : Codec Outbox) {value : Token}

/-- `readOutbox`, after `getItem`: what cannot be decrypted or parsed reads as empty. -/
def decryptOutbox : Option Token → OutboxTask Outbox
  | none => return []
  | some raw => section_ () fun _ => .gets fun s =>
      ((decryptFromServer P s.keys raw).bind J.parse).getD []

def readOutbox : OutboxTask Outbox := do
  let raw ← section_ () fun _ => .gets (·.stored)
  decryptOutbox P J raw

/-- An empty outbox is removed at once. Without the key nothing is stored. -/
def writeOutbox (outbox : Outbox) : OutboxTask Unit :=
  if outbox.isEmpty then section_ () fun _ => .modify fun s => { s with stored := none }
  else do
    let encrypted ← section_ () fun i => .gets fun s =>
      encryptForServer P s.keys i.iv (J.stringify outbox)
    section_ () fun _ => .modify fun s =>
      match encrypted with
      | some token => { s with stored := some token }
      | none => s

/-- `queueWrite(r, value)`, as the task `me`. -/
def queueWrite (me : ℕ) (r : Resource) (value : Token) : OutboxTask Unit := do
  let raw ← section_ () fun _ s => (.ok s.stored, { s with calls := s.calls ++ [(me, r, value)] })
  let outbox ← decryptOutbox P J raw
  let now ← section_ () fun i => .lift (.ok i.now)
  writeOutbox P J (Outbox.set r ⟨value, now⟩ outbox)

def clearQueuedWrite (r : Resource) : OutboxTask Unit := do
  let outbox ← readOutbox P J
  if (outbox.get r).isSome then writeOutbox P J (outbox.delete r)

def OutboxState.recordPut (s : OutboxState) (r : Resource) (value : Token) : OutboxState :=
  { s with put := Function.update s.put r (value :: s.put r) }

@[simp] theorem OutboxState.put_recordPut_self (s : OutboxState) (r : Resource) :
    (s.recordPut r value).put r = value :: s.put r :=
  Function.update_self ..

theorem OutboxState.put_recordPut_of_ne {s : OutboxState} {r r' : Resource} (h : r' ≠ r) :
    (s.recordPut r value).put r' = s.put r' :=
  Function.update_of_ne h ..

/-- `apiFetch(…, { method: 'PUT' })`. -/
def apiPut (r : Resource) (value : Token) : OutboxTask PutAnswer :=
  section_ () fun i s => (.ok i.put, match i.put with
    | .ok => s.recordPut r value
    | .status _ => s
    | .network delivered => if delivered then s.recordPut r value else s)

structure FlushResult where
  flushed : List Resource
  authExpired : Bool

/-- The loop of `flushOutbox`, from the resources that are left. -/
def flushEntries (outbox : Outbox) (flushed : List Resource) :
    List Resource → OutboxTask FlushResult
  | [] => return ⟨flushed, false⟩
  | r :: rest =>
    match outbox.get r with
    | none => flushEntries outbox flushed rest
    | some entry => do
      match ← apiPut r entry.encryptedValue with
      | .ok =>
        clearQueuedWrite P J r
        flushEntries outbox (flushed ++ [r]) rest
      | .status code => return ⟨flushed, code = 401⟩
      | .network _ => return ⟨flushed, false⟩

def flushOutbox : OutboxTask FlushResult := do
  let start ← section_ () fun _ s =>
    if s.flushing then (.ok none, s) else (.ok (some s.stored), { s with flushing := true })
  match start with
  | none => return ⟨[], false⟩
  | some raw =>
    finally_ (do
      let outbox ← decryptOutbox P J raw
      flushEntries P J outbox [] (outbox.map (·.1)))
      (section_ () fun _ => .modify fun s => { s with flushing := false })

/-! ## What is stored -/

/-- `stored` is the outbox, sealed under `K`. -/
inductive Stores (K : Block 32) : Option Token → Outbox → Prop
  | empty : Stores K none []
  | sealed (iv : Block 12) (outbox : Outbox) :
    Stores K (some (.base64url (sealPayload P K iv [] (J.stringify outbox)))) outbox

variable {P J} {K : Block 32} {stored : Option Token} {outbox : Outbox}

theorem openPayload_of_sealed (hP : P.aesGcm.Ideal) {key : Block 32} {iv : Block 12}
    {aad aad' text text' : Bytes}
    (h : openPayload P key aad (sealPayload P K iv aad' text) = some text') : text' = text := by
  obtain ⟨iv', hsealed⟩ := openPayload_eq_some hP h
  exact (sealPayload_inj hP hsealed).symm

theorem Stores.unique (hP : P.aesGcm.Ideal) (hJ : J.Lawful) {outbox' : Outbox}
    (h : Stores P J K stored outbox) (h' : Stores P J K stored outbox') : outbox = outbox' := by
  cases h with
  | empty =>
    cases h'
    rfl
  | sealed iv =>
    generalize htoken :
      (some (Token.base64url (sealPayload P K iv [] (J.stringify outbox)))) = token at h'
    cases h' with
    | empty => cases htoken
    | sealed iv' =>
      simp only [Option.some.injEq, Token.base64url.injEq] at htoken
      exact hJ.stringify_inj (sealPayload_inj hP htoken)

theorem decryptFromServer_sealed (hP : P.aesGcm.Ideal) (keys : KeyStore) (iv : Block 12)
    (text : Bytes) : (∀ text', decryptFromServer P keys (.base64url (sealPayload P K iv [] text)) =
        some text' → text' = text) ∧
      (keys.localKeyV1 = some K →
        decryptFromServer P keys (.base64url (sealPayload P K iv [] text)) = some text) := by
  refine ⟨fun text' h => ?_, fun hkey => ?_⟩
  · obtain ⟨candidate, -, hcandidate⟩ := List.exists_of_findSome?_eq_some h
    obtain ⟨key, -, hopen⟩ := Option.bind_eq_some_iff.mp hcandidate
    exact openPayload_of_sealed hP hopen
  · simp [decryptFromServer, hkey, openPayload_sealPayload hP]

/-! ## Each operation alone -/

variable {α : Type} {k : Outbox → OutboxTask α} {Q : Except ClientError Unit → OutboxState → Prop}

variable {V : Moment → Prop} {D : OutboxState → Prop} {s s' : OutboxState} {r : Resource}

theorem through_decryptOutbox (hP : P.aesGcm.Ideal) (hJ : J.Lawful)
    {Q : Except ClientError α → OutboxState → Prop} (h : Stores P J K stored outbox) (hD : D s)
    (hk : ∀ read, read = outbox ∨ read = [] →
      (s.keys.localKeyV1 = some K → read = outbox) → (k read).Through V D Q s) :
    (decryptOutbox P J stored >>= k).Through V D Q s := by
  cases h with
  | empty => exact hk [] (.inr rfl) fun _ => rfl
  | sealed iv =>
    refine through_bind.mpr (through_section.mpr fun i _ => ⟨hD, ?_⟩)
    obtain ⟨hsome, hkey⟩ := decryptFromServer_sealed (K := K) hP s.keys iv (J.stringify outbox)
    dsimp only [Fallible.gets_run]
    refine hk _ ?_ fun h => ?_
    · -- another key does not open it, so there is nothing in between
      cases hread : decryptFromServer P s.keys
          (.base64url (sealPayload P K iv [] (J.stringify outbox))) with
      | none => exact .inr rfl
      | some text =>
        left
        rw [hsome text hread, Option.bind_some, hJ.parse_stringify, Option.getD_some]
    · rw [hkey h, Option.bind_some, hJ.parse_stringify, Option.getD_some]

theorem through_readOutbox (hP : P.aesGcm.Ideal) (hJ : J.Lawful)
    {Q : Except ClientError α → OutboxState → Prop} (h : Stores P J K s.stored outbox) (hD : D s)
    (hk : ∀ read, read = outbox ∨ read = [] →
      (s.keys.localKeyV1 = some K → read = outbox) → (k read).Through V D Q s) :
    (readOutbox P J >>= k).Through V D Q s := by
  unfold readOutbox
  rw [bind_assoc]
  refine through_bind.mpr (through_section.mpr fun _ _ => ⟨hD, ?_⟩)
  exact through_decryptOutbox hP hJ h hD hk

/-- The tab has the key of the user, or none. -/
def OutboxState.KeyIs (K : Block 32) (s : OutboxState) : Prop :=
  s.keys.localKeyV1 = none ∨ s.keys.localKeyV1 = some K

theorem OutboxState.KeyIs.congr (h : s.KeyIs K) (hkeys : s'.keys = s.keys) : s'.KeyIs K := by
  unfold KeyIs
  rwa [hkeys]

theorem through_writeOutbox (hkey : s.KeyIs K) (hD : D s)
    (hskip : s.keys.localKeyV1 = none → Q (.ok ()) s) (hwrite : ∀ token, Stores P J K token outbox →
      D { s with stored := token } ∧ Q (.ok ()) { s with stored := token }) :
    (writeOutbox P J outbox).Through V D Q s := by
  unfold writeOutbox
  split
  · rename_i hempty
    rw [List.isEmpty_iff] at hempty
    subst hempty
    exact through_section.mpr fun _ _ => hwrite none .empty
  · refine through_bind.mpr (through_section.mpr fun i _ => ⟨hD, ?_⟩)
    rcases hkey with hnone | hsome
    · simp only [Fallible.gets_run, encryptForServer, hnone, Option.map_none]
      exact through_section.mpr fun _ _ => ⟨hD, hskip hnone⟩
    · simp only [Fallible.gets_run, encryptForServer, hsome, Option.map_some]
      exact through_section.mpr fun _ _ => hwrite _ (.sealed i.iv outbox)

theorem through_clearQueuedWrite (hP : P.aesGcm.Ideal) (hJ : J.Lawful)
    (h : Stores P J K s.stored outbox) (hkey : s.KeyIs K) (hD : D s) (hsame : Q (.ok ()) s)
    (hwrite : ∀ token, Stores P J K token (outbox.delete r) →
      D { s with stored := token } ∧ Q (.ok ()) { s with stored := token }) :
    (clearQueuedWrite P J r).Through V D Q s := by
  refine through_readOutbox hP hJ h hD fun read hread _ => ?_
  rcases hread with rfl | rfl
  · split
    · exact through_writeOutbox hkey hD (fun _ => hsame) hwrite
    · exact hsame
  · exact hsame

/-- A queued write that is under way: the call is noted, and the rest is as it was. -/
def OutboxState.noted (s : OutboxState) (me : ℕ) (r : Resource) (value : Token) : OutboxState :=
  { s with calls := s.calls ++ [(me, r, value)] }

theorem queueWrite_through (hP : P.aesGcm.Ideal) (hJ : J.Lawful) {me : ℕ}
    (h : Stores P J K s.stored outbox) (hkey : s.keys.localKeyV1 = some K)
    (hD : D (s.noted me r value))
    (hwrite : ∀ now token, Stores P J K token (Outbox.set r ⟨value, now⟩ outbox) →
      D { s.noted me r value with stored := token } ∧
        Q (.ok ()) { s.noted me r value with stored := token }) :
    (queueWrite P J me r value).Through V D Q s := by
  refine through_bind.mpr (through_section.mpr fun _ _ => ⟨hD, ?_⟩)
  refine through_decryptOutbox hP hJ h hD fun read _ hread => ?_
  cases hread hkey
  refine through_bind.mpr (through_section.mpr fun i _ => ⟨hD, ?_⟩)
  refine through_writeOutbox (.inr hkey) hD (fun hnone => ?_) (hwrite i.now)
  have : s.keys.localKeyV1 = none := hnone
  rw [hkey] at this
  cases this

/-! ## Flushing -/

/-- What a flush that began with `outbox` has done about one resource. -/
inductive Drained (outbox outbox' : Outbox) (s s' : OutboxState) (r : Resource) : Prop
  | kept (hget : outbox'.get r = outbox.get r) (hput : s'.put r = s.put r)
  | sent {entry : QueueEntry} {n : ℕ} (hget : outbox.get r = some entry)
    (hput : s'.put r = List.replicate (n + 1) entry.encryptedValue ++ s.put r)
    (hrest : outbox'.get r = some entry ∨ outbox'.get r = none)

variable (P J) in
/-- From `s`, where `outbox` was stored, a flush has led to `s'`. -/
structure Drains (K : Block 32) (outbox : Outbox) (s s' : OutboxState) : Prop where
  keys : s'.keys = s.keys
  calls : s'.calls = s.calls
  content : ∃ outbox', Stores P J K s'.stored outbox' ∧ ∀ r, Drained outbox outbox' s s' r

theorem Drains.refl (h : Stores P J K s.stored outbox) : Drains P J K outbox s s :=
  ⟨rfl, rfl, outbox, h, fun _ => .kept rfl rfl⟩

theorem Drains.of_flag (h : Drains P J K outbox s s') (flag : Bool) :
    Drains P J K outbox s { s' with flushing := flag } := by
  obtain ⟨hkeys, hcalls, outbox', hstores, hdrained⟩ := h
  refine ⟨hkeys, hcalls, outbox', hstores, fun r => ?_⟩
  cases hdrained r with
  | kept hget hput => exact .kept hget hput
  | sent hget hput hrest => exact .sent hget hput hrest

section Entry

variable {entry : QueueEntry} {outbox' : Outbox}

theorem Drained.recordPut (h : Drained outbox outbox' s s' r) (hentry : outbox.get r = some entry) :
    (∃ n, (s'.recordPut r entry.encryptedValue).put r =
        List.replicate (n + 1) entry.encryptedValue ++ s.put r) ∧
      (outbox'.get r = some entry ∨ outbox'.get r = none) := by
  rw [OutboxState.put_recordPut_self]
  cases h with
  | kept hget hput =>
    rw [hput]
    exact ⟨⟨0, rfl⟩, .inl (hget.trans hentry)⟩
  | @sent entry' n hget hput hrest =>
    rw [hentry] at hget
    cases hget
    rw [hput]
    exact ⟨⟨n + 1, rfl⟩, hrest⟩

theorem Drains.recordPut (h : Drains P J K outbox s s') (hentry : outbox.get r = some entry) :
    Drains P J K outbox s (s'.recordPut r entry.encryptedValue) := by
  obtain ⟨hkeys, hcalls, outbox', hstores, hdrained⟩ := h
  refine ⟨hkeys, hcalls, outbox', hstores, fun r' => ?_⟩
  by_cases hr : r' = r
  · subst hr
    obtain ⟨⟨n, hput⟩, hrest⟩ := (hdrained r').recordPut hentry
    exact .sent hentry hput hrest
  · have hput : (s'.recordPut r entry.encryptedValue).put r' = s'.put r' :=
      OutboxState.put_recordPut_of_ne hr
    cases hdrained r' with
    | kept hget hsame => exact .kept hget (hput.trans hsame)
    | sent hget hsent hrest => exact .sent hget (hput.trans hsent) hrest

theorem Drains.cleared {token : Option Token} (hkeys : s'.keys = s.keys)
    (hcalls : s'.calls = s.calls) (hdrained : ∀ r, Drained outbox outbox' s s' r)
    (hentry : outbox.get r = some entry) (hsent : ∃ n, s'.put r =
      List.replicate (n + 1) entry.encryptedValue ++ s.put r)
    (hstores : Stores P J K token (outbox'.delete r)) :
    Drains P J K outbox s { s' with stored := token } := by
  refine ⟨hkeys, hcalls, _, hstores, fun r' => ?_⟩
  by_cases hr : r' = r
  · subst hr
    obtain ⟨n, hput⟩ := hsent
    exact .sent hentry hput (.inr Outbox.get_delete_self)
  · cases hdrained r' with
    | kept hget hsame => exact .kept ((Outbox.get_delete_of_ne hr).trans hget) hsame
    | sent hget hput hrest =>
      refine .sent hget hput ?_
      rwa [Outbox.get_delete_of_ne hr]

end Entry

/-- The loop, by induction on the resources that are left. -/
theorem flushEntries_through (hP : P.aesGcm.Ideal) (hJ : J.Lawful) {read : Outbox}
    (hread : ∀ r entry, read.get r = some entry → outbox.get r = some entry) (hkey : s.KeyIs K)
    (rs flushed : List Resource) (h : Drains P J K outbox s s') :
    (flushEntries P J read flushed rs).Through V (Drains P J K outbox s)
      (fun _ => Drains P J K outbox s) s' := by
  induction rs generalizing s' flushed with
  | nil => exact h
  | cons r rest ih =>
    unfold flushEntries
    split
    · exact ih flushed h
    · rename_i entry hget
      have hentry := hread r entry hget
      have hsent := h.recordPut hentry
      refine through_bind.mpr (through_section.mpr fun i _ => ?_)
      dsimp only
      cases i.put with
      | status code => exact ⟨h, h⟩
      -- the loop stops here, but the server may have the entry all the same
      | network delivered => cases delivered <;> exact ⟨by assumption, by assumption⟩
      | ok =>
        refine ⟨hsent, through_bind.mpr ?_⟩
        obtain ⟨-, -, _, -, hbefore⟩ := h
        obtain ⟨hput, -⟩ := (hbefore r).recordPut hentry
        obtain ⟨outbox', hstores, hdrained⟩ := hsent.content
        refine through_clearQueuedWrite hP hJ hstores (hkey.congr hsent.keys) hsent
          (ih _ hsent) fun token htoken => ?_
        have hcleared := Drains.cleared hsent.keys hsent.calls hdrained hentry hput htoken
        exact ⟨hcleared, ih _ hcleared⟩

theorem flushOutbox_through (hP : P.aesGcm.Ideal) (hJ : J.Lawful)
    (h : Stores P J K s.stored outbox) (hkey : s.KeyIs K) :
    (flushOutbox P J).Through V (Drains P J K outbox s) (fun _ => Drains P J K outbox s) s := by
  refine through_bind.mpr (through_section.mpr fun _ _ => ?_)
  by_cases hflushing : s.flushing = true
  · simp only [hflushing, if_true]
    exact ⟨.refl h, .refl h⟩
  · simp only [hflushing, if_false, Bool.false_eq_true]
    have hbegin := (Drains.refl h).of_flag true
    refine ⟨hbegin, through_finally.mpr ?_⟩
    refine through_decryptOutbox hP hJ h hbegin fun read hread _ => ?_
    have hsub : ∀ r entry, read.get r = some entry → outbox.get r = some entry := by
      intro r entry hget
      rcases hread with rfl | rfl
      · exact hget
      · cases hget
    refine (flushEntries_through hP hJ hsub hkey _ _ hbegin).mono fun res s' hs' => ?_
    exact through_section.mpr fun _ _ => ⟨hs'.of_flag false, hs'.of_flag false⟩

end PwdNow.Client
