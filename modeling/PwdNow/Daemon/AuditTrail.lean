import PwdNow.Daemon.Symbolic
import PwdNow.Kit.Consecutive

/-!
# Daemon — what the audit chain gives evidence of

`daemon/src/vault/audit.rs`. The hash of a row is taken over timestamp, action, resource and the
hash before it with nothing in between, and nothing for a missing resource: rows that differ in just
that have one hash. Rows missing at the end are not noticed.
-/

namespace PwdNow.Daemon

open Kit List

/-! ## The bytes under the MAC -/

variable {row row' : AuditRow} {macKey : Block 32} {prev : Bytes} {lastId : Option Int}
  {rows : List AuditRow}

theorem div_eq_of_digit {a b : Nat} (k : Nat) (h : a / (k * 256) = b / (k * 256))
    (hdigit : UInt8.ofNat (a / k) = UInt8.ofNat (b / k)) : a / k = b / k := by
  have hmod : a / k % 256 = b / k % 256 := by
    have := congrArg UInt8.toNat hdigit
    simpa using this
  rw [← Nat.div_div_eq_div_mul, ← Nat.div_div_eq_div_mul] at h
  omega

theorem toBeBytes_injective : Function.Injective toBeBytes := by
  intro a b h
  simp only [toBeBytes, range, range.loop, map_cons, map_nil,
    cons.injEq, Nat.shiftRight_eq_div_pow] at h
  obtain ⟨h0, h1, h2, h3, h4, h5, h6, h7, -⟩ := h
  -- digit by digit, from the highest
  have hall : a.toBitVec.toNat / 2 ^ 64 = b.toBitVec.toNat / 2 ^ 64 := by
    rw [Nat.div_eq_of_lt a.toBitVec.isLt, Nat.div_eq_of_lt b.toBitVec.isLt]
  have hall := div_eq_of_digit (2 ^ 56) hall h0
  have hall := div_eq_of_digit (2 ^ 48) hall h1
  have hall := div_eq_of_digit (2 ^ 40) hall h2
  have hall := div_eq_of_digit (2 ^ 32) hall h3
  have hall := div_eq_of_digit (2 ^ 24) hall h4
  have hall := div_eq_of_digit (2 ^ 16) hall h5
  have hall := div_eq_of_digit (2 ^ 8) hall h6
  have hall := div_eq_of_digit (2 ^ 0) hall h7
  rw [Nat.pow_zero, Nat.div_one, Nat.div_one] at hall
  exact Int64.toBitVec_inj.mp (BitVec.eq_of_toNat_eq hall)

theorem length_toBeBytes (ts : Int64) : (toBeBytes ts).length = 8 := by
  simp [toBeBytes]

variable {P : Primitives} {kept : List AuditRow}

/-- What a row records. -/
def AuditRow.content (row : AuditRow) : Int64 × String × Option String :=
  (row.ts, row.action, row.resource)

/-- What the MAC does not see of it: where the action ends, and whether there is a resource. -/
def AuditRow.shape (row : AuditRow) : Nat × Bool :=
  ((utf8 row.action).length, row.resource.isSome)

theorem AuditRow.shape_of_content (h : row.content = row'.content) : row.shape = row'.shape := by
  simp only [content, Prod.mk.injEq] at h
  obtain ⟨-, haction, hresource⟩ := h
  rw [shape, shape, haction, hresource]

section

variable (hmac : ∀ key, Function.Injective (P.blake3 key))
include hmac

theorem rowHash_eq_iff :
    computeRowHash P macKey row.ts row.action row.resource prev =
        computeRowHash P macKey row'.ts row'.action row'.resource prev ↔
      row.ts = row'.ts ∧ utf8 row.action ++ (row.resource.map utf8).getD [] =
        utf8 row'.action ++ (row'.resource.map utf8).getD [] := by
  constructor
  · intro h
    have hmsg := hmac macKey h
    simp only [append_assoc] at hmsg
    -- the timestamp has a fixed width; behind it nothing separates the two texts
    have hlen : (toBeBytes row.ts).length = (toBeBytes row'.ts).length := by
      rw [length_toBeBytes, length_toBeBytes]
    obtain ⟨hts, hrest⟩ := append_inj hmsg hlen
    simp only [← append_assoc] at hrest
    exact ⟨toBeBytes_injective hts, append_cancel_right hrest⟩
  · rintro ⟨hts, hrest⟩
    have hmsg : toBeBytes row.ts ++ utf8 row.action ++ (row.resource.map utf8).getD [] =
        toBeBytes row'.ts ++ utf8 row'.action ++ (row'.resource.map utf8).getD [] := by
      rw [append_assoc, append_assoc, hts, hrest]
    rw [computeRowHash, computeRowHash, hmsg]

theorem content_eq_of_rowHash (hhash : computeRowHash P macKey row.ts row.action row.resource prev =
      computeRowHash P macKey row'.ts row'.action row'.resource prev)
    (hshape : row.shape = row'.shape) : row.content = row'.content := by
  obtain ⟨hts, htexts⟩ := (rowHash_eq_iff hmac).mp hhash
  simp only [AuditRow.shape, Prod.mk.injEq] at hshape
  obtain ⟨hlen, hsome⟩ := hshape
  obtain ⟨haction, hresource⟩ := append_inj htexts hlen
  -- an empty resource and none hash alike, which the shape tells apart
  have hresource : row.resource = row'.resource := by
    cases hr : row.resource with
    | none =>
      cases hr' : row'.resource with
      | none => rfl
      | some text => simp [hr, hr'] at hsome
    | some text =>
      cases hr' : row'.resource with
      | none => simp [hr, hr'] at hsome
      | some text' =>
        rw [hr, hr'] at hresource
        exact congrArg some (utf8_injective hresource)
  rw [AuditRow.content, AuditRow.content, hts, utf8_injective haction, hresource]

/-- Two chains of the same hashes, from the same hash on; hash and id are the accumulators. -/
theorem content_eq_iff_shape_eq {lastId' : Option Int} {rows' : List AuditRow}
    (hhashes : rows.map (·.rowHash) = rows'.map (·.rowHash))
    (h : verifyRows P macKey prev lastId rows = .ok ())
    (h' : verifyRows P macKey prev lastId' rows' = .ok ()) :
    rows.map (·.content) = rows'.map (·.content) ↔ rows.map (·.shape) = rows'.map (·.shape) := by
  induction rows generalizing prev lastId lastId' rows' with
  | nil =>
    have hnil : rows' = [] := map_eq_nil_iff.mp hhashes.symm
    rw [hnil]
    exact iff_of_true rfl rfl
  | cons row rows ih =>
    cases rows' with
    | nil => simp at hhashes
    | cons row' rows' =>
      simp only [map_cons, cons.injEq] at hhashes ⊢
      obtain ⟨hhash, hhashes⟩ := hhashes
      obtain ⟨-, -, hrow, hrest⟩ := verifyRows_cons.mp h
      obtain ⟨-, -, hrow', hrest'⟩ := verifyRows_cons.mp h'
      -- both tails go on from the same hash
      rw [← hhash] at hrest'
      have htail := ih hhashes hrest hrest'
      have hsame : computeRowHash P macKey row.ts row.action row.resource prev =
          computeRowHash P macKey row'.ts row'.action row'.resource prev := by
        rw [← hrow, ← hrow', hhash]
      constructor
      · rintro ⟨hcontent, hcontents⟩
        exact ⟨AuditRow.shape_of_content hcontent, htail.mp hcontents⟩
      · rintro ⟨hshape, hshapes⟩
        exact ⟨content_eq_of_rowHash hmac hsame hshape, htail.mpr hshapes⟩

end

/-! ## Logs as `audit::log` writes them -/

/-- One call of `audit::log` and the time it is made. -/
structure LogEntry where
  ts : Int64
  action : String
  resource : Option String

/-- The calls of `audit::log` on a new database, under one VMK. -/
def logAll (P : Primitives) (vmk : Block 32) (entries : List LogEntry) : Database :=
  run (fun db entry => auditLog P db vmk entry.ts entry.action entry.resource) .empty entries

/-- The rows that are left. -/
def Database.keeping (db : Database) (kept : List AuditRow) : Database :=
  { db with auditLog := kept }

theorem verifyChain_logAll (vmk : Block 32) (entries : List LogEntry) :
    verifyChain P (logAll P vmk entries) vmk = .ok () := by
  induction entries using reverseRecOn with
  | nil => rfl
  | append_singleton entries entry ih =>
    rw [logAll, run_concat]
    exact verifyChain_log ih entry.ts entry.action entry.resource

/-- **What the chain says about contents.** Two logs of the same hashes, both accepted under one
key, record the same contents exactly when row by row the actions have the same length and a
resource is missing in both or in neither. -/
theorem verifyChain_content_iff (hmac : ∀ key, Function.Injective (P.blake3 key))
    {vmk : Block 32} {db db' : Database}
    (hhashes : db.auditLog.map (·.rowHash) = db'.auditLog.map (·.rowHash))
    (h : verifyChain P db vmk = .ok ()) (h' : verifyChain P db' vmk = .ok ()) :
    db.auditLog.map (·.content) = db'.auditLog.map (·.content) ↔
      db.auditLog.map (·.shape) = db'.auditLog.map (·.shape) :=
  content_eq_iff_shape_eq hmac hhashes h h'

/-! ### Two logs of the same hashes -/

theorem symbolic_blake3_injective (key : Block 32) : Function.Injective (symbolic.blake3 key) := by
  intro msg msg' h
  exact append_cancel_left h

/-- A row of `CRED_ADD` for `x` and a row without a resource, as they are logged; and with three
bytes moved to the resource, and with an empty one. -/
def loggedEntries : List LogEntry := [⟨7, "CRED_ADD", some "x"⟩, ⟨8, "ASSET_UPDATE", none⟩]

def editedEntries : List LogEntry := [⟨7, "CRED_", some "ADDx"⟩, ⟨8, "ASSET_UPDATE", some ""⟩]

theorem logAll_edited (vmk : Block 32) :
    (logAll symbolic vmk loggedEntries).auditLog.map
        (fun row => (row.id, row.prevHash, row.rowHash)) =
      (logAll symbolic vmk editedEntries).auditLog.map
        fun row => (row.id, row.prevHash, row.rowHash) := rfl

theorem verifyChain_content_iff_edited :
    (logAll symbolic (.replicate 32 1) loggedEntries).auditLog.map (·.content) =
        (logAll symbolic (.replicate 32 1) editedEntries).auditLog.map (·.content) ↔
      (logAll symbolic (.replicate 32 1) loggedEntries).auditLog.map (·.shape) =
        (logAll symbolic (.replicate 32 1) editedEntries).auditLog.map (·.shape) := by
  have hhashes := congrArg (map fun row : Int × Bytes × Bytes => row.2.2)
    (logAll_edited (.replicate 32 1))
  simp only [map_map, Function.comp_def] at hhashes
  exact verifyChain_content_iff symbolic_blake3_injective hhashes (verifyChain_logAll _ _)
    (verifyChain_logAll _ _)

/-- Bytes moved from the action to the resource, and a missing resource made an empty one, leave
ids and hashes as they were and are accepted. -/
theorem edited_accepted :
    ∃ db db' : Database, (∀ key, Function.Injective (symbolic.blake3 key)) ∧
      db.auditLog.map (fun row => (row.id, row.prevHash, row.rowHash)) =
        db'.auditLog.map (fun row => (row.id, row.prevHash, row.rowHash)) ∧
      verifyChain symbolic db (.replicate 32 1) = .ok () ∧
      verifyChain symbolic db' (.replicate 32 1) = .ok () ∧
      db.auditLog.map (·.content) = [(7, "CRED_ADD", some "x"), (8, "ASSET_UPDATE", none)] ∧
      db'.auditLog.map (·.content) = [(7, "CRED_", some "ADDx"), (8, "ASSET_UPDATE", some "")] :=
  ⟨logAll symbolic (.replicate 32 1) loggedEntries, logAll symbolic (.replicate 32 1) editedEntries,
    symbolic_blake3_injective, logAll_edited _, verifyChain_logAll _ _, verifyChain_logAll _ _, rfl,
    rfl⟩

/-! ## Rows left out -/

section

variable (h : verifyRows P macKey prev lastId rows = .ok ())
include h

theorem consecutive_of_verifyRows {n : Int} (hfirst : ∀ row ∈ rows.head?, row.id = n) :
    Consecutive AuditRow.id n rows := by
  induction rows generalizing prev lastId n with
  | nil => trivial
  | cons row rows ih =>
    obtain ⟨-, -, -, hrest⟩ := verifyRows_cons.mp h
    have hid : row.id = n := hfirst row rfl
    refine ⟨hid, ih hrest ?_⟩
    intro next hnext
    cases rows with
    | nil => cases hnext
    | cons next' rows =>
      cases hnext
      have hstep := (verifyRows_cons.mp hrest).1 row.id rfl
      omega

theorem exists_consecutive : ∃ n, Consecutive AuditRow.id n rows := by
  cases rows with
  | nil => exact ⟨0, trivial⟩
  | cons row rows =>
    refine ⟨row.id, consecutive_of_verifyRows h ?_⟩
    intro first hfirst
    cases hfirst
    rfl

theorem verifyRows_none : verifyRows P macKey prev none rows = .ok () := by
  cases rows with
  | nil => rfl
  | cons row rows =>
    obtain ⟨-, hprev, hhash, hrest⟩ := verifyRows_cons.mp h
    refine verifyRows_cons.mpr ⟨?_, hprev, hhash, hrest⟩
    intro prevId hmem
    cases hmem

end

/-- The kept rows are one stretch of the log, which starts it or follows a row whose hash is 32 zero
bytes. -/
def Seamless (log kept : List AuditRow) : Prop :=
  ∃ before after, log = before ++ kept ++ after ∧ lastRowHash before = zeroPrevHash

theorem verifyRows_stretch {before : List AuditRow} (after : List AuditRow)
    (h : verifyRows P macKey zeroPrevHash none (before ++ kept ++ after) = .ok ()) :
    verifyRows P macKey (lastRowHash before) none kept = .ok () := by
  have hlast : (before.getLast?.map (·.rowHash)).getD zeroPrevHash = lastRowHash before := by
    rw [lastRowHash]
    cases before.getLast? <;> rfl
  rw [verifyRows_append, verifyRows_append, hlast] at h
  exact verifyRows_none h.1.2

theorem verifyChain_sublist_iff {db : Database} {vmk : Block 32} (h : verifyChain P db vmk = .ok ())
    (hkept : kept.Sublist db.auditLog) :
    verifyChain P (db.keeping kept) vmk = .ok () ↔ Seamless db.auditLog kept := by
  constructor
  · intro hok
    cases kept with
    | nil => exact ⟨[], db.auditLog, rfl, rfl⟩
    | cons row rest =>
      -- consecutive ids on both sides leave no gap inside
      obtain ⟨n, hlog⟩ := exists_consecutive h
      obtain ⟨m, hids⟩ := exists_consecutive hok
      obtain ⟨before, after, hsplit⟩ := Consecutive.infix_of_sublist hlog hids hkept
      refine ⟨before, after, hsplit.symm, ?_⟩
      -- the stored `prev_hash` of the first row is what it was logged with
      have hfirst : row.prevHash = zeroPrevHash := (verifyRows_cons.mp hok).2.1
      have hsplit : before ++ (row :: rest) ++ after = db.auditLog := hsplit
      have hstretch : verifyRows P (getMacKey P vmk) (lastRowHash before) none (row :: rest) =
          .ok () := by
        apply verifyRows_stretch after
        rw [hsplit]
        exact h
      rw [← (verifyRows_cons.mp hstretch).2.1, hfirst]
  · rintro ⟨before, after, hsplit, hzero⟩
    have hstretch : verifyRows P (getMacKey P vmk) (lastRowHash before) none kept = .ok () := by
      apply verifyRows_stretch after
      rw [← hsplit]
      exact h
    rw [hzero] at hstretch
    exact hstretch

/-- **What the chain says about missing rows.** What is left of a log is refused exactly when it is
not a stretch of it that starts from the zero hash. -/
theorem verifyChain_refuses_iff {vmk : Block 32} {entries : List LogEntry} {kept : List AuditRow}
    (hkept : kept.Sublist (logAll P vmk entries).auditLog) :
    (∃ e, verifyChain P ((logAll P vmk entries).keeping kept) vmk = .error e) ↔
      ¬ Seamless (logAll P vmk entries).auditLog kept := by
  rw [← verifyChain_sublist_iff (verifyChain_logAll vmk entries) hkept]
  cases verifyChain P ((logAll P vmk entries).keeping kept) vmk <;> simp

/-- Of two rows the first goes. -/
theorem verifyChain_refuses_iff_tail :
    (∃ e, verifyChain symbolic ((logAll symbolic (.replicate 32 1) loggedEntries).keeping
        (logAll symbolic (.replicate 32 1) loggedEntries).auditLog.tail) (.replicate 32 1) =
        .error e) ↔
      ¬ Seamless (logAll symbolic (.replicate 32 1) loggedEntries).auditLog
        (logAll symbolic (.replicate 32 1) loggedEntries).auditLog.tail :=
  verifyChain_refuses_iff (tail_sublist _)

/-- The last row goes unnoticed. -/
theorem truncated_accepted :
    ∃ (entries : List LogEntry) (kept : List AuditRow),
      (∀ key, Function.Injective (symbolic.blake3 key)) ∧
      kept.Sublist (logAll symbolic (.replicate 32 1) entries).auditLog ∧
      kept ≠ (logAll symbolic (.replicate 32 1) entries).auditLog ∧
      verifyChain symbolic ((logAll symbolic (.replicate 32 1) entries).keeping kept)
        (.replicate 32 1) = .ok () := by
  refine ⟨loggedEntries, (logAll symbolic (.replicate 32 1) [⟨7, "CRED_ADD", some "x"⟩]).auditLog,
    symbolic_blake3_injective, ?_, ?_, ?_⟩
  · exact sublist_append_left _ _
  · intro h
    have hlen := congrArg length h
    cases hlen
  · exact verifyChain_logAll (.replicate 32 1) [⟨7, "CRED_ADD", some "x"⟩]

end PwdNow.Daemon
