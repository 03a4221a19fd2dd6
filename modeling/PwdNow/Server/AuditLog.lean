import PwdNow.Kit.HashChain
import PwdNow.Kit.JsText
import PwdNow.Server.State

/-!
# Server — the audit log

`web/lib/audit.js` and `DELETE /api/audit/events` of `web/routes/vaultRoutes.js`. An event carries
an HMAC over its own JSON and the hash before it; `loadAuditLog` goes through that chain from the
zero hash on and marks what does not fit with `integrity_failure`. The queue is worked off one event
at a time, and a log keeps its newest 2000 events.
-/

namespace PwdNow.Server

open Kit Js List Option

/-- An event of the log, as the object that is stored. -/
abbrev AuditEvent := Fields

/-- What `audit.js` takes from Node. -/
structure AuditNode where
  /-- `derivedKey(info)`: HKDF of the master key. -/
  derivedKey : String → Bytes
  /-- `createHmac('sha256', key).update(text).digest('hex')` -/
  hmacSha256 : Bytes → String → String
  /-- `JSON.stringify` of an object. -/
  stringify : Fields → String
  /-- `buffer.toString()` -/
  bufferText : Bytes → String

/-- What an event gets from outside: `generateUUID()`, `Date.now()`, `getServerPublicIp()`, and what
`ctx.ipIntel` finds, if it is enabled. -/
structure AuditInput where
  uuid : String
  now : Nat
  publicIp : Option String
  ipRecord : Option Fields

namespace AuditEvent

def hash (e : AuditEvent) : Option Js := (object e).get "hash"

/-- `const { hash, integrity_failure: _ignored, ...data } = e` -/
def data (e : AuditEvent) : Fields := without ["hash", "integrity_failure"] e

/-- `e.integrity_failure = true` -/
def mark (e : AuditEvent) : AuditEvent := setField "integrity_failure" (.bool true) e

def integrityFailure (e : AuditEvent) : Option Js := (object e).get "integrity_failure"

def marked (e : AuditEvent) : Bool := truthy e.integrityFailure

/-- Neither of the two fields that the chain check takes out. -/
def Clean (e : AuditEvent) : Prop := ∀ key ∈ e.map (·.1), key ∉ ["hash", "integrity_failure"]

end AuditEvent

def zeroHash : String := String.ofList (replicate 64 '0')

section

variable (N : AuditNode)

/-- The HMAC of the chain, with the key that all logs share. -/
def chainHash (data : Fields) (prevHash : Js) : String :=
  N.hmacSha256 (N.derivedKey "audit/chain") (N.stringify data ++ prevHash.text N.bufferText)

/-- `hash === expected` -/
def isText (expected : String) : Js → Bool
  | .string s => s == expected
  | _ => false

/-- The loop of `loadAuditLog`. An event without a hash does not move the chain on, one with a wrong
hash does. -/
def verifyEvents : Js → List AuditEvent → List AuditEvent
  | _, [] => []
  | prevHash, e :: rest =>
    match e.hash with
    | none => e.mark :: verifyEvents prevHash rest
    | some hash =>
      if !Js.truthy (some hash) then e.mark :: verifyEvents prevHash rest
      else if isText (chainHash N e.data prevHash) hash then e :: verifyEvents hash rest
      else e.mark :: verifyEvents hash rest

/-- `stored` is what `getResource(uid, 'audit_log')` returns. -/
def loadAuditLog (stored : Option (List AuditEvent)) : List AuditEvent :=
  verifyEvents N (.string zeroHash) (stored.getD [])

/-- `setResource(uid, 'audit_log', events)`, by way of JSON. -/
def saveAuditLog (events : List AuditEvent) : Option (List AuditEvent) :=
  some (events.map jsonFields)

def compactIpInfo (record : Fields) : Js :=
  .object (["country", "countryCode", "countryFlag", "city", "region", "org", "connectionType",
    "riskFlags"].filterMap fun key => ((object record).get key).map (key, ·))

/-- `LOOPBACK_RE.test(ip)` -/
def isLoopback (ip : String) : Bool :=
  "127.".toList.isPrefixOf ip.toList || ip == "::1" || "::ffff:127.".toList.isPrefixOf ip.toList

/-- `enriched.ip || ''` -/
def ipText (event : AuditEvent) : String :=
  match (object event).get "ip" with
  | none => ""
  | some ip => if truthy (some ip) then ip.text N.bufferText else ""

def enrich (i : AuditInput) (event : AuditEvent) : AuditEvent :=
  if isLoopback (ipText N event) then
    match i.publicIp with
    | none => event
    | some publicIp =>
      let enriched := setField "publicIp" (.string publicIp) event
      match i.ipRecord with
      | none => enriched
      | some record =>
        if truthy ((object enriched).get "ipInfo") then enriched
        else setField "ipInfo" (compactIpInfo record) enriched
  else event

/-- `{ id: generateUUID(), ts: Date.now(), ...enriched }` -/
def newEvent (i : AuditInput) (event : AuditEvent) : AuditEvent :=
  spread [("id", .string i.uuid), ("ts", .number i.now)] (enrich N i event)

/-- `lastEvent?.hash || '0'.repeat(64)` -/
def prevHash (events : List AuditEvent) : Js :=
  match events.getLast? with
  | none => .string zeroHash
  | some lastEvent =>
    if truthy lastEvent.hash then lastEvent.hash.getD .null else .string zeroHash

/-- The new event, with its hash. -/
def chainEvent (i : AuditInput) (event : AuditEvent) (events : List AuditEvent) : AuditEvent :=
  setField "hash" (.string (chainHash N (newEvent N i event) (prevHash events)))
    (newEvent N i event)

/-- The number is never computed with. -/
@[irreducible] def maxAuditEvents : Nat := 2000

/-- `events.length > 2000 ? events.slice(events.length - 2000) : events` -/
def trim {α : Type} (events : List α) : List α := events.drop (events.length - maxAuditEvents)

def processAuditEvent (i : AuditInput) (event : AuditEvent) (stored : Option (List AuditEvent)) :
    Option (List AuditEvent) :=
  let events := loadAuditLog N stored
  saveAuditLog (trim (events ++ [chainEvent N i event events]))

/-- What a successful `DELETE /api/audit/events` writes. -/
def clearMarker (i : AuditInput) (ip : String) : AuditEvent :=
  [("id", .string i.uuid), ("ts", .number i.now), ("action", .string "audit_cleared"),
    ("ip", .string ip), ("success", .bool true)]

/-! ## Queue -/

structure AuditServer where
  auditQueue : List (Uid × AuditEvent)
  /-- What the running flush has taken off the queue and not processed yet. -/
  drained : List (Uid × AuditEvent)
  logs : Uid → Option (List AuditEvent)

def AuditServer.empty : AuditServer := ⟨[], [], fun _ => none⟩

inductive AuditStep where
  | append (uid : Uid) (event : AuditEvent)
  /-- One round of the loops of `flushAuditQueue`. -/
  | flush (i : AuditInput)
  | clear (uid : Uid) (i : AuditInput) (ip : String)

def appendAuditEvent (s : AuditServer) (uid : Uid) (event : AuditEvent) : AuditServer :=
  if s.auditQueue.length < 5000 then { s with auditQueue := s.auditQueue ++ [(uid, event)] }
  else s

def flushAuditQueue (s : AuditServer) (i : AuditInput) : AuditServer :=
  match s.drained with
  | [] => { s with drained := s.auditQueue, auditQueue := [] }
  | (uid, event) :: rest =>
    { s with
      drained := rest
      logs := Function.update s.logs uid (processAuditEvent N i event (s.logs uid)) }

def AuditServer.step (s : AuditServer) : AuditStep → AuditServer
  | .append uid event => appendAuditEvent s uid event
  | .flush i => flushAuditQueue N s i
  | .clear uid i ip =>
    { s with logs := Function.update s.logs uid (saveAuditLog [clearMarker i ip]) }

/-- The log that these events leave, processed one after the other. -/
def appended (events : List (AuditInput × AuditEvent)) : Option (List AuditEvent) :=
  events.foldl (fun stored x => processAuditEvent N x.1 x.2 stored) none

/-! ## Chains of events -/

/-- A digest is not the empty text, and an object that was stored has the text it had before. -/
structure AuditNode.Sound : Prop where
  hmac_ne_empty : ∀ key text, N.hmacSha256 key text ≠ ""
  stringify_json : ∀ fields, N.stringify (jsonFields fields) = N.stringify fields

/-- HMAC and JSON, idealised: the HMAC of a text is that of no other text, and never the zero hash;
the text of an object shows where it ends and what JSON makes of the object. -/
structure AuditNode.Ideal : Prop extends AuditNode.Sound N where
  hmac_inj : ∀ key, Function.Injective (N.hmacSha256 key)
  hmac_ne_zeroHash : ∀ key text, N.hmacSha256 key text ≠ zeroHash
  stringify_delimits : ∀ fields fields' p p', N.stringify fields ++ p = N.stringify fields' ++ p' →
    jsonFields fields = jsonFields fields' ∧ p = p'

/-- The tag of an event, over its data and the tag before. -/
def chainTag (prev : String) (data : Fields) : String := chainHash N data (.string prev)

end

/-- What the chain check reads of an event. -/
def AuditEvent.content (e : AuditEvent) : Fields × Option Js := (e.data, e.hash)

/-- The events are those of the chain `l`. -/
def Entries (es : List AuditEvent) (l : List (Fields × String)) : Prop :=
  es.map AuditEvent.content = l.map fun x => (x.1, some (.string x.2))

variable {N : AuditNode} {p : String}

theorem AuditEvent.mark_hash (e : AuditEvent) : e.mark.hash = e.hash := by
  simp [hash, mark, get_setField]

theorem AuditEvent.mark_marked (e : AuditEvent) : e.mark.marked = true := by
  simp [marked, integrityFailure, mark, get_setField, truthy]

theorem verifyEvents_cons_text {t : String} {e : AuditEvent} {rest : List AuditEvent}
    (hhash : e.hash = some (.string t)) (ht : t ≠ "") :
    verifyEvents N (.string p) (e :: rest) =
      (if t = chainTag N p e.data then e else e.mark) :: verifyEvents N (.string t) rest := by
  have htruthy : truthy (some (.string t)) = true := by simpa [truthy] using ht
  rw [verifyEvents, hhash]
  simp only [htruthy, isText, chainTag]
  by_cases h : t = chainHash N e.data (.string p)
  · simp [h]
  · simp [h]

variable {l : List (Fields × String)} {es : List AuditEvent}

theorem verifyEvents_chained (hN : N.Sound) (hes : Entries es l) (hl : Chained (chainTag N) p l) :
    verifyEvents N (.string p) es = es := by
  induction l generalizing p es with
  | nil =>
    rw [map_eq_nil_iff.mp hes]
    rfl
  | cons x l ih =>
    obtain ⟨d, t⟩ := x
    cases es with
    | nil => simp [Entries] at hes
    | cons e es =>
      simp only [Entries, map_cons, cons.injEq, AuditEvent.content, Prod.mk.injEq] at hes
      obtain ⟨⟨hdata, hhash⟩, hrest⟩ := hes
      obtain ⟨ht, hchain⟩ := hl
      have hne : t ≠ "" := by
        rw [ht]
        exact hN.hmac_ne_empty _ _
      rw [verifyEvents_cons_text hhash hne, hdata, if_pos ht, ih hrest hchain]

theorem chained_of_unmarked (h : ∀ e ∈ verifyEvents N (.string p) es, e.marked = false) :
    ∃ l, Entries es l ∧ Chained (chainTag N) p l := by
  induction es generalizing p with
  | nil => exact ⟨[], rfl, trivial⟩
  | cons e es ih =>
    unfold verifyEvents at h
    split at h
    · simp [AuditEvent.mark_marked] at h
    · next hash hhash =>
      split at h
      · simp [AuditEvent.mark_marked] at h
      · split at h
        · next htext =>
          -- the only hash that is not marked is the expected text
          cases hash with
          | string t =>
            have ht : t = chainTag N p e.data := by simpa [isText, chainTag] using htext
            obtain ⟨l, hl, hchain⟩ := ih fun e' he' => h e' (mem_cons_of_mem _ he')
            refine ⟨(e.data, t) :: l, ?_, ht, hchain⟩
            simp only [Entries, map_cons, AuditEvent.content, hhash]
            exact congrArg _ hl
          | _ => simp [isText] at htext
        · simp [AuditEvent.mark_marked] at h

/-! ## What processed events leave -/

variable {i : AuditInput} {event : AuditEvent}

theorem enrich_clean (h : event.Clean) : (enrich N i event).Clean := by
  have hset : ∀ {key v e}, AuditEvent.Clean e → key ∉ ["hash", "integrity_failure"] →
      AuditEvent.Clean (setField key v e) := by
    intro key v e he hkey key' hmem
    rcases mem_keys_setField hmem with rfl | hmem
    · exact hkey
    · exact he key' hmem
  unfold enrich
  split
  · split
    · exact h
    · next publicIp _ =>
      have hip : AuditEvent.Clean (setField "publicIp" (.string publicIp) event) :=
        hset h (by simp)
      dsimp only
      split
      · exact hip
      · split
        · exact hip
        · exact hset hip (by simp)
  · exact h

theorem newEvent_clean (h : event.Clean) : (newEvent N i event).Clean := by
  intro key hmem
  rcases mem_keys_spread hmem with hmem | hmem
  · have hkey : key = "id" ∨ key = "ts" := by simpa using hmem
    rcases hkey with rfl | rfl <;> simp
  · exact enrich_clean h key hmem

theorem chainEvent_content (h : event.Clean) (events : List AuditEvent) :
    AuditEvent.content (jsonFields (chainEvent N i event events)) =
      (jsonFields (newEvent N i event),
        some (.string (chainHash N (newEvent N i event) (prevHash events)))) := by
  have hdata : AuditEvent.data (chainEvent N i event events) = newEvent N i event := by
    rw [AuditEvent.data, chainEvent, without_setField (by simp)]
    exact without_eq_self (newEvent_clean h)
  have hhash : AuditEvent.hash (chainEvent N i event events) =
      some (.string (chainHash N (newEvent N i event) (prevHash events))) := by
    simp [AuditEvent.hash, chainEvent, get_setField]
  rw [AuditEvent.content, AuditEvent.data, without_jsonFields, AuditEvent.hash, get_jsonFields]
  simp only [AuditEvent.data] at hdata
  simp only [AuditEvent.hash] at hhash
  rw [hdata, hhash]
  rfl

theorem chainEvent_unmarked (h : event.Clean) (events : List AuditEvent) :
    AuditEvent.integrityFailure (jsonFields (chainEvent N i event events)) = none := by
  rw [AuditEvent.integrityFailure, get_jsonFields, chainEvent, get_setField,
    if_neg (by simp), get_eq_none fun hmem => newEvent_clean h _ hmem (by simp)]
  rfl

theorem prevHash_of_entries (hN : N.Sound) (hes : Entries es l) {start : String}
    (hl : Chained (chainTag N) start l) (hne : l ≠ []) :
    prevHash es = .string (lastTag start l) := by
  cases l using reverseRecOn with
  | nil => exact absurd rfl hne
  | append_singleton l x =>
    have ht : x.2 ≠ "" := by
      rw [(Chained.concat.mp hl).2]
      exact hN.hmac_ne_empty _ _
    have hlast : (es.map AuditEvent.content).getLast? = some (x.1, some (.string x.2)) := by
      rw [hes]
      simp
    rw [getLast?_map, map_eq_some_iff] at hlast
    obtain ⟨e, he, hcontent⟩ := hlast
    have hhash : e.hash = some (.string x.2) := congrArg Prod.snd hcontent
    have htruthy : truthy (some (.string x.2)) = true := by simpa [truthy] using ht
    rw [prevHash, he]
    simp only [hhash, htruthy, if_true, getD_some, lastTag_concat]

section

variable {α β : Type}

theorem trim_of_le {l : List α} (h : l.length ≤ maxAuditEvents) : trim l = l := by
  rw [trim, Nat.sub_eq_zero_of_le h, drop_zero]

theorem map_trim (f : α → β) (l : List α) : (trim l).map f = trim (l.map f) := by
  rw [trim, trim, map_drop, length_map]

theorem trim_trim_concat (l : List α) (x : α) : trim (trim l ++ [x]) = trim (l ++ [x]) := by
  have hlen : l.length - maxAuditEvents ≤ l.length := Nat.sub_le _ _
  rw [trim, trim, trim, ← drop_append_of_le_length hlen, drop_drop]
  congr 1
  simp only [length_drop, length_append, length_cons, length_nil]
  omega

end

/-- `es` is what is kept of the chain `l`, as the log stores it. -/
structure Kept (N : AuditNode) (l : List (Fields × String)) (es : List AuditEvent) : Prop where
  chained : Chained (chainTag N) zeroHash l
  entries : Entries es (trim l)
  parsed : ∀ e ∈ es, jsonFields e = e
  unmarked : ∀ e ∈ es, e.integrityFailure = none

namespace Kept

variable {l : List (Fields × String)} {es : List AuditEvent}

theorem length_eq (h : Kept N l es) : es.length = (trim l).length := by
  simpa using congrArg length h.entries

theorem chained_trim (h : Kept N l es) :
    Chained (chainTag N) (lastTag zeroHash (l.take (l.length - maxAuditEvents))) (trim l) := by
  have hsplit := h.chained
  rw [← take_append_drop (l.length - maxAuditEvents) l] at hsplit
  exact hsplit.right

theorem load_cons (hN : N.Sound) {e : AuditEvent} (h : Kept N l (e :: es)) :
    ∃ t, t = chainTag N (lastTag zeroHash (l.take (l.length - maxAuditEvents))) e.data ∧
      loadAuditLog N (some (e :: es)) =
        (if t = chainTag N zeroHash e.data then e else e.mark) :: es := by
  have hentries := h.entries
  have hchain := h.chained_trim
  cases htrim : trim l with
  | nil => simp [Entries, htrim] at hentries
  | cons x rest =>
    rw [htrim] at hentries hchain
    simp only [Entries, map_cons, cons.injEq, AuditEvent.content, Prod.mk.injEq] at hentries
    obtain ⟨⟨hdata, hhash⟩, hrest⟩ := hentries
    have hne : x.2 ≠ "" := by
      rw [hchain.1]
      exact hN.hmac_ne_empty _ _
    refine ⟨x.2, ?_, ?_⟩
    · rw [hdata]
      exact hchain.1
    · rw [loadAuditLog, getD_some, verifyEvents_cons_text hhash hne,
        verifyEvents_chained hN hrest hchain.2]

/-- Only the first event can be marked, and only if something is missing before it. -/
theorem load_eq (hN : N.Sound) (h : Kept N l es) :
    loadAuditLog N (some es) = es ∨ maxAuditEvents < l.length ∧
      ∃ e rest, es = e :: rest ∧ loadAuditLog N (some es) = e.mark :: rest := by
  cases es with
  | nil => exact Or.inl rfl
  | cons e rest =>
    obtain ⟨t, ht, hload⟩ := h.load_cons hN
    by_cases hlen : l.length ≤ maxAuditEvents
    · rw [Nat.sub_eq_zero_of_le hlen, take_zero, lastTag_nil] at ht
      rw [if_pos ht] at hload
      exact Or.inl hload
    · split at hload
      · exact Or.inl hload
      · exact Or.inr ⟨by omega, e, rest, rfl, hload⟩

theorem trim_load (hN : N.Sound) (h : Kept N l es)
    (x : AuditEvent) : trim (loadAuditLog N (some es) ++ [x]) = trim (es ++ [x]) := by
  rcases h.load_eq hN with heq | ⟨hlen, e, rest, rfl, heq⟩
  · rw [heq]
  · have hfull : (e :: rest).length = maxAuditEvents := by
      rw [h.length_eq, trim, length_drop]
      omega
    have hone : (e :: rest ++ [x]).length - maxAuditEvents = 1 := by
      rw [length_append, hfull, length_singleton, Nat.add_sub_cancel_left]
    have hone' : (e.mark :: rest ++ [x]).length - maxAuditEvents = 1 := hone
    rw [heq, trim, trim, hone, hone']
    rfl

theorem prevHash_load (hN : N.Sound) (h : Kept N l es) :
    prevHash (loadAuditLog N (some es)) = .string (lastTag zeroHash l) := by
  -- a mark leaves the hash of the last event as it is
  have hmark : prevHash (loadAuditLog N (some es)) = prevHash es := by
    rcases h.load_eq hN with heq | ⟨-, e, rest, rfl, heq⟩
    · rw [heq]
    · rw [heq]
      cases rest with
      | nil => simp [prevHash, AuditEvent.mark_hash]
      | cons e' rest => simp [prevHash]
  rw [hmark]
  by_cases hl : trim l = []
  · have hl' : l = [] := by
      rw [trim, drop_eq_nil_iff] at hl
      have hpos : 0 < maxAuditEvents := by simp [maxAuditEvents]
      exact length_eq_zero_iff.mp (by omega)
    have hes := h.entries
    rw [hl] at hes
    rw [map_eq_nil_iff.mp hes, hl']
    rfl
  · rw [prevHash_of_entries hN h.entries h.chained_trim hl]
    have hsplit := take_append_drop (l.length - maxAuditEvents) l
    conv_rhs => rw [← hsplit]
    rw [trim, lastTag_append]

/-- **One event.** The chain goes on from its last tag. -/
theorem process (hN : N.Sound) {stored : Option (List AuditEvent)} (h : Kept N l (stored.getD []))
    (i : AuditInput) (hclean : event.Clean) :
    Kept N (l ++ [(jsonFields (newEvent N i event),
        chainHash N (newEvent N i event) (prevHash (loadAuditLog N stored)))])
      ((processAuditEvent N i event stored).getD []) := by
  have hload : loadAuditLog N stored = loadAuditLog N (some (stored.getD [])) := rfl
  have hstored : (processAuditEvent N i event stored).getD [] = trim (stored.getD [] ++
        [jsonFields (chainEvent N i event (loadAuditLog N stored))]) := by
    have hparsed : (stored.getD []).map jsonFields = stored.getD [] := by
      conv_rhs => rw [← map_id (stored.getD [])]
      exact map_congr_left h.parsed
    rw [processAuditEvent, saveAuditLog, getD_some, hload, h.trim_load hN, map_trim,
      map_append, hparsed]
    rfl
  rw [hstored]
  have hmem : ∀ {e}, e ∈ trim (stored.getD [] ++
      [jsonFields (chainEvent N i event (loadAuditLog N stored))]) →
      e ∈ stored.getD [] ∨ e = jsonFields (chainEvent N i event (loadAuditLog N stored)) := by
    intro e he
    simpa using mem_of_mem_drop he
  refine ⟨Chained.concat.mpr ⟨h.chained, ?_⟩, ?_, ?_, ?_⟩
  · rw [hload, h.prevHash_load hN, chainTag, chainHash, chainHash, hN.stringify_json]
  · have hentries := h.entries
    rw [Entries] at hentries ⊢
    rw [map_trim, map_append, map_singleton, chainEvent_content hclean, hentries,
      map_trim, trim_trim_concat, map_trim, map_append]
    rfl
  · intro e he
    rcases hmem he with he | rfl
    · exact h.parsed e he
    · exact jsonFields_jsonFields _
  · intro e he
    rcases hmem he with he | rfl
    · exact h.unmarked e he
    · exact chainEvent_unmarked hclean _

end Kept

/-- `hash` was computed while these events were processed. -/
def Hashed (N : AuditNode) (events : List (AuditInput × AuditEvent)) (hash : String) : Prop :=
  ∃ pre x post, events = pre ++ x :: post ∧
    hash = chainHash N (newEvent N x.1 x.2) (prevHash (loadAuditLog N (appended N pre)))

theorem appended_concat (events : List (AuditInput × AuditEvent)) (x : AuditInput × AuditEvent) :
    appended N (events ++ [x]) = processAuditEvent N x.1 x.2 (appended N events) := by
  simp [appended]

variable {events : List (AuditInput × AuditEvent)}

theorem hashed_concat {x : AuditInput × AuditEvent} {hash : String} :
    Hashed N (events ++ [x]) hash ↔ Hashed N events hash ∨
      hash = chainHash N (newEvent N x.1 x.2) (prevHash (loadAuditLog N (appended N events))) := by
  constructor
  · rintro ⟨pre, y, post, heq, rfl⟩
    cases post using reverseRecOn with
    | nil =>
      obtain ⟨rfl, hxy⟩ := append_inj' heq rfl
      cases hxy
      exact Or.inr rfl
    | append_singleton post z =>
      have hsplit : events ++ [x] = (pre ++ y :: post) ++ [z] := by rw [heq]; simp
      obtain ⟨rfl, -⟩ := append_inj' hsplit rfl
      exact Or.inl ⟨pre, y, post, rfl, rfl⟩
  · rintro (⟨pre, y, post, rfl, rfl⟩ | rfl)
    · exact ⟨pre, y, post ++ [x], by simp, rfl⟩
    · exact ⟨events, x, [], rfl, rfl⟩

section

variable (hN : N.Sound) (hclean : ∀ x ∈ events, x.2.Clean)
include hN hclean

/-- **Any number of events.** What is stored is the end of one chain, whose tags are the hashes that
were computed. -/
theorem kept_appended :
    ∃ l, l.length = events.length ∧ Kept N l ((appended N events).getD []) ∧
      ∀ hash, Hashed N events hash ↔ hash ∈ l.map (·.2) := by
  induction events using reverseRecOn with
  | nil =>
    refine ⟨[], rfl, ⟨trivial, ?_, by simp [appended], by simp [appended]⟩, ?_⟩
    · simp [Entries, appended, trim]
    · simp [Hashed]
  | append_singleton events x ih =>
    obtain ⟨l, hlen, hkept, hhashed⟩ := ih fun y hy => hclean y (mem_append_left _ hy)
    have hnext := hkept.process hN x.1 (hclean x (by simp))
    rw [← appended_concat] at hnext
    refine ⟨_, by simp [hlen], hnext, fun hash => ?_⟩
    rw [hashed_concat, hhashed, map_append, mem_append]
    simp

theorem load_appended (hfew : events.length ≤ 2000) :
    loadAuditLog N (appended N events) = (appended N events).getD [] := by
  obtain ⟨l, hlen, hkept, -⟩ := kept_appended hN hclean
  rcases hkept.load_eq hN with heq | ⟨hmany, -⟩
  · exact heq
  · rw [hlen, maxAuditEvents] at hmany
    omega

theorem appended_unmarked : ∀ e ∈ (appended N events).getD [], e.integrityFailure = none := by
  obtain ⟨l, -, hkept, -⟩ := kept_appended hN hclean
  exact hkept.unmarked

end

/-! ## Whole runs -/

namespace AuditServer

/-- The events of `uid` that wait. -/
def pending (s : AuditServer) (uid : Uid) : Nat :=
  (s.drained ++ s.auditQueue).countP (·.1 = uid)

end AuditServer

/-- How many events of `uid` a run appends. -/
def appends (uid : Uid) (steps : List AuditStep) : Nat :=
  steps.countP fun
    | .append uid' _ => uid' = uid
    | _ => false

/-- No step of the run clears the log of `uid`, or appends to it an event with one of the two
fields. -/
def AuditStep.Plain (uid : Uid) : AuditStep → Prop
  | .append uid' event => uid' = uid → event.Clean
  | .flush _ => True
  | .clear uid' _ _ => uid' ≠ uid

/-- The log of `uid` was left by `n` events, and those that wait are clean. -/
structure Logged (N : AuditNode) (uid : Uid) (n : Nat) (s : AuditServer) : Prop where
  log : ∃ events, events.length = n ∧ (∀ x ∈ events, x.2.Clean) ∧ s.logs uid = appended N events
  waiting : ∀ x ∈ s.drained ++ s.auditQueue, x.1 = uid → x.2.Clean

variable {uid : Uid} {n : Nat} {s : AuditServer}

theorem Logged.step (h : Logged N uid n s) {a : AuditStep} (ha : a.Plain uid) :
    ∃ n', Logged N uid n' (s.step N a) ∧
      n' + (s.step N a).pending uid ≤ n + s.pending uid + appends uid [a] := by
  obtain ⟨events, hlen, hclean, hlog⟩ := h.log
  cases a with
  | append uid' event =>
    simp only [AuditServer.step, appendAuditEvent]
    split
    · refine ⟨n, ⟨⟨events, hlen, hclean, hlog⟩, ?_⟩, ?_⟩
      · intro x hx hxu
        simp only [mem_append, mem_singleton] at hx
        rcases hx with hx | hx | rfl
        · exact h.waiting x (mem_append_left _ hx) hxu
        · exact h.waiting x (mem_append_right _ hx) hxu
        · exact ha hxu
      · simp only [AuditServer.pending, countP_append, countP_singleton, appends]
        omega
    · exact ⟨n, ⟨⟨events, hlen, hclean, hlog⟩, h.waiting⟩, by omega⟩
  | flush i =>
    simp only [AuditServer.step, flushAuditQueue]
    split
    · next hdrained =>
      have hwaiting := h.waiting
      rw [hdrained] at hwaiting
      refine ⟨n, ⟨⟨events, hlen, hclean, hlog⟩, by simpa using hwaiting⟩, ?_⟩
      simp [AuditServer.pending, hdrained]
    · next uid' event rest hdrained =>
      have hwaiting := h.waiting
      rw [hdrained] at hwaiting
      have hrest : ∀ x ∈ rest ++ s.auditQueue, x.1 = uid → x.2.Clean := fun x hx =>
        hwaiting x (mem_cons_of_mem _ hx)
      by_cases huid : uid' = uid
      · subst huid
        -- the event that waited is now one of the log's
        have hevent : event.Clean := hwaiting (uid', event) (by simp) rfl
        refine ⟨n + 1, ⟨⟨events ++ [(i, event)], by simp [hlen], ?_, ?_⟩, hrest⟩, ?_⟩
        · intro x hx
          rcases mem_append.mp hx with hx | hx
          · exact hclean x hx
          · rw [mem_singleton.mp hx]
            exact hevent
        · rw [appended_concat, ← hlog]
          simp
        · simp only [AuditServer.pending, hdrained, cons_append, countP_cons, appends]
          simp
          omega
      · refine ⟨n, ⟨⟨events, hlen, hclean, ?_⟩, hrest⟩, ?_⟩
        · simpa [Function.update_of_ne (Ne.symm huid)] using hlog
        · simp [AuditServer.pending, hdrained, huid]
  | clear uid' i ip =>
    have hne : uid ≠ uid' := Ne.symm ha
    refine ⟨n, ⟨⟨events, hlen, hclean, ?_⟩, h.waiting⟩, ?_⟩
    · simpa [AuditServer.step, Function.update_of_ne hne] using hlog
    · simp [AuditServer.step, AuditServer.pending]

theorem Logged.run {steps : List AuditStep} (hplain : ∀ a ∈ steps, a.Plain uid)
    (h : Logged N uid n s) :
    ∃ n', Logged N uid n' (Kit.run (AuditServer.step N) s steps) ∧
      n' ≤ n + s.pending uid + appends uid steps := by
  induction steps generalizing n s with
  | nil => exact ⟨n, h, by simp [appends]⟩
  | cons a steps ih =>
    obtain ⟨n₁, h₁, hle₁⟩ := h.step (hplain a (by simp))
    obtain ⟨n₂, h₂, hle₂⟩ := ih (fun b hb => hplain b (mem_cons_of_mem _ hb)) h₁
    refine ⟨n₂, h₂, ?_⟩
    have hsplit : appends uid (a :: steps) = appends uid [a] + appends uid steps := by
      rw [appends, appends, appends, ← countP_append]
      rfl
    omega

theorem logged_empty : Logged N uid 0 AuditServer.empty :=
  ⟨⟨[], rfl, by simp, rfl⟩, by simp [AuditServer.empty]⟩

/-- **An honest log.** From an empty server on: if the log of `uid` was not cleared and got at most
2000 events, none of them with a `hash` or `integrity_failure` of its own, no event is marked. -/
theorem honest_log_unmarked (hN : N.Sound) (uid : Uid) (steps : List AuditStep)
    (hplain : ∀ a ∈ steps, a.Plain uid) (hfew : appends uid steps ≤ 2000) :
    ∀ e ∈ loadAuditLog N ((Kit.run (AuditServer.step N) .empty steps).logs uid),
      e.integrityFailure = none := by
  obtain ⟨n, hlogged, hn⟩ := logged_empty.run hplain
  obtain ⟨events, hlen, hclean, hlog⟩ := hlogged.log
  have hn : events.length ≤ 2000 := by
    simp only [AuditServer.pending, AuditServer.empty, append_nil, countP_nil] at hn
    omega
  rw [hlog, load_appended hN hclean hn]
  exact appended_unmarked hN hclean

/-- An HMAC that spells out what it is over. -/
def symbolicAudit : AuditNode where
  derivedKey _ := []
  hmacSha256 _ text := "h" ++ text
  stringify := spellJson
  bufferText _ := ""

theorem zeroHash_toList : zeroHash.toList = '0' :: replicate 63 '0' := String.toList_ofList

theorem spelled_ne_zeroHash (text : String) : "h" ++ text ≠ zeroHash := by
  intro h
  have hlist := congrArg String.toList h
  rw [zeroHash_toList, String.toList_append] at hlist
  simp at hlist

theorem symbolicAudit_ideal : symbolicAudit.Ideal where
  hmac_ne_empty _ text := by simp [symbolicAudit]
  stringify_json := spellJson_jsonFields
  hmac_inj _ a b h := by simpa [symbolicAudit] using h
  hmac_ne_zeroHash _ := spelled_ne_zeroHash
  stringify_delimits _ _ _ _ := spellJson_append_inj

def symbolicAuditInput (uuid : String) : AuditInput := ⟨uuid, 1000000, some "203.0.113.7", none⟩

/-- The event of a logout. -/
def logoutEvent : AuditEvent :=
  [("action", .string "logout"), ("ip", .string "127.0.0.1"), ("success", .bool true)]

theorem logoutEvent_clean : logoutEvent.Clean := by
  simp [AuditEvent.Clean, logoutEvent]

theorem honest_log_of_logout :
    logoutEvent.Clean ∧ ∀ e ∈ loadAuditLog symbolicAudit ((Kit.run (AuditServer.step symbolicAudit)
        .empty [.append "u1" logoutEvent, .flush (symbolicAuditInput "id0"),
          .flush (symbolicAuditInput "id1")]).logs "u1"), e.integrityFailure = none :=
  ⟨logoutEvent_clean, honest_log_unmarked symbolicAudit_ideal.toSound "u1" _
    (by simp [AuditStep.Plain, logoutEvent_clean]) (by simp [appends])⟩

/-- **A log that was cleared.** The marker has no hash. -/
theorem cleared_log_marked :
    ∃ e ∈ loadAuditLog symbolicAudit ((Kit.run (AuditServer.step symbolicAudit) .empty
        [.append "u1" logoutEvent, .flush (symbolicAuditInput "id0"),
          .flush (symbolicAuditInput "id1"),
          .clear "u1" (symbolicAuditInput "id2") "127.0.0.1"]).logs "u1"), e.marked = true := by
  refine ⟨AuditEvent.mark (clearMarker (symbolicAuditInput "id2") "127.0.0.1"), ?_,
    AuditEvent.mark_marked _⟩
  simp [Kit.run, AuditServer.step, saveAuditLog, loadAuditLog, verifyEvents, AuditEvent.hash,
    Js.get, clearMarker, Js.jsonFields, Js.json]

end PwdNow.Server
