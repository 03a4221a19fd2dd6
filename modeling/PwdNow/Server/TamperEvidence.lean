import PwdNow.Server.AuditLog

/-!
# Server — what an unmarked audit log shows

`loadAuditLog` of `web/lib/audit.js` against whoever writes the stored list and does not have the
chain key: every hash in that list is either no HMAC at all or one that the server has computed
(`WithoutKey`). The key is the same for all users, and the user is not under the HMAC.
-/

namespace PwdNow.Server

open Kit AuditEvent Js List Option

variable {N : AuditNode} {es : List AuditEvent} {e : AuditEvent}

theorem unmarked_iff (hN : N.Sound) :
    (∀ e ∈ loadAuditLog N (some es), e.marked = false) ↔
      (∀ e ∈ es, e.marked = false) ∧ ∃ l, Entries es l ∧ Chained (chainTag N) zeroHash l := by
  constructor
  · intro h
    rw [loadAuditLog, getD_some] at h
    obtain ⟨l, hes, hl⟩ := chained_of_unmarked h
    rw [verifyEvents_chained hN hes hl] at h
    exact ⟨h, l, hes, hl⟩
  · rintro ⟨h, l, hes, hl⟩
    rw [loadAuditLog, getD_some, verifyEvents_chained hN hes hl]
    exact h

/-- Unforgeability: what is a hash under the chain key was computed for the log of some user. -/
def WithoutKey (N : AuditNode) (logs : Uid → List (AuditInput × AuditEvent))
    (stored : List AuditEvent) : Prop :=
  ∀ e ∈ stored, ∀ text,
    e.hash = some (.string (N.hmacSha256 (N.derivedKey "audit/chain") text)) →
      ∃ uid, Hashed N (logs uid) (N.hmacSha256 (N.derivedKey "audit/chain") text)

theorem data_parsed (h : jsonFields e = e) : jsonFields e.data = e.data := by
  rw [data, ← without_jsonFields, h]

theorem Entries.parsed {l : List (Fields × String)} (h : Entries es l)
    (hparsed : ∀ e ∈ es, jsonFields e = e) : ∀ x ∈ l, jsonFields x.1 = x.1 := by
  intro x hx
  have hmem : (x.1, some (string x.2)) ∈ es.map content := by
    rw [h]
    exact mem_map_of_mem hx
  obtain ⟨e, he, hcontent⟩ := mem_map.mp hmem
  have hdata : e.data = x.1 := congrArg Prod.fst hcontent
  rw [← hdata]
  exact data_parsed (hparsed e he)

theorem chainTag_inj (hN : N.Ideal) (p p' : String) (d d' : Fields)
    (hd : jsonFields d = d) (hd' : jsonFields d' = d')
    (h : chainTag N p d = chainTag N p' d') : p = p' ∧ d = d' := by
  obtain ⟨hjson, hp⟩ := hN.stringify_delimits _ _ _ _ (hN.hmac_inj _ h)
  exact ⟨hp, by rw [← hd, ← hd', hjson]⟩

variable {events : List (AuditInput × AuditEvent)} {stored : List AuditEvent}

/-- An unmarked list that ends in a hash of a log is the beginning of that log: the hash commits to
all that is before it. -/
theorem prefix_of_hashed (hN : N.Ideal) (hclean : ∀ x ∈ events, x.2.Clean)
    (hfew : events.length ≤ 2000) (hparsed : ∀ e ∈ stored, jsonFields e = e)
    (hunmarked : ∀ e ∈ loadAuditLog N (some stored), e.marked = false)
    (hlast : ∀ e ∈ stored.getLast?, ∀ hash, e.hash = some (.string hash) → Hashed N events hash) :
    stored.map content <+: ((appended N events).getD []).map content := by
  obtain ⟨-, l, hes, hl⟩ := (unmarked_iff hN.toSound).mp hunmarked
  obtain ⟨full, hlen, hkept, hhashed⟩ := kept_appended hN.toSound hclean
  have hentries := hkept.entries
  rw [trim_of_le (by rw [hlen, maxAuditEvents]; exact hfew)] at hentries
  rw [hes, hentries]
  apply IsPrefix.map
  cases l using reverseRecOn with
  | nil => exact nil_prefix
  | append_singleton l x =>
    -- the last hash of the list is among the tags of the log
    have hcontent : (stored.map content).getLast? = some (x.1, some (.string x.2)) := by
      rw [hes]
      simp
    rw [getLast?_map, map_eq_some_iff] at hcontent
    obtain ⟨e, he, hcontent⟩ := hcontent
    have hmem := (hhashed x.2).mp (hlast e he x.2 (congrArg Prod.snd hcontent))
    obtain ⟨⟨d, t⟩, hentry, rfl⟩ := mem_map.mp hmem
    obtain ⟨pre, post, hfull⟩ := append_of_mem hentry
    have hsplit : full = pre ++ (d, lastTag zeroHash (l ++ [x])) :: post := by
      rw [hfull, lastTag_concat]
    exact hl.prefix_of_lastTag (chainTag_inj hN) (fun _ _ => hN.hmac_ne_zeroHash _ _)
      hkept.chained (hes.parsed hparsed) (Entries.parsed hentries hkept.parsed) hsplit

variable {logs : Uid → List (AuditInput × AuditEvent)}

theorem hashed_of_withoutKey (hN : N.Sound) (hkey : WithoutKey N logs stored)
    (hunmarked : ∀ e ∈ loadAuditLog N (some stored), e.marked = false) (he : e ∈ stored) :
    ∃ hash, e.hash = some (.string hash) ∧ ∃ uid, Hashed N (logs uid) hash := by
  obtain ⟨-, l, hes, hl⟩ := (unmarked_iff hN).mp hunmarked
  have hmem : e.content ∈ l.map fun x => (x.1, some (string x.2)) := by
    rw [← hes]
    exact mem_map_of_mem he
  obtain ⟨x, hx, hcontent⟩ := mem_map.mp hmem
  have hhash : e.hash = some (.string x.2) := (congrArg Prod.snd hcontent).symm
  obtain ⟨prev, htag⟩ := hl.tag_of_mem hx
  exact ⟨x.2, hhash, by rw [htag] at hhash ⊢; exact hkey e he _ hhash⟩

/-- The last event of the list is not one of another user. -/
def EndsInOwn (N : AuditNode) (logs : Uid → List (AuditInput × AuditEvent)) (uid : Uid)
    (stored : List AuditEvent) : Prop :=
  ∀ e ∈ stored.getLast?, ∀ hash, e.hash = some (.string hash) →
    ∀ other, Hashed N (logs other) hash → other = uid

theorem appended_withoutKey (hN : N.Sound) {uid : Uid} (hclean : ∀ x ∈ logs uid, x.2.Clean) :
    WithoutKey N logs ((appended N (logs uid)).getD []) := by
  obtain ⟨l, -, hkept, hhashed⟩ := kept_appended hN hclean
  intro e he text hhash
  have hmem : e.content ∈ (trim l).map fun x => (x.1, some (string x.2)) := by
    rw [← hkept.entries]
    exact mem_map_of_mem he
  obtain ⟨x, hx, hcontent⟩ := mem_map.mp hmem
  have hx2 : some (string x.2) = e.hash := congrArg Prod.snd hcontent
  rw [hhash, some.injEq, string.injEq] at hx2
  rw [← hx2]
  exact ⟨uid, (hhashed _).mpr (mem_map_of_mem (mem_of_mem_drop hx))⟩

theorem appended_parsed (hN : N.Sound) (hclean : ∀ x ∈ events, x.2.Clean) :
    ∀ e ∈ (appended N events).getD [], jsonFields e = e := by
  obtain ⟨l, -, hkept, -⟩ := kept_appended hN hclean
  exact hkept.parsed

theorem load_appended_unmarked (hN : N.Sound) (hclean : ∀ x ∈ events, x.2.Clean)
    (hfew : events.length ≤ 2000) :
    ∀ e ∈ loadAuditLog N (some ((appended N events).getD [])), e.marked = false := by
  have hload : loadAuditLog N (some ((appended N events).getD [])) =
      loadAuditLog N (appended N events) := rfl
  rw [hload, load_appended hN hclean hfew]
  intro e he
  rw [marked, appended_unmarked hN hclean e he]
  rfl

/-- Two users, with one logout each. -/
def twoLogs : Uid → List (AuditInput × AuditEvent)
  | "u1" => [(symbolicAuditInput "id1", logoutEvent)]
  | "u2" => [(symbolicAuditInput "id2", logoutEvent)]
  | _ => []

theorem twoLogs_clean (uid : Uid) : ∀ x ∈ twoLogs uid, x.2.Clean := by
  unfold twoLogs
  split <;> simp [logoutEvent_clean]

theorem twoLogs_few (uid : Uid) : (twoLogs uid).length ≤ 2000 := by
  unfold twoLogs
  split <;> simp

theorem newEvent_logout_id (uuid : String) :
    (object (newEvent symbolicAudit (symbolicAuditInput uuid) logoutEvent)).get "id" =
      some (.string uuid) := rfl

theorem appended_logout (uuid : String) :
    ((appended symbolicAudit [(symbolicAuditInput uuid, logoutEvent)]).getD []).map content =
      [(jsonFields (newEvent symbolicAudit (symbolicAuditInput uuid) logoutEvent),
        some (.string (chainHash symbolicAudit
          (newEvent symbolicAudit (symbolicAuditInput uuid) logoutEvent)
          (.string zeroHash))))] := by
  have hone : ∀ e : AuditEvent, trim [e] = [e] := fun e =>
    trim_of_le (by simp [maxAuditEvents])
  simp only [appended, foldl_cons, foldl_nil, processAuditEvent, loadAuditLog,
    getD_none, verifyEvents, saveAuditLog, getD_some, nil_append, hone,
    map_cons, map_nil]
  rw [chainEvent_content logoutEvent_clean]
  rfl

theorem logout_data_inj {uuid uuid' : String}
    (h : jsonFields (newEvent symbolicAudit (symbolicAuditInput uuid) logoutEvent) =
      jsonFields (newEvent symbolicAudit (symbolicAuditInput uuid') logoutEvent)) :
    uuid = uuid' := by
  have hid := congrArg (fun fields => (object fields).get "id") h
  simp only [get_jsonFields, newEvent_logout_id, map_some, json] at hid
  simpa using hid

theorem endsInOwn_twoLogs :
    EndsInOwn symbolicAudit twoLogs "u1" ((appended symbolicAudit (twoLogs "u1")).getD []) := by
  intro e he hash hhash other hhashed
  have hcontent : e.content ∈ (((appended symbolicAudit (twoLogs "u1")).getD []).map
      content) := mem_map_of_mem (mem_of_getLast? he)
  rw [twoLogs, appended_logout "id1", mem_singleton] at hcontent
  have hhash' := congrArg Prod.snd hcontent
  rw [content, hhash] at hhash'
  cases hhash'
  unfold twoLogs at hhashed
  split at hhashed
  · rfl
  · rw [← nil_append [_], hashed_concat] at hhashed
    rcases hhashed with hnone | heq
    · simp [Hashed] at hnone
    · -- the two events differ in their ids
      have htext := symbolicAudit_ideal.hmac_inj _ heq
      have hdata := (symbolicAudit_ideal.stringify_delimits _ _ _ _ htext).1
      exact absurd (logout_data_inj hdata) (by decide)
  · simp [Hashed] at hhashed

end PwdNow.Server
