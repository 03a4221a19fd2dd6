import PwdNow.Daemon.Session
import PwdNow.Kit.Bytes
import PwdNow.Kit.Run

/-!
# Daemon — histories of the session store

`daemon/src/auth/session.rs` with its second map, the hashes of revoked tokens, and every operation
on the two. An operation reads the clock once; `hash` is BLAKE3, and random tokens are arguments.
-/

namespace PwdNow.Daemon

open Kit List

def rotationGraceSecs : Nat := 60

/-- One session a token. -/
def DistinctTokens (sessions : List Session) : Prop := (sessions.map (·.token)).Nodup

namespace DistinctTokens

variable {sessions : List Session}

theorem sublist {kept : List Session} (h : DistinctTokens sessions) (hkept : kept.Sublist sessions) :
    DistinctTokens kept :=
  Nodup.sublist (hkept.map _) h

theorem insert (h : DistinctTokens sessions) (session : Session) :
    DistinctTokens (sessions.filter (·.token ≠ session.token) ++ [session]) := by
  unfold DistinctTokens
  rw [map_append, nodup_append]
  refine ⟨h.sublist (filter_sublist), nodup_singleton _, ?_⟩
  intro a ha b hb
  obtain ⟨s, hs, rfl⟩ := mem_map.mp ha
  rw [mem_singleton.mp hb]
  exact of_decide_eq_true (mem_filter.mp hs).2

theorem map {f : Session → Session} (hf : ∀ s, (f s).token = s.token)
    (h : DistinctTokens sessions) : DistinctTokens (sessions.map f) := by
  unfold DistinctTokens
  rw [map_map, Function.comp_def]
  simp only [hf]
  exact h

theorem find (h : DistinctTokens sessions) {s : Session} (hs : s ∈ sessions) :
    sessions.find? (·.token = s.token) = some s := by
  induction sessions with
  | nil => cases hs
  | cons first rest ih =>
    have hnodup := nodup_cons.mp h
    rcases mem_cons.mp hs with rfl | hmem
    · exact find?_cons_of_pos (by simp)
    · have hne : first.token ≠ s.token := by
        intro heq
        exact hnodup.1 (mem_map.mpr ⟨s, hmem, heq.symm⟩)
      rw [find?_cons_of_neg (by simpa using hne)]
      exact ih hnodup.2 hmem

end DistinctTokens

/-- `SessionStore` with both maps; `revoked` holds the hash of a token and the second from which
the entry can be pruned. -/
structure RevocableStore extends SessionStore where
  revoked : List (Bytes × Nat)
  distinct : DistinctTokens sessions

namespace RevocableStore

variable (hash : String → Bytes)

def new : RevocableStore where
  toSessionStore := .new
  revoked := []
  distinct := nodup_nil

/-- `map.get(token)` -/
def get (store : RevocableStore) (token : String) : Option Session :=
  store.sessions.find? (·.token = token)

variable {store : RevocableStore} {s : Session}

theorem get_of_mem (hs : s ∈ store.sessions) : store.get s.token = some s :=
  store.distinct.find hs

theorem mem_of_get {token : String} (h : store.get token = some s) :
    s ∈ store.sessions ∧ s.token = token := by
  have htoken := find?_some h
  exact ⟨mem_of_find?_eq_some h, of_decide_eq_true htoken⟩

theorem create_distinct {store : SessionStore} (now : Nat) (token userId : String) (uid : UInt32)
    (ttlSecs : Nat) (h : DistinctTokens store.sessions) :
    DistinctTokens (store.create now token userId uid ttlSecs).2.sessions := by
  obtain ⟨kept, hkept, ⟨-, hrefused⟩ | ⟨session, hsession, hmade⟩⟩ :=
    store.create_cases now token userId uid ttlSecs
  · rw [hrefused]
    exact (h.sublist filter_sublist).sublist hkept
  · have htoken : session.token = token := by rw [hsession]
    rw [hmade, ← htoken]
    exact ((h.sublist filter_sublist).sublist hkept).insert session

def create (store : RevocableStore) (now : Nat) (token userId : String) (uid : UInt32)
    (ttlSecs : Nat) : Except VaultError Session × RevocableStore :=
  ((store.toSessionStore.create now token userId uid ttlSecs).1,
    { toSessionStore := (store.toSessionStore.create now token userId uid ttlSecs).2
      revoked := store.revoked
      distinct := create_distinct now token userId uid ttlSecs store.distinct })

def validate (store : RevocableStore) (now : Nat) (token : String) (uid : UInt32) :
    Except VaultError Session :=
  if (store.revoked.lookup (hash token)).any (now < ·) then .error (.auth "session expired")
  else match store.get token with
    | none => .error (.auth "session invalid")
    | some s =>
      if !s.isValid now then .error (.auth "session invalid")
      else if s.uid ≠ uid then .error (.auth "session invalid")
      else .ok s

/-- The session under `token` with another idle deadline. -/
def setExpiry (store : RevocableStore) (token : String) (expiresAt : Nat) : RevocableStore where
  sessions := store.sessions.map fun s => if s.token = token then { s with expiresAt } else s
  revoked := store.revoked
  distinct := by
    apply store.distinct.map
    intro s
    split <;> rfl

/-- `map.insert(session.token, session)` -/
def insert (store : RevocableStore) (session : Session) : RevocableStore where
  sessions := store.sessions.filter (·.token ≠ session.token) ++ [session]
  revoked := store.revoked
  distinct := store.distinct.insert session

def touch (store : RevocableStore) (now : Nat) (token : String) (ttlSecs : Nat) :
    Bool × RevocableStore :=
  match store.get token with
  | some s =>
    -- only the absolute deadline is looked at
    if now < s.absoluteExpiresAt then
      (true, store.setExpiry token (min (now + ttlSecs) s.absoluteExpiresAt))
    else (false, store)
  | none => (false, store)

def rotate (store : RevocableStore) (now : Nat) (oldToken : String) (uid : UInt32)
    (newToken : String) : Option String × RevocableStore :=
  match store.get oldToken with
  | none => (none, store)
  | some old =>
    if !old.isValid now || old.uid ≠ uid then (none, store)
    else
      let newSess : Session :=
        { token := newToken, userId := old.userId, uid, createdAt := now
          expiresAt := min (now + defaultTtlSecs) old.absoluteExpiresAt
          absoluteExpiresAt := old.absoluteExpiresAt }
      let graced := store.setExpiry oldToken (min (now + rotationGraceSecs) old.absoluteExpiresAt)
      (some newToken, graced.insert newSess)

def revokeAll (store : RevocableStore) : RevocableStore where
  toSessionStore := store.toSessionStore.revokeAll
  revoked := store.revoked
  distinct := nodup_nil

def revokeAllExcept (store : RevocableStore) (now : Nat) (userId excludeToken : String) :
    RevocableStore where
  sessions := store.sessions.filter fun s => s.userId ≠ userId ∨ s.token = excludeToken
  revoked :=
    (store.sessions.filter fun s => s.userId = userId ∧ s.token ≠ excludeToken).foldl
      (fun revoked s =>
        revoked.filter (·.1 ≠ hash s.token) ++ [(hash s.token, s.absoluteExpiresAt)])
      (store.revoked.filter fun entry => now < entry.2)
  distinct := store.distinct.sublist filter_sublist

end RevocableStore

/-! ## Histories -/

inductive SessionOp where
  | create (token userId : String) (uid : UInt32) (ttlSecs : Nat)
  | validate (token : String) (uid : UInt32)
  | touch (token : String) (ttlSecs : Nat)
  | rotate (oldToken : String) (uid : UInt32) (newToken : String)
  | revokeAll
  | revokeAllExcept (userId excludeToken : String)

/-- An operation and the second it is made at. -/
structure SessionCall where
  now : Nat
  op : SessionOp

/-- The operation takes the session away. -/
def SessionOp.Revokes (op : SessionOp) (s : Session) : Prop :=
  op = .revokeAll ∨
    ∃ excludeToken, op = .revokeAllExcept s.userId excludeToken ∧ excludeToken ≠ s.token

/-- What an operation draws from `random_token`. -/
def SessionOp.draws : SessionOp → Option String
  | .create token _ _ _ => some token
  | .rotate _ _ newToken => some newToken
  | _ => none

namespace RevocableStore

variable (hash : String → Bytes)

def step (store : RevocableStore) (call : SessionCall) : RevocableStore :=
  match call.op with
  | .create token userId uid ttlSecs => (store.create call.now token userId uid ttlSecs).2
  | .validate _ _ => store
  | .touch token ttlSecs => (store.touch call.now token ttlSecs).2
  | .rotate oldToken uid newToken => (store.rotate call.now oldToken uid newToken).2
  | .revokeAll => store.revokeAll
  | .revokeAllExcept userId excludeToken => store.revokeAllExcept hash call.now userId excludeToken

/-- The store after a history of calls. -/
def after (history : List SessionCall) : RevocableStore := run (step hash) new history

variable {hash}

theorem after_concat (history : List SessionCall) (call : SessionCall) :
    after hash (history ++ [call]) = (after hash history).step hash call :=
  run_concat _ _ _ _

/-! ### Where a session comes from -/

variable {store : RevocableStore} {s s' : Session} {call : SessionCall}

/-- Everything a call can do to put `s'` into the store or leave it there. -/
inductive Origin (store : RevocableStore) (call : SessionCall) (s' : Session) : Prop
  | kept (hmem : s' ∈ store.sessions) (hkept : ¬ call.op.Revokes s')
  | touched (s : Session) (hmem : s ∈ store.sessions) (hlive : call.now < s.absoluteExpiresAt)
      (ttlSecs : Nat) (hop : call.op = .touch s.token ttlSecs)
      (hset : s' = { s with expiresAt := min (call.now + ttlSecs) s.absoluteExpiresAt })
  | graced (s : Session) (hmem : s ∈ store.sessions) (hvalid : s.isValid call.now)
      (newToken : String) (hop : call.op = .rotate s.token s.uid newToken)
      (hset : s' = { s with
        expiresAt := min (call.now + rotationGraceSecs) s.absoluteExpiresAt })
  | created (ttlSecs : Nat) (hop : call.op = .create s'.token s'.userId s'.uid ttlSecs)
      (hok : (store.create call.now s'.token s'.userId s'.uid ttlSecs).1 = .ok s')
      (hset : s' = ⟨s'.token, s'.userId, s'.uid, call.now, call.now + ttlSecs,
        call.now + absoluteTtlSecs⟩)
  | rotated (old : Session) (hmem : old ∈ store.sessions) (hvalid : old.isValid call.now)
      (hop : call.op = .rotate old.token old.uid s'.token)
      (hok : (store.rotate call.now old.token old.uid s'.token).1 = some s'.token)
      (hset : s' = ⟨s'.token, old.userId, old.uid, call.now,
        min (call.now + defaultTtlSecs) old.absoluteExpiresAt, old.absoluteExpiresAt⟩)

theorem mem_setExpiry (hs : s ∈ store.sessions) {expiresAt : Nat}
    (h : s' ∈ (store.setExpiry s.token expiresAt).sessions) :
    s' = { s with expiresAt } ∨ s' ∈ store.sessions ∧ s'.token ≠ s.token := by
  obtain ⟨s₀, hmem, rfl⟩ := mem_map.mp h
  split
  next htoken =>
    -- one session a token
    have hsame : some s₀ = some s := by
      rw [← get_of_mem hmem, ← get_of_mem hs, htoken]
    cases hsame
    exact .inl rfl
  next htoken => exact .inr ⟨hmem, htoken⟩

theorem mem_insert (h : s' ∈ (store.insert s).sessions) :
    s' = s ∨ s' ∈ store.sessions ∧ s'.token ≠ s.token := by
  rcases mem_append.mp h with hold | hnew
  · obtain ⟨hmem, htoken⟩ := mem_filter.mp hold
    exact .inr ⟨hmem, of_decide_eq_true htoken⟩
  · exact .inl (mem_singleton.mp hnew)

theorem rotate_cases (now : Nat) (oldToken : String) (uid : UInt32) (newToken : String) :
    store.rotate now oldToken uid newToken = (none, store) ∨
      ∃ old ∈ store.sessions, old.token = oldToken ∧ old.uid = uid ∧ old.isValid now ∧
        store.rotate now oldToken uid newToken = (some newToken,
          (store.setExpiry old.token (min (now + rotationGraceSecs) old.absoluteExpiresAt)).insert
            ⟨newToken, old.userId, old.uid, now, min (now + defaultTtlSecs) old.absoluteExpiresAt,
              old.absoluteExpiresAt⟩) := by
  unfold rotate
  cases hget : store.get oldToken with
  | none => exact .inl rfl
  | some old =>
    obtain ⟨hmem, rfl⟩ := mem_of_get hget
    simp only
    split
    next => exact .inl rfl
    next hpass =>
      simp only [Bool.or_eq_true, Bool.not_eq_true', decide_eq_true_eq, not_or,
        Bool.not_eq_false, ne_eq, not_not] at hpass
      obtain ⟨hvalid, rfl⟩ := hpass
      exact .inr ⟨old, hmem, rfl, rfl, hvalid, rfl⟩

theorem origin_of_mem_step (h : s' ∈ (store.step hash call).sessions) : Origin store call s' := by
  obtain ⟨now, op⟩ := call
  cases op with
  | create token userId uid ttlSecs =>
    -- expired sessions are pruned first, whether or not there is room
    obtain ⟨kept, hlive, ⟨-, hrefused⟩ | ⟨session, hsession, hmade⟩⟩ :=
      store.toSessionStore.create_cases now token userId uid ttlSecs
    · have hmem : s' ∈ kept := by
        have hstore : (store.step hash ⟨now, .create token userId uid ttlSecs⟩).sessions = kept :=
          congrArg (fun made => made.2.sessions) hrefused
        rwa [hstore] at h
      exact .kept (mem_of_mem_filter (hlive.subset hmem)) (by simp [SessionOp.Revokes])
    · have hmem : s' ∈ kept.filter (·.token ≠ token) ++ [session] := by
        have hstore : (store.step hash ⟨now, .create token userId uid ttlSecs⟩).sessions =
            kept.filter (·.token ≠ token) ++ [session] :=
          congrArg (fun made => made.2.sessions) hmade
        rwa [hstore] at h
      rcases mem_append.mp hmem with hold | hnew
      · have hkept := mem_of_mem_filter (hlive.subset (mem_of_mem_filter hold))
        exact .kept hkept (by simp [SessionOp.Revokes])
      · have hs' : s' = session := mem_singleton.mp hnew
        subst hs' hsession
        exact .created ttlSecs rfl (congrArg Prod.fst hmade) rfl
  | validate token uid => exact .kept h (by simp [SessionOp.Revokes])
  | touch token ttlSecs =>
    simp only [step, touch] at h
    split at h
    next s hget =>
      obtain ⟨hmem, rfl⟩ := mem_of_get hget
      split at h
      next hlive =>
        rcases mem_setExpiry hmem h with hset | ⟨hold, -⟩
        · exact .touched s hmem hlive ttlSecs rfl hset
        · exact .kept hold (by simp [SessionOp.Revokes])
      next => exact .kept h (by simp [SessionOp.Revokes])
    next => exact .kept h (by simp [SessionOp.Revokes])
  | rotate oldToken uid newToken =>
    rcases store.rotate_cases now oldToken uid newToken with
      hrefused | ⟨old, hmem, rfl, rfl, hvalid, hdone⟩
    · simp only [step, hrefused] at h
      exact .kept h (by simp [SessionOp.Revokes])
    · simp only [step, hdone] at h
      rcases mem_insert h with rfl | ⟨hgraced, -⟩
      · exact .rotated old hmem hvalid rfl (congrArg Prod.fst hdone) rfl
      · rcases mem_setExpiry hmem hgraced with hset | ⟨hold, -⟩
        · exact .graced old hmem hvalid newToken rfl hset
        · exact .kept hold (by simp [SessionOp.Revokes])
  | revokeAll => cases h
  | revokeAllExcept userId excludeToken =>
    obtain ⟨hmem, hstays⟩ := mem_filter.mp h
    refine .kept hmem ?_
    rintro (hop | ⟨exclude, hop, hne⟩)
    · cases hop
    · cases hop
      simp only [ne_eq, not_true_eq_false, false_or, decide_eq_true_eq] at hstays
      exact hne hstays.symm

/-! ### Descent -/

variable {history : List SessionCall} {now : Nat} {token : String} {uid : UInt32}

/-- The last call of the history issued `token`, which descends through rotations from a `create`
for `userId` and `uid` at second `createdAt`. -/
inductive Issued (hash : String → Bytes) :
    List SessionCall → String → String → UInt32 → Nat → Prop
  | create {before : List SessionCall} {now : Nat} {token userId : String} {uid : UInt32}
      {ttlSecs : Nat} {session : Session}
      (hok : ((after hash before).create now token userId uid ttlSecs).1 = .ok session) :
      Issued hash (before ++ [⟨now, .create token userId uid ttlSecs⟩]) token userId uid now
  | rotate {issue between : List SessionCall} {oldToken userId : String} {uid : UInt32}
      {createdAt now : Nat} {newToken : String}
      (hold : Issued hash issue oldToken userId uid createdAt)
      (hok : ((after hash (issue ++ between)).rotate now oldToken uid newToken).1 = some newToken) :
      Issued hash (issue ++ between ++ [⟨now, .rotate oldToken uid newToken⟩]) newToken userId uid
        createdAt

/-- The session descends from a `create`, has its absolute deadline, and has not been revoked
since its token was issued. -/
def Granted (hash : String → Bytes) (history : List SessionCall) (s : Session) : Prop :=
  ∃ issue post createdAt, history = issue ++ post ∧
    Issued hash issue s.token s.userId s.uid createdAt ∧
    s.absoluteExpiresAt = createdAt + absoluteTtlSecs ∧ ∀ call ∈ post, ¬ call.op.Revokes s

theorem Granted.concat (h : Granted hash history s) (htoken : s'.token = s.token)
    (huser : s'.userId = s.userId) (huid : s'.uid = s.uid)
    (habsolute : s'.absoluteExpiresAt = s.absoluteExpiresAt) (hkept : ¬ call.op.Revokes s') :
    Granted hash (history ++ [call]) s' := by
  obtain ⟨issue, post, createdAt, rfl, hissued, hdeadline, hpost⟩ := h
  refine ⟨issue, post ++ [call], createdAt, append_assoc _ _ _, ?_, ?_, ?_⟩
  · rw [htoken, huser, huid]
    exact hissued
  · rw [habsolute, hdeadline]
  · intro c hc
    rcases mem_append.mp hc with hold | hnew
    · have hnot := hpost c hold
      rw [SessionOp.Revokes] at hnot ⊢
      rwa [htoken, huser]
    · rwa [mem_singleton.mp hnew]

theorem granted_of_mem : ∀ s ∈ (after hash history).sessions, Granted hash history s := by
  induction history using reverseRecOn with
  | nil =>
    intro s hs
    cases hs
  | append_singleton history call ih =>
    intro s' hs'
    rw [after_concat] at hs'
    obtain ⟨now, op⟩ := call
    cases origin_of_mem_step hs' with
    | kept hmem hkept => exact (ih s' hmem).concat rfl rfl rfl rfl hkept
    | touched s hmem hlive ttlSecs hop hset =>
      subst hset
      apply (ih s hmem).concat rfl rfl rfl rfl
      cases hop
      simp [SessionOp.Revokes]
    | graced s hmem hvalid newToken hop hset =>
      subst hset
      apply (ih s hmem).concat rfl rfl rfl rfl
      cases hop
      simp [SessionOp.Revokes]
    | created ttlSecs hop hok hset =>
      cases hop
      refine ⟨_, [], now, (append_nil _).symm, .create hok, ?_, ?_⟩
      · rw [hset]
      · intro c hc
        cases hc
    | rotated old hmem hvalid hop hok hset =>
      -- the new token continues the line of the old one
      obtain ⟨issue, post, createdAt, rfl, hissued, hdeadline, -⟩ := ih old hmem
      have huid : s'.uid = old.uid := by rw [hset]
      have huser : s'.userId = old.userId := by rw [hset]
      cases hop
      refine ⟨_, [], createdAt, (append_nil _).symm, ?_, ?_, ?_⟩
      · rw [huid, huser]
        exact .rotate hissued hok
      · rw [hset]
        exact hdeadline
      · intro c hc
        cases hc

theorem validate_eq_ok {session : Session} (h : store.validate hash now token uid = .ok session) :
    store.get token = some session ∧ session.isValid now ∧ session.uid = uid := by
  unfold validate at h
  split at h
  · cases h
  · split at h
    next => cases h
    next s hget =>
      split at h
      next => cases h
      next hvalid =>
        split at h
        next => cases h
        next huid =>
          cases h
          refine ⟨hget, ?_, not_not.mp huid⟩
          simpa using hvalid

/-- **A valid token was granted.** It descends through rotations from a `create` for the same user
and UID less than the absolute lifetime ago, and since it was issued there has been no `revoke_all`,
and no `revoke_all_except` of that user that excluded another token. -/
theorem validate_granted {history : List SessionCall} {now : Nat} {token : String} {uid : UInt32}
    {session : Session} (h : (after hash history).validate hash now token uid = .ok session) :
    ∃ issue post createdAt, history = issue ++ post ∧
      Issued hash issue token session.userId uid createdAt ∧ now < createdAt + absoluteTtlSecs ∧
      ∀ call ∈ post, call.op ≠ .revokeAll ∧
        ∀ excludeToken, call.op = .revokeAllExcept session.userId excludeToken →
          excludeToken = token := by
  obtain ⟨hget, hvalid, rfl⟩ := validate_eq_ok h
  obtain ⟨hmem, rfl⟩ := mem_of_get hget
  obtain ⟨issue, post, createdAt, rfl, hissued, hdeadline, hpost⟩ := granted_of_mem session hmem
  have hlive : now < session.absoluteExpiresAt := by
    rw [Session.isValid, Bool.and_eq_true] at hvalid
    exact of_decide_eq_true hvalid.2
  refine ⟨issue, post, createdAt, rfl, hissued, hdeadline ▸ hlive, ?_⟩
  intro call hcall
  have hnot := hpost call hcall
  rw [SessionOp.Revokes, not_or, not_exists] at hnot
  refine ⟨hnot.1, ?_⟩
  intro excludeToken hop
  by_contra hne
  exact hnot.2 excludeToken ⟨hop, hne⟩

/-- Created at second 0, rotated at 5, with another session of the user revoked at 8. -/
def rotatedHistory : List SessionCall :=
  [⟨0, .create "a" "vault" 1000 900⟩, ⟨5, .rotate "a" 1000 "b"⟩, ⟨8, .revokeAllExcept "vault" "b"⟩]

theorem validate_granted_rotated :
    ∃ session, (after utf8 rotatedHistory).validate utf8 9 "b" 1000 = .ok session ∧
      ∃ issue post createdAt, rotatedHistory = issue ++ post ∧
        Issued utf8 issue "b" session.userId 1000 createdAt ∧ 9 < createdAt + absoluteTtlSecs ∧
        ∀ call ∈ post, call.op ≠ .revokeAll ∧
          ∀ excludeToken, call.op = .revokeAllExcept session.userId excludeToken →
            excludeToken = "b" := by
  have hok : (after utf8 rotatedHistory).validate utf8 9 "b" 1000 =
      .ok ⟨"b", "vault", 1000, 5, 905, 86400⟩ := by rfl
  exact ⟨_, hok, validate_granted hok⟩

/-! ### Idle deadlines -/

variable {bound : Nat} {before rest middle : List SessionCall} {newToken : String}

def Drawn (history : List SessionCall) (token : String) : Prop :=
  ∃ call ∈ history, call.op.draws = some token

/-- The history has a successful `rotate(token)`. -/
def RotatedIn (hash : String → Bytes) (history : List SessionCall) (token : String) : Prop :=
  ∃ before now uid newToken rest, history = before ++ ⟨now, .rotate token uid newToken⟩ :: rest ∧
    ((after hash before).rotate now token uid newToken).1 = some newToken

/-- The call draws a token not drawn before, touches only before the idle deadline, and neither
touches nor rotates a token that has been rotated. -/
structure Proper (hash : String → Bytes) (before : List SessionCall) (call : SessionCall) :
    Prop where
  draws : ∀ token, call.op.draws = some token → ¬ Drawn before token
  touchLive : ∀ token ttlSecs, call.op = .touch token ttlSecs →
    ∀ s, (after hash before).get token = some s → call.now < s.expiresAt
  touch : ∀ token ttlSecs, call.op = .touch token ttlSecs → ¬ RotatedIn hash before token
  rotate : ∀ token uid newToken, call.op = .rotate token uid newToken →
    ¬ RotatedIn hash before token

def Orderly (hash : String → Bytes) (history : List SessionCall) : Prop :=
  ∀ before call rest, history = before ++ call :: rest → Proper hash before call

def Chronological (history : List SessionCall) : Prop :=
  history.Pairwise fun call later => call.now ≤ later.now

theorem Issued.drawn {issue : List SessionCall} {userId : String} {createdAt : Nat}
    (h : Issued hash issue token userId uid createdAt) : Drawn issue token := by
  cases h with
  | create hok => exact ⟨_, mem_append_right _ mem_cons_self, rfl⟩
  | rotate hold hok => exact ⟨_, mem_append_right _ mem_cons_self, rfl⟩

theorem Drawn.append (h : Drawn history token) (more : List SessionCall) :
    Drawn (history ++ more) token := by
  obtain ⟨call, hcall, hdraws⟩ := h
  exact ⟨call, mem_append_left _ hcall, hdraws⟩

theorem RotatedIn.append (h : RotatedIn hash history token) (more : List SessionCall) :
    RotatedIn hash (history ++ more) token := by
  obtain ⟨before, now, uid, newToken, rest, rfl, hok⟩ := h
  exact ⟨before, now, uid, newToken, rest ++ more, by simp, hok⟩

theorem drawn_of_mem (hs : s ∈ (after hash history).sessions) : Drawn history s.token := by
  obtain ⟨issue, post, createdAt, rfl, hissued, -⟩ := granted_of_mem s hs
  exact hissued.drawn.append post

/-- The idle deadline of `token`, if it has one, is at most `bound`. -/
def Capped (bound : Nat) (token : String) (store : RevocableStore) : Prop :=
  ∀ s ∈ store.sessions, s.token = token → s.expiresAt ≤ bound

/-- The call moves the idle deadline of the session. -/
def Moves (call : SessionCall) (s : Session) : Prop :=
  (∃ ttlSecs, call.op = .touch s.token ttlSecs) ∨
    s.isValid call.now ∧ ∃ uid newToken, call.op = .rotate s.token uid newToken

theorem Capped.step (h : Capped bound token store) (hdraws : call.op.draws ≠ some token)
    (hmoves : ∀ s ∈ store.sessions, s.token = token → ¬ Moves call s) :
    Capped bound token (store.step hash call) := by
  intro s' hs' htoken
  cases origin_of_mem_step hs' with
  | kept hmem hkept => exact h s' hmem htoken
  | touched s hmem hlive ttlSecs hop hset =>
    subst hset
    exact absurd (.inl ⟨ttlSecs, hop⟩) (hmoves s hmem htoken)
  | graced s hmem hvalid newToken hop hset =>
    subst hset
    exact absurd (.inr ⟨hvalid, s.uid, newToken, hop⟩) (hmoves s hmem htoken)
  | created ttlSecs hop hok hset =>
    rw [hop, htoken] at hdraws
    exact absurd rfl hdraws
  | rotated old hmem hvalid hop hok hset =>
    rw [hop, htoken] at hdraws
    exact absurd rfl hdraws

theorem capped_run {since : List SessionCall} (h : Capped bound token (after hash before))
    (hdrawn : Drawn before token) (horderly : Orderly hash (before ++ since))
    (hmoves : ∀ first call rest, since = first ++ call :: rest →
      ∀ s ∈ (after hash (before ++ first)).sessions, s.token = token → s.expiresAt ≤ bound →
        ¬ Moves call s) : Capped bound token (after hash (before ++ since)) := by
  -- from the end: the last call finds a store in which the bound still holds
  induction since using reverseRecOn with
  | nil => simpa using h
  | append_singleton first call ih =>
    have hearlier : Capped bound token (after hash (before ++ first)) := by
      apply ih
      · intro before' call' rest' hsplit
        apply horderly before' call' (rest' ++ [call])
        rw [← append_assoc, hsplit]
        simp
      · intro first' call' rest' hsplit
        apply hmoves first' call' (rest' ++ [call])
        rw [hsplit]
        simp
    have hfits : Proper hash (before ++ first) call := horderly _ call [] (by simp)
    rw [← append_assoc, after_concat]
    apply hearlier.step
    · intro hdraws
      exact hfits.draws token hdraws (hdrawn.append first)
    · intro s hs htoken
      exact hmoves first call [] rfl s hs htoken (hearlier s hs htoken)

theorem validate_of_capped (h : Capped bound token store) (hnow : bound ≤ now) :
    ∃ e, store.validate hash now token uid = .error e := by
  cases hval : store.validate hash now token uid with
  | error e => exact ⟨e, rfl⟩
  | ok session =>
    obtain ⟨hget, hvalid, -⟩ := validate_eq_ok hval
    obtain ⟨hmem, htoken⟩ := mem_of_get hget
    have hcap := h session hmem htoken
    rw [Session.isValid, Bool.and_eq_true] at hvalid
    have hlive : now < session.expiresAt := of_decide_eq_true hvalid.1
    omega

theorem capped_of_rotate {oldToken : String} (hne : newToken ≠ oldToken)
    (hok : (store.rotate now oldToken uid newToken).1 = some newToken) :
    Capped (now + rotationGraceSecs) oldToken
      (store.step hash ⟨now, .rotate oldToken uid newToken⟩) := by
  intro s' hs' htoken
  rcases store.rotate_cases now oldToken uid newToken with
    hrefused | ⟨old, hmem, rfl, rfl, hvalid, hdone⟩
  · rw [hrefused] at hok
    cases hok
  · simp only [step, hdone] at hs'
    rcases mem_insert hs' with rfl | ⟨hgraced, -⟩
    · exact absurd htoken hne
    · rcases mem_setExpiry hmem hgraced with rfl | ⟨-, hother⟩
      · exact Nat.min_le_left _ _
      · exact absurd htoken hother

/-- `validate` fails for `token` because the idle deadline has come. -/
def Lapsed (store : RevocableStore) (token : String) (now : Nat) : Prop :=
  ∃ s, store.get token = some s ∧ s.expiresAt ≤ now

theorem Chronological.le {later : SessionCall} (h : Chronological (before ++ call :: rest))
    (hlater : later ∈ rest) : call.now ≤ later.now := by
  have hcall := (pairwise_append.mp h).2.1
  exact (pairwise_cons.mp hcall).1 later hlater

theorem Orderly.upTo (h : Orderly hash (before ++ call :: (middle ++ rest))) :
    Orderly hash (before ++ call :: middle) := by
  intro before' call' rest' hsplit
  apply h before' call' (rest' ++ rest)
  have hall := congrArg (· ++ rest) hsplit
  simpa using hall

theorem lapsed_final (hlapsed : Lapsed (after hash before) token now)
    (hlater : ∀ call ∈ middle, now ≤ call.now)
    (horderly : Orderly hash (before ++ ⟨now, .validate token uid⟩ :: middle)) :
    Capped now token (after hash (before ++ ⟨now, .validate token uid⟩ :: middle)) := by
  obtain ⟨s, hget, hexpired⟩ := hlapsed
  obtain ⟨hmem, rfl⟩ := mem_of_get hget
  have hstart : Capped now s.token (after hash (before ++ [⟨now, .validate s.token uid⟩])) := by
    rw [after_concat]
    intro s' hs' htoken
    have hget' := get_of_mem hs'
    rw [htoken] at hget'
    have hsame : some s' = some s := hget'.symm.trans hget
    cases hsame
    exact hexpired
  have hdrawn := (drawn_of_mem hmem).append [⟨now, .validate s.token uid⟩]
  rw [append_cons] at horderly ⊢
  apply capped_run hstart hdrawn horderly
  intro first call rest hsplit s' hs' htoken hcap hmoves
  have hlate : now ≤ call.now := hlater call (by simp [hsplit])
  rcases hmoves with ⟨ttlSecs, htouch⟩ | ⟨hvalid, -⟩
  · -- touched before the deadline, which has passed
    have hfits : Proper hash (before ++ [⟨now, .validate s.token uid⟩] ++ first) call :=
      horderly _ call rest (by simp [hsplit])
    have hlive := hfits.touchLive s'.token ttlSecs htouch s' (get_of_mem hs')
    omega
  · rw [Session.isValid, Bool.and_eq_true] at hvalid
    have hlive : call.now < s'.expiresAt := of_decide_eq_true hvalid.1
    omega

theorem grace_final {old : String}
    (hok : ((after hash before).rotate now old uid newToken).1 = some newToken)
    (horderly : Orderly hash (before ++ ⟨now, .rotate old uid newToken⟩ :: middle)) :
    Capped (now + rotationGraceSecs) old
      (after hash (before ++ ⟨now, .rotate old uid newToken⟩ :: middle)) := by
  have hold : Drawn before old := by
    rcases (after hash before).rotate_cases now old uid newToken with
      hrefused | ⟨s, hmem, rfl, -, -, -⟩
    · rw [hrefused] at hok
      cases hok
    · exact drawn_of_mem hmem
  -- a token is drawn once, so the new session is not the old one again
  have hne : newToken ≠ old := by
    rintro rfl
    exact (horderly before _ middle rfl).draws newToken rfl hold
  have hrotated : RotatedIn hash (before ++ [⟨now, .rotate old uid newToken⟩]) old :=
    ⟨before, now, uid, newToken, [], rfl, hok⟩
  rw [append_cons] at horderly ⊢
  apply capped_run _ (hold.append _) horderly
  · intro first call rest hsplit s hs htoken hcap hmoves
    have hfits : Proper hash (before ++ [⟨now, .rotate old uid newToken⟩] ++ first) call :=
      horderly _ call rest (by simp [hsplit])
    rw [Moves, htoken] at hmoves
    rcases hmoves with ⟨ttlSecs, htouch⟩ | ⟨-, uid', newToken', hrotate⟩
    · exact hfits.touch old ttlSecs htouch (hrotated.append first)
    · exact hfits.rotate old uid' newToken' hrotate (hrotated.append first)
  · rw [after_concat]
    exact capped_of_rotate hne hok

/-- **Expiry and grace are final in orderly histories.** If no token is drawn twice, none is touched
after its idle deadline, and a rotated one is neither touched nor rotated again, then a token that
has failed for its idle deadline fails ever after, and a rotated one from the end of its grace
window on. -/
theorem expiry_final {history : List SessionCall} (hchron : Chronological history)
    (horderly : Orderly hash history) :
    (∀ before middle rest token uid uid' now later,
      history = before ++ ⟨now, .validate token uid⟩ ::
        (middle ++ ⟨later, .validate token uid'⟩ :: rest) →
      Lapsed (after hash before) token now →
      ∃ e, (after hash (before ++ ⟨now, .validate token uid⟩ :: middle)).validate hash later token
        uid' = .error e) ∧
    ∀ before middle rest old uid newToken uid' now later,
      history = before ++ ⟨now, .rotate old uid newToken⟩ ::
        (middle ++ ⟨later, .validate old uid'⟩ :: rest) →
      ((after hash before).rotate now old uid newToken).1 = some newToken →
      now + rotationGraceSecs ≤ later →
      ∃ e, (after hash (before ++ ⟨now, .rotate old uid newToken⟩ :: middle)).validate hash later
        old uid' = .error e := by
  constructor
  · intro before middle rest token uid uid' now later hsplit hlapsed
    subst hsplit
    have hlater : ∀ call ∈ middle, now ≤ call.now := fun call hcall => hchron.le (by simp [hcall])
    have hnow : now ≤ later := hchron.le (mem_append_right _ mem_cons_self)
    exact validate_of_capped (lapsed_final hlapsed hlater horderly.upTo) hnow
  · intro before middle rest old uid newToken uid' now later hsplit hok hgrace
    subst hsplit
    exact validate_of_capped (grace_final hok horderly.upTo) hgrace

theorem Orderly.concat (h : Orderly hash history) (hcall : Proper hash history call) :
    Orderly hash (history ++ [call]) := by
  intro before call' rest hsplit
  rcases eq_nil_or_concat rest with rfl | ⟨rest, last, rfl⟩
  · obtain ⟨rfl, hlast⟩ := append_inj' hsplit rfl
    cases hlast
    exact hcall
  · have hconcat : history ++ [call] = (before ++ call' :: rest) ++ [last] := by
      rw [hsplit]
      simp
    obtain ⟨rfl, -⟩ := append_inj' hconcat rfl
    exact h before call' rest rfl

/-- Rotated at second 5; the old token is presented at 70. -/
def graceHistory : List SessionCall :=
  [⟨0, .create "a" "vault" 1000 900⟩, ⟨5, .rotate "a" 1000 "b"⟩, ⟨70, .validate "a" 1000⟩]

theorem graceHistory_orderly : Orderly utf8 graceHistory := by
  have hnil : Orderly utf8 [] := by
    intro before call rest hsplit
    simp at hsplit
  have hcreate : Proper utf8 [] ⟨0, .create "a" "vault" 1000 900⟩ := by
    constructor <;> simp [Drawn]
  have hrotate : Proper utf8 [⟨0, .create "a" "vault" 1000 900⟩] ⟨5, .rotate "a" 1000 "b"⟩ := by
    constructor
    · intro token htoken
      cases htoken
      simp [Drawn, SessionOp.draws]
    · intro token ttlSecs hop
      cases hop
    · intro token ttlSecs hop
      cases hop
    · rintro token uid newToken hop ⟨before, now, uid', newToken', rest, hsplit, -⟩
      rcases before with _ | ⟨first, before⟩
      · cases hsplit
      · simp at hsplit
  exact ((hnil.concat hcreate).concat hrotate).concat (by constructor <;> simp [SessionOp.draws])

theorem expiry_final_grace :
    ∃ e, (after utf8 [⟨0, .create "a" "vault" 1000 900⟩, ⟨5, .rotate "a" 1000 "b"⟩]).validate utf8 70
      "a" 1000 = .error e := by
  have hchron : Chronological graceHistory := by
    simp [Chronological, graceHistory]
  have hok : ((after utf8 [⟨0, .create "a" "vault" 1000 900⟩]).rotate 5 "a" 1000 "b").1 =
      some "b" := by rfl
  exact (expiry_final hchron graceHistory_orderly).2 [⟨0, .create "a" "vault" 1000 900⟩] [] [] "a"
    1000 "b" 1000 5 70 rfl hok (by decide)

/-- A token past its idle deadline at 20 is touched at 21 and validates at 22; one rotated at 0 is
touched at 30 and validates at 100. -/
theorem expiry_undone :
    (Chronological [⟨0, .create "a" "vault" 1000 10⟩, ⟨20, .validate "a" 1000⟩, ⟨21, .touch "a" 900⟩,
        ⟨22, .validate "a" 1000⟩] ∧
      Lapsed (after utf8 [⟨0, .create "a" "vault" 1000 10⟩]) "a" 20 ∧
      (after utf8 [⟨0, .create "a" "vault" 1000 10⟩]).validate utf8 20 "a" 1000 =
        .error (.auth "session invalid") ∧
      ∃ session, (after utf8 [⟨0, .create "a" "vault" 1000 10⟩, ⟨20, .validate "a" 1000⟩,
        ⟨21, .touch "a" 900⟩]).validate utf8 22 "a" 1000 = .ok session) ∧
    Chronological [⟨0, .create "a" "vault" 1000 900⟩, ⟨0, .rotate "a" 1000 "b"⟩,
        ⟨30, .touch "a" 900⟩, ⟨100, .validate "a" 1000⟩] ∧
      ((after utf8 [⟨0, .create "a" "vault" 1000 900⟩]).rotate 0 "a" 1000 "b").1 = some "b" ∧
      0 + rotationGraceSecs ≤ 100 ∧
      ∃ session, (after utf8 [⟨0, .create "a" "vault" 1000 900⟩, ⟨0, .rotate "a" 1000 "b"⟩,
        ⟨30, .touch "a" 900⟩]).validate utf8 100 "a" 1000 = .ok session := by
  refine ⟨⟨by simp [Chronological], ⟨⟨"a", "vault", 1000, 0, 10, 86400⟩, rfl, by decide⟩, rfl,
    ⟨"a", "vault", 1000, 0, 921, 86400⟩, rfl⟩, by simp [Chronological], rfl, by decide,
    ⟨"a", "vault", 1000, 0, 930, 86400⟩, rfl⟩

end RevocableStore

end PwdNow.Daemon
