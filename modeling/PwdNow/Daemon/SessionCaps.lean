import PwdNow.Daemon.Sessions

/-!
# Daemon — the caps of the session store

`MAX_SESSIONS_PER_USER` and `MAX_TOTAL_SESSIONS` of `daemon/src/auth/session.rs`. `create` drops
what has expired, then the user's oldest session, and refuses if the store is full all the same.
`rotate` looks at neither cap.
-/

namespace PwdNow.Daemon

open Kit List

/-- The sessions of a user. -/
def ownSessions (sessions : List Session) (userId : String) : List Session :=
  sessions.filter (·.userId = userId)

/-- The sessions of a user that are valid at second `now`. -/
def RevocableStore.validSessions (store : RevocableStore) (userId : String) (now : Nat) :
    List Session :=
  (ownSessions store.sessions userId).filter (·.isValid now)

open RevocableStore

/-- Both caps, counted over every entry of the map, valid or not. -/
structure WithinCaps (sessions : List Session) : Prop where
  user : ∀ userId, (ownSessions sessions userId).length ≤ maxSessionsPerUser
  total : sessions.length ≤ maxTotalSessions

/-- There is room for one more session of the user. -/
structure HasRoomFor (sessions : List Session) (userId : String) : Prop where
  user : (ownSessions sessions userId).length < maxSessionsPerUser
  total : sessions.length < maxTotalSessions

instance (sessions : List Session) (userId : String) : Decidable (HasRoomFor sessions userId) :=
  decidable_of_iff ((ownSessions sessions userId).length < maxSessionsPerUser ∧
      sessions.length < maxTotalSessions)
    ⟨fun h => ⟨h.1, h.2⟩, fun h => ⟨h.user, h.total⟩⟩

/-- A rotation that will succeed finds room for the new session. -/
def RotatesWithRoom (store : RevocableStore) (call : SessionCall) : Prop :=
  match call.op with
  | .rotate oldToken uid _ => ∀ old ∈ store.get oldToken, old.isValid call.now → old.uid = uid →
      HasRoomFor store.sessions old.userId
  | _ => True

instance (store : RevocableStore) (call : SessionCall) :
    Decidable (RotatesWithRoom store call) := by
  unfold RotatesWithRoom
  split <;> infer_instance

/-! ## Fewer sessions, other deadlines, one more session -/

section

variable {sessions kept : List Session} {userId : String}

theorem length_ownSessions_le (hkept : kept.Sublist sessions) :
    (ownSessions kept userId).length ≤ (ownSessions sessions userId).length :=
  (hkept.filter _).length_le

theorem WithinCaps.sublist (h : WithinCaps sessions) (hkept : kept.Sublist sessions) :
    WithinCaps kept where
  user userId := (length_ownSessions_le hkept).trans (h.user userId)
  total := hkept.length_le.trans h.total

theorem HasRoomFor.sublist (h : HasRoomFor sessions userId) (hkept : kept.Sublist sessions) :
    HasRoomFor kept userId where
  user := (length_ownSessions_le hkept).trans_lt h.user
  total := hkept.length_le.trans_lt h.total

variable {f : Session → Session}

section

variable (hf : ∀ s, (f s).userId = s.userId)
include hf

theorem length_ownSessions_map :
    (ownSessions (sessions.map f) userId).length = (ownSessions sessions userId).length := by
  rw [ownSessions, filter_map, length_map, ownSessions]
  congr 2
  funext s
  simp [hf]

theorem WithinCaps.map (h : WithinCaps sessions) :
    WithinCaps (sessions.map f) where
  user userId := (length_ownSessions_map hf).trans_le (h.user userId)
  total := (length_map f).trans_le h.total

theorem HasRoomFor.map (h : HasRoomFor sessions userId) :
    HasRoomFor (sessions.map f) userId where
  user := (length_ownSessions_map hf).trans_lt h.user
  total := (length_map f).trans_lt h.total

end

theorem WithinCaps.concat (h : WithinCaps sessions) {session : Session}
    (hroom : HasRoomFor sessions session.userId) : WithinCaps (sessions ++ [session]) where
  user userId := by
    rw [ownSessions, filter_append, length_append]
    by_cases huser : session.userId = userId
    · subst huser
      have hlt := hroom.user
      simp only [ownSessions] at hlt
      simp only [filter_cons, decide_true, if_true, filter_nil, length_singleton]
      omega
    · have hle := h.user userId
      simp only [ownSessions] at hle
      simpa [huser] using hle
  total := by
    have hlt := hroom.total
    rw [length_append, length_singleton]
    omega

theorem length_ownSessions_evict {oldest : Session} (hmem : oldest ∈ ownSessions sessions userId) :
    (ownSessions (sessions.filter (·.token ≠ oldest.token)) userId).length <
      (ownSessions sessions userId).length := by
  rw [ownSessions, filter_comm]
  refine length_filter_lt_length_iff_exists.mpr ⟨oldest, hmem, ?_⟩
  simp

end

namespace RevocableStore

variable {hash : String → Bytes} {store : RevocableStore}

/-! ## One call -/

section

variable (h : WithinCaps store.sessions)
include h

/-- **`create` makes room first.** -/
theorem create_withinCaps (now : Nat) (token userId : String) (uid : UInt32) (ttlSecs : Nat) :
    WithinCaps (store.toSessionStore.create now token userId uid ttlSecs).2.sessions := by
  unfold SessionStore.create
  extract_lets session live own kept
  have hlive : live.Sublist store.sessions := filter_sublist
  have hown : own = ownSessions live userId := rfl
  have hcap : own.length ≤ maxSessionsPerUser := (h.sublist hlive).user userId
  -- what is kept is part of what is live, with room for one more session of the user
  have hkept : kept.Sublist live ∧ (ownSessions kept userId).length < maxSessionsPerUser := by
    show (if own.length ≥ maxSessionsPerUser then _ else live).Sublist live ∧
      (ownSessions (if own.length ≥ maxSessionsPerUser then _ else live) userId).length <
        maxSessionsPerUser
    split
    next hfull =>
      split
      next oldest holdest =>
        refine ⟨filter_sublist, ?_⟩
        have hmem : oldest ∈ ownSessions live userId := argmin_mem holdest
        exact (length_ownSessions_evict hmem).trans_le hcap
      next hnone =>
        -- eight sessions have an oldest one
        rw [argmin_eq_none.mp hnone] at hfull
        exact absurd hfull (by decide)
    next hroom => exact ⟨Sublist.refl _, not_le.mp hroom⟩
  have hcapped : WithinCaps kept := (h.sublist hlive).sublist hkept.1
  split
  next => exact hcapped
  next hroom =>
    refine (hcapped.sublist filter_sublist).concat ?_
    exact HasRoomFor.sublist ⟨hkept.2, not_le.mp hroom⟩ filter_sublist

theorem setExpiry_withinCaps (token : String) (expiresAt : Nat) :
    WithinCaps (store.setExpiry token expiresAt).sessions := by
  apply h.map
  intro s
  split <;> rfl

theorem insert_withinCaps {session : Session} (hroom : HasRoomFor store.sessions session.userId) :
    WithinCaps (store.insert session).sessions :=
  (h.sublist filter_sublist).concat (hroom.sublist filter_sublist)

theorem rotate_withinCaps {now : Nat} {oldToken newToken : String} {uid : UInt32}
    (hroom : RotatesWithRoom store ⟨now, .rotate oldToken uid newToken⟩) :
    WithinCaps (store.rotate now oldToken uid newToken).2.sessions := by
  rcases store.rotate_cases now oldToken uid newToken with
    hrefused | ⟨old, hmem, rfl, rfl, hvalid, hdone⟩
  · rw [hrefused]
    exact h
  · rw [hdone]
    have hfound := hroom old (get_of_mem hmem) hvalid rfl
    apply insert_withinCaps (setExpiry_withinCaps h _ _)
    -- another deadline does not take room
    apply hfound.map
    intro s
    split <;> rfl

/-- **One call keeps both caps.** -/
theorem withinCaps_step {call : SessionCall} (hroom : RotatesWithRoom store call) :
    WithinCaps (store.step hash call).sessions := by
  obtain ⟨now, op⟩ := call
  cases op with
  | create token userId uid ttlSecs => exact create_withinCaps h now token userId uid ttlSecs
  | validate token uid => exact h
  | touch token ttlSecs =>
    simp only [step, touch]
    split
    · split
      · exact setExpiry_withinCaps h _ _
      · exact h
    · exact h
  | rotate oldToken uid newToken => exact rotate_withinCaps h hroom
  | revokeAll => exact h.sublist (nil_sublist _)
  | revokeAllExcept userId excludeToken => exact h.sublist filter_sublist

end

end RevocableStore

/-! ## Histories -/

/-- **The caps are invariants**, as long as a rotation finds room: each user has at most
`MAX_SESSIONS_PER_USER` sessions valid at whatever second, and the store at most
`MAX_TOTAL_SESSIONS` entries. -/
theorem session_caps (hash : String → Bytes) (history : List SessionCall)
    (hroom : Along (step hash) .new history RotatesWithRoom) :
    (∀ userId now, ((after hash history).validSessions userId now).length ≤ maxSessionsPerUser) ∧
      (after hash history).sessions.length ≤ maxTotalSessions := by
  have hcapped : WithinCaps (after hash history).sessions := by
    refine Visits.invariant (I := fun store : RevocableStore => WithinCaps store.sessions)
      ⟨fun userId => ?_, ?_⟩ hroom
      (fun store call _ hcall h => withinCaps_step h hcall) (.last _ _ _)
    · exact Nat.zero_le _
    · exact Nat.zero_le _
  refine ⟨fun userId now => ?_, hcapped.total⟩
  exact (length_filter_le _ _).trans (hcapped.user userId)

/-- Eight sessions of one user, all at second 0. -/
def eightSessions : List SessionCall :=
  ["1", "2", "3", "4", "5", "6", "7", "8"].map fun token =>
    ⟨0, .create token "frank" 7000 defaultTtlSecs⟩

/-- Seven sessions can be rotated, and a ninth `create` evicts. -/
def roomyHistory : List SessionCall :=
  eightSessions.take 7 ++
    [⟨1, .rotate "1" 7000 "9"⟩, ⟨2, .touch "9" 60⟩, ⟨3, .create "10" "frank" 7000 60⟩]

theorem session_caps_roomyHistory :
    Along (step fun _ => []) .new roomyHistory RotatesWithRoom ∧
      (∀ userId now, ((after (fun _ => []) roomyHistory).validSessions
        userId now).length ≤ maxSessionsPerUser) ∧
      (after (fun _ => []) roomyHistory).sessions.length ≤ maxTotalSessions := by
  have hroom : Along (step fun _ => []) .new roomyHistory RotatesWithRoom := by
    decide +kernel
  exact ⟨hroom, session_caps _ _ hroom⟩

/-- The old session stays valid for its grace period, next to the new one and the other seven. -/
theorem rotation_exceeds_cap :
    ((after (fun _ => [])
      (eightSessions ++ [⟨0, .rotate "1" 7000 "9"⟩])).validSessions "frank" 0).length = 9 := by
  decide +kernel

end PwdNow.Daemon
