import Mathlib.Data.List.MinMax
import PwdNow.Daemon.Error

/-!
# Daemon — `SessionStore`

`daemon/src/auth/session.rs`, as far as unlocking and locking use it. The map from tokens to
sessions is the list of its values. `create` evicts expired sessions and the user's oldest one even
when it then refuses for lack of room.
-/

namespace PwdNow.Daemon

def defaultTtlSecs : Nat := 15 * 60

def absoluteTtlSecs : Nat := 24 * 60 * 60

def maxSessionsPerUser : Nat := 8

def maxTotalSessions : Nat := 1000

structure Session where
  token : String
  userId : String
  uid : UInt32
  createdAt : Nat
  expiresAt : Nat
  absoluteExpiresAt : Nat
  deriving DecidableEq

def Session.isValid (s : Session) (now : Nat) : Bool :=
  now < s.expiresAt && now < s.absoluteExpiresAt

structure SessionStore where
  sessions : List Session

namespace SessionStore

def new : SessionStore := ⟨[]⟩

def create (store : SessionStore) (now : Nat) (token userId : String) (uid : UInt32)
    (ttlSecs : Nat) : Except VaultError Session × SessionStore :=
  let session : Session :=
    { token, userId, uid, createdAt := now, expiresAt := now + ttlSecs,
      absoluteExpiresAt := now + absoluteTtlSecs }
  let live := store.sessions.filter (·.isValid now)
  let own := live.filter (·.userId = userId)
  let kept :=
    if own.length ≥ maxSessionsPerUser then
      match own.argmin (·.createdAt) with
      | some oldest => live.filter (·.token ≠ oldest.token)
      | none => live
    else live
  if kept.length ≥ maxTotalSessions then
    (.error (.auth "session capacity exhausted"), ⟨kept⟩)
  else (.ok session, ⟨kept.filter (·.token ≠ token) ++ [session]⟩)

theorem create_cases (store : SessionStore) (now : Nat) (token userId : String) (uid : UInt32)
    (ttlSecs : Nat) :
    ∃ kept, kept.Sublist (store.sessions.filter (·.isValid now)) ∧
      ((maxTotalSessions ≤ kept.length ∧ store.create now token userId uid ttlSecs =
          (.error (.auth "session capacity exhausted"), ⟨kept⟩)) ∨
        ∃ session : Session, session = ⟨token, userId, uid, now, now + ttlSecs,
            now + absoluteTtlSecs⟩ ∧
          store.create now token userId uid ttlSecs =
            (.ok session, ⟨kept.filter (·.token ≠ token) ++ [session]⟩)) := by
  unfold create
  extract_lets session live own kept
  have hkept : kept.Sublist live := by
    show (if own.length ≥ maxSessionsPerUser then _ else live).Sublist live
    split
    · split
      · exact List.filter_sublist
      · exact .refl _
    · exact .refl _
  refine ⟨kept, hkept, ?_⟩
  split
  · next hfull => exact .inl ⟨hfull, rfl⟩
  · exact .inr ⟨session, rfl, rfl⟩

def revokeAll (_ : SessionStore) : SessionStore := new

end SessionStore

end PwdNow.Daemon
