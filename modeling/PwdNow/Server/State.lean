import PwdNow.Kit.Async
import PwdNow.Kit.Bytes

/-!
# Server — what the web server keeps, and how its handlers reach it

The records of `web/lib/vaultRepository.js` (`users.enc` and the vault directories), the
partial-login file of `web/routes/auth/utils.js`, the in-memory store of `web/lib/stateStore.js`,
and the operations on them that a handler awaits. A field the source leaves `null` or undefined, and
only ever tests for being truthy, is here the empty text or `0`. `withUsersLock` and
`withMfaPendingLock` hold their lock over one synchronous callback, so each is one section; the lock
of a vault directory is held across awaits.

Recorded for the statements alone: which user record a login verified its password against
(`Jti.verified`, `PendingToken.verified`), and up to which password change the session list has been
emptied (`Backend.cleared`).
-/

namespace PwdNow.Server

open Kit

/-- A JavaScript string that the code looks into. -/
abbrev Text := List Char

abbrev Uid := String

/-- The number of a request, which is how a lock knows its holder. -/
abbrev Pid := Nat

/-- What a section gets from outside: `Date.now()`, `randomBytes`, `randomInt`, and whether
`proper-lockfile` has run out of retries. -/
structure Input where
  now : Nat
  random : Bytes
  randomInt : Nat
  timedOut : Bool

/-- `randomBytes(16)` of `issueJwt`. -/
structure Jti where
  random : Text
  /-- The `revocationEpoch` of the record that the login's password was verified against;
  `none` for a login by recovery key. -/
  verified : Option Nat
  deriving DecidableEq

/-- An entry of `sessions.enc`. -/
structure Session where
  jti : Jti
  timestamp : Nat
  isCurrent : Bool
  deriving DecidableEq

structure MfaEnforce where
  totp : Bool
  email : Bool
  deriving DecidableEq

structure DuressEnforce where
  armed : Bool
  maxAttempts : Nat
  deriving DecidableEq

/-- A record of `users.enc`. -/
structure User where
  id : Uid
  emailHash : String
  passwordHash : Text
  salt : Text
  recoveryKeyHash : Text
  recoveryKeySalt : Text
  recoveryKeyExpiresAt : Nat
  mfaEnforce : MfaEnforce
  mfaTotpSecret : Text
  duressEnforce : Option DuressEnforce
  duressFailureCount : Nat
  cryptoSalt : Text
  passwordChangedAt : Nat
  revocationEpoch : Nat
  deriving DecidableEq

/-- One hardware factor of the `mfa_config` blob: `enabled`, and how many credentials. -/
structure HardwareFactor where
  enabled : Bool
  credentials : Nat

structure MfaConfig where
  webauthn : Option HardwareFactor
  passkey : Option HardwareFactor
  platform : Option HardwareFactor

/-- What `vault/<uid>` holds, as far as the handlers below read it. Without the directory
there is no session file either. -/
structure VaultDir where
  sessions : List Session
  mfaConfig : Option MfaConfig

structure PendingToken where
  userId : Uid
  expiresAt : Nat
  verified : Option Nat

structure PendingOtp where
  code : Text
  expiresAt : Nat

/-- `mfa_pending.enc`, indexed by the hash of the partial token. -/
structure MfaPending where
  tokens : Text → Option PendingToken
  emailOtps : Text → Option PendingOtp

/-- The keys of the state store. -/
inductive StoreKey where
  | login (ip : String)
  | account (emailHash : String)
  | fingerprint (identity : String)
  | mfaFail (uid : Uid)
  | mfaLock (uid : Uid)
  | argon2Active
  deriving DecidableEq

/-- What is stored under a key: a counter, or a lockout entry. -/
inductive StoreValue where
  | count (n : Nat)
  | lockout (count lockedUntil : Nat)
  deriving DecidableEq

structure StoreEntry where
  value : StoreValue
  expiresAt : Nat
  deriving DecidableEq

abbrev StateStore := StoreKey → Option StoreEntry

/-- The files and the memory that the requests share. -/
structure Backend where
  users : List User
  dirs : Uid → Option VaultDir
  dirLock : Uid → Option Pid
  mfaPending : MfaPending
  stateStore : StateStore
  usedTotpPeriods : Text → List Int
  /-- The greatest `revocationEpoch` whose password change has emptied the session list. -/
  cleared : Uid → Nat

/-- An error that leaves a handler, unless it is caught. -/
inductive Thrown where
  | tooManyRequests
  | passwordChangedConcurrently
  | lockTimeout
  | noSuchDirectory
  | badArgon2Hash
  | badTotpSecret
  | rangeError
  deriving DecidableEq

/-- The await points. -/
inductive Await where
  | stateStore
  | users
  | mfaPending
  | crypto
  | vaultDir
  | dirLock
  /-- `saveSessions(uid, _)`, with the session that `recordSession` adds. -/
  | saveSessions (uid : Uid) (recorded : Option Jti)
  | moduleImport

abbrev Handler := Async Await Input Backend Thrown

/-! ## State store -/

namespace StoreEntry

def expired (e : StoreEntry) (now : Nat) : Bool := e.expiresAt != 0 && now > e.expiresAt

end StoreEntry

/-- `Number(e.value)`. -/
def StoreValue.toNumber : StoreValue → Nat
  | count n => n
  | lockout n _ => n

namespace StateStore

/-- The entry under `key`, unless it has expired. -/
def live (m : StateStore) (now : Nat) (key : StoreKey) : Option StoreEntry :=
  (m key).filter fun e => !e.expired now

def set (m : StateStore) (now : Nat) (key : StoreKey) (value : StoreValue) (ttlMs : Nat) :
    StateStore :=
  Function.update m key (some ⟨value, if ttlMs > 0 then now + ttlMs else 0⟩)

def del (m : StateStore) (key : StoreKey) : StateStore := Function.update m key none

def incrExpire (m : StateStore) (now : Nat) (key : StoreKey) (ttlMs : Nat) : Nat × StateStore :=
  match m.live now key with
  | none => (1, m.set now key (.count 1) ttlMs)
  | some e =>
    let newVal := e.value.toNumber + 1
    (newVal, Function.update m key (some { e with value := .count newVal }))

/-- `decr`, floored at zero. -/
def decr (m : StateStore) (now : Nat) (key : StoreKey) : StateStore :=
  match m.live now key with
  | none => m.del key
  | some e => Function.update m key (some { e with value := .count (e.value.toNumber - 1) })

end StateStore

/-- One call of the state store. -/
def onStore {α : Type} (f : Nat → StateStore → α × StateStore) : Handler α :=
  .section_ .stateStore fun i s =>
    (.ok (f i.now s.stateStore).1, { s with stateStore := (f i.now s.stateStore).2 })

def getState (key : StoreKey) : Handler (Option StoreValue) :=
  onStore fun now m => ((m.live now key).map (·.value), m)

def setState (key : StoreKey) (value : StoreValue) (ttlMs : Nat) : Handler Unit :=
  onStore fun now m => ((), m.set now key value ttlMs)

def delState (key : StoreKey) : Handler Unit := onStore fun _ m => ((), m.del key)

def incrExpire (key : StoreKey) (ttlMs : Nat) : Handler Nat :=
  onStore fun now m => m.incrExpire now key ttlMs

def decr (key : StoreKey) : Handler Unit := onStore fun now m => ((), m.decr now key)

/-! ## Users -/

namespace Backend

def findUserByEmailHash (s : Backend) (emailHash : String) : Option User :=
  s.users.find? (·.emailHash = emailHash)

def findUserById (s : Backend) (id : Uid) : Option User := s.users.find? (·.id = id)

end Backend

/-- The first record with the identity `id`, replaced. -/
def replaceUser (id : Uid) (u : User) : List User → List User
  | [] => []
  | x :: xs => if x.id = id then u :: xs else x :: replaceUser id u xs

theorem find?_replaceUser {id : Uid} {u u₀ : User} (hid : u.id = id) {xs : List User}
    (h : xs.find? (·.id = id) = some u₀) (id' : Uid) :
    (replaceUser id u xs).find? (·.id = id') =
      if id' = id then some u else xs.find? (·.id = id') := by
  induction xs with
  | nil => simp at h
  | cons x xs ih =>
    unfold replaceUser
    by_cases hx : x.id = id
    · rw [if_pos hx, List.find?_cons, List.find?_cons]
      by_cases hid' : id' = id
      · simp [hid', hid]
      · have hne : ¬ id = id' := fun h => hid' h.symm
        simp [hid', hid, hx, hne]
    · rw [if_neg hx, List.find?_cons, List.find?_cons]
      have h' : xs.find? (·.id = id) = some u₀ := by simpa [hx] using h
      by_cases hx' : x.id = id'
      · have hne : ¬ id' = id := fun h => hx (hx'.trans h)
        simp [hx', hne]
      · simpa [hx'] using ih h'

def findUserByEmailHash (emailHash : String) : Handler (Option User) :=
  .section_ .users fun _ => .gets fun s => s.findUserByEmailHash emailHash

def findUserById (id : Uid) : Handler (Option User) :=
  .section_ .users fun _ => .gets fun s => s.findUserById id

/-- What the callback of `updateUserById` makes of the record: `return false` skips the save. -/
inductive Update (β : Type) where
  | save (u : User) (ret : β)
  | skip (ret : β)

/-- `updateUserById(id, fn)`; `none` if there is no such user. A callback that throws writes
nothing. -/
def updateUserById {β : Type} (id : Uid) (fn : Nat → User → Except Thrown (Update β)) :
    Handler (Option β) :=
  .section_ .users fun i s =>
    match s.findUserById id with
    | none => (.ok none, s)
    | some u =>
      match fn i.now u with
      | .error e => (.error e, s)
      | .ok (.skip ret) => (.ok (some ret), s)
      | .ok (.save u' ret) => (.ok (some ret), { s with users := replaceUser id u' s.users })

def deleteUserById (id : Uid) : Handler Unit :=
  .section_ .users fun _ => .modify fun s => { s with users := s.users.eraseP (·.id = id) }

end PwdNow.Server
