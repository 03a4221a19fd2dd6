import PwdNow.Server.FileCrypto
import PwdNow.Server.State

/-!
# Server — `users.enc`

`withUsersLock` of `web/lib/fileCrypto.js`, the user operations of `FileVaultRepository`
(`web/lib/vaultRepository.js`), which all go through it, and the beginning of `initAuth`
(`web/auth.js`), cut into the steps that another worker process can get in between: the existence
check, the creation without the lock, the lock, the read, the callback, the write and the release.
`UsersDir.log` is recorded for the statements alone: the calls whose callback has had its effect.
-/

namespace PwdNow.Server

open Kit Async Option

/-- A record of the users array, as far as the repository looks into it. -/
class UserRecord (U : Type) where
  id : U → Uid
  emailHash : U → String

/-- A worker process. -/
abbrev Worker := Nat

inductive RepoError where
  | userExists
  | userNotFound
  | lockTimeout
  | enoent
  | eexist
  /-- thrown by a callback -/
  | thrown (message : String)
  deriving DecidableEq

/-- The data directory, and the memory of the workers. -/
structure UsersDir where
  /-- `.master_key` -/
  masterKey : Option (Block 32)
  /-- `users.enc` -/
  users : Option Bytes
  lock : Option Pid
  /-- `ctx.MASTER_KEY` of a worker, once `initAuth` is through. -/
  ctx : Worker → Option (Block 32)
  log : List Pid

def UsersDir.empty : UsersDir := ⟨none, none, none, fun _ => none, []⟩

/-- What a step gets from outside: the `randomBytes`, and whether `proper-lockfile` has run out of
retries. -/
structure UsersInput where
  iv : Block 12
  masterKey : Block 32
  timedOut : Bool

inductive UsersStep where
  | exists_
  | create
  | masterKey
  | lock
  | read
  | callback
  | write
  | unlock
  | start

abbrev UsersTask := Async UsersStep UsersInput UsersDir RepoError

/-- The call `me` has had its effect. -/
def UsersDir.logged (s : UsersDir) (me : Pid) : UsersDir := { s with log := s.log ++ [me] }

def usersInfo : String := "users/enc"

section

variable {U : Type} (F : FileNode) (C : Codec (List U)) (me : Pid) (masterKey : Block 32)

/-- `writeEncryptedFile(usersPath(), 'users/enc', [])`, without the lock. -/
def createUsers : UsersTask Unit :=
  .section_ .create fun i => .modify fun s =>
    { s with users := some (writeEncryptedFile F masterKey C i.iv usersInfo []) }

/-- `existsSync(usersPath())` -/
def usersExist : UsersTask Bool := .section_ .exists_ fun _ => .gets fun s => s.users.isSome

/-- `if (!existsSync(usersFile)) writeEncryptedFile(usersFile, 'users/enc', [])` -/
def ensureUsers : UsersTask Unit := do
  let found ← usersExist
  if found then pure () else createUsers F C masterKey

/-- `lock(usersPath())` -/
def lockUsers : UsersTask Unit :=
  .waiting .lock (fun i s => s.lock.isNone || i.timedOut) fun _ s =>
    if s.users.isNone then (.error .enoent, s)
    else if s.lock.isNone then (.ok (), { s with lock := some me })
    else (.error .lockTimeout, s)

/-- `release()` -/
def unlockUsers : UsersTask Unit :=
  .section_ .unlock fun _ => .modify fun s => if s.lock = some me then { s with lock := none } else s

def loadUsers : UsersTask (List U) :=
  .section_ .read fun _ => .gets fun s => readEncryptedFile F masterKey C usersInfo s.users []

def saveUsers (users : List U) : UsersTask Unit :=
  .section_ .write fun i => .modify fun s =>
    { s with users := some (writeEncryptedFile F masterKey C i.iv usersInfo users) }.logged me

variable {β : Type}

/-- `await fn(users)`. A callback that throws, or returns `false`, has had its effect. -/
def callFn (isFalse : β → Bool) (fn : List U → Except RepoError (β × List U)) (users : List U) :
    UsersTask (β × List U) :=
  .section_ .callback fun _ s =>
    match fn users with
    | .error e => (.error e, s.logged me)
    | .ok (result, users') => (.ok (result, users'), if isFalse result then s.logged me else s)

/-- What `withUsersLock` does while it holds the lock. -/
def underLock (isFalse : β → Bool) (fn : List U → Except RepoError (β × List U)) : UsersTask β := do
  let users ← loadUsers F C masterKey
  let (result, users) ← callFn me isFalse fn users
  if isFalse result then pure result
  else
    saveUsers F C me masterKey users
    pure result

/-- `isFalse` says which results are `false`. -/
def withUsersLock (isFalse : β → Bool) (fn : List U → Except RepoError (β × List U)) :
    UsersTask β := do
  ensureUsers F C masterKey
  lockUsers me
  (underLock F C me masterKey isFalse fn).finally_ (unlockUsers me)

end

/-! ## The operations of the repository -/

/-- `result === false`, for a value or `undefined`. -/
def isFalse : Option Js → Bool
  | some (.bool false) => true
  | _ => false

section

variable {U : Type} [UserRecord U]

inductive UsersOp (U : Type) where
  | insertUser (user : U)
  | updateUserById (id : Uid) (fn : U → Except RepoError (Option Js × U))
  | deleteUserById (id : Uid)
  | withUserTransaction (fn : List U → Except RepoError (Option Js × List U))

def insertFn (user : U) (users : List U) : Except RepoError (Uid × List U) :=
  if users.any fun u => UserRecord.emailHash u = UserRecord.emailHash user then .error .userExists
  else .ok (UserRecord.id user, users ++ [user])

/-- The result is `none` where no user matched. -/
def updateFn (id : Uid) (fn : U → Except RepoError (Option Js × U)) (users : List U) :
    Except RepoError (Option (Option Js) × List U) :=
  match users.find? fun u => UserRecord.id u = id with
  | none => .ok (none, users)
  | some u =>
    match fn u with
    | .error e => .error e
    | .ok (ret, u') =>
      .ok (some ret, users.set (users.findIdx fun u => UserRecord.id u = id) u')

/-- The result is whether there was such a user. -/
def deleteFn (id : Uid) (users : List U) : Except RepoError (Bool × List U) :=
  if users.any fun u => UserRecord.id u = id then
    .ok (true, users.eraseP fun u => UserRecord.id u = id)
  else .ok (false, users)

variable (F : FileNode) (C : Codec (List U)) (me : Pid) (masterKey : Block 32)

def insertUser (user : U) : UsersTask Uid :=
  withUsersLock F C me masterKey (fun _ => false) (insertFn user)

def updateUser (id : Uid) (fn : U → Except RepoError (Option Js × U)) : UsersTask (Option Js) := do
  let ret ← withUsersLock F C me masterKey (fun r => r.elim true isFalse) (updateFn id fn)
  match ret with
  | none => pure (some .null)
  | some none => pure (some (.string id))
  | some ret => pure ret

def deleteUser (id : Uid) : UsersTask Unit := do
  let _ ← withUsersLock F C me masterKey (fun deleted => !deleted) (deleteFn id)
  pure ()

def UsersOp.task : UsersOp U → UsersTask (Option Js)
  | .insertUser user => do
    let id ← Server.insertUser F C me masterKey user
    pure (some (.string id))
  | .updateUserById id fn => updateUser F C me masterKey id fn
  | .deleteUserById id => do
    deleteUser F C me masterKey id
    pure none
  | .withUserTransaction fn => withUsersLock F C me masterKey isFalse fn

end

/-- What the callback leaves to be written: nothing if it throws or returns `false`. -/
def saved {U β : Type} (isFalse : β → Bool) (fn : List U → Except RepoError (β × List U))
    (users : List U) : Option (List U) :=
  match fn users with
  | .error _ => none
  | .ok (result, users') => if isFalse result then none else some users'

def UsersOp.saved {U : Type} [UserRecord U] : UsersOp U → List U → Option (List U)
  | .insertUser user => Server.saved (fun _ => false) (insertFn user)
  | .updateUserById id fn => Server.saved (fun r => r.elim true isFalse) (updateFn id fn)
  | .deleteUserById id => Server.saved (fun deleted => !deleted) (deleteFn id)
  | .withUserTransaction fn => Server.saved isFalse fn

/-! ## A call alone -/

/-- The file after a callback that left `users`, if it left any. -/
def FileAfter {U : Type} (F : FileNode) (C : Codec (List U)) (masterKey : Block 32)
    (before : Option Bytes) (saved : Option (List U)) (after : Option Bytes) : Prop :=
  match saved with
  | none => after = before
  | some users => ∃ iv, after = some (writeEncryptedFile F masterKey C iv usersInfo users)

section

variable {U β : Type} {F : FileNode} {C : Codec (List U)} {me : Pid} {masterKey : Block 32}
  {isFalse : β → Bool} {fn : List U → Except RepoError (β × List U)} {s : UsersDir}

theorem underLock_ends :
    (underLock F C me masterKey isFalse fn).Ends (fun _ => True) (fun _ s' =>
      FileAfter F C masterKey s.users
        (saved isFalse fn (readEncryptedFile F masterKey C usersInfo s.users [])) s'.users) s := by
  refine ends_bind.mpr (ends_section.mpr fun i _ => ?_)
  refine ends_bind.mpr (ends_section.mpr fun i' _ => ?_)
  unfold saved
  dsimp only [Fallible.gets_run]
  cases hfn : fn (readEncryptedFile F masterKey C usersInfo s.users []) with
  | error e => rfl
  | ok r =>
    obtain ⟨result, users'⟩ := r
    by_cases hresult : isFalse result
    · simp only [hresult, if_true, Then, ends_pure]
      rfl
    · simp only [hresult, Bool.false_eq_true, if_false, Then]
      exact ends_bind.mpr (ends_section.mpr fun i'' _ => ⟨i''.iv, rfl⟩)

/-- **A call alone.** Either the lock was not to be had, or the callback has been given what the file
opens to. -/
theorem withUsersLock_ends {bytes : Bytes} (hs : s.users = some bytes) :
    (withUsersLock F C me masterKey isFalse fn).Ends (fun _ => True) (fun r s' =>
      (∃ e, r = .error e ∧ s'.users = some bytes) ∨ FileAfter F C masterKey (some bytes)
          (saved isFalse fn ((openFile F masterKey C usersInfo bytes).getD [])) s'.users) s := by
  refine ends_bind.mpr (ends_bind.mpr (ends_section.mpr fun i _ => ?_))
  simp only [Fallible.gets_run, hs, isSome_some, Then, if_true, ends_pure]
  refine ends_bind.mpr (ends_waiting.mpr fun i' _ _ => ?_)
  simp only [hs, isNone_some, Bool.false_eq_true, if_false]
  split
  · refine ends_finally.mpr (underLock_ends.mono fun r s' hafter => ends_section.mpr fun i'' _ => ?_)
    -- the release leaves the file alone
    have hrelease : (if s'.lock = some me then { s' with lock := none } else s').users =
        s'.users := by split <;> rfl
    refine Or.inr ?_
    simp only [Fallible.modify_run, hrelease]
    simpa [hs, readEncryptedFile] using hafter
  · exact Or.inl ⟨_, rfl, hs⟩

end

section

variable {U : Type} [UserRecord U] {F : FileNode} {C : Codec (List U)} {me : Pid}
  {masterKey : Block 32} {s : UsersDir}

theorem ends_bind_pure {β γ : Type} {x : UsersTask β} {k : β → UsersTask γ} {P R : UsersDir → Prop}
    (hk : ∀ b, ∃ c, k b = pure c)
    (h : x.Ends (fun _ => True) (fun r s' => (∃ e, r = .error e ∧ P s') ∨ R s') s) :
    (x >>= k).Ends (fun _ => True) (fun r s' => (∃ e, r = .error e ∧ P s') ∨ R s') s := by
  refine ends_bind.mpr (h.mono fun r s' hr => ?_)
  cases r with
  | error e =>
    rcases hr with ⟨_, -, hP⟩ | hR
    · exact Or.inl ⟨e, rfl, hP⟩
    · exact Or.inr hR
  | ok b =>
    rcases hr with ⟨e, he, -⟩ | hR
    · cases he
    · obtain ⟨c, hc⟩ := hk b
      rw [Then, hc]
      exact Or.inr hR

theorem UsersOp.task_ends (op : UsersOp U) {bytes : Bytes} (hs : s.users = some bytes) :
    (op.task F C me masterKey).Ends (fun _ => True) (fun r s' =>
      (∃ e, r = .error e ∧ s'.users = some bytes) ∨ FileAfter F C masterKey (some bytes)
          (op.saved ((openFile F masterKey C usersInfo bytes).getD [])) s'.users) s := by
  cases op with
  | insertUser user => exact ends_bind_pure (fun id => ⟨_, rfl⟩) (withUsersLock_ends hs)
  | updateUserById id fn =>
    refine ends_bind_pure (fun ret => ?_) (withUsersLock_ends hs)
    rcases ret with _ | _ | ret <;> exact ⟨_, rfl⟩
  | deleteUserById id =>
    exact ends_bind_pure (fun _ => ⟨_, rfl⟩) (ends_bind_pure (fun _ => ⟨_, rfl⟩)
      (withUsersLock_ends hs))
  | withUserTransaction fn => exact withUsersLock_ends hs

/-- The operation has no effect on an empty list: its callback throws, or returns `false`. -/
def UsersOp.DeclinesEmpty (op : UsersOp U) : Prop := op.saved [] = none

/-- The users file opens to `users`. -/
def UsersDir.OpensTo (F : FileNode) (C : Codec (List U)) (masterKey : Block 32) (s : UsersDir)
    (users : List U) : Prop :=
  ∃ bytes, s.users = some bytes ∧ openFile F masterKey C usersInfo bytes = some users

/-- The callback, given `users`, leaves a record for `u`. -/
def UsersOp.Keeps (op : UsersOp U) (users : List U) (u : U) : Prop :=
  ∀ left, op.saved users = some left → ∃ u' ∈ left, UserRecord.id u' = UserRecord.id u

end

/-! ## A file under another master key -/

/-- A user of which only the two fields are known. -/
structure PlainUser where
  id : Uid
  emailHash : String
  deriving DecidableEq

instance : UserRecord PlainUser := ⟨PlainUser.id, PlainUser.emailHash⟩

def plainUsers : Codec (List PlainUser) :=
  .ofSpelling (.list ((Spelling.pair .string .string).via (fun u => (u.id, u.emailHash))
    (fun p => ⟨p.1, p.2⟩) fun _ => rfl))

theorem plainUsers_lawful : plainUsers.Lawful := Codec.ofSpelling_lawful _

def firstUser : PlainUser := ⟨"u1", "e1"⟩

def secondUser : PlainUser := ⟨"u2", "e2"⟩

def someIv : Block 12 := .replicate 12 0

def oldKey : Block 32 := .replicate 32 1

def newKey : Block 32 := .replicate 32 2

/-- A file with one user. -/
def usersOfOldKey : Bytes :=
  writeEncryptedFile symbolicFile oldKey plainUsers someIv usersInfo [firstUser]

def withOldUsers : UsersDir := { UsersDir.empty with users := some usersOfOldKey }

theorem usersOfOldKey_unreadable :
    openFile symbolicFile newKey plainUsers usersInfo usersOfOldKey = none := by decide +kernel

/-- How an operation ends on that file, run by a server with the other key. -/
def runOnOldUsers (op : UsersOp PlainUser) :
    Option (Except RepoError (Option Js)) × UsersDir :=
  (op.task symbolicFile plainUsers 0 newKey).run (fun _ => ⟨someIv, newKey, false⟩) withOldUsers

theorem runOnOldUsers_eq {op : UsersOp PlainUser} {r : Except RepoError (Option Js)}
    (h : (runOnOldUsers op).1 = some r) :
    (op.task symbolicFile plainUsers 0 newKey).run (fun _ => ⟨someIv, newKey, false⟩)
      withOldUsers = (some r, (runOnOldUsers op).2) := by
  rw [← h]
  rfl

end PwdNow.Server
