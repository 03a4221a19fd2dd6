import PwdNow.Kit.JsText
import PwdNow.Server.UsersFile

/-!
# Server — the vault repositories

The interface of `web/lib/vaultRepository.js` and what implements it: `FileVaultRepository`,
`PostgresVaultRepository` (`web/lib/postgresVaultRepository.js`) with the envelope encryption of
`web/lib/envelope.js`, and the migration shim `DualWriteVaultRepository`
(`web/lib/dualWriteVaultRepository.js`). Each call runs to its end.

In a file the users are one array, and the data of a user is a directory that need not be there. In
Postgres a user is a row: some properties are columns, the sensitive ones are sealed under the
user's key, the rest is the column `meta`. The keys are cached in the process. The values are those
that JSON keeps, and no text holds a NUL.
-/

namespace PwdNow.Server

open Kit Fallible Function

/-! ## Users -/

/-- A user object. Its other properties are under other names. -/
structure RepoUser where
  id : Uid
  emailHash : String
  rest : Js.Fields
  named : ∀ p ∈ rest, p.1 ∉ ["id", "emailHash"]
  deriving DecidableEq

namespace RepoUser

/-- The user with these properties, besides the two. -/
def of (id : Uid) (emailHash : String) (fields : Js.Fields) : RepoUser :=
  ⟨id, emailHash, Js.without ["id", "emailHash"] fields, fun p hp => by
    simpa [Js.without] using (List.mem_filter.mp hp).2⟩

/-- `u[key]` -/
def field (key : String) (u : RepoUser) : Option Js := (Js.object u.rest).get key

/-- `{ ...u, ...fields }`, the two properties apart. -/
def assign (fields : Js.Fields) (u : RepoUser) : RepoUser :=
  of u.id u.emailHash (fields ++ u.rest)

theorem field_of (key : String) (id : Uid) (emailHash : String) (fields : Js.Fields) :
    (of id emailHash fields).field key =
      if key ∈ ["id", "emailHash"] then none else (Js.object fields).get key :=
  Js.get_without _

theorem field_named {key : String} (h : key ∈ ["id", "emailHash"]) (u : RepoUser) :
    u.field key = none := by
  refine Js.get_eq_none fun hkey => ?_
  obtain ⟨p, hp, rfl⟩ := List.mem_map.mp hkey
  exact u.named p hp h

theorem field_assign (key : String) (fields : Js.Fields) (u : RepoUser) :
    (u.assign fields).field key =
      if key ∈ ["id", "emailHash"] then none
      else ((Js.object fields).get key).or (u.field key) := by
  rw [assign, field_of, Js.get_append]
  rfl

end RepoUser

instance : UserRecord RepoUser := ⟨RepoUser.id, RepoUser.emailHash⟩

/-! ## Calls -/

inductive RepoCall where
  | findUserByEmailHash (emailHash : String)
  | findUserById (id : Uid)
  | insertUser (user : RepoUser)
  | updateUserById (id : Uid) (fn : RepoUser → Except RepoError (Option Js × RepoUser))
  | deleteUserById (id : Uid)
  | withUserTransaction (fn : List RepoUser → Except RepoError (Option Js × List RepoUser))
  | loadSessions (uid : Uid)
  | saveSessions (uid : Uid) (list : List Js)
  | getResource (uid : Uid) (name : String)
  | setResource (uid : Uid) (name : String) (value : Js)
  | deleteResource (uid : Uid) (name : String)
  | deleteUserData (uid : Uid)

/-- What a call returns: a value or `undefined`, or a user or `null`. -/
inductive RepoValue where
  | js (v : Option Js)
  | user (u : Option RepoUser)
  deriving DecidableEq

abbrev RepoResult := Except RepoError RepoValue

/-- `undefined` -/
def RepoValue.undefined : RepoValue := .js none

/-- `ret === undefined ? id : ret` -/
def retOr (id : Uid) (ret : Option Js) : Option Js := some (ret.getD (.string id))

/-! ## Files -/

/-- The users array, and the directories that are there with their files. -/
structure FileRepo where
  users : List RepoUser
  dirs : Uid → Option (String → Option Js)

namespace FileRepo

def empty : FileRepo := ⟨[], fun _ => none⟩

def findUserById (s : FileRepo) (id : Uid) : Option RepoUser := s.users.find? (·.id = id)

/-- `readEncryptedFile(userVaultFile(uid, name), …)`: `none` where the file is not there. -/
def file (s : FileRepo) (uid : Uid) (name : String) : Option Js := (s.dirs uid).bind (· name)

/-- `withUsersLock`, with nobody else at the file. -/
def withUsersLock {β : Type} (isFalse : β → Bool)
    (fn : List RepoUser → Except RepoError (β × List RepoUser)) :
    Fallible RepoError FileRepo β := fun s =>
  match fn s.users with
  | .error e => (.error e, s)
  | .ok (result, users) => (.ok result, if isFalse result then s else { s with users })

/-- Write a file of a directory that is there. -/
def writeFile (uid : Uid) (name : String) (value : Option Js) (s : FileRepo) : FileRepo :=
  { s with dirs := update s.dirs uid ((s.dirs uid).map (update · name value)) }

/-- `mkdirSync`, if the directory is not there. -/
def makeDir (uid : Uid) (s : FileRepo) : FileRepo :=
  if (s.dirs uid).isSome then s
  else { s with dirs := update s.dirs uid (some fun _ => none) }

def call : RepoCall → Fallible RepoError FileRepo RepoValue
  | .findUserByEmailHash emailHash => .gets fun s => .user (s.users.find? (·.emailHash = emailHash))
  | .findUserById id => .gets fun s => .user (s.findUserById id)
  | .insertUser user => do
    let id ← withUsersLock (fun _ => false) (insertFn user)
    pure (.js (some (.string id)))
  | .updateUserById id fn => do
    let ret ← withUsersLock (fun r => r.elim true isFalse) (updateFn id fn)
    pure (.js (ret.elim (some .null) (retOr id)))
  | .deleteUserById id => do
    let _ ← withUsersLock (fun deleted => !deleted) (deleteFn id)
    pure .undefined
  | .withUserTransaction fn => do
    let result ← withUsersLock isFalse fn
    pure (.js result)
  | .loadSessions uid => .gets fun s => .js (some ((s.file uid "sessions").getD (.array [])))
  | .saveSessions uid list => fun s =>
    -- the directory is not made
    if (s.dirs uid).isSome then (.ok .undefined, s.writeFile uid "sessions" (some (.array list)))
    else (.error .enoent, s)
  | .getResource uid name => .gets fun s => .js (some ((s.file uid name).getD .null))
  | .setResource uid name value => do
    .modify fun s => (s.makeDir uid).writeFile uid name (some value)
    pure .undefined
  | .deleteResource uid name => do
    .modify (writeFile uid name none)
    pure .undefined
  | .deleteUserData uid => do
    .modify fun s => { s with dirs := update s.dirs uid none }
    pure .undefined

end FileRepo

theorem FileRepo.withUsersLock_state {β : Type} (isFalse : β → Bool)
    (fn : List RepoUser → Except RepoError (β × List RepoUser)) (s : FileRepo) :
    (withUsersLock isFalse fn s).2 =
      { s with users := (saved isFalse fn s.users).getD s.users } := by
  unfold withUsersLock saved
  cases fn s.users with
  | error e => rfl
  | ok r =>
    obtain ⟨result, users⟩ := r
    by_cases h : isFalse result <;> simp [h]

theorem FileRepo.withUsersLock_bind {β γ : Type} (isFalse : β → Bool)
    (fn : List RepoUser → Except RepoError (β × List RepoUser)) (k : β → γ) (s : FileRepo) :
    ((withUsersLock isFalse fn >>= fun b => pure (k b)) s).2 = (withUsersLock isFalse fn s).2 := by
  rw [bind_run]
  rcases withUsersLock isFalse fn s with ⟨_ | _, s'⟩ <;> rfl

/-! ## Postgres -/

abbrev Dek := Block 32

/-- What the repository gets from outside the process: the KMS, and how `pg` passes values. -/
structure PgNode where
  /-- `unwrapDek(wrappedDek, kmsKeyId)`; `none` where it throws. -/
  unwrapDek : Option Js → Option Js → Option Dek
  /-- what a value becomes in a `text` column -/
  text : Js → String
  text_string : ∀ s, text (.string s) = s
  /-- what a value becomes in a `bytea` column; `none` where it is refused -/
  bytea : Js → Option Bytes
  bytea_buffer : ∀ bytes, bytea (.buffer bytes) = some bytes

/-- `meta._sealed`. A user may bring a property of that name, which does not decrypt. -/
inductive SealedMeta where
  | absent
  | blob (key : Dek) (fields : Js.Fields)
  | foreign

/-- A row of `users`. -/
structure PgRow where
  id : Uid
  emailHmac : String
  passwordHash : String
  wrappedDek : Bytes
  kmsKeyId : String
  wrapMode : String
  pwWrapSalt : Option Bytes
  cryptoSalt : Option String
  status : String
  createdAt : ℕ
  /-- without `_sealed` -/
  restMeta : Js.Fields
  sealed_ : SealedMeta

/-- The tables, and the cache of unwrapped keys. -/
structure PgRepo where
  rows : List PgRow
  /-- `vault_items`: the key a ciphertext is under, and the value. -/
  items : Uid → String → Option (Dek × Js)
  cache : Uid → Option Dek

/-- What a call gets from outside: the new key and how it is wrapped, the time, the order in which
`SELECT` returns the rows, and whose keys have left the cache. -/
structure PgInput (P : PgNode) where
  dek : Dek
  wrappedDek : Bytes
  kmsKeyId : String
  opens : P.unwrapDek (some (.buffer wrappedDek)) (some (.string kmsKeyId)) = some dek
  now : ℕ
  order : List PgRow → List PgRow
  order_perm : ∀ rows, (order rows).Perm rows
  evicted : Uid → Bool

def promoted : List String :=
  ["id", "emailHash", "passwordHash", "wrappedDek", "kmsKeyId", "wrapMode", "pwWrapSalt",
    "cryptoSalt", "status", "createdAt"]

def sensitiveMetaKeys : List String :=
  ["mfaTotpSecret", "recoveryKeyHash", "recoveryKeySalt", "duressEnforce"]

namespace PgRow

/-- `base`, without `id` and `emailHash`. -/
def base (r : PgRow) : Js.Fields :=
  [("passwordHash", .string r.passwordHash), ("wrappedDek", .buffer r.wrappedDek),
    ("kmsKeyId", .string r.kmsKeyId), ("wrapMode", .string r.wrapMode),
    ("pwWrapSalt", r.pwWrapSalt.elim .null .buffer),
    ("cryptoSalt", r.cryptoSalt.elim .null .string),
    ("status", .string r.status), ("createdAt", .number r.createdAt)]

/-- `{ ...restMeta, ...sealed, ...base }` -/
def toUser (r : PgRow) (sealed_ : Js.Fields) : RepoUser :=
  .of r.id r.emailHmac (r.base ++ (sealed_ ++ r.restMeta))

end PgRow

namespace PgRepo

abbrev PgTask := Fallible RepoError PgRepo

def empty : PgRepo := ⟨[], fun _ _ => none, fun _ => none⟩

def decryptFailed : RepoError := .thrown "Unsupported state or unable to authenticate data"

def notNull (column : String) : RepoError :=
  .thrown ("null value in column " ++ column ++ " violates not-null constraint")

variable (P : PgNode)

/-- `_dek(user)`: from the cache, which goes by the id, or unwrapped. -/
def dek (user : RepoUser) : PgTask Dek := fun s =>
  match s.cache user.id with
  | some d => (.ok d, s)
  | none =>
    match P.unwrapDek (user.field "wrappedDek") (user.field "kmsKeyId") with
    | none => (.error (.thrown "unwrapDek"), s)
    | some d => (.ok d, { s with cache := update s.cache user.id (some d) })

/-- `decryptResource(user, blob)` -/
def decryptResource {α : Type} (user : RepoUser) (blob : Dek × α) : PgTask α := do
  let d ← dek P user
  if d = blob.1 then pure blob.2 else throw decryptFailed

def rowToUser (r : PgRow) : PgTask RepoUser :=
  match r.sealed_ with
  | .absent => pure (r.toUser [])
  | .blob key fields => do
    let sealed_ ← decryptResource P (r.toUser []) (key, fields)
    pure (r.toUser sealed_)
  | .foreign => do
    let _ ← dek P (r.toUser [])
    throw decryptFailed

/-- `meta`, with `_sealed` beside it. -/
def userToMeta (user : RepoUser) : PgTask (Js.Fields × SealedMeta) := do
  let restMeta := Js.without (promoted ++ sensitiveMetaKeys ++ ["_sealed"]) user.rest
  let sealed_ := Js.only sensitiveMetaKeys user.rest
  if sealed_.isEmpty then
    pure (restMeta, if Js.truthy (user.field "_sealed") then .foreign else .absent)
  else do
    let d ← dek P user
    pure (restMeta, .blob d sealed_)

/-- What is passed for a `text` column; `undefined` is `NULL` too. -/
def textColumn : Option Js → Option String
  | none | some .null => none
  | some v => some (P.text v)

/-- What is passed for a `bytea` column. The outer `none` is a refusal. -/
def byteaColumn : Option Js → Option (Option Bytes)
  | none | some .null => some none
  | some v => (P.bytea v).map some

/-- `INSERT INTO users`. A column that may not be `NULL` is looked at before the keys. -/
def insertRow (i : PgInput P) (user : RepoUser) (meta_ : Js.Fields × SealedMeta) : PgTask Unit :=
  fun s =>
    match textColumn P (user.field "passwordHash") with
    | none => (.error (notNull "password_hash"), s)
    | some passwordHash =>
      if s.rows.any fun r => r.id = user.id || r.emailHmac = user.emailHash then
        (.error .userExists, s)
      else
        (.ok (), { s with rows := s.rows ++ [{
          id := user.id, emailHmac := user.emailHash, passwordHash,
          wrappedDek := i.wrappedDek, kmsKeyId := i.kmsKeyId, wrapMode := "kms",
          pwWrapSalt := none, cryptoSalt := textColumn P (user.field "cryptoSalt"),
          status := "active", createdAt := i.now, restMeta := meta_.1, sealed_ := meta_.2 }] })

/-- The row after the `UPDATE`; `none` where a column refuses its value. -/
def updatedRow (user : RepoUser) (meta_ : Js.Fields × SealedMeta) (r : PgRow) : Option PgRow := do
  let passwordHash ← textColumn P (user.field "passwordHash")
  let wrapMode ← textColumn P (user.field "wrapMode")
  let pwWrapSalt ← byteaColumn P (user.field "pwWrapSalt")
  some { r with
    passwordHash, wrapMode, pwWrapSalt,
    cryptoSalt := textColumn P (user.field "cryptoSalt"),
    status := (textColumn P (user.field "status")).getD "active",
    restMeta := meta_.1, sealed_ := meta_.2 }

/-- `UPDATE users SET … WHERE id = id` -/
def updateRow (id : Uid) (user : RepoUser) (meta_ : Js.Fields × SealedMeta) : PgTask Unit := fun s =>
  if s.rows.any fun r => r.id = id && (updatedRow P user meta_ r).isNone then
    (.error (notNull "users"), s)
  else
    (.ok (), { s with rows := s.rows.map fun r =>
      if r.id = id then (updatedRow P user meta_ r).getD r else r })

/-- `withTx`: a throw takes the tables back, but not the cache. -/
def withTx {α : Type} (fn : PgTask α) : PgTask α := fun s =>
  match fn s with
  | (.ok a, s') => (.ok a, s')
  | (.error e, s') => (.error e, { s' with rows := s.rows, items := s.items })

def findUser (p : PgRow → Bool) : PgTask (Option RepoUser) := do
  let row ← gets fun s => s.rows.find? p
  match row with
  | none => pure none
  | some r => do
    let user ← rowToUser P r
    pure (some user)

def insertUser (i : PgInput P) (user : RepoUser) : PgTask Uid := do
  let meta_ ← userToMeta P (user.assign
    [("wrappedDek", .buffer i.wrappedDek), ("kmsKeyId", .string i.kmsKeyId)])
  insertRow P i user meta_
  pure user.id

/-- `userToMeta` and the `UPDATE`. -/
def writeUser (id : Uid) (user : RepoUser) : PgTask Unit := do
  let meta_ ← userToMeta P user
  updateRow P id user meta_

def updateUserById (id : Uid) (fn : RepoUser → Except RepoError (Option Js × RepoUser)) :
    PgTask (Option Js) := withTx do
  let user ← findUser P (·.id = id)
  match user with
  | none => pure (some .null)
  | some user => do
    let (ret, user) ← lift (fn user)
    if isFalse ret then pure ret
    else do
      writeUser P id user
      pure (retOr id ret)

/-- The `SELECT`, each row in its turn. -/
def rowsToUsers : List PgRow → PgTask (List RepoUser)
  | [] => pure []
  | r :: rows => do
    let user ← rowToUser P r
    let users ← rowsToUsers rows
    pure (user :: users)

/-- The loop of `withUserTransaction`: a user whose text is as before is not written. -/
def writeChanged (before : List RepoUser) : List RepoUser → PgTask Unit
  | [] => pure ()
  | u :: users => do
    if before.find? (·.id = u.id) = some u then writeChanged before users
    else do
      writeUser P u.id u
      writeChanged before users

def withUserTransaction (i : PgInput P)
    (fn : List RepoUser → Except RepoError (Option Js × List RepoUser)) : PgTask (Option Js) :=
  withTx do
    let rows ← gets fun s => i.order s.rows
    let before ← rowsToUsers P rows
    let (result, users) ← lift (fn before)
    if isFalse result then pure result
    else do
      writeChanged P before users
      pure result

def getResource (uid : Uid) (name : String) : PgTask Js := do
  let user ← findUser P (·.id = uid)
  match user with
  | none => pure .null
  | some user => do
    let item ← gets fun s => s.items uid name
    match item with
    | none => pure .null
    | some blob => decryptResource P user blob

/-- The row of `vault_items` with that key becomes `blob`, or goes. -/
def setItem (uid : Uid) (name : String) (blob : Option (Dek × Js)) (s : PgRepo) : PgRepo :=
  { s with items := update s.items uid (update (s.items uid) name blob) }

def setResource (uid : Uid) (name : String) (value : Js) : PgTask Unit := do
  let user ← findUser P (·.id = uid)
  match user with
  | none => throw .userNotFound
  | some user => do
    let d ← dek P user
    .modify (setItem uid name (some (d, value)))

/-- `DELETE FROM users WHERE id = id`: the items go too. -/
def deleteRow (id : Uid) : PgTask Unit := .modify fun s =>
  { s with
    rows := s.rows.filter (·.id ≠ id)
    items := update s.items id fun _ => none }

def nullish : Js → Js → Js
  | .null, w => w
  | v, _ => v

def call (i : PgInput P) : RepoCall → PgTask RepoValue
  | .findUserByEmailHash emailHash => do
    let user ← findUser P (·.emailHmac = emailHash)
    pure (.user user)
  | .findUserById id => do
    let user ← findUser P (·.id = id)
    pure (.user user)
  | .insertUser user => do
    let id ← insertUser P i user
    pure (.js (some (.string id)))
  | .updateUserById id fn => do
    let ret ← updateUserById P id fn
    pure (.js ret)
  | .deleteUserById id => do
    deleteRow id
    pure .undefined
  | .withUserTransaction fn => do
    let result ← withUserTransaction P i fn
    pure (.js result)
  | .loadSessions uid => do
    let v ← getResource P uid "sessions"
    pure (.js (some (nullish v (.array []))))
  | .saveSessions uid list => do
    setResource P uid "sessions" (.array list)
    pure .undefined
  | .getResource uid name => do
    let v ← getResource P uid name
    pure (.js (some v))
  | .setResource uid name value => do
    setResource P uid name value
    pure .undefined
  | .deleteResource uid name => do
    .modify (setItem uid name none)
    pure .undefined
  | .deleteUserData uid => do
    deleteRow uid
    pure .undefined

/-- Some keys have left the cache since the last call. -/
def evict (evicted : Uid → Bool) (s : PgRepo) : PgRepo :=
  { s with cache := fun uid => if evicted uid then none else s.cache uid }

def step (i : PgInput P) (c : RepoCall) : PgTask RepoValue := fun s => call P i c (s.evict i.evicted)

end PgRepo

/-! ## Both -/

structure DualRepo where
  primary : FileRepo
  secondary : PgRepo

namespace DualRepo

def empty : DualRepo := ⟨.empty, .empty⟩

/-- The callback by which an update is mirrored: every property that `updated` has, but for those of
the secondary's KMS. -/
def copyFrom (updated : RepoUser) (u : RepoUser) : Except RepoError (Option Js × RepoUser) :=
  .ok (none, .of updated.id updated.emailHash
    (Js.without ["wrappedDek", "kmsKeyId"] updated.rest ++ u.rest))

/-- What is called on the secondary, after the primary. -/
def mirror (primary : FileRepo) : RepoCall → Option RepoCall
  | .insertUser user => some (.insertUser user)
  | .updateUserById id _ =>
    (primary.findUserById id).map fun updated => .updateUserById id (copyFrom updated)
  | .deleteUserById id => some (.deleteUserById id)
  | .saveSessions uid list => some (.saveSessions uid list)
  | .setResource uid name value => some (.setResource uid name value)
  | .deleteResource uid name => some (.deleteResource uid name)
  | .deleteUserData uid => some (.deleteUserData uid)
  -- the reads, and `withUserTransaction`
  | _ => none

/-- What the secondary does: its result, if it was called. -/
def mirrored (P : PgNode) (i : PgInput P) (c : RepoCall) (s : DualRepo) :
    Option RepoResult × PgRepo :=
  let (r, primary) := FileRepo.call c s.primary
  match r with
  | .error _ => (none, s.secondary)
  | .ok _ =>
    match mirror primary c with
    | none => (none, s.secondary)
    | some c' =>
      let (r', secondary) := PgRepo.step P i c' s.secondary
      (some r', secondary)

/-- What the secondary throws is logged and forgotten. -/
def step (P : PgNode) (i : PgInput P) (c : RepoCall) : Fallible RepoError DualRepo RepoValue :=
  fun s =>
    ((FileRepo.call c s.primary).1, ⟨(FileRepo.call c s.primary).2, (s.mirrored P i c).2⟩)

end DualRepo

end PwdNow.Server
