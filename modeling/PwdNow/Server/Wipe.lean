import PwdNow.Kit.Serial
import PwdNow.Server.AuditLog
import PwdNow.Server.Session
import PwdNow.Server.UsersFile

/-!
# Server — a wipe, and what is still under way

`performServerWipe` (`web/routes/auth/utils.js`) with the file backend, beside whatever else writes
below `vault/<uid>`: `PUT` of a resource and `POST /api/vault/shares` (`web/routes/vaultRoutes.js`),
`recordSession` (`web/lib/session.js`) and the audit queue (`web/lib/audit.js`). The wipe takes no
lock. Two of the writers make the directory if it is not there. `Vaults.wiped` is recorded for the
statements alone: whose directory was removed.
-/

namespace PwdNow.Server

open Kit Async Protocol Function List

/-- The files below `vault/<uid>`. -/
structure VaultFolder where
  /-- `audit_log.enc` -/
  auditLog : Option (List AuditEvent)
  /-- `sessions.enc` -/
  sessions : Option (List Session)
  /-- the other `<name>.enc` -/
  resources : String → Option Js
  /-- `shares/<id>.json` -/
  shares : Option (String → Option Js)

def VaultFolder.empty : VaultFolder := ⟨none, none, fun _ => none, none⟩

structure Vaults where
  /-- whose records are in `users.enc` -/
  users : List Uid
  usersLock : Option Pid
  folders : Uid → Option VaultFolder
  folderLock : Uid → Option Pid
  auditQueue : List (Uid × AuditEvent)
  /-- `share_index.json` -/
  shareIndex : String → Option Uid
  wiped : List Uid

open Vaults

/-- What a section gets from outside: `Date.now()`, `randomBytes(16)` in hex, whether
`proper-lockfile` has run out of retries, `getServerPublicIp()` and what is known about that
address, and whether `checkShareCreateRate` lets the request pass. -/
structure VaultsInput where
  now : Nat
  randomHex : String
  timedOut : Bool
  publicIp : Option String
  ipRecord : Option Js.Fields
  underRate : Bool

inductive VaultsStep where
  | exists_
  | load
  | lock
  | unlock
  | outside
  | users
  | index
  | queue
  /-- `saveSessions` -/
  | sessions (uid : Uid)
  /-- a write that makes the directory if it is not there -/
  | write (uid : Uid)
  | remove (uid : Uid)
  deriving DecidableEq

abbrev VaultsTask := Async VaultsStep VaultsInput Vaults RepoError

namespace Vaults

/-! ## The directory -/

/-- `mkdirSync(dir, { recursive: true })`, if the directory is not there, and a write. -/
def write (uid : Uid) (f : VaultFolder → VaultFolder) (s : Vaults) : Vaults :=
  { s with folders := update s.folders uid (some (f ((s.folders uid).getD .empty))) }

/-- `saveSessions` -/
def saveSessions (uid : Uid) (list : List Session) : Fallible RepoError Vaults Unit := fun s =>
  match s.folders uid with
  | none => (.error .enoent, s)
  | some d =>
    (.ok (), { s with
      folders := update s.folders uid (some { d with sessions := some list }) })

/-- `secureOverwriteDir(dir)` and `rmSync(dir, { recursive: true, force: true })` -/
def remove (uid : Uid) (s : Vaults) : Vaults :=
  { s with folders := update s.folders uid none, wiped := s.wiped ++ [uid] }

/-- `appendAuditEvent` -/
def append (uid : Uid) (event : AuditEvent) (s : Vaults) : Vaults :=
  if s.auditQueue.length < 5000 then { s with auditQueue := s.auditQueue ++ [(uid, event)] } else s

/-- `lock(dir)`: the path has to resolve first. -/
def lockFolder (me : Pid) (uid : Uid) : VaultsTask Unit := do
  .section_ .lock fun _ s => if (s.folders uid).isSome then (.ok (), s) else (.error .enoent, s)
  .waiting .lock (fun i s => (s.folderLock uid).isNone || i.timedOut) fun _ s =>
    if (s.folderLock uid).isNone then
      (.ok (), { s with folderLock := update s.folderLock uid (some me) })
    else (.error .lockTimeout, s)

def unlockFolder (me : Pid) (uid : Uid) : VaultsTask Unit :=
  .section_ .unlock fun _ => .modify fun s =>
    if s.folderLock uid = some me then { s with folderLock := update s.folderLock uid none }
    else s

/-- `existsSync(dir)` -/
def folderExists (uid : Uid) : VaultsTask Bool :=
  .section_ .exists_ fun _ => .gets fun s => (s.folders uid).isSome

/-- `fn`, under the lock of the directory if there is one. -/
def lockedIfThere {α : Type} (me : Pid) (uid : Uid) (fn : VaultsTask α) : VaultsTask α := do
  let found ← folderExists uid
  if found then
    lockFolder me uid
    fn.finally_ (unlockFolder me uid)
  else fn

/-! ## What writes there -/

/-- The rest of `PUT /api/vault/<name>`, behind `requireCsrf`. -/
def putResource (uid : Uid) (name : String) (body : Js) : VaultsTask Response :=
  match body.get "data" with
  | some (.string _) => do
    .section_ (.write uid) fun _ => .modify (write uid fun d =>
      { d with resources := update d.resources name (some body) })
    pure .okay
  | _ => pure (.refuse 400 "invalid_input")

def recordSession (me : Pid) (uid : Uid) (jti : Jti) : VaultsTask Unit :=
  lockedIfThere me uid do
    let all ← .section_ .load fun _ => .gets fun s =>
      ((s.folders uid).bind (·.sessions)).getD []
    -- the device name and the address come from an imported module
    .section_ .outside fun _ => pure ()
    .section_ (.sessions uid) fun i => saveSessions uid (addSession all jti i.now)

/-- A text that is not empty. -/
def nonEmptyText : Option Js → Option String
  | some (.string s) => if s = "" then none else some s
  | _ => none

/-- The methods that every object inherits. -/
def objectMethods : List String :=
  ["__defineGetter__", "__defineSetter__", "hasOwnProperty", "__lookupGetter__", "__lookupSetter__",
    "isPrototypeOf", "propertyIsEnumerable", "toString", "valueOf", "toLocaleString"]

/-- What an object literal inherits under a name, as a text. -/
def inheritedText (name : String) : Option String :=
  if name = "__proto__" then some "[object Object]"
  else if name = "constructor" then some "function Object() \x7b [native code] \x7d"
  else if name ∈ objectMethods then some ("function " ++ name ++ "() \x7b [native code] \x7d")
  else none

/-- The name that `SHARE_TTL_MS[ttl]` looks up. -/
def ttlName (ttl : Option Js) : String := ttl.elim "undefined" (Js.text fun _ => "")

/-- `Date.now() + (SHARE_TTL_MS[ttl] ?? SHARE_TTL_MS['24h'])`, with the defaults: a text where the
lookup gives what the table inherits. -/
def shareExpiry (now : Nat) (ttl : Option Js) : Js :=
  if ttlName ttl = "1h" then .number (now + 3600000)
  else if ttlName ttl = "7d" then .number (now + 7 * 24 * 3600000)
  else
    match inheritedText (ttlName ttl) with
    | some text => .string (toString now ++ text)
    | none => .number (now + 24 * 3600000)

def shareRecord (body : Js) (encryptedBlob iv : String) (i : VaultsInput) : Js :=
  .object [("id", .string i.randomHex),
    ("label", match body.get "label" with
      | some (.string s) => .string (String.ofList (s.toList.take 100))
      | _ => .string ""),
    ("encryptedBlob", .string encryptedBlob), ("iv", .string iv), ("createdAt", .number i.now),
    ("expiresAt", shareExpiry i.now (body.get "ttl")),
    ("singleView", .bool (Js.truthy (body.get "singleView"))), ("viewed", .bool false)]

/-- The rest of `POST /api/vault/shares`, behind `requireCsrf`; `event` is what is logged of the
request. -/
def createShare (uid : Uid) (body : Js) (event : AuditEvent) : VaultsTask Response := do
  let allowed ← .section_ .outside fun i => pure i.underRate
  if !allowed then return .refuse 429 "too_many_requests"
  match nonEmptyText (body.get "encryptedBlob"), nonEmptyText (body.get "iv") with
  | none, _ => return .refuse 400 "missing_blob"
  | _, none => return .refuse 400 "missing_iv"
  | some encryptedBlob, some iv =>
    let shareId ← .section_ (.write uid) fun i s =>
      (.ok i.randomHex, s.write uid fun d => { d with
        shares := some (update (d.shares.getD fun _ => none) i.randomHex
          (some (shareRecord body encryptedBlob iv i))) })
    -- `updateShareIndex`, under the lock of the index
    .section_ .index fun i s =>
      if i.timedOut then (.error .lockTimeout, s)
      else (.ok (), { s with shareIndex := update s.shareIndex shareId (some uid) })
    .section_ .queue fun _ => .modify (append uid event)
    return .okay

variable (N : AuditNode)

def processAuditEvent (me : Pid) (uid : Uid) (event : AuditEvent) : VaultsTask Unit :=
  lockedIfThere me uid do
    let (publicIp, ipRecord) ← .section_ .outside fun i => pure (i.publicIp, i.ipRecord)
    let stored ← .section_ .load fun _ => .gets fun s => (s.folders uid).bind (·.auditLog)
    .section_ (.write uid) fun i => .modify (write uid fun d =>
      { d with auditLog :=
          Server.processAuditEvent N ⟨i.randomHex, i.now, publicIp, ipRecord⟩ event stored })

/-- The inner loop of `flushAuditQueue`: an event that fails is logged and left out. -/
def processDrained (me : Pid) : List (Uid × AuditEvent) → VaultsTask Unit
  | [] => pure ()
  | (uid, event) :: rest => do
    tryCatch (processAuditEvent N me uid event) fun _ => pure ()
    processDrained me rest

/-- `flushAuditQueue`, for so many rounds of its outer loop. -/
def flushAuditQueue (me : Pid) : ℕ → VaultsTask Unit
  | 0 => pure ()
  | rounds + 1 => do
    let drained ← .waiting .queue (fun _ s => !s.auditQueue.isEmpty) fun _ s =>
      (.ok s.auditQueue, { s with auditQueue := [] })
    processDrained N me drained
    flushAuditQueue me rounds

/-! ## The wipe -/

def lockUsers (me : Pid) : VaultsTask Unit :=
  .waiting .users (fun i s => s.usersLock.isNone || i.timedOut) fun _ s =>
    if s.usersLock.isNone then (.ok (), { s with usersLock := some me })
    else (.error .lockTimeout, s)

def unlockUsers (me : Pid) : VaultsTask Unit :=
  .section_ .unlock fun _ => .modify fun s =>
    if s.usersLock = some me then { s with usersLock := none } else s

/-- `withUsersLock`, with the callback of `deleteUserById`. -/
def deleteUserById (me : Pid) (uid : Uid) : VaultsTask Unit := do
  lockUsers me
  Async.finally_ (.section_ .users fun _ => .modify fun s => { s with users := s.users.erase uid })
    (unlockUsers me)

def performServerWipe (me : Pid) (uid : Uid) : VaultsTask Unit := do
  .section_ (.remove uid) fun _ => .modify (remove uid)
  deleteUserById me uid

/-- The end of a login that wipes: the event is appended and the directory goes at once. -/
def duressWipe (me : Pid) (uid : Uid) (event : AuditEvent) : VaultsTask Unit := do
  .section_ (.remove uid) fun _ => .modify fun s => (s.append uid event).remove uid
  tryCatch (deleteUserById me uid) fun _ => pure ()

end Vaults

/-- A request that is past `authMiddleware`, the flush of the queue, or a wipe. -/
inductive VaultsWork where
  | put (uid : Uid) (name : String) (body : Js)
  | record (uid : Uid) (jti : Jti)
  | share (uid : Uid) (body : Js) (event : AuditEvent)
  | flush (rounds : ℕ)
  | wipe (uid : Uid)
  | duress (uid : Uid) (event : AuditEvent)

def VaultsWork.task (N : AuditNode) (me : Pid) : VaultsWork → VaultsTask Unit
  | .put uid name body => do
    let _ ← putResource uid name body
    pure ()
  | .record uid jti => Vaults.recordSession me uid jti
  | .share uid body event => do
    let _ ← createShare uid body event
    pure ()
  | .flush rounds => Vaults.flushAuditQueue N me rounds
  | .wipe uid => Vaults.performServerWipe me uid
  | .duress uid event => duressWipe me uid event

/-! ## What each section keeps -/

/-- What holds throughout: a directory that was removed is away, and no user is there twice. -/
structure Vaults.Swept (s : Vaults) : Prop where
  removed : ∀ uid ∈ s.wiped, s.folders uid = none
  nodup : s.users.Nodup

/-- A directory that was removed stays away, as long as nobody writes there who makes it. -/
def wipeProtocol : Protocol Pid VaultsStep VaultsInput Vaults where
  inv := Swept
  rely _ s s' := (∀ uid ∈ s.wiped, uid ∈ s'.wiped) ∧ ∀ uid ∉ s.users, uid ∉ s'.users
  refl _ _ := ⟨fun _ h => h, fun _ h => h⟩
  trans h h' := ⟨fun uid hu => h'.1 uid (h.1 uid hu), fun uid hu => h'.2 uid (h.2 uid hu)⟩
  may
    | .write uid, _, s => uid ∉ s.wiped
    | _, _, _ => True

namespace Vaults

section

variable {p : Pid} {s s' : Vaults}

theorem fair_of_same (hfolders : s'.folders = s.folders) (hwiped : s'.wiped = s.wiped)
    (husers : s'.users = s.users) : wipeProtocol.Fair p s s' := by
  refine ⟨fun hinv => ⟨fun uid hu => ?_, husers ▸ hinv.nodup⟩, fun q _ => ⟨?_, ?_⟩⟩
  · rw [hfolders]
    exact hinv.removed uid (hwiped ▸ hu)
  · exact fun uid hu => hwiped ▸ hu
  · exact fun uid hu => husers ▸ hu

theorem fair_write (f : VaultFolder → VaultFolder) (huid : uid ∉ s.wiped) :
    wipeProtocol.Fair p s (s.write uid f) := by
  refine ⟨fun hinv => ⟨fun uid' hu => ?_, hinv.nodup⟩, fun q _ => wipeProtocol.refl q s⟩
  have hne : uid' ≠ uid := fun h => huid (h ▸ hu)
  exact (update_of_ne hne _ _).trans (hinv.removed uid' hu)

theorem fair_saveSessions {list : List Session} :
    wipeProtocol.Fair p s (saveSessions uid list s).2 := by
  unfold saveSessions
  cases hd : s.folders uid with
  | none => exact fair_of_same rfl rfl rfl
  | some d =>
    refine ⟨fun hinv => ⟨fun uid' hu => ?_, hinv.nodup⟩, fun q _ => wipeProtocol.refl q s⟩
    have hne : uid' ≠ uid := fun h => by
      subst h
      exact absurd (hd.symm.trans (hinv.removed uid' hu)) (by simp)
    exact (update_of_ne hne _ _).trans (hinv.removed uid' hu)

theorem fair_remove (uid : Uid) : wipeProtocol.Fair p s (s.remove uid) := by
  refine ⟨fun hinv => ⟨fun uid' hu => ?_, hinv.nodup⟩, fun q _ =>
    ⟨fun _ h => mem_append_left _ h, fun _ h => h⟩⟩
  by_cases hne : uid' = uid
  · rw [hne]
    exact update_self ..
  · refine (update_of_ne hne _ _).trans (hinv.removed uid' ?_)
    rcases mem_append.mp hu with hu | hu
    · exact hu
    · exact absurd (mem_singleton.mp hu) hne

theorem fair_erase (uid : Uid) : wipeProtocol.Fair p s { s with users := s.users.erase uid } :=
  ⟨fun hinv => ⟨hinv.removed, hinv.nodup.erase uid⟩, fun _ _ =>
    ⟨fun _ h => h, fun _ h h' => h (mem_of_mem_erase h')⟩⟩

theorem fair_append (uid : Uid) (event : AuditEvent) :
    wipeProtocol.Fair p s (s.append uid event) := by
  unfold append
  split <;> exact fair_of_same rfl rfl rfl

end

/-! ## The writers -/

section

variable {α : Type} (N : AuditNode) (me : Pid) (uid : Uid)

theorem lockFolder_obeys : wipeProtocol.Obeys (lockFolder me uid) := by
  refine (obeys_section fun p i s _ _ => ?_).bind fun _ =>
    obeys_waiting fun p i s _ _ => ?_
  · split <;> exact fair_of_same rfl rfl rfl
  · split <;> exact fair_of_same rfl rfl rfl

theorem unlockFolder_obeys : wipeProtocol.Obeys (unlockFolder me uid) := by
  refine obeys_section fun p i s _ _ => ?_
  dsimp only [Fallible.modify_run]
  split <;> exact fair_of_same rfl rfl rfl

theorem lockedIfThere_obeys {fn : VaultsTask α} (hfn : wipeProtocol.Obeys fn) :
    wipeProtocol.Obeys (lockedIfThere me uid fn) := by
  refine (obeys_section fun p i s _ _ => fair_of_same rfl rfl rfl).bind fun found => ?_
  cases found with
  | true => exact (lockFolder_obeys me uid).bind fun _ => hfn.finally_ (unlockFolder_obeys me uid)
  | false => exact hfn

theorem putResource_obeys (name : String) (body : Js) :
    wipeProtocol.Obeys (putResource uid name body) := by
  unfold putResource
  split
  · refine (obeys_section fun p i s _ hmay => ?_).bind fun _ => obeys_pure _
    dsimp only [Fallible.modify_run]
    exact fair_write _ hmay
  · exact obeys_pure _

theorem recordSession_obeys (jti : Jti) : wipeProtocol.Obeys (recordSession me uid jti) := by
  refine lockedIfThere_obeys me uid ?_
  refine (obeys_section fun p i s _ _ => fair_of_same rfl rfl rfl).bind fun all => ?_
  refine (obeys_section fun p i s _ _ => fair_of_same rfl rfl rfl).bind fun _ => ?_
  exact obeys_section fun p i s _ _ => fair_saveSessions

theorem createShare_obeys (body : Js) (event : AuditEvent) :
    wipeProtocol.Obeys (createShare uid body event) := by
  refine (obeys_section fun p i s _ _ => fair_of_same rfl rfl rfl).bind fun allowed => ?_
  cases allowed with
  | false => exact obeys_pure _
  | true =>
    rw [Bool.not_true, if_neg Bool.false_ne_true]
    split
    · exact obeys_pure _
    · exact obeys_pure _
    · refine (obeys_section fun p i s _ hmay => ?_).bind fun shareId => ?_
      · dsimp only
        exact fair_write _ hmay
      refine (obeys_section fun p i s _ _ => ?_).bind fun _ => ?_
      · split <;> exact fair_of_same rfl rfl rfl
      · exact (obeys_section fun p i s _ _ => fair_append uid event).bind fun _ =>
          obeys_pure _

theorem processAuditEvent_obeys (event : AuditEvent) :
    wipeProtocol.Obeys (processAuditEvent N me uid event) := by
  refine lockedIfThere_obeys me uid ?_
  refine (obeys_section fun p i s _ _ => fair_of_same rfl rfl rfl).bind fun ip => ?_
  refine (obeys_section fun p i s _ _ => fair_of_same rfl rfl rfl).bind fun stored => ?_
  refine obeys_section fun p i s _ hmay => ?_
  dsimp only [Fallible.modify_run]
  exact fair_write _ hmay

theorem processDrained_obeys (drained : List (Uid × AuditEvent)) :
    wipeProtocol.Obeys (processDrained N me drained) := by
  induction drained with
  | nil => exact obeys_pure _
  | cons x rest ih =>
    exact ((processAuditEvent_obeys N me x.1 x.2).tryCatch fun _ => obeys_pure _).bind fun _ => ih

theorem flushAuditQueue_obeys (rounds : ℕ) : wipeProtocol.Obeys (flushAuditQueue N me rounds) := by
  induction rounds with
  | zero => exact obeys_pure _
  | succ rounds ih =>
    refine (obeys_waiting fun p i s _ _ => fair_of_same rfl rfl rfl).bind fun drained => ?_
    exact (processDrained_obeys N me drained).bind fun _ => ih

theorem lockUsers_obeys : wipeProtocol.Obeys (lockUsers me) := by
  refine obeys_waiting fun p i s _ _ => ?_
  split <;> exact fair_of_same rfl rfl rfl

theorem unlockUsers_obeys : wipeProtocol.Obeys (unlockUsers me) := by
  refine obeys_section fun p i s _ _ => ?_
  dsimp only [Fallible.modify_run]
  split <;> exact fair_of_same rfl rfl rfl

theorem deleteUserById_obeys : wipeProtocol.Obeys (deleteUserById me uid) :=
  (lockUsers_obeys me).bind fun _ =>
    (obeys_section fun _ _ _ _ _ => fair_erase uid).finally_ (unlockUsers_obeys me)

theorem duressWipe_obeys (event : AuditEvent) : wipeProtocol.Obeys (duressWipe me uid event) := by
  refine (obeys_section fun p i s _ _ => ?_).bind fun _ =>
    (deleteUserById_obeys me uid).tryCatch fun _ => obeys_pure _
  exact (fair_append uid event).trans (fair_remove uid)

end

end Vaults

/-! ## Any interleaving -/

variable {p me : Pid} {s : Vaults} {uid : Uid}

open Vaults

/-- No file exists below `vault/<uid>`. -/
def Vaults.NoFile (s : Vaults) (uid : Uid) : Prop :=
  ∀ d, s.folders uid = some d → d.auditLog = none ∧ d.sessions = none ∧
    (∀ name, d.resources name = none) ∧ ∀ shares, d.shares = some shares → ∀ id, shares id = none

/-- What a wipe that has come to its end has done. -/
def VaultsWork.Ended : VaultsWork → Except RepoError Unit → Vaults → Prop
  | .wipe uid, .ok _, s => uid ∈ s.wiped ∧ uid ∉ s.users
  | _, _, _ => True

theorem safe_keeps {R : Vaults → Prop} (hR : ∀ {q s s'}, wipeProtocol.rely q s s' → R s → R s')
    {α : Type} {Q : Except RepoError α → Vaults → Prop} {x : VaultsTask α}
    (h : wipeProtocol.Safe p Q x s) (hs : R s) :
    wipeProtocol.Safe p (fun r s => Q r s ∧ R s) x s := by
  induction x generalizing s with
  | done a => exact fun s' hrely => ⟨h s' hrely, hR hrely hs⟩
  | fail e => exact fun s' hrely => ⟨h s' hrely, hR hrely hs⟩
  | await label ready act next ih =>
    intro i s' hrely hinv hready hmay
    obtain ⟨hfair, hnext⟩ := h i s' hrely hinv hready hmay
    refine ⟨hfair, ih i s' hnext (hR (hfair.relied (p + 1) (Nat.succ_ne_self p)) (hR hrely hs))⟩

theorem deleteUserById_safe (hs : uid ∈ s.wiped) :
    wipeProtocol.Safe p (VaultsWork.Ended (.wipe uid)) (Vaults.deleteUserById me uid) s := by
  refine Safe.bind ((safe_keeps (R := fun s => uid ∈ s.wiped) (fun h => h.1 uid)
    (lockUsers_obeys me p s) hs).mono fun r s₁ h₁ => ?_)
  cases r with
  | error e => exact fun _ _ => trivial
  | ok _ =>
    refine Safe.finally_ (safe_waiting fun i s₂ hrely₂ hinv _ _ =>
      ⟨fair_erase uid, fun s₃ hrely₃ => ?_⟩)
    have hended : uid ∈ s₃.wiped ∧ uid ∉ s₃.users :=
      ⟨hrely₃.1 uid (hrely₂.1 uid h₁.2), hrely₃.2 uid hinv.nodup.not_mem_erase⟩
    refine (safe_keeps (R := fun s => uid ∈ s.wiped ∧ uid ∉ s.users)
      (fun h hs => ⟨h.1 uid hs.1, h.2 uid hs.2⟩) (unlockUsers_obeys me p s₃) hended).mono
      fun r s₄ h₄ => ?_
    cases r with
    | error e => exact fun _ _ => trivial
    | ok _ => exact fun s₅ hrely₅ => ⟨hrely₅.1 uid h₄.2.1, hrely₅.2 uid h₄.2.2⟩

theorem performServerWipe_safe :
    wipeProtocol.Safe p (VaultsWork.Ended (.wipe uid)) (Vaults.performServerWipe me uid) s := by
  refine Safe.bind (safe_waiting fun i s₁ _ _ _ _ =>
    ⟨fair_remove uid, fun s₂ hrely₂ => deleteUserById_safe (hrely₂.1 uid ?_)⟩)
  exact mem_append_right _ (mem_singleton_self uid)

theorem VaultsWork.task_safe (N : AuditNode) (p : Pid) (work : VaultsWork) (s : Vaults) :
    wipeProtocol.Safe p work.Ended (work.task N p) s := by
  have hobeys : ∀ {x : VaultsTask Unit} {work : VaultsWork}, wipeProtocol.Obeys x →
      (∀ r s, work.Ended r s) → wipeProtocol.Safe p work.Ended x s :=
    fun hx hended => (hx p s).mono fun r s _ => hended r s
  cases work with
  | put uid name body =>
    exact hobeys ((putResource_obeys uid name body).bind fun _ => obeys_pure _) fun _ _ => trivial
  | record uid jti => exact hobeys (recordSession_obeys p uid jti) fun _ _ => trivial
  | share uid body event =>
    exact hobeys ((createShare_obeys uid body event).bind fun _ => obeys_pure _) fun _ _ => trivial
  | flush rounds => exact hobeys (flushAuditQueue_obeys N p rounds) fun _ _ => trivial
  | wipe uid => exact performServerWipe_safe
  | duress uid event => exact hobeys (duressWipe_obeys p uid event) fun _ _ => trivial

/-- The work under way, on the data that is there. -/
def vaultsSystem (N : AuditNode) (works : Pid → VaultsWork) (s : Vaults) :
    System Pid VaultsStep VaultsInput Vaults RepoError Unit :=
  ⟨s, fun p => (works p).task N p⟩

/-- If the next step makes the directory where it is not there, the directory was not removed by a
wipe. -/
def WritesBefore (t : System Pid VaultsStep VaultsInput Vaults RepoError Unit)
    (e : Pid × VaultsInput) : Prop :=
  match t.procs e.1 with
  | .await (.write uid) _ _ _ => uid ∉ t.shared.wiped
  | _ => True

instance (t : System Pid VaultsStep VaultsInput Vaults RepoError Unit) (e : Pid × VaultsInput) :
    Decidable (WritesBefore t e) := by
  unfold WritesBefore
  split <;> infer_instance

theorem WritesBefore.allowed {t : System Pid VaultsStep VaultsInput Vaults RepoError Unit}
    {e : Pid × VaultsInput} (h : WritesBefore t e) : System.Allowed wipeProtocol t e := by
  unfold WritesBefore at h
  unfold System.Allowed
  cases hproc : t.procs e.1 with
  | await label ready act next =>
    rw [hproc] at h
    cases label <;> exact h
  | _ => trivial

/-- **A wipe is final**, if nothing that makes the directory is written behind it: no file is left
of a user whose directory was removed, and a wipe that has ended has removed the user. -/
theorem wipe_final (N : AuditNode) (works : Pid → VaultsWork) (s : Vaults) (hwiped : s.wiped = [])
    (husers : s.users.Nodup) (es : List (Pid × VaultsInput))
    (hbefore : Along System.step (vaultsSystem N works s) es WritesBefore)
    (t : System Pid VaultsStep VaultsInput Vaults RepoError Unit)
    (ht : Kit.run System.step (vaultsSystem N works s) es = t) :
    (∀ uid ∈ t.shared.wiped, t.shared.NoFile uid) ∧
    ∀ p uid, works p = .wipe uid → t.outcomes p = some (.ok ()) →
      t.shared.NoFile uid ∧ uid ∉ t.shared.users := by
  have hstart : System.Sound wipeProtocol (fun p => (works p).Ended) (vaultsSystem N works s) :=
    ⟨⟨fun uid hu => absurd (hwiped ▸ hu) not_mem_nil, husers⟩, fun p => (works p).task_safe N p s⟩
  have hsound : System.Sound wipeProtocol (fun p => (works p).Ended) t := by
    subst ht
    exact System.invariant hstart (fun pre e post heq => (hbefore pre e post heq).allowed)
      (.last _ _ _)
  have hnoFile : ∀ uid ∈ t.shared.wiped, t.shared.NoFile uid := fun uid hu d hd =>
    absurd (hd.symm.trans (hsound.inv.removed uid hu)) (by simp)
  refine ⟨hnoFile, fun p uid hwork hend => ?_⟩
  have hended := hsound.of_outcome hend
  rw [hwork] at hended
  exact ⟨hnoFile uid hended.1, hended.2⟩

/-! ## Two schedules -/

def wipedFolder : VaultFolder :=
  { VaultFolder.empty with
    resources := fun name => if name = "credentials" then some .null else none }

/-- A user with credentials, and an event in the queue. -/
def wipeStart : Vaults where
  users := ["u1"]
  usersLock := none
  folders uid := if uid = "u1" then some wipedFolder else none
  folderLock _ := none
  auditQueue := [("u1", logoutEvent)]
  shareIndex _ := none
  wiped := []

/-- The wipe, the flush, and a session that is recorded. -/
def wipeWorks : Pid → VaultsWork
  | 0 => .wipe "u1"
  | 1 => .flush 1
  | 2 => .record "u1" ⟨[], none⟩
  | _ => .flush 0

def wipeTurns (ps : List Pid) : List (Pid × VaultsInput) :=
  ps.map fun p => (p, ⟨0, "r", false, none, none, true⟩)

def afterWipeTurns (ps : List Pid) : System Pid VaultsStep VaultsInput Vaults RepoError Unit :=
  Kit.run System.step (vaultsSystem symbolicAudit wipeWorks wipeStart) (wipeTurns ps)

/-- The event is processed, and the directory is removed while the session is being recorded. -/
def earlyTurns : List Pid := [1, 1, 1, 1, 1, 1, 1, 1, 2, 2, 2, 2, 2, 0, 2, 2, 0, 0, 0]

theorem session_gone_with_wipe :
    (afterWipeTurns earlyTurns).shared.NoFile "u1" ∧
      "u1" ∉ (afterWipeTurns earlyTurns).shared.users :=
  (wipe_final symbolicAudit wipeWorks wipeStart rfl (nodup_singleton _)
    (wipeTurns earlyTurns) (by decide +kernel) _ rfl).2 0 "u1" rfl (by decide +kernel)

/-- The session is recorded, and the directory is removed while the event waits for the address of
the server. -/
def lateTurns : List Pid := [2, 2, 2, 2, 2, 2, 2, 1, 1, 1, 1, 0, 1, 1, 1, 1, 0, 0, 0]

/-- **An event that outlives the wipe.** In the end everything is through, the user is gone, and the
directory is there again with the log. -/
theorem audit_event_outlives_wipe :
    (∀ p, p ≠ 0 → p ≠ 1 → p ≠ 2 → wipeWorks p = .flush 0) ∧
    (∀ p ∈ [0, 1, 2], (afterWipeTurns lateTurns).outcomes p = some (.ok ())) ∧
    (afterWipeTurns lateTurns).shared.auditQueue.isEmpty ∧
    "u1" ∉ (afterWipeTurns lateTurns).shared.users ∧
    ¬ (afterWipeTurns lateTurns).shared.NoFile "u1" := by
  refine ⟨fun p h0 h1 h2 => ?_, by decide +kernel, by decide +kernel, by decide +kernel,
    fun hnone => ?_⟩
  · unfold wipeWorks
    split <;> first | contradiction | rfl
  · have hlog : (((afterWipeTurns lateTurns).shared.folders "u1").bind (·.auditLog)).isSome =
        true := by decide +kernel
    obtain ⟨log, hlog⟩ := Option.isSome_iff_exists.mp hlog
    obtain ⟨d, hd, hd'⟩ := Option.bind_eq_some_iff.mp hlog
    exact absurd (hd'.symm.trans (hnone d hd).1) (by simp)

end PwdNow.Server
