import PwdNow.Server.Password

/-!
# Server — sessions

`web/lib/session.js`, `withUserDirLock` of `web/lib/fileCrypto.js`, `web/lib/csrf.js` and the
session routes of `web/routes/auth/sessions.js`. A session is accepted while its `jti` is in the
user's list. The list is read, and written back later, under the lock of the vault directory; only
when `recordSession` finds no directory does it go without.
-/

namespace PwdNow.Server

open Kit

/-- What the session cookie decrypts to. -/
structure SessionToken where
  sub : Uid
  jti : Jti
  /-- in seconds -/
  exp : Nat
  deriving DecidableEq

inductive MfaMethod where
  | totp
  | email
  deriving DecidableEq

/-- What a handler answers: the status, the JSON body, the headers it sets and the session
cookie. -/
structure Response where
  status : Nat := 200
  ok : Option Bool := none
  error : Option String := none
  partialToken : Option Text := none
  methods : List MfaMethod := []
  duressRemaining : Option Nat := none
  duressWipe : Bool := false
  /-- `X-Rate-Limited` -/
  rateLimited : Option String := none
  /-- `X-Vault-Salt` -/
  vaultSalt : Text := []
  cookie : Option SessionToken := none
  /-- For the statements: the user whose password the request changed, and the
  `revocationEpoch` it wrote. -/
  changed : Option (Uid × Nat) := none
  deriving DecidableEq

namespace Response

/-- `res.json({ ok: true })`. -/
def okay : Response := { ok := some true }

/-- `res.status(status).json({ error })`. -/
def error_ (status : Nat) (error : String) : Response := { status, error := some error }

/-- `res.status(status).json({ ok: false, error })`. -/
def refuse (status : Nat) (error : String) : Response := { status, ok := some false, error := some error }

end Response

/-! ## The vault directory -/

namespace Backend

/-- `[]` when there is no file. -/
def loadSessions (s : Backend) (uid : Uid) : List Session := (s.dirs uid).elim [] (·.sessions)

/-- `saveSessions`: a write into a directory that is not there fails. -/
def saveSessions (s : Backend) (uid : Uid) (list : List Session) : Except Thrown Unit × Backend :=
  match s.dirs uid with
  | none => (.error .noSuchDirectory, s)
  | some d => (.ok (), { s with dirs := Function.update s.dirs uid (some { d with sessions := list }) })

/-- `mkdirSync`, if the directory is not there. -/
def makeDir (s : Backend) (uid : Uid) : Backend :=
  match s.dirs uid with
  | none => { s with dirs := Function.update s.dirs uid (some ⟨[], none⟩) }
  | some _ => s

end Backend

def loadSessions (uid : Uid) : Handler (List Session) :=
  .section_ .vaultDir fun _ => .gets fun s => s.loadSessions uid

/-- `lock(dir)`: waits until the lock is free, or gives up after the last retry. -/
def lockDir (me : Pid) (uid : Uid) : Handler Unit :=
  .waiting .dirLock (fun i s => (s.dirLock uid).isNone || i.timedOut) fun _ s =>
    if (s.dirLock uid).isNone then
      (.ok (), { s with dirLock := Function.update s.dirLock uid (some me) })
    else (.error .lockTimeout, s)

/-- `release()`, which refuses a lock that is not held. -/
def unlockDir (me : Pid) (uid : Uid) : Handler Unit :=
  .section_ .dirLock fun _ => .modify fun s =>
    if s.dirLock uid = some me then { s with dirLock := Function.update s.dirLock uid none } else s

/-- `await import(…)`. -/
def moduleImport : Handler Unit := .section_ .moduleImport fun _ => pure ()

def withUserDirLock {α : Type} (me : Pid) (uid : Uid) (fn : Handler α) : Handler α := do
  moduleImport
  .section_ .vaultDir fun _ => .modify fun s => s.makeDir uid
  lockDir me uid
  fn.finally_ (unlockDir me uid)

/-! ## Tokens -/

def jweTtlSeconds : Nat := 60 * 60 * 24

def issueJwt (N : Node) (uid : Uid) (verified : Option Nat) : Handler SessionToken :=
  compute fun i => .ok ⟨uid, ⟨N.toHex i.random, verified⟩, i.now / 1000 + jweTtlSeconds⟩

/-- `verifyJwt`: an expired token does not decrypt. -/
def verifyJwt (token : SessionToken) : Handler (Option SessionToken) :=
  compute fun i => .ok (if token.exp ≤ i.now / 1000 then none else some token)

/-- `req.user`. -/
structure Auth where
  id : Uid
  jti : Jti
  deriving DecidableEq

def authMiddleware (cookie : Option SessionToken) : Handler (Option Auth) := do
  match cookie with
  | none => return none
  | some token =>
    match ← verifyJwt token with
    | none => return none
    | some payload =>
      match ← findUserById payload.sub with
      | none => return none
      | some u =>
        let activeSessions ← loadSessions u.id
        return if activeSessions.any (·.jti = payload.jti) then some ⟨u.id, payload.jti⟩ else none

/-- The cookies and the header by which a request is authenticated. -/
structure Caller where
  cookie : Option SessionToken
  csrfHeader : Text
  csrfCookie : Text

/-- `requireCsrf` lets the request pass. -/
def Caller.csrfOk (c : Caller) : Bool :=
  c.csrfHeader ≠ [] && c.csrfCookie ≠ [] && c.csrfHeader = c.csrfCookie

/-- `authMiddleware, requireAuth, requireCsrf`, and then the handler. -/
def authenticated (caller : Caller) (handler : Auth → Handler Response) : Handler Response := do
  match ← authMiddleware caller.cookie with
  | none => return .error_ 401 "unauthenticated"
  | some user => if caller.csrfOk then handler user else return .error_ 403 "csrf"

/-! ## The session list -/

/-- The list `recordSession` writes: the new session last, and at most twenty. -/
def addSession (all : List Session) (jti : Jti) (now : Nat) : List Session :=
  let updated := (all.filter (·.jti ≠ jti)).map ({ · with isCurrent := false }) ++ [⟨jti, now, true⟩]
  if updated.length > 20 then updated.drop (updated.length - 20) else updated

/-- The end of `recordSession`, from the list it loaded. The device name and the address come
from an imported module. -/
def appendSession (uid : Uid) (jti : Jti) (all : List Session) : Handler Unit := do
  moduleImport
  .section_ (.saveSessions uid (some jti)) fun i s => s.saveSessions uid (addSession all jti i.now)

/-- `existsSync(dir)`: without the directory there is no lock to wait for, and the list is read
at once. -/
def unlockedSessions (uid : Uid) : Handler (Option (List Session)) :=
  .section_ .vaultDir fun _ => .gets fun s =>
    if (s.dirs uid).isSome then none else some (s.loadSessions uid)

def recordSession (me : Pid) (uid : Uid) (jti : Jti) : Handler Unit := do
  match ← unlockedSessions uid with
  | some all => appendSession uid jti all
  | none =>
    lockDir me uid
    Async.finally_ (do
      let all ← loadSessions uid
      appendSession uid jti all) (unlockDir me uid)

/-- `loadSessions`, `filter` and `saveSessions` under the lock. -/
def filterSessions (me : Pid) (uid : Uid) (keep : Session → Bool) : Handler Unit :=
  withUserDirLock me uid do
    let list ← loadSessions uid
    .section_ (.saveSessions uid none) fun _ s => s.saveSessions uid (list.filter keep)

/-- `POST /api/auth/sessions/revoke-others`. -/
def revokeOthers (me : Pid) (caller : Caller) : Handler Response :=
  authenticated caller fun user => do
    let _ ← updateUserById user.id fun _ u =>
      .ok (.save { u with revocationEpoch := u.revocationEpoch + 1 } ())
    filterSessions me user.id (·.jti = user.jti)
    return .okay

/-- `POST /api/auth/logout`. -/
def logout (me : Pid) (caller : Caller) : Handler Response := do
  let auth ← authMiddleware caller.cookie
  if !caller.csrfOk then
    return .error_ 403 "csrf"
  else
    match auth with
    | none => return .okay
    | some user =>
      filterSessions me user.id (·.jti ≠ user.jti)
      return .okay

theorem mem_addSession {all : List Session} {jti : Jti} {now : Nat} {x : Session}
    (h : x ∈ addSession all jti now) : x.jti = jti ∨ ∃ y ∈ all, y.jti = x.jti := by
  have hmem : x ∈ (all.filter (·.jti ≠ jti)).map ({ · with isCurrent := false }) ++
      [⟨jti, now, true⟩] := by
    unfold addSession at h
    dsimp only at h
    split at h
    · exact List.mem_of_mem_drop h
    · exact h
  rcases List.mem_append.mp hmem with hold | hnew
  · obtain ⟨y, hy, rfl⟩ := List.mem_map.mp hold
    exact .inr ⟨y, List.mem_of_mem_filter hy, rfl⟩
  · exact .inl (by rw [List.mem_singleton.mp hnew])

end PwdNow.Server
