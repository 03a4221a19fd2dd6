import PwdNow.Kit.Serial
import PwdNow.Server.Symbolic
import PwdNow.Server.UsersFile

/-!
# Server — does a revoked session stay revoked?

The session list of one user, with either repository: `recordSession` and `authMiddleware`
(`web/lib/session.js`), the logout and `revoke-others` (`web/routes/auth/sessions.js`) and the
password change (`web/routes/auth/login.js`). All of them write the whole list back. The three that
revoke do so under the lock of the vault directory, which they make if it is not there;
`recordSession` goes without the lock if it finds no directory. With files there is no list then;
with Postgres a list read without the lock brings back what was revoked in the meantime.

A call of the repository is one section. Recorded for the statements alone: which sessions were ever
recorded (`SessionDb.recorded`), and who has taken which from the list (`SessionDb.revoked`).
-/

namespace PwdNow.Server

open Kit Async Protocol List

/-- `ctx.vaultRepository` -/
inductive VaultBackend where
  | file
  | postgres
  deriving DecidableEq

structure SessionDb where
  /-- the record of the user -/
  user : Option User
  /-- `vault/<uid>`, and `sessions.enc` in it -/
  folder : Option (Option (List Session))
  /-- the row `sessions` of `vault_items` -/
  item : Option (List Session)
  lock : Option Pid
  recorded : List Jti
  revoked : List (Pid × Jti)

/-- What a section gets from outside: `Date.now()`, `randomBytes`, whether `proper-lockfile` has run
out of retries, and whether every Argon2 slot is in use. -/
structure SessionInput where
  now : Nat
  random : Bytes
  timedOut : Bool
  busy : Bool

abbrev SessionTask := Async Unit SessionInput SessionDb RepoError

namespace SessionDb

/-! ## The repository -/

section

variable (B : VaultBackend)

/-- `loadSessions` -/
def load (s : SessionDb) : List Session :=
  match B with
  | .file => s.folder.join.getD []
  | .postgres => if s.user.isSome then s.item.getD [] else []

/-- `saveSessions` -/
def save (s : SessionDb) (list : List Session) : Except RepoError SessionDb :=
  match B with
  | .file =>
    if s.folder.isSome then .ok { s with folder := some (some list) } else .error .enoent
  | .postgres =>
    if s.user.isSome then .ok { s with item := some list } else .error .userNotFound

/-- `activeSessions.some(s => s.jti === payload.jti)` -/
def accepts (s : SessionDb) (jti : Jti) : Bool := (s.load B).any (·.jti = jti)

def loadSessions : SessionTask (List Session) := .section_ () fun _ => .gets (·.load B)

/-- The sessions in `seen` or in the list that are not kept. -/
def taken (s : SessionDb) (seen kept : List Session) : List Jti :=
  ((seen ++ s.load B).map (·.jti)).filter fun jti => !kept.any (·.jti = jti)

/-- `saveSessions`, by a request that revokes: `seen` is what it has loaded. -/
def saveKept (me : Pid) (seen kept : List Session) : SessionTask Unit :=
  .section_ () fun _ s =>
    match s.save B kept with
    | .error e => (.error e, s)
    | .ok s' => (.ok (), { s' with revoked := s.revoked ++ (s.taken B seen kept).map (me, ·) })

/-- `saveSessions`, with the session that is recorded. -/
def saveAdded (jti : Jti) (all : List Session) : SessionTask Unit :=
  .section_ () fun i s =>
    match s.save B (addSession all jti i.now) with
    | .error e => (.error e, s)
    | .ok s' => (.ok (), { s' with recorded := s.recorded ++ [jti] })

end

def findUserById (id : Uid) : SessionTask (Option User) :=
  .section_ () fun _ => .gets fun s => s.user.filter (·.id = id)

/-- `updateUserById`; the callback returns the record it leaves, or throws. -/
def updateUserById (id : Uid) (fn : Nat → User → Except RepoError User) :
    SessionTask (Option User) :=
  .section_ () fun i s =>
    if i.timedOut then (.error .lockTimeout, s)
    else
      match s.user.filter (·.id = id) with
      | none => (.ok none, s)
      | some u =>
        match fn i.now u with
        | .error e => (.error e, s)
        | .ok u' => (.ok (some u'), { s with user := some u' })

/-! ## The lock -/

/-- `lock(dir)`: waits until the lock is free, or gives up after the last retry. -/
def lockDir (me : Pid) : SessionTask Unit :=
  .waiting () (fun i s => s.lock.isNone || i.timedOut) fun _ s =>
    if s.lock.isNone then (.ok (), { s with lock := some me }) else (.error .lockTimeout, s)

def unlockDir (me : Pid) : SessionTask Unit :=
  .section_ () fun _ => .modify fun s => if s.lock = some me then { s with lock := none } else s

/-- `mkdirSync(dir, { recursive: true })`, if the directory is not there. -/
def makeDir (s : SessionDb) : SessionDb :=
  match s.folder with
  | none => { s with folder := some none }
  | some _ => s

def withUserDirLock {α : Type} (me : Pid) (fn : SessionTask α) : SessionTask α := do
  .section_ () fun _ => pure ()
  .section_ () fun _ => .modify makeDir
  lockDir me
  fn.finally_ (unlockDir me)

/-! ## The requests -/

section

variable (N : Node) (B : VaultBackend)

/-- The end of `recordSession`, from the list it loaded; the device name and the address come from
an imported module. -/
def appendSession (jti : Jti) (all : List Session) : SessionTask Unit := do
  .section_ () fun _ => pure ()
  saveAdded B jti all

/-- `existsSync(dir)`. Without the directory there is no lock to wait for, and a list that is in a
file is read at once. -/
def unlockedSessions : SessionTask (Option (Option (List Session))) :=
  .section_ () fun _ => .gets fun s =>
    if s.folder.isSome then none
    else
      match B with
      | .file => some (some (s.load .file))
      | .postgres => some none

def recordSession (me : Pid) (jti : Jti) : SessionTask Unit := do
  match ← unlockedSessions B with
  | some (some all) => appendSession B jti all
  | some none =>
    let all ← loadSessions B
    appendSession B jti all
  | none =>
    lockDir me
    Async.finally_ (do
      let all ← loadSessions B
      appendSession B jti all) (unlockDir me)

def authMiddleware (cookie : Option SessionToken) : SessionTask (Option Auth) := do
  match cookie with
  | none => return none
  | some token =>
    -- `verifyJwt`: an expired token does not decrypt
    match ← .section_ () fun i => pure (if token.exp ≤ i.now / 1000 then none else some token) with
    | none => return none
    | some payload =>
      match ← findUserById payload.sub with
      | none => return none
      | some u =>
        let isActive ← .section_ () fun _ => .gets (·.accepts B payload.jti)
        return if isActive then some ⟨u.id, payload.jti⟩ else none

/-- `authMiddleware, requireAuth, requireCsrf`, and then the handler. -/
def authenticated (caller : Caller) (handler : Auth → SessionTask Response) :
    SessionTask Response := do
  match ← authMiddleware B caller.cookie with
  | none => return .error_ 401 "unauthenticated"
  | some user => if caller.csrfOk then handler user else return .error_ 403 "csrf"

/-- `loadSessions`, `filter` and `saveSessions` under the lock. -/
def filterSessions (me : Pid) (keep : Session → Bool) : SessionTask Unit :=
  withUserDirLock me do
    let list ← loadSessions B
    saveKept B me list (list.filter keep)

/-- `POST /api/auth/sessions/revoke-others` -/
def revokeOthers (me : Pid) (caller : Caller) : SessionTask Response :=
  authenticated B caller fun user => do
    let _ ← updateUserById user.id fun _ u =>
      .ok { u with revocationEpoch := u.revocationEpoch + 1 }
    filterSessions B me (·.jti = user.jti)
    return .okay

/-- `POST /api/auth/logout` -/
def logout (me : Pid) (caller : Caller) : SessionTask Response := do
  let auth ← authMiddleware B caller.cookie
  if !caller.csrfOk then
    return .error_ 403 "csrf"
  else
    match auth with
    | none => return .okay
    | some user =>
      filterSessions B me (·.jti ≠ user.jti)
      return .okay

def tooManyRequests : RepoError := .thrown "too_many_requests"

def passwordChangedConcurrently : RepoError := .thrown "password_changed_concurrently"

def verifyPassword (hashOrLegacy password legacySaltHex : Text) : SessionTask Bool :=
  .section_ () fun i =>
    if i.busy then throw tooManyRequests
    else
      match N.accepts hashOrLegacy password legacySaltHex with
      | some b => pure b
      | none => throw (.thrown "argon2")

def hashPassword (password : Text) : SessionTask Text :=
  .section_ () fun i =>
    if i.busy then throw tooManyRequests else pure (N.argon2Hash i.random password)

/-- The callback of the password change. -/
def passwordUpdate (newHash : Text) (uSnap : User) (now : Nat) (u : User) :
    Except RepoError User :=
  if u.passwordHash ≠ uSnap.passwordHash then .error passwordChangedConcurrently
  else .ok { u with
    salt := []
    passwordHash := newHash
    passwordChangedAt := now
    revocationEpoch := u.revocationEpoch + 1 }

def storePassword (uid : Uid) (newHash : Text) (uSnap : User) : SessionTask PasswordOutcome :=
  tryCatch (do
      match ← updateUserById uid (passwordUpdate newHash uSnap) with
      | some u => return .changed u.revocationEpoch
      | none => return .noUser)
    fun e => if e = passwordChangedConcurrently then return .changedConcurrently else throw e

/-- The rest of `POST /api/auth/password`, from the parsed body on. -/
def replacePassword (me : Pid) (uid : Uid) (old new : Text) : SessionTask Response := do
  if new.length < 12 then
    return .error_ 400 "weak_password"
  else
    match ← findUserById uid with
    | none => return .error_ 401 "user_not_found"
    | some uSnap =>
      if ← verifyPassword N uSnap.passwordHash old uSnap.salt then
        let newHash ← hashPassword N new
        match ← storePassword uid newHash uSnap with
        | .changedConcurrently => return .error_ 409 "password_changed"
        | .noUser => return .error_ 401 "user_not_found"
        | .changed _ =>
          withUserDirLock me (saveKept B me [] [])
          return .okay
      else
        return .error_ 401 "invalid_credentials"

def changePassword (me : Pid) (caller : Caller) (oldPassword newPassword : JsonText) :
    SessionTask Response :=
  authenticated B caller fun user =>
    match oldPassword, newPassword with
    | .text old, .text new => replacePassword N B me user.id old new
    | _, _ => return .error_ 400 "invalid_input"

end

end SessionDb

/-- What touches the list of a user. -/
inductive SessionRequest where
  /-- a login that has come to `recordSession` -/
  | record (jti : Jti)
  | logout (caller : Caller)
  | revokeOthers (caller : Caller)
  | changePassword (caller : Caller) (oldPassword newPassword : JsonText)

def SessionRequest.task (N : Node) (B : VaultBackend) (me : Pid) :
    SessionRequest → SessionTask Response
  | .record jti => do
    SessionDb.recordSession B me jti
    return .okay
  | .logout caller => SessionDb.logout B me caller
  | .revokeOthers caller => SessionDb.revokeOthers B me caller
  | .changePassword caller old new => SessionDb.changePassword N B me caller old new

/-! ## What the requests agree on -/

namespace SessionDb

variable {s s' : SessionDb} {B : VaultBackend}

/-- The session was recorded, and nobody has revoked it. -/
def Live (s : SessionDb) (jti : Jti) : Prop :=
  jti ∈ s.recorded ∧ ∀ q, (q, jti) ∉ s.revoked

/-- What holds throughout. -/
structure Kept (B : VaultBackend) (s : SessionDb) : Prop where
  listed : ∀ x ∈ s.load B, s.Live x.jti
  revoked : ∀ e ∈ s.revoked, e.2 ∈ s.recorded
  folder : B = .postgres → s.folder.isSome

/-- What `p` relies on: nothing recorded is forgotten, nobody else records its session, and while it
holds the lock nothing is revoked. -/
structure Relies (requests : Pid → SessionRequest) (p : Pid) (s s' : SessionDb) : Prop where
  recorded : ∀ jti ∈ s.recorded, jti ∈ s'.recorded
  unused : ∀ jti, requests p = .record jti → jti ∉ s.recorded → jti ∉ s'.recorded
  lock : s.lock = some p → s'.lock = some p ∧ s'.revoked = s.revoked

end SessionDb

def revocationProtocol (B : VaultBackend) (requests : Pid → SessionRequest) :
    Protocol Pid Unit SessionInput SessionDb where
  inv := SessionDb.Kept B
  rely := SessionDb.Relies requests
  refl _ _ := ⟨fun _ h => h, fun _ _ h => h, fun h => ⟨h, rfl⟩⟩
  trans h h' := by
    refine ⟨fun jti hj => h'.recorded jti (h.recorded jti hj),
      fun jti hreq hj => h'.unused jti hreq (h.unused jti hreq hj), fun hlock => ?_⟩
    obtain ⟨hlock', hrevoked'⟩ := h.lock hlock
    obtain ⟨hlock'', hrevoked''⟩ := h'.lock hlock'
    exact ⟨hlock'', hrevoked''.trans hrevoked'⟩
  may _ _ _ := True

variable (N : Node) (caller : Caller) (uid : Uid)

namespace SessionDb

section

variable {s s' : SessionDb} {B : VaultBackend}

/-- What a save does, if it does anything. -/
structure Saved (B : VaultBackend) (list : List Session) (s s' : SessionDb) : Prop where
  load : s'.load B = list
  folder : s.folder.isSome → s'.folder.isSome
  lock : s'.lock = s.lock
  recorded : s'.recorded = s.recorded
  revoked : s'.revoked = s.revoked

theorem saved_of_save {list : List Session} (h : s.save B list = .ok s') : Saved B list s s' := by
  cases B with
  | file =>
    simp only [save] at h
    split at h
    · cases h
      exact ⟨rfl, fun _ => rfl, rfl, rfl, rfl⟩
    · cases h
  | postgres =>
    simp only [save] at h
    split at h
    · rename_i huser
      cases h
      exact ⟨if_pos huser, id, rfl, rfl, rfl⟩
    · cases h

theorem load_file_of_none (h : s.folder.isSome = false) : s.load .file = [] := by
  rw [Option.isSome_eq_false_iff, Option.isNone_iff_eq_none] at h
  rw [load, h]
  rfl

theorem load_makeDir : s.makeDir.load B = s.load B := by
  unfold makeDir
  split
  · rename_i hfolder
    cases B with
    | file => exact (load_file_of_none (by rw [hfolder]; rfl)).symm
    | postgres => rfl
  · rfl

end

variable {B : VaultBackend} {requests : Pid → SessionRequest} {p : Pid} {s s' : SessionDb}
  {α β : Type}

theorem fair_of_same (hload : s'.load B = s.load B) (hfolder : s.folder.isSome → s'.folder.isSome)
    (hlock : s'.lock = s.lock) (hrecorded : s'.recorded = s.recorded)
    (hrevoked : s'.revoked = s.revoked) : (revocationProtocol B requests).Fair p s s' := by
  refine ⟨fun hinv => ⟨fun x hx => ?_, ?_, fun hB => hfolder (hinv.folder hB)⟩,
    fun q _ => ⟨?_, ?_, ?_⟩⟩
  · unfold Live
    rw [hrecorded, hrevoked]
    exact hinv.listed x (hload ▸ hx)
  · rw [hrecorded, hrevoked]
    exact hinv.revoked
  · exact fun jti hj => hrecorded ▸ hj
  · exact fun jti _ hj => hrecorded ▸ hj
  · exact fun h => ⟨hlock.trans h, hrevoked⟩

theorem fair_setLock {o : Option Pid} (h : ∀ q, q ≠ p → s.lock ≠ some q) :
    (revocationProtocol B requests).Fair p s { s with lock := o } :=
  ⟨fun hinv => ⟨hinv.listed, hinv.revoked, hinv.folder⟩, fun q hq =>
    ⟨fun _ hj => hj, fun _ _ hj => hj, fun hlock => absurd hlock (h q hq)⟩⟩

variable {list : List Session} {jti : Jti}

theorem fair_record (hdistinct : ∀ q, requests q = .record jti → q = p) (hfresh : jti ∉ s.recorded)
    (hlist : ∀ x ∈ list, x.jti = jti ∨ s.Live x.jti) (hsave : s.save B list = .ok s') :
    (revocationProtocol B requests).Fair p s { s' with recorded := s.recorded ++ [jti] } := by
  have hsaved := saved_of_save hsave
  refine ⟨fun hinv => ⟨fun x hx => ?_, fun e he => ?_, fun hB => hsaved.folder (hinv.folder hB)⟩,
    fun q hq => ⟨fun _ hj => mem_append_left _ hj, fun jti' hreq' hj hmem => ?_, fun hlock => ?_⟩⟩
  · unfold Live
    dsimp only
    rw [hsaved.revoked]
    have hx' : x ∈ s'.load B := hx
    rw [hsaved.load] at hx'
    rcases hlist x hx' with hnew | hold
    · rw [hnew]
      refine ⟨mem_append_right _ (mem_singleton_self jti), fun q hq => hfresh ?_⟩
      exact hinv.revoked _ hq
    · exact ⟨mem_append_left _ hold.1, hold.2⟩
  · dsimp only at he
    rw [hsaved.revoked] at he
    exact mem_append_left _ (hinv.revoked e he)
  · rcases mem_append.mp hmem with hmem | hmem
    · exact hj hmem
    · rw [mem_singleton.mp hmem] at hreq'
      exact hq (hdistinct q hreq')
  · exact ⟨hsaved.lock.trans hlock, hsaved.revoked⟩

variable {seen kept : List Session}

theorem fair_revoke (hlock : s.lock = some p) (hseen : ∀ x ∈ seen, s.Live x.jti)
    (hkept : ∀ x ∈ kept, s.Live x.jti) (hinv : s.Kept B) (hsave : s.save B kept = .ok s') :
    (revocationProtocol B requests).Fair p s
      { s' with revoked := s.revoked ++ (s.taken B seen kept).map (p, ·) } := by
  have hsaved := saved_of_save hsave
  refine ⟨fun _ => ⟨fun x hx => ?_, fun e he => ?_, fun hB => hsaved.folder (hinv.folder hB)⟩,
    fun q hq => ⟨?_, ?_, fun hlock' => ?_⟩⟩
  · have hx' : x ∈ s'.load B := hx
    rw [hsaved.load] at hx'
    obtain ⟨hrecorded, hlive⟩ := hkept x hx'
    refine ⟨hsaved.recorded ▸ hrecorded, fun q hq => ?_⟩
    rcases mem_append.mp hq with hq | hq
    · exact hlive q hq
    · -- what is kept is not among what was taken
      obtain ⟨jti, hjti, heq⟩ := mem_map.mp hq
      cases heq
      have hnot := (mem_filter.mp hjti).2
      rw [Bool.not_eq_true', any_eq_false] at hnot
      exact hnot x hx' (decide_eq_true rfl)
  · dsimp only
    rw [hsaved.recorded]
    rcases mem_append.mp he with he | he
    · exact hinv.revoked e he
    · obtain ⟨jti, hjti, rfl⟩ := mem_map.mp he
      obtain ⟨x, hx, rfl⟩ := mem_map.mp (mem_filter.mp hjti).1
      rcases mem_append.mp hx with hx | hx
      · exact (hseen x hx).1
      · exact (hinv.listed x hx).1
  · exact fun jti hj => hsaved.recorded ▸ hj
  · exact fun jti _ hj => hsaved.recorded ▸ hj
  · exact absurd (Option.some.inj (hlock'.symm.trans hlock)) hq

/-! ## Under the lock -/

variable {fn : SessionTask α} {R : SessionDb → Prop} {x : SessionTask α}

/-- `p` holds the lock, and `list` is what it has loaded. -/
structure Holds (p : Pid) (list : List Session) (s : SessionDb) : Prop where
  lock : s.lock = some p
  live : ∀ x ∈ list, s.Live x.jti

theorem Holds.rely (h : Holds p list s) (hrely : Relies requests p s s') : Holds p list s' := by
  obtain ⟨hlock, hrevoked⟩ := hrely.lock h.lock
  refine ⟨hlock, fun x hx => ⟨hrely.recorded _ (h.live x hx).1, ?_⟩⟩
  rw [hrevoked]
  exact (h.live x hx).2

/-- A process that keeps to the protocol from wherever it starts, and of whose end no more is
known. -/
abbrev Keeps (B : VaultBackend) (requests : Pid → SessionRequest) (p : Pid) (x : SessionTask α)
    (s : SessionDb) : Prop :=
  (revocationProtocol B requests).Safe p (fun _ _ => True) x s

theorem unlockDir_keeps : Keeps B requests p (unlockDir p) s := by
  refine safe_waiting fun i t _ _ _ _ => ⟨?_, fun _ _ => trivial⟩
  dsimp only [Fallible.modify_run]
  split
  · rename_i hlock
    refine fair_setLock fun q hq hlock' => hq ?_
    exact Option.some.inj (hlock'.symm.trans hlock)
  · exact Fair.refl t

theorem locked_keeps (hR : ∀ t t', Relies requests p t t' → R t → R t')
    (hRlock : ∀ t o, R t → R { t with lock := o })
    (hfn : ∀ s, Holds p [] s → R s → Keeps B requests p fn s) (hs : R s) :
    Keeps B requests p (lockDir p >>= fun _ => fn.finally_ (unlockDir p)) s := by
  refine Safe.bind (safe_waiting fun i t hrely _ _ _ => ?_)
  split
  · rename_i hnone
    refine ⟨fair_setLock fun q _ hlock => by simp [hlock] at hnone, fun u hrely' => ?_⟩
    have hholds : Holds p [] { t with lock := some p } :=
      ⟨rfl, fun _ hx => absurd hx not_mem_nil⟩
    have hu := hR _ u hrely' (hRlock t _ (hR s t hrely hs))
    exact (hfn u (hholds.rely hrely') hu).finally_any fun v => unlockDir_keeps
  · exact ⟨Fair.refl t, fun _ _ _ _ => trivial⟩

theorem fair_makeDir : (revocationProtocol B requests).Fair p s s.makeDir := by
  refine fair_of_same load_makeDir (fun hfolder => ?_) ?_ ?_ ?_ <;> unfold makeDir <;> split <;>
    first | rfl | exact hfolder

theorem withUserDirLock_safe (hfn : ∀ s, Holds p [] s → Keeps B requests p fn s) (s : SessionDb) :
    Keeps B requests p (withUserDirLock p fn) s := by
  refine Safe.bind (safe_waiting fun i t _ _ _ _ => ⟨Fair.refl t, fun u _ => ?_⟩)
  refine Safe.bind (safe_waiting fun i t _ _ _ _ =>
    ⟨fair_makeDir, fun v _ => ?_⟩)
  exact locked_keeps (R := fun _ => True) (fun _ _ _ h => h) (fun _ _ h => h)
    (fun t ht _ => hfn t ht) trivial

theorem loadSessions_safe {k : List Session → SessionTask β} (hs : Holds p [] s)
    (hk : ∀ list t, Relies requests p s t → Holds p list t → Keeps B requests p (k list) t) :
    Keeps B requests p (loadSessions B >>= k) s := by
  refine Safe.bind (safe_waiting fun i t hrely hinv _ _ =>
    ⟨Fair.refl t, fun u hrely' => hk _ u ?_ ?_⟩)
  · exact (revocationProtocol B requests).trans hrely hrely'
  · have hholds : Holds p (t.load B) t := ⟨(hs.rely hrely).lock, hinv.listed⟩
    exact hholds.rely hrely'

theorem saveKept_keeps (hsub : ∀ x ∈ kept, x ∈ seen) (hs : Holds p seen s) :
    Keeps B requests p (saveKept B p seen kept) s := by
  refine safe_waiting fun i t hrely hinv _ _ => ⟨?_, fun _ _ => trivial⟩
  have ht := hs.rely hrely
  split
  · exact Fair.refl t
  · rename_i t' hsave
    exact fair_revoke ht.lock ht.live (fun x hx => ht.live x (hsub x hx)) hinv hsave

theorem filterSessions_keeps (keep : Session → Bool) :
    Keeps B requests p (filterSessions B p keep) s :=
  withUserDirLock_safe (fun _ hs => loadSessions_safe hs fun _ _ _ ht =>
    saveKept_keeps (fun _ hx => mem_of_mem_filter hx) ht) s

/-! ## Recording -/

/-- Only `p` records this session, and has not done so. -/
structure Pending (requests : Pid → SessionRequest) (p : Pid) (jti : Jti) (s : SessionDb) :
    Prop where
  request : requests p = .record jti
  distinct : ∀ q, requests q = .record jti → q = p
  fresh : jti ∉ s.recorded

theorem Pending.rely (h : Pending requests p jti s) (hrely : Relies requests p s s') :
    Pending requests p jti s' :=
  ⟨h.request, h.distinct, hrely.unused jti h.request h.fresh⟩

theorem appendSession_keeps {all : List Session} (hR : ∀ t t', Relies requests p t t' → R t → R t')
    (hlive : ∀ t, R t → ∀ x ∈ all, t.Live x.jti) (hpending : Pending requests p jti s) (hs : R s) :
    Keeps B requests p (appendSession B jti all) s := by
  refine Safe.bind (safe_waiting fun i t hrely _ _ _ =>
    ⟨Fair.refl t, fun u hrely' => ?_⟩)
  refine safe_waiting fun i v hrely'' _ _ _ => ⟨?_, fun _ _ => trivial⟩
  have hrely₃ : Relies requests p s v := (revocationProtocol B requests).trans
    ((revocationProtocol B requests).trans hrely hrely') hrely''
  have hv := hpending.rely hrely₃
  split
  · exact Fair.refl v
  · rename_i v' hsave
    refine fair_record hv.distinct hv.fresh (fun x hx => ?_) hsave
    rcases mem_addSession hx with hnew | ⟨y, hy, hxy⟩
    · exact .inl hnew
    · exact .inr (hxy ▸ hlive v (hR s v hrely₃ hs) y hy)

theorem recordSession_safe (hpending : Pending requests p jti s) :
    Keeps B requests p (recordSession B p jti) s := by
  refine Safe.bind (safe_waiting fun i t hrely hinv _ _ =>
    ⟨Fair.refl t, fun u hrely' => ?_⟩)
  have hu := (hpending.rely hrely).rely hrely'
  dsimp only [Fallible.gets_run]
  cases hfolder : t.folder.isSome with
  | true =>
    rw [if_pos rfl]
    refine locked_keeps (fun _ _ h hp => hp.rely h)
      (fun _ _ hp => ⟨hp.request, hp.distinct, hp.fresh⟩)
      (fun v hv hp => loadSessions_safe hv fun list w hrely'' hw => ?_) hu
    exact appendSession_keeps (fun _ _ h hw => hw.rely h) (fun _ hw => hw.live) (hp.rely hrely'') hw
  | false =>
    rw [if_neg Bool.false_ne_true]
    cases B with
    | file =>
      dsimp only
      rw [load_file_of_none hfolder]
      exact appendSession_keeps (fun _ _ _ _ => trivial)
        (fun _ _ x hx => absurd hx not_mem_nil) hu trivial
    | postgres => exact absurd (hinv.folder rfl) (by simp [hfolder])

/-! ## The other requests -/

theorem keeps_pure (a : α) : Keeps B requests p (pure a) s := fun _ _ => trivial

theorem keeps_bind {k : α → SessionTask β} (hx : (revocationProtocol B requests).Obeys x)
    (hk : ∀ a t, Keeps B requests p (k a) t) : Keeps B requests p (x >>= k) s :=
  (hx p s).bind_any (fun _ _ => trivial) hk

theorem looks_obeys {f : SessionInput → Fallible RepoError SessionDb α}
    (hf : ∀ i s, (f i s).2 = s) : (revocationProtocol B requests).Obeys (.section_ () f) :=
  obeys_section fun p i s _ _ => by
    rw [hf i s]
    exact Fair.refl s

theorem updateUserById_obeys (id : Uid) (fn : Nat → User → Except RepoError User) :
    (revocationProtocol B requests).Obeys (updateUserById id fn) := by
  refine obeys_section fun p i s _ _ => ?_
  split
  · exact Fair.refl s
  · split
    · exact Fair.refl s
    · rename_i u hu
      split
      · exact Fair.refl s
      · -- the list of a user who is there does not depend on the record
        refine fair_of_same ?_ (fun h => h) rfl rfl rfl
        have huser : s.user = some u := (Option.filter_eq_some_iff.mp hu).1
        cases B with
        | file => rfl
        | postgres => simp only [load, huser, Option.isSome_some]

theorem authMiddleware_obeys (cookie : Option SessionToken) :
    (revocationProtocol B requests).Obeys (authMiddleware B cookie) := by
  cases cookie with
  | none => exact obeys_pure _
  | some token =>
    refine (looks_obeys fun _ _ => rfl).bind fun payload => ?_
    cases payload with
    | none => exact obeys_pure _
    | some payload =>
      refine (looks_obeys fun _ _ => rfl).bind fun u => ?_
      cases u with
      | none => exact obeys_pure _
      | some u => exact (looks_obeys fun _ _ => rfl).bind fun _ => obeys_pure _

theorem authenticated_keeps {caller : Caller} {handler : Auth → SessionTask Response}
    (h : ∀ user t, Keeps B requests p (handler user) t) :
    Keeps B requests p (authenticated B caller handler) s := by
  refine keeps_bind (authMiddleware_obeys _) (fun user t => ?_)
  cases user with
  | none => exact keeps_pure _
  | some user =>
    dsimp only
    split
    · exact h user t
    · exact keeps_pure _

theorem keeps_answer (hx : Keeps B requests p x s) (answer : β) :
    Keeps B requests p (x >>= fun _ => pure answer) s :=
  hx.bind_any (fun _ _ => trivial) fun _ t => keeps_pure answer

theorem logout_keeps : Keeps B requests p (logout B p caller) s := by
  refine keeps_bind (authMiddleware_obeys _) (fun auth t => ?_)
  split
  · exact keeps_pure _
  · cases auth with
    | none => exact keeps_pure _
    | some user => exact keeps_answer (filterSessions_keeps _) _

theorem revokeOthers_keeps : Keeps B requests p (revokeOthers B p caller) s :=
  authenticated_keeps (fun _ t => keeps_bind (updateUserById_obeys _ _)
    (fun _ u => keeps_answer (filterSessions_keeps _) _))

theorem storePassword_obeys (newHash : Text) (uSnap : User) :
    (revocationProtocol B requests).Obeys (storePassword uid newHash uSnap) := by
  refine Obeys.tryCatch ((updateUserById_obeys _ _).bind fun u => ?_) fun e => ?_
  · cases u <;> exact obeys_pure _
  · split
    · exact obeys_pure _
    · exact obeys_throw _

theorem verifyPassword_obeys (hashOrLegacy password legacySaltHex : Text) :
    (revocationProtocol B requests).Obeys
      (verifyPassword N hashOrLegacy password legacySaltHex) := by
  refine looks_obeys fun i s => ?_
  split
  · rfl
  · cases N.accepts hashOrLegacy password legacySaltHex <;> rfl

theorem hashPassword_obeys (password : Text) :
    (revocationProtocol B requests).Obeys (hashPassword N password) := by
  refine looks_obeys fun i s => ?_
  split <;> rfl

theorem replacePassword_keeps (old new : Text) :
    Keeps B requests p (replacePassword N B p uid old new) s := by
  unfold replacePassword
  split
  · exact keeps_pure _
  refine keeps_bind (looks_obeys fun _ _ => rfl) (fun uSnap t => ?_)
  cases uSnap with
  | none => exact keeps_pure _
  | some uSnap =>
    refine keeps_bind (verifyPassword_obeys N _ _ _) (fun verified t => ?_)
    split
    · refine keeps_bind (hashPassword_obeys N new) (fun newHash t => ?_)
      refine keeps_bind (storePassword_obeys _ _ _) (fun outcome t => ?_)
      cases outcome with
      | changedConcurrently => exact keeps_pure _
      | noUser => exact keeps_pure _
      | changed _ =>
        refine keeps_answer (withUserDirLock_safe (fun _ hs => ?_) t) _
        exact saveKept_keeps (fun _ hx => absurd hx not_mem_nil) hs
    · exact keeps_pure _

theorem changePassword_keeps (oldPassword newPassword : JsonText) :
    Keeps B requests p (changePassword N B p caller oldPassword newPassword) s := by
  refine authenticated_keeps (fun user t => ?_)
  split
  · exact replacePassword_keeps N user.id _ _
  · exact keeps_pure _

end SessionDb

/-! ## Any interleaving -/

variable {B : VaultBackend} {s : SessionDb}

open SessionDb

/-- The requests under way. -/
def sessionSystem (N : Node) (B : VaultBackend) (requests : Pid → SessionRequest) (s : SessionDb) :
    System Pid Unit SessionInput SessionDb RepoError Response :=
  ⟨s, fun p => (requests p).task N B p⟩

/-- `randomBytes(16)` never gives two logins the same session, nor one there has been. -/
def DistinctSessions (requests : Pid → SessionRequest) (s : SessionDb) : Prop :=
  ∀ p jti, requests p = .record jti → jti ∉ s.recorded ∧ ∀ q, requests q = .record jti → q = p

/-- Nothing has been revoked, and what is listed was recorded. -/
structure SessionDb.AtRest (B : VaultBackend) (s : SessionDb) : Prop where
  revoked : s.revoked = []
  listed : ∀ x ∈ s.load B, x.jti ∈ s.recorded

theorem SessionDb.AtRest.kept (h : s.AtRest B) (hfolder : B = .postgres → s.folder.isSome) :
    s.Kept B := by
  refine ⟨fun x hx => ⟨h.listed x hx, ?_⟩, ?_, hfolder⟩
  · simp [h.revoked]
  · simp [h.revoked]

theorem SessionRequest.task_safe {requests : Pid → SessionRequest}
    (hdistinct : DistinctSessions requests s) (p : Pid) :
    Keeps B requests p ((requests p).task N B p) s := by
  cases hreq : requests p with
  | record jti =>
    obtain ⟨hfresh, hother⟩ := hdistinct p jti hreq
    exact keeps_answer (recordSession_safe ⟨hreq, hother, hfresh⟩) _
  | logout caller => exact logout_keeps caller
  | revokeOthers caller => exact revokeOthers_keeps caller
  | changePassword caller old new => exact changePassword_keeps N caller old new

/-- **Revoked sessions stay revoked**, with files, or with Postgres if the directory is there: in
every interleaving `authMiddleware` accepts no session that a request has taken from the list,
answered or not. -/
theorem revoked_sessions_refused (N : Node) (B : VaultBackend) (requests : Pid → SessionRequest)
    (s : SessionDb) (hrest : s.AtRest B) (hfolder : B = .postgres → s.folder.isSome)
    (hdistinct : DistinctSessions requests s) (es : List (Pid × SessionInput))
    (t : System Pid Unit SessionInput SessionDb RepoError Response)
    (ht : Visits System.step (sessionSystem N B requests s) es t) :
    ∀ p jti, (p, jti) ∈ t.shared.revoked → t.shared.accepts B jti = false := by
  have hstart : System.Sound (revocationProtocol B requests) (fun _ _ _ => True)
      (sessionSystem N B requests s) :=
    ⟨hrest.kept hfolder, fun p => SessionRequest.task_safe N hdistinct p⟩
  have hallowed : Along System.step (sessionSystem N B requests s) es
      (System.Allowed (revocationProtocol B requests)) := by
    intro pre e post _
    unfold System.Allowed
    split <;> trivial
  have hsound := System.invariant hstart hallowed ht
  intro p jti hrevoked
  rw [accepts, any_eq_false]
  intro x hx heq
  rw [decide_eq_true_iff] at heq
  exact (hsound.inv.listed x hx).2 p (heq ▸ hrevoked)

/-! ## A login and a logout, with Postgres -/

/-- The owner is logged in; `folder` is what there is on the disk. -/
def ownerDb (folder : Option (Option (List Session))) : SessionDb where
  user := some (symbolicUser ownerPassword)
  folder := folder
  item := some ownerSessions
  lock := none
  recorded := [ownerJti]
  revoked := []

/-- The session of a second login. -/
def secondJti : Jti := ⟨['1'], some 0⟩

def loginAndLogout : Pid → SessionRequest
  | 0 => .record secondJti
  | 1 => .logout owner
  | _ => .logout ⟨none, [], []⟩

variable (folder : Option (Option (List Session)))

theorem loginAndLogout_distinct : DistinctSessions loginAndLogout (ownerDb folder) := by
  have hzero : ∀ p jti, loginAndLogout p = .record jti → p = 0 ∧ jti = secondJti := by
    intro p jti hreq
    unfold loginAndLogout at hreq
    split at hreq <;> cases hreq
    exact ⟨rfl, rfl⟩
  intro p jti hreq
  obtain ⟨rfl, rfl⟩ := hzero p jti hreq
  have hfresh : secondJti ∉ [ownerJti] := by decide
  exact ⟨hfresh, fun q hq => (hzero q _ hq).1⟩

theorem ownerDb_atRest : (ownerDb folder).AtRest .postgres :=
  ⟨rfl, fun x hx => by
    rw [mem_singleton.mp hx]
    exact mem_singleton_self _⟩

def sessionInput : SessionInput := ⟨0, [], false, false⟩

def sessionTurns (ps : List Pid) : List (Pid × SessionInput) := ps.map (·, sessionInput)

def afterSessionTurns (folder : Option (Option (List Session))) (ps : List Pid) :
    System Pid Unit SessionInput SessionDb RepoError Response :=
  Kit.run System.step (sessionSystem symbolicNode .postgres loginAndLogout (ownerDb folder))
    (sessionTurns ps)

/-- The login takes the lock first, and the logout waits for it. -/
def lockedTurns : List Pid := [0, 1, 1, 1, 0, 1, 1, 1, 0, 0, 0, 0, 1, 1, 1, 1]

theorem owner_logged_out :
    (1, ownerJti) ∈ (afterSessionTurns (some none) lockedTurns).shared.revoked ∧
    (afterSessionTurns (some none) lockedTurns).shared.accepts .postgres ownerJti = false :=
  have hrevoked : (1, ownerJti) ∈ (afterSessionTurns (some none) lockedTurns).shared.revoked := by
    decide +kernel
  ⟨hrevoked, revoked_sessions_refused symbolicNode .postgres loginAndLogout (ownerDb (some none))
    (ownerDb_atRest _) (fun _ => rfl) (loginAndLogout_distinct _) (sessionTurns lockedTurns) _
    (.last _ _ _) 1 ownerJti hrevoked⟩

/-- The login has found no directory and loaded the list when the logout begins, and writes it back
when the logout has been answered. -/
def unlockedTurns : List Pid := [0, 0, 1, 1, 1, 1, 1, 1, 1, 1, 1, 0, 0]

/-- **A revoked session that is back.** The logout has been answered and has taken the session from
the list, and `authMiddleware` accepts it. -/
theorem revoked_session_returns :
    (ownerDb none).AtRest .postgres ∧ DistinctSessions loginAndLogout (ownerDb none) ∧
    (afterSessionTurns none (unlockedTurns.take 11)).outcomes 1 = some (.ok .okay) ∧
    (1, ownerJti) ∈ (afterSessionTurns none (unlockedTurns.take 11)).shared.revoked ∧
    (afterSessionTurns none (unlockedTurns.take 11)).shared.accepts .postgres ownerJti = false ∧
    (afterSessionTurns none unlockedTurns).shared.accepts .postgres ownerJti = true ∧
    ((SessionDb.authMiddleware .postgres owner.cookie).run (fun _ => sessionInput)
      (afterSessionTurns none unlockedTurns).shared).1 = some (.ok (some ⟨"u1", ownerJti⟩)) :=
  ⟨ownerDb_atRest none, loginAndLogout_distinct none, by decide +kernel, by decide +kernel,
    by decide +kernel, by decide +kernel, by decide +kernel⟩

end PwdNow.Server
