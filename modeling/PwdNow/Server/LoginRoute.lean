import PwdNow.Kit.Beside
import PwdNow.Server.ClientIdentity

/-!
# Server — the login route, with the fingerprint log

`POST /api/auth/login` once more, with what `login` leaves out: the log of the clients that a user
has been seen with (`makeFingerprintLogEntry` and `mergeFingerprintLog` of
`web/lib/rateLimiter.js`). Here the logs are kept beside the records, by the id of the user.
-/

namespace PwdNow.Server

open Kit Async

/-! ## The log -/

/-- The request, with what else the log takes from the body's `fingerprint`. -/
structure RouteLogin extends HttpLogin where
  timezone : JsonText
  locale : JsonText

structure FingerprintEntry where
  id : String
  visitorId : Text
  screen : Text
  timezone : Text
  locale : Text
  ip : String
  ua : Text
  firstSeen : Nat
  lastSeen : Nat
  failureCount : Nat
  successCount : Nat
  deriving DecidableEq

/-- `fingerprintLog` of each user. -/
abbrev FingerprintLogs := Uid → List FingerprintEntry

def fingerprintLogCap : Nat := 32

def makeFingerprintLogEntry (clientIdentity : String) (req : RouteLogin) (success : Bool)
    (now : Nat) : FingerprintEntry where
  id := clientIdentity
  visitorId := (req.fingerprint.map fun fp => fp.visitorId.slice 64).getD []
  screen := (req.fingerprint.map fun fp => fp.screen.slice 32).getD []
  timezone := req.timezone.slice 64
  locale := req.locale.slice 16
  ip := req.ip
  ua := req.userAgent.take 256
  firstSeen := now
  lastSeen := now
  failureCount := if success then 0 else 1
  successCount := if success then 1 else 0

def mergeFingerprintLog (log : List FingerprintEntry) (newEntry : FingerprintEntry) :
    List FingerprintEntry :=
  match log.findIdx? (·.id = newEntry.id) with
  | some existingIdx => log.modify existingIdx fun ex => { ex with
      ip := newEntry.ip
      ua := newEntry.ua
      lastSeen := newEntry.lastSeen
      failureCount := ex.failureCount + newEntry.failureCount
      successCount := ex.successCount + newEntry.successCount }
  | none =>
    let list := log ++ [newEntry]
    if list.length > fingerprintLogCap then list.drop (list.length - fingerprintLogCap) else list

/-! ## The route -/

abbrev RouteHandler := Async Await Input (Backend × FingerprintLogs) Thrown

/-- `fu.fingerprintLog = mergeFingerprintLog(fu.fingerprintLog, fpEntry)` -/
def logFingerprint (uid : Uid) (entry : FingerprintEntry) (logs : FingerprintLogs) :
    FingerprintLogs :=
  Function.update logs uid (mergeFingerprintLog (logs uid) entry)

/-- `updateUserById`, with a callback that changes the record and merges the log. -/
def updateAndLog (uid : Uid) (fn : User → User) (entry : Nat → FingerprintEntry) :
    RouteHandler (Option User) :=
  .section_ .users fun i st =>
    match st.1.findUserById uid with
    | none => (.ok none, st)
    | some fu =>
      (.ok (some (fn fu)), ({ st.1 with users := replaceUser uid (fn fu) st.1.users },
        logFingerprint uid (entry i.now) st.2))

/-- `updateUserById`, with a callback that only merges the log. -/
def logFailure (uid : Uid) (entry : Nat → FingerprintEntry) : RouteHandler Unit :=
  .section_ .users fun i => .modify fun st =>
    if (st.1.findUserById uid).isSome then (st.1, logFingerprint uid (entry i.now) st.2) else st

/-- The end of a failed login while duress is armed. -/
def duressFailed (u : User) : Handler Response := do
  match ← updateUserById u.id fun _ fu => .ok (countDuressFailure fu) with
  | some .wipe =>
    performServerWipe u.id
    return { invalidCredentials with duressWipe := true }
  | some (.remaining n) => return { invalidCredentials with duressRemaining := some n }
  | _ => return invalidCredentials

section

variable (N : Node) (me : Pid) (req : RouteLogin)

/-- What the log takes from the request. -/
def RouteLogin.entry (success : Bool) (now : Nat) : FingerprintEntry :=
  makeFingerprintLogEntry (req.clientIdentity N) req success now

def loginRouteFailed (uSnapshot : Option User) (duressArmed : Bool) : RouteHandler Response := do
  (recordLoginFailure (req.parse N) duressArmed).beside
  match uSnapshot with
  | none => return invalidCredentials
  | some u =>
    logFailure u.id (req.entry N false)
    if !duressArmed then
      return invalidCredentials
    else
      (duressFailed u).beside

def loginRouteAdmitted (uSnapshot : Option User) (duressArmed : Bool) : RouteHandler Response := do
  match uSnapshot, ← (authenticate N req.password uSnapshot).beside with
  | some u, some method =>
    let newPasswordHash ← (rehash N req.password u).beside
    (resetAccountFailures req.emailHash).beside
    (resetFingerprintFailures (req.clientIdentity N)).beside
    let finalU ← updateAndLog u.id (grantUpdate method newPasswordHash u) (req.entry N true)
    match finalU with
    | none => return .refuse 401 "user_not_found"
    | some fu =>
      (grant N me fu (if method = .password then some u.revocationEpoch else none)).beside
  | _, _ => loginRouteFailed N req uSnapshot duressArmed

def loginRoute : RouteHandler Response := do
  let _ ← (authMiddleware req.cookie).beside
  if req.password = [] ∨ req.password.length > 128 then
    return .error_ 400 "invalid_input"
  else
    let uSnapshot ← (findUserByEmailHash req.emailHash).beside
    let duressArmed := (uSnapshot.bind (·.duressEnforce)).any (·.armed)
    let ipOk ← (checkLoginRate req.ip).beside
    let fpOk ← (checkFingerprintRate (req.clientIdentity N)).beside
    let accountOk ← (checkAccountUnlessArmed duressArmed req.emailHash).beside
    if ipOk && fpOk && accountOk then
      loginRouteAdmitted N me req uSnapshot duressArmed
    else
      (loginThrottled N (req.parse N) (!accountOk) (!fpOk)).beside

end

/-! ## The log is kept beside -/

theorem updateAndLog_shadows (uid : Uid) (fn : User → User) (entry : Nat → FingerprintEntry) :
    Shadows (updateAndLog uid fn entry)
      (updateUserById uid fun _ fu => .ok (.save (fn fu) (fn fu))) := by
  refine shadows_section fun i st => ?_
  cases st.1.findUserById uid <;> exact ⟨rfl, rfl⟩

theorem logFailure_shadows {α : Type} {uid : Uid} {entry : Nat → FingerprintEntry}
    {k : RouteHandler α} {y : Handler α} (hk : Shadows k y) :
    Shadows (logFailure uid entry >>= fun _ => k) y := by
  refine shadows_aside (fun _ _ => ⟨(), rfl, hk⟩) fun i st => ?_
  dsimp only [Fallible.modify_run]
  split <;> rfl

variable (N : Node) (me : Pid) (req : RouteLogin) (uSnapshot : Option User) (duressArmed : Bool)

theorem loginRouteFailed_shadows :
    Shadows (loginRouteFailed N req uSnapshot duressArmed)
      (loginFailed (req.parse N) uSnapshot duressArmed) := by
  refine shadows_bind (shadows_beside _) fun _ => ?_
  cases uSnapshot with
  | none => exact shadows_pure _
  | some u =>
    exact logFailure_shadows (shadows_ite (shadows_pure _) (shadows_beside (duressFailed u)))

theorem loginRouteAdmitted_shadows :
    Shadows (loginRouteAdmitted N me req uSnapshot duressArmed)
      (loginAdmitted N me (req.parse N) uSnapshot duressArmed) := by
  have hfailed := loginRouteFailed_shadows N req uSnapshot duressArmed
  refine shadows_bind (shadows_beside _) fun method => ?_
  rcases uSnapshot with _ | u
  · exact hfailed
  · rcases method with _ | method
    · exact hfailed
    · refine shadows_bind (shadows_beside _) fun hash => ?_
      refine shadows_bind (shadows_beside _) fun _ => shadows_bind (shadows_beside _) fun _ => ?_
      refine shadows_bind (updateAndLog_shadows _ _ _) fun finalU => ?_
      cases finalU with
      | none => exact shadows_pure _
      | some fu => exact shadows_beside _

/-- **The log is a bystander.** -/
theorem loginRoute_shadows : Shadows (loginRoute N me req) (login N me (req.parse N)) := by
  refine shadows_bind (shadows_beside _) fun _ => shadows_ite (shadows_pure _) ?_
  refine shadows_bind (shadows_beside _) fun uSnapshot => ?_
  refine shadows_bind (shadows_beside _) fun ipOk => shadows_bind (shadows_beside _) fun fpOk => ?_
  refine shadows_bind (shadows_beside _) fun accountOk => ?_
  exact shadows_ite (loginRouteAdmitted_shadows N me req _ _) (shadows_beside _)

end PwdNow.Server
