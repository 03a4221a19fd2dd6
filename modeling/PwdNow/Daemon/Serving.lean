import PwdNow.Daemon.Trackers

/-!
# Daemon — requests that overlap

Requests are served concurrently, and an unlock spends most of its time in the key derivation. So a
request is two steps here, its checks and, at any later time, its outcome, which finds the state
that others have left.
-/

namespace PwdNow.Daemon

open Kit Kit.Fallible

/-- A request that has passed its checks. -/
structure Pending where
  request : AuthRequest
  uid : UInt32
  refusal : Option VaultError

structure Serving where
  daemon : DaemonState
  pending : List Pending
  /-- the latest reading of the clock -/
  now : Nat

inductive ServeEvent where
  /-- a request arrives and goes through its checks -/
  | arrive (env : Env) (uid : UInt32) (request : AuthRequest)
  /-- one of the pending requests comes to its outcome -/
  | finish (env : Env) (i : Nat)
  /-- a `Lock` request -/
  | lock
  /-- a request that presents no secret -/
  | other (effect : DaemonState → DaemonState)

variable (P : Primitives) (J : Serde) (W : Webauthn) (F : Factors)

def arrive (env : Env) (uid : UInt32) (request : AuthRequest) (s : Serving) : Serving where
  daemon := (checks env uid request s.daemon).2
  pending :=
    match (checks env uid request s.daemon).1 with
    | .ok refusal => s.pending ++ [⟨request, uid, refusal⟩]
    | .error _ => s.pending
  now := env.totpCheckAt

/-- The answer that the outcome of a pending request comes to. -/
def Pending.answer (p : Pending) (env : Env) (s : DaemonState) : Except Failure Unit :=
  (outcomeOf P J W F env p.uid p.refusal p.request s).1

def Pending.settle (p : Pending) (env : Env) (s : DaemonState) : DaemonState :=
  (outcomeOf P J W F env p.uid p.refusal p.request s).2

def finish (env : Env) (i : Nat) (s : Serving) : Serving :=
  match s.pending[i]? with
  | none => s
  | some p =>
    { daemon := p.settle P J W F env s.daemon
      pending := s.pending.eraseIdx i
      now := env.failAt }

def serve (s : Serving) : ServeEvent → Serving
  | .arrive env uid request => arrive env uid request s
  | .finish env i => finish P J W F env i s
  | .lock => { s with daemon := Daemon.lock s.daemon }
  | .other effect => { s with daemon := effect s.daemon }

/-- A daemon with nothing to do, at the beginning of time. -/
def idle (s : DaemonState) : Serving := ⟨s, [], 0⟩

variable {P J W F} {s : Serving} {env : Env} {i : Nat} {p : Pending}

theorem serve_finish_none (h : s.pending[i]? = none) : serve P J W F s (.finish env i) = s := by
  rw [serve, finish, h]

theorem serve_finish_some (h : s.pending[i]? = some p) :
    serve P J W F s (.finish env i) =
      { daemon := p.settle P J W F env s.daemon
        pending := s.pending.eraseIdx i
        now := env.failAt } := by
  rw [serve, finish, h]

theorem settle_ends (p : Pending) (env : Env) (s : DaemonState) :
    Ends P env p.uid s p.request (p.answer P J W F env s) (p.settle P J W F env s) :=
  outcomeOf_ends p.refusal

/-! ### On the symbolic vault -/

/-- Codes that are compared with the secret and the hash themselves, and no backup codes. -/
def symbolicFactors : Factors where
  secretBytes text := .ok (utf8 text)
  newTotp _ _ := .ok ()
  checkCurrent _ secret _ code := .ok (utf8 code = secret)
  parseBackupCodes _ := .ok []
  backupCodesJson _ := []
  parseHash _ := .ok ()
  verifyHash code hash := utf8 hash = code

def symbolicServe : Serving → ServeEvent → Serving :=
  serve symbolic spelledSerde symbolicWebauthn symbolicFactors

end PwdNow.Daemon
