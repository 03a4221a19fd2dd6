/-!
# Daemon — `VaultError` and the two ways a call can end early

`daemon/src/error.rs`. The texts are kept: lockout errors and wrong passwords are told apart by
them. A Rust panic unwinds past every `if res.is_err()` of the callers, so a failed call is either
`Failure.err`, which callers see, or `Failure.abort`, which they do not.
-/

namespace PwdNow.Daemon

inductive VaultError where
  | io (msg : String)
  | database (msg : String)
  | crypto (msg : String)
  | ipc (msg : String)
  | auth (msg : String)
  | sync (msg : String)
  deriving DecidableEq, Repr

inductive Failure where
  /-- The call returned `Err`. -/
  | err (e : VaultError)
  /-- The call panicked. -/
  | abort (site : String)
  deriving DecidableEq, Repr

/-- The result of a call that has no state of its own. -/
abbrev Result (α : Type) := Except Failure α

/-- `return Err(e)`. -/
def fail {α : Type} (e : VaultError) : Result α := .error (.err e)

/-- What a system call answered. -/
def outcome (answer : Except VaultError Unit) : Result Unit :=
  match answer with
  | .ok () => .ok ()
  | .error e => fail e

/-- `Option::ok_or`. -/
def okOr {α : Type} (o : Option α) (e : VaultError) : Result α :=
  match o with
  | some a => .ok a
  | none => fail e

theorem okOr_eq_ok {α : Type} {o : Option α} {e : VaultError} {a : α} :
    okOr o e = .ok a ↔ o = some a := by
  cases o <;> simp [okOr, fail]

theorem Result.bind_eq_ok {α β : Type} {x : Result α} {f : α → Result β} {b : β} :
    (x >>= f) = .ok b ↔ ∃ a, x = .ok a ∧ f a = .ok b := by
  cases x <;> simp [bind, Except.bind]

end PwdNow.Daemon
