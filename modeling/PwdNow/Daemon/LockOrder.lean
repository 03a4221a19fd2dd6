import PwdNow.Kit.Locks

/-!
# Daemon — the database mutex and the guard of the VMK

What the handlers of `daemon/src/ipc/grpc_server.rs` do with the two locks of `DaemonState` that
they hold across calls: `db`, a `Mutex`, and `vmk`, an `RwLock`. A handler is the list of what it
takes and gives back, for each way through it.

`with_vmk_db!`, `audit_log` and `enroll_recovery_key` take the guard of the VMK before the mutex,
the writers of the header after it. That does no harm among readers, but a waiting writer keeps
readers out. And the registration of a resident key takes the mutex that it holds
(`handlers_deadlock`). Otherwise, and when the VMK is written only while none of its readers has a
lock still to take, there is no deadlock (`not_deadlocked_of_run`).
-/

namespace PwdNow.Daemon.LockOrder

open Kit Kit.Locks

inductive Lock where
  | db
  | vmk
  deriving DecidableEq

abbrev Trace := List (Action Lock)

/-! ## Guards -/

/-- `let guard = self.db.lock().unwrap();` around `body`. -/
def onDb (body : Trace) : Trace := .acquire .db .exclusive :: body ++ [.release .db .exclusive]

/-- `let guard = self.vmk.read().unwrap();` around `body`. -/
def vmkRead (body : Trace) : Trace := .acquire .vmk .shared :: body ++ [.release .vmk .shared]

/-- `*self.vmk.write().unwrap() = ..;` -/
def vmkWrite : Trace := [.acquire .vmk .exclusive, .release .vmk .exclusive]

/-- The closure is not run without a VMK. -/
def withVmk (unlocked : Bool) (body : Trace) : Trace := vmkRead (if unlocked then body else [])

/-- `with_vmk_db!`; the body is empty when the connection is closed. -/
def withVmkDb (unlocked : Bool) (body : Trace) : Trace := withVmk unlocked (onDb body)

/-- `write_header` looks at the VMK for the MAC. -/
def writeHeader : Trace := vmkRead []

/-! ## Handlers -/

def auditLog (unlocked : Bool) : Trace := withVmkDb unlocked []

def updateLoginPolicy (readable : Bool) : Trace := onDb (if readable then writeHeader else [])

/-- `room`: the header is readable, and there are less than 16 others. -/
def addPasskeyToSidecar (room : Bool) : Trace := onDb (if room then writeHeader else [])

/-- The read guard is held from the first line to the last. -/
def enrollRecoveryKey (sealed readable : Bool) : Trace :=
  vmkRead (if sealed then onDb (if readable then writeHeader else []) else [])

def lockInternal : Trace := onDb [] ++ vmkWrite

/-- `record_failed_unlock`: the wipe begins with `lock()`. -/
def recordFailedUnlock (wipes : Bool) : Trace := if wipes then lockInternal else []

/-- How far a registration comes. -/
inductive Registration where
  /-- no answer of the authenticator, or nothing to derive the wrapping key from -/
  | failed
  /-- not a resident key -/
  | plain
  /-- a resident key, but its row is not stored -/
  | unstored
  | resident (room : Bool)
  deriving DecidableEq

def registerFido2 : Registration → Trace
  | .failed => []
  | .plain => []
  | .unstored => withVmk true []
  | .resident room => withVmk true [] ++ addPasskeyToSidecar room

/-- How far a change of the password comes. -/
inductive ChangeProgress where
  /-- a length out of bounds, or the header or the KDF fails -/
  | refused
  /-- the old password is wrong, or the new KEK fails -/
  | unverified
  /-- the vault was locked meanwhile -/
  | locked
  /-- an error before the header is written -/
  | unwritten
  /-- an error from there on -/
  | written
  | done
  deriving DecidableEq

def changePasswordInner : ChangeProgress → Trace
  | .refused => []
  | .unverified => withVmk true []
  | .locked => withVmk true [] ++ withVmk false []
  | .unwritten => withVmk true [] ++ withVmk true [] ++ onDb []
  | .written => withVmk true [] ++ withVmk true [] ++ onDb writeHeader
  | .done => withVmk true [] ++ withVmk true [] ++ onDb writeHeader ++ vmkWrite

def changePassword (progress : ChangeProgress) (wipes : Bool) : Trace :=
  changePasswordInner progress ++
    if progress = .done then [] else recordFailedUnlock wipes

/-- The ways through `unlock_existing` and `create_and_unlock`. -/
inductive Entry where
  /-- an error before anything is written -/
  | refused
  /-- the header could not be written: with a new ticket, or of a new vault -/
  | ticketUnwritten
  | vaultUnwritten
  /-- a vault that was there: a ticket is drawn, the VMK is wrapped again -/
  | existing (ticket rewrapped : Bool)
  | created
  deriving DecidableEq

def enter : Entry → Trace
  | .refused => []
  | .ticketUnwritten => writeHeader
  | .vaultUnwritten => vmkWrite ++ writeHeader
  | .existing ticket rewrapped =>
    (if ticket then writeHeader else []) ++ (if rewrapped then writeHeader else []) ++
      vmkWrite ++ onDb []
  | .created => vmkWrite ++ writeHeader ++ onDb []

/-- What follows on the entry. -/
inductive Verdict where
  /-- an error of the entry, or no room for the session -/
  | failed (wipes : Bool)
  /-- the TOTP code fails: both counters may have the vault wiped, and it is locked again -/
  | totpFailed (unlocked totpWipes wipes : Bool)
  /-- `complete_unlock` with or without pending rows, the audit row, and the ticket -/
  | passed (unlocked pending : Bool)
  deriving DecidableEq

def conclude : Verdict → Trace
  | .failed wipes => recordFailedUnlock wipes
  | .totpFailed unlocked totpWipes wipes =>
    withVmkDb unlocked [] ++ recordFailedUnlock wipes ++ recordFailedUnlock totpWipes ++
      lockInternal
  | .passed unlocked pending =>
    withVmkDb unlocked [] ++ vmkRead [] ++
      (if unlocked && pending then withVmkDb unlocked [] else []) ++
      auditLog unlocked ++ vmkRead []

inductive Handler where
  /-- most requests: rows only -/
  | withVmkDb (unlocked : Bool)
  /-- `register_pqc` writes the header as well -/
  | registerPqc (unlocked written : Bool)
  | registerFido2 (unlocked : Bool) (registration : Registration)
  | updateLoginPolicy (readable : Bool)
  | enrollRecoveryKey (sealed readable : Bool)
  | auditLog (unlocked : Bool)
  | changePassword (progress : ChangeProgress) (wipes : Bool)
  | lock (unlocked : Bool)
  | unlock (entry : Entry) (verdict : Verdict)
  deriving DecidableEq

def Handler.trace : Handler → Trace
  | .withVmkDb unlocked => LockOrder.withVmkDb unlocked []
  | .registerPqc unlocked written =>
    LockOrder.withVmkDb unlocked (if written then writeHeader else [])
  | .registerFido2 unlocked registration =>
    LockOrder.withVmkDb unlocked (LockOrder.registerFido2 registration)
  | .updateLoginPolicy readable => LockOrder.updateLoginPolicy readable
  | .enrollRecoveryKey sealed readable => LockOrder.enrollRecoveryKey sealed readable
  | .auditLog unlocked => LockOrder.auditLog unlocked
  | .changePassword progress wipes => LockOrder.changePassword progress wipes
  | .lock unlocked => LockOrder.auditLog unlocked ++ lockInternal
  | .unlock entry verdict => enter entry ++ conclude verdict

/-- The registration of a resident key that gets as far as the header. -/
def Handler.addsResidentKey : Handler → Bool
  | .registerFido2 true (.resident _) => true
  | _ => false

/-! ## Discipline -/

/-- Nothing is taken while the VMK is held for writing, and the mutex is not taken twice. -/
def Allowed (held : List (Lock × Mode)) (l : Lock) (_ : Mode) : Prop :=
  (.vmk, .exclusive) ∉ held ∧ (l = .db → (.db, .shared) ∉ held ∧ (.db, .exclusive) ∉ held)

instance (held : List (Lock × Mode)) (l : Lock) (mode : Mode) : Decidable (Allowed held l mode) :=
  inferInstanceAs (Decidable (_ ∧ _))

theorem enter_follows (entry : Entry) :
    Follows Allowed [] (enter entry) ∧ heldAfter [] (enter entry) = [] := by
  cases entry with
  | existing ticket rewrapped => cases ticket <;> cases rewrapped <;> decide
  | _ => decide

theorem conclude_follows (verdict : Verdict) : Follows Allowed [] (conclude verdict) := by
  cases verdict with
  | failed wipes => cases wipes <;> decide
  | totpFailed unlocked totpWipes wipes =>
    cases unlocked <;> cases totpWipes <;> cases wipes <;> decide
  | passed unlocked pending => cases unlocked <;> cases pending <;> decide

theorem Handler.follows (h : Handler) (hresident : h.addsResidentKey = false) :
    Follows Allowed [] h.trace := by
  cases h with
  | withVmkDb unlocked => cases unlocked <;> decide
  | registerPqc unlocked written => cases unlocked <;> cases written <;> decide
  | registerFido2 unlocked registration =>
    cases unlocked with
    | false => exact (by decide : Follows Allowed [] (LockOrder.withVmk false []))
    | true =>
      cases registration with
      | resident room => cases hresident
      | _ => decide
  | updateLoginPolicy readable => cases readable <;> decide
  | enrollRecoveryKey sealed readable => cases sealed <;> cases readable <;> decide
  | auditLog unlocked => cases unlocked <;> decide
  | changePassword progress wipes => cases progress <;> cases wipes <;> decide
  | lock unlocked => cases unlocked <;> decide
  | unlock entry verdict =>
    obtain ⟨henter, hnothing⟩ := enter_follows entry
    refine henter.append ?_
    rw [hnothing]
    exact conclude_follows verdict

/-- **No deadlock.** Without registrations of resident keys, and when the VMK is asked for
writing only while none of its readers has a lock still to take. -/
theorem not_deadlocked_of_run {n : Nat} (handlers : Fin n → Handler)
    (hresident : ∀ i, (handlers i).addsResidentKey = false) {steps : List (Fin n)}
    {c : System Lock n}
    (hrun : Along step (start fun i => (handlers i).trace) steps (Considerate .vmk))
    (hc : Visits step (start fun i => (handlers i).trace) steps c) :
    ¬ ∃ threads, Deadlocked c threads := by
  have hfollows : ∀ i, Follows Allowed (c i).held (c i).todo :=
    follows_run (fun i => (handlers i).follows (hresident i)) hc
  -- who holds the VMK that somebody waits for goes on
  have hvmk : ∀ {i j : Fin n} {l : Lock}, Blocked c i .vmk → (c j).holds .vmk → ¬ Blocked c j l :=
    fun hi hj => not_blocked_of_holds (exclusive_run hc) (patient_run hrun hc) hfollows
      (fun _ _ _ hok => hok.1) hi hj _
  rintro ⟨threads, ⟨i, hi⟩, hall⟩
  obtain ⟨l, hblocked, j, hj, hholds⟩ := hall i hi
  obtain ⟨l', hblocked', k, hk, hholds'⟩ := hall j hj
  cases l with
  | vmk => exact hvmk hblocked hholds hblocked'
  | db =>
    cases l' with
    | vmk =>
      obtain ⟨_, hblocked'', -⟩ := hall k hk
      exact hvmk hblocked' hholds' hblocked''
    | db =>
      -- `j` waits for the mutex that it holds
      obtain ⟨_, hallowed⟩ := hblocked'.allowed (hfollows j)
      obtain ⟨mode, hmem⟩ := hholds
      cases mode with
      | shared => exact (hallowed.2 rfl).1 hmem
      | exclusive => exact (hallowed.2 rfl).2 hmem

/-- Two requests on the database, and a lock. -/
def readAndLock : Fin 3 → Handler
  | 0 => .withVmkDb true
  | 1 => .updateLoginPolicy true
  | 2 => .lock false

/-- The lock waits for a reader that has nothing more to take. -/
theorem not_deadlocked_of_run_readAndLock :
    ¬ ∃ threads, Deadlocked (run step (start fun i => (readAndLock i).trace)
      [0, 0, 1, 0, 2, 2, 2, 2, 2, 0, 2, 1, 1, 2]) threads :=
  not_deadlocked_of_run readAndLock (by decide) (by decide) (.last _ _ _)

def residentKey : Fin 1 → Handler
  | 0 => .registerFido2 true (.resident true)

def enrollAndLock : Fin 2 → Handler
  | 0 => .enrollRecoveryKey true true
  | 1 => .lock false

/-- **Three deadlocks**: the registration of a resident key alone; the enrolment of a recovery
key and a lock; a request on the database, an update of the policy and a lock. -/
theorem handlers_deadlock :
    Deadlocked (run step (start fun i => (residentKey i).trace) [0, 0, 0, 0, 0]) {0} ∧
    Deadlocked (run step (start fun i => (enrollAndLock i).trace) [1, 1, 1, 1, 0, 1, 0, 0]) {0, 1} ∧
    Deadlocked (run step (start fun i => (readAndLock i).trace)
      [2, 2, 2, 2, 0, 1, 2, 0, 1]) {0, 1, 2} := by
  refine ⟨⟨by decide, ?_⟩, ⟨by decide, ?_⟩, ⟨by decide, ?_⟩⟩
  · intro i _
    match i with
    | 0 => exact ⟨.db, ⟨rfl, .exclusive, rfl, by decide⟩, 0, by decide, by decide⟩
  · intro i _
    match i with
    | 0 => exact ⟨.vmk, ⟨rfl, .shared, rfl, by decide⟩, 0, by decide, by decide⟩
    | 1 => exact ⟨.vmk, ⟨rfl, .exclusive, rfl, by decide⟩, 0, by decide, by decide⟩
  · intro i _
    match i with
    | 0 => exact ⟨.db, ⟨rfl, .exclusive, rfl, by decide⟩, 1, by decide, by decide⟩
    | 1 => exact ⟨.vmk, ⟨rfl, .shared, rfl, by decide⟩, 0, by decide, by decide⟩
    | 2 => exact ⟨.vmk, ⟨rfl, .exclusive, rfl, by decide⟩, 0, by decide, by decide⟩

end PwdNow.Daemon.LockOrder
