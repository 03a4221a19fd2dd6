import PwdNow.Daemon.HeaderRequest
import PwdNow.Daemon.Rows
import PwdNow.Daemon.Trackers

/-!
# Daemon — every request

The requests to the daemon, and the state that each leaves whatever its answer. A request that
authenticates works under an invariant up to its outcome (`SteadyIn`), which logs, counts, locks or
wipes. `Lasting`: what it takes for whole requests to keep an invariant, with a weaker one at their
end if the outcome spoils it.
-/

namespace PwdNow.Daemon

open Kit Kit.Fallible

section Model

variable (P : Primitives) (J : Serde) (W : Webauthn) (F : Factors)

/-! ## The wipe request -/

def deriveWipeKey (vmk : Block 32) : Block 32 := P.hkdfSha384 vmk (utf8 "wipe-ticket-key")

def wipeTicketAad : Bytes := utf8 "wipe-ticket-aad-v1"

def decryptWipeTicket (ct nonceVec : Bytes) (vmk : Block 32) : Result Bytes := do
  let nonce ← okOr (Block.ofBytes 12 nonceVec) (.crypto "invalid wipe nonce")
  aesGcmDecrypt P (deriveWipeKey P vmk) ct nonce wipeTicketAad

/-- The check at the beginning of `forensic_wipe`. -/
def checkWipeTicket (env : Env) (presentedTicket : Bytes) : Call Unit := do
  require (presentedTicket.length = 32) (.auth "invalid ticket length (must be 32 bytes)")
  let header ← readHeader env .request
  require (header.wipeTicketHash ≠ "") (.auth "no ticket")
  require (utf8 (hexEncode (P.sha3 presentedTicket)) = utf8 header.wipeTicketHash)
    (.auth "invalid")

def forensicWipe (env : Env) (presentedTicket : Bytes) : Call Unit := do
  checkWipeTicket P env presentedTicket
  forensicWipeInternal env

/-- The ticket in a request, under the VMK in memory. -/
def openWipeTicket (response : Bytes × Bytes) : Call Bytes := do
  let vmk ← reads fun s => okOr s.vmk (.auth "locked")
  lift (decryptWipeTicket P response.1 response.2 vmk)

/-- `GrpcServer::forensic_wipe`. -/
def handleForensicWipe (env : Env) (response : Bytes × Bytes) : Call Unit := do
  let ticket ← openWipeTicket P response
  forensicWipe P env ticket

/-! ## All requests -/

/-- What `register_pqc` does to the sidecar once its row has been inserted. -/
def addPqcToSidecar (env : Env) (entry : PqcSidecarEntry) : Call Unit := do
  let header ← readHeader env .request
  require (header.pqcCredentials.length < 16) (.auth "too many PQC credentials (max 16)")
  writeHeader P J env .request { header with pqcCredentials := header.pqcCredentials ++ [entry] }

/-- A request to the daemon: one that authenticates, one that edits the header, one that reads
or writes rows (`statement`), a lock or a wipe. -/
inductive DaemonRequest where
  | auth (uid : UInt32) (request : AuthRequest)
  | updateLoginPolicy (p t e : Bool) (d : UInt32)
  | registerPasskey (authData cid pubKeyCbor : Bytes)
  | addPqcToSidecar (entry : PqcSidecarEntry)
  | enrollRecoveryKey (recoveryKey : Bytes)
  | quickUnlockEnroll (password cid pubKeyCbor dbk : Bytes)
  | quickUnlockRevoke
  | statement (f : Database → Result Database)
  | lock
  | forensicWipe (response : Bytes × Bytes)

def DaemonRequest.call (env : Env) : DaemonRequest → Call Unit
  | .auth uid request => handle P J W F env uid request
  | .updateLoginPolicy p t e d => Daemon.updateLoginPolicy P J env p t e d
  | .registerPasskey authData cid pubKeyCbor =>
    Daemon.registerPasskey P J W env authData cid pubKeyCbor
  | .addPqcToSidecar entry => Daemon.addPqcToSidecar P J env entry
  | .enrollRecoveryKey recoveryKey => Daemon.enrollRecoveryKey P J env recoveryKey
  | .quickUnlockEnroll password cid pubKeyCbor dbk =>
    Daemon.quickUnlockEnroll P J env password cid pubKeyCbor dbk
  | .quickUnlockRevoke => Daemon.quickUnlockRevoke P J env
  | .statement f => onDatabase f
  | .lock => modify Daemon.lock
  | .forensicWipe response => handleForensicWipe P env response

/-- The state after a request, whatever its answer. -/
def daemonStep (s : DaemonState) (request : Env × DaemonRequest) : DaemonState :=
  (request.2.call P J W F request.1 s).2

end Model

/-! ## How a request ends -/

/-- What the response and the check depend on. -/
def DaemonState.ticketView (s : DaemonState) :
    Option (Block 32) × Option Bytes × Option (Except String VaultHeader) × Bool :=
  (s.vmk, s.wipeTicket, s.disk.sidecar, s.disk.vault.isSome)

open DaemonState

/-- What an invariant has to stand for whole requests in `env`: it is `I` until the outcome, with
every header in `H`, and `I'` after it. -/
structure Lasting (P : Primitives) (env : Env) (H : VaultHeader → Prop)
    (I I' : DaemonState → Prop) : Prop extends SteadyIn env H I where
  counters : ∀ {s t : DaemonState}, I s → t.disk = s.disk → I t
  fresh : ∀ {s : DaemonState}, I s → s.disk.vault = none → ∀ kek, H (freshHeader P env kek)
  policy : ∀ {header stored : VaultHeader}, H header → stored.params = header.params →
    stored.wipeTicketHash = header.wipeTicketHash → H stored
  ended : ∀ {s : DaemonState}, I s → I' s
  view : ∀ {s t : DaemonState}, I' s → t.ticketView = s.ticketView → I' t
  locked : ∀ {s : DaemonState}, I' s → I' (lock s)
  rejected : ∀ {s : DaemonState}, I' s → I' (lockKeepLockout s)
  wiped : ∀ {s : DaemonState}, I' s → I' (forensicWipeInternal env s).2

section

variable {P : Primitives} {J : Serde} {W : Webauthn} {F : Factors} {env : Env}
  {s t : DaemonState} {uid : UInt32} {header stored : VaultHeader}

theorem handleForensicWipe_eq (response : Bytes × Bytes) : handleForensicWipe P env response =
    (openWipeTicket P response >>= checkWipeTicket P env) >>= fun _ => forensicWipeInternal env := by
  rw [bind_assoc]
  rfl

theorem flushPending_ticketView : (flushPending P env s).ticketView = s.ticketView := by
  unfold flushPending
  split
  · rfl
  · dsimp only
    split
    · next hv =>
      simp only [ticketView, setVault, hv, Option.isSome_some]
    · rfl

theorem resetUnlockCounter_keeps_ticket : Keeps ticketView (resetUnlockCounter P env uid) :=
  .modify fun _ => flushPending_ticketView

theorem logEvent_keeps_ticket (i : Nat) (action : String) (session : Session) :
    Keeps ticketView (logEvent P env i action session) := by
  refine .modify fun s => ?_
  split
  · next hconn =>
    simp only [ticketView, setVault, connection_eq_some hconn, Option.isSome_some]
  · rfl

theorem touch_keeps_ticket : Keeps ticketView (touch env) := .modify fun _ => rfl

theorem completeUnlock_keeps_ticket : Keeps ticketView (completeUnlock P env uid) :=
  resetUnlockCounter_keeps_ticket.bind fun _ => .modify fun _ => rfl

theorem settleTotp_granted_keeps (session : Session) :
    Keeps ticketView (settleTotp P env uid session (.ok true)) :=
  (Keeps.gets _).bind fun _ => completeUnlock_keeps_ticket.bind fun _ =>
    (logEvent_keeps_ticket _ _ _).bind fun _ => .pure _

theorem settleBackupCode_granted_keeps (session : Session) :
    Keeps ticketView (settleBackupCode P env uid session (.ok true)) :=
  (Keeps.gets _).bind fun _ => resetUnlockCounter_keeps_ticket.bind fun _ =>
    (logEvent_keeps_ticket _ _ _).bind fun _ => .pure _

theorem checkBackupCode_keeps_ticket (code : String) :
    Keeps ticketView (checkBackupCode P F env code) := by
  refine (Keeps.reads _).bind fun vmk s => ?_
  cases hconn : s.connection with
  | none => simp [bind_run, reads, hconn, okOr, fail]
  | some conn =>
    have hread : (reads fun s : DaemonState => okOr s.connection
        (.auth "vault locked after unlock (internal)")) s = (.ok conn, s) := by
      simp [reads, hconn, okOr]
    -- the file that the code is struck off in is there already
    have hpresent : s.disk.vault.isSome = true := by
      rw [connection_eq_some hconn]
      rfl
    have hstruck : ∀ (db : Database) (t : DaemonState), t.ticketView = s.ticketView →
        (t.setVault (.pages conn.1 db)).ticketView = s.ticketView := by
      intro db t ht
      simp only [ticketView, Prod.mk.injEq, hpresent] at ht ⊢
      exact ⟨ht.1, ht.2.1, ht.2.2.1, rfl⟩
    rw [bind_run_ok hread]
    exact (Preserves.lift_bind fun _ => .lift_bind fun _ =>
      .bind (.modify (hstruck _)) fun _ => .pure _) s rfl

/-! ### The outcome -/

section Outcome

variable {H : VaultHeader → Prop} {I I' : DaemonState → Prop}

variable {α : Type} {x : Call α}

section

variable (h : Lasting P env H I I')
include h

theorem Lasting.of_keeps (hx : Keeps ticketView x) : Preserves I' x :=
  fun s hs => h.view hs (hx s)

theorem wipeIfReached_lasting (count : UInt32) : Preserves I' (wipeIfReached env count) := by
  refine (attemptErr_preserves readHeader_preserves).bind fun res => ?_
  cases res with
  | error e => exact .pure _
  | ok header =>
    refine .ite ((attemptErr_preserves ?_).bind fun _ => .pure _) (.pure _)
    exact fun s hs => h.wiped hs

theorem recordFailedUnlock_lasting : Preserves I' (recordFailedUnlock env uid) := by
  refine .bind (.modify fun s hs => ?_) fun _ => (Preserves.gets _).bind fun _ =>
    .bind (.modify fun s hs => h.view hs rfl) fun _ => wipeIfReached_lasting h _
  split
  · exact h.view hs rfl
  · exact hs

theorem recorded_lasting (e : Failure) :
    Preserves I' (recordFailedUnlock env uid >>= fun _ => (throw e : Call α)) :=
  (recordFailedUnlock_lasting h).bind fun _ _ hs => hs

section

variable (res : Except VaultError Session)

theorem settleUnlock_lasting : Preserves I' (settleUnlock env uid res) := by
  cases res with
  | ok session => exact (h.of_keeps touch_keeps_ticket).bind fun _ => .pure _
  | error e => exact recorded_lasting h _

theorem settleCounted_lasting : Preserves I' (settleCounted P env uid res) := by
  cases res with
  | ok session =>
    exact (h.of_keeps resetUnlockCounter_keeps_ticket).bind fun _ =>
      (h.of_keeps touch_keeps_ticket).bind fun _ => .pure _
  | error e => exact recorded_lasting h _

theorem settleRecovery_lasting : Preserves I' (settleRecovery env uid res) := by
  cases res with
  | ok session => exact .pure _
  | error e => exact recorded_lasting h _

end

theorem settlePassword_lasting (res : Except VaultError Unit) :
    Preserves I' (settlePassword env uid res) := by
  cases res with
  | ok u => exact .pure _
  | error e => exact recorded_lasting h _

theorem rejectTotp_lasting (e : VaultError) : Preserves I' (rejectTotp env uid e) := by
  refine .bind ?_ fun _ =>
    .bind (.modify fun _ hs => h.rejected hs) fun _ _ hs => hs
  exact (Preserves.gets _).bind fun _ =>
    .bind (.modify fun _ hs => h.view hs rfl) fun _ =>
      (recordFailedUnlock_lasting h).bind fun _ => wipeIfReached_lasting h _

theorem rejectBackupCode_lasting (e : VaultError) : Preserves I' (rejectBackupCode env uid e) :=
  .bind (.modify fun _ hs => h.locked hs) fun _ => recorded_lasting h _

theorem totpFactor_lasting (totpCode : Option String) (session : Session) :
    Preserves I' (totpFactor P F env uid totpCode session) := by
  have hcheck : Keeps id (checkTotp P F env totpCode) := .reads _
  refine (attemptErr_preserves (.of_same hcheck)).bind fun res => ?_
  cases res with
  | error e => exact rejectTotp_lasting h e
  | ok passes =>
    cases passes with
    | false => exact rejectTotp_lasting h _
    | true => exact h.of_keeps (settleTotp_granted_keeps session)

theorem backupFactor_lasting (code : String) (session : Session) :
    Preserves I' (backupFactor P F env uid code session) := by
  refine (attemptErr_preserves (h.of_keeps (checkBackupCode_keeps_ticket code))).bind fun res => ?_
  cases res with
  | error e => exact rejectBackupCode_lasting h e
  | ok passes =>
    cases passes with
    | false => exact rejectBackupCode_lasting h _
    | true => exact h.of_keeps (settleBackupCode_granted_keeps session)

/-! ### The whole request -/

theorem logged_lasting {x : Call Session} (action : String) (hx : Leads I I' x) :
    Leads I I' (logged P env action x) :=
  (Preserves.gets _).bind_leads (fun _ => h.ended) fun _ => hx.bind fun session =>
    (h.of_keeps (logEvent_keeps_ticket _ action session)).bind fun _ => .pure _

theorem attempt_lasting {β : Type} {k : Except VaultError α → Call β} (hx : Preserves I x)
    (hk : ∀ res, Preserves I' (k res)) : Leads I I' (attemptErr x >>= k) :=
  (attemptErr_preserves hx).bind_leads (fun _ => h.ended) fun res => (hk res).leads fun _ => h.ended

theorem tryPassword_lasting {password : Bytes} {yk : Option (Block 20)} :
    Leads I I' (tryPassword P J env password yk uid) := by
  intro s hs
  rw [tryPassword, bind_run_ok (gets_run _ s)]
  refine attempt_lasting h ?_ (settleUnlock_lasting h) s hs
  cases hv : s.disk.vault with
  | none =>
    rw [Option.isSome_none, if_neg Bool.false_ne_true]
    exact createAndUnlock_steady h.toSteadyIn (h.fresh hs hv)
  | some file =>
    rw [Option.isSome_some, if_pos rfl]
    exact unlockExisting_steady h.toSteadyIn

theorem recoverVault_lasting (recoveryKey : Bytes) :
    Preserves I (recoverVault P env recoveryKey uid) := by
  refine (enterRecovered_steady h.toSteadyIn recoveryKey).bind fun _ =>
    .bind (.modify fun s hs => ?_) fun _ => createSession_steady h.toSteadyIn _
  unfold flushPending
  split
  · exact h.counters hs rfl
  · dsimp only
    split
    · exact h.vault (h.counters hs (by rfl)) _
    · exact h.counters hs rfl

/-- **Every request that authenticates** leads from `I` to `I'`. -/
theorem handle_lasting (request : AuthRequest) : Leads I I' (handle P J W F env uid request) := by
  -- the checks touch the counters only; after that each request keeps `I` up to its outcome
  refine (checks_preserves (fun _ hs => h.counters hs rfl) (fun _ hs => h.counters hs rfl)
    request).bind_leads (fun _ => h.ended) fun refusal => ?_
  cases request with
  | unlock password yk totpCode =>
    exact (tryPassword_lasting h).bind fun session => (totpFactor_lasting h totpCode session).bind
      fun _ => .pure _
  | backupCode password yk code =>
    exact (tryPassword_lasting h).bind fun session => (backupFactor_lasting h code session).bind
      fun _ => .pure _
  | passkey a =>
    exact (logged_lasting h "UNLOCK_PASSKEY" (attempt_lasting h
      (unlockWithPasskeyInner_steady h.toSteadyIn a) (settleCounted_lasting h))).bind fun _ =>
        .pure _
  | quickUnlock a dbk =>
    exact (logged_lasting h "UNLOCK_QUICK" (attempt_lasting h
      (quickUnlockInner_steady h.toSteadyIn a dbk) (settleCounted_lasting h))).bind fun _ =>
        .pure _
  | recoveryKey recoveryKey =>
    refine Leads.bind (logged_lasting h "UNLOCK_RECOVERY" ?_) fun _ => .pure _
    cases refusal with
    | some e => exact (settleRecovery_lasting h (.error e)).leads fun _ => h.ended
    | none =>
      exact attempt_lasting h (recoverVault_lasting h recoveryKey) (settleRecovery_lasting h)
  | pqc =>
    exact ((settleCounted_lasting h _).bind fun _ => .pure _).leads fun _ => h.ended
  | verifyMasterPassword password =>
    exact attempt_lasting h (.of_same verifyMasterPasswordInner_keeps) (settlePassword_lasting h)
  | changePassword old new yk =>
    exact attempt_lasting h (changePasswordInner_steady h.toSteadyIn old new)
      (settlePassword_lasting h)

theorem handleForensicWipe_lasting (response : Bytes × Bytes) :
    Leads I I' (handleForensicWipe P env response) := by
  have hcheck : Keeps id (openWipeTicket P response >>= checkWipeTicket P env) :=
    .bind ((Keeps.reads _).bind fun _ => .lift _) fun _ => .lift_bind fun _ =>
      (readHeader_keeps env _).bind fun _ => .lift_bind fun _ => .lift _
  rw [handleForensicWipe_eq]
  exact (Preserves.of_same hcheck).bind_leads (fun _ => h.ended) fun _ s hs => h.wiped (h.ended hs)

theorem writeHeader_lasting (hheader : H header) (hparams : stored.params = header.params)
    (hticket : stored.wipeTicketHash = header.wipeTicketHash) (part : Part) :
    Preserves I (writeHeader P J env part stored) := by
  refine writeHeader_preserves (fun s hs => h.sidecar hs (h.policy hheader ?_ ?_))
  · cases s.vmk <;> exact hparams
  · cases s.vmk <;> exact hticket

end

/-- **Every request** leads from `I` to `I'`. -/
theorem daemonStep_lasting {request : Env × DaemonRequest} (h : Lasting P request.1 H I I')
    (hs : I s) : I' (daemonStep P J W F s request) := by
  obtain ⟨env, request⟩ := request
  have hkept : ∀ {x : Call Unit}, Preserves I x → I' (x s).2 := fun hx => h.ended (hx s hs)
  cases request with
  | auth uid request => exact handle_lasting h request s hs
  | forensicWipe response => exact handleForensicWipe_lasting h response s hs
  | lock => exact h.locked (h.ended hs)
  | statement f => exact hkept (onDatabase_steady h.toSteadyIn f)
  -- the others write back the header that they read, with its parameters and its ticket
  | updateLoginPolicy p t e d =>
    exact hkept <| readHeader_bind_steady h.toSteadyIn fun _ hheader =>
      writeHeader_lasting h hheader (by rfl) (by rfl) _
  | registerPasskey authData cid pubKeyCbor =>
    exact hkept <| readHeader_preserves.bind fun _ => .lift_bind fun _ =>
      (Preserves.reads _).bind fun _ => readHeader_bind_steady h.toSteadyIn fun _ hheader =>
        .lift_bind fun _ => writeHeader_lasting h hheader (by rfl) (by rfl) _
  | addPqcToSidecar entry =>
    exact hkept <| readHeader_bind_steady h.toSteadyIn fun _ hheader => (Preserves.lift _).bind
      fun _ => writeHeader_lasting h hheader (by rfl) (by rfl) _
  | enrollRecoveryKey recoveryKey =>
    exact hkept <| (Preserves.reads _).bind fun _ => .lift_bind fun _ =>
      readHeader_bind_steady h.toSteadyIn fun _ hheader =>
        writeHeader_lasting h hheader (by rfl) (by rfl) _
  | quickUnlockEnroll password cid pubKeyCbor dbk =>
    exact hkept <| .lift_bind fun _ => readHeader_bind_steady h.toSteadyIn
      fun _ hheader => .lift_bind fun _ => .lift_bind fun _ =>
        writeHeader_lasting h hheader (by rfl) (by rfl) _
  | quickUnlockRevoke =>
    exact hkept <| readHeader_bind_steady h.toSteadyIn fun _ hheader =>
      writeHeader_lasting h hheader (by rfl) (by rfl) _

end Outcome

end

end PwdNow.Daemon
