import PwdNow.Daemon.Requests
import PwdNow.Daemon.Reunlock
import PwdNow.Daemon.Serving

/-!
# Daemon — the wipe ticket

`ForensicWipe` erases the vault for whoever presents its *wipe ticket*: 32 random bytes whose hash
is in the header. Every unlock returns a ticket, encrypted under the VMK. But the bytes exist
outside of that response only in memory, from the unlock that drew them until the next unlock or
lock. Any later unlock returns the encryption of an empty ticket, as does every one with a passkey
or a recovery key.
-/

namespace PwdNow.Daemon

open Kit Kit.Fallible DaemonState

section Model

variable (P : Primitives) (J : Serde) (W : Webauthn) (F : Factors)

/-- The ciphertext, and the nonce that was drawn for it. -/
def encryptWipeTicket (nonce : Block 12) (ticket : Bytes) (vmk : Block 32) : Bytes × Bytes :=
  (P.aesGcm.encrypt (deriveWipeKey P vmk) nonce wipeTicketAad ticket, nonce.bytes)

/-- `wipe_ticket_ciphertext` and `wipe_ticket_nonce` of an `UnlockedResponse`, from the state
in which the unlock has been logged. A ticket that is not in memory is an empty one. -/
def wipeTicketResponse (nonce : Block 12) (s : DaemonState) : Bytes × Bytes :=
  match s.vmk with
  | some vmk => encryptWipeTicket P nonce (s.wipeTicket.getD []) vmk
  | none => ([], [])

/-- **The ticket of a response works**: `t` is the state in which the response is written. As
long as the VMK in memory is the one of the response, the ticket passes the check. -/
def TicketWorks (nonce : Block 12) (t : DaemonState) : Prop :=
  ∀ vmk requests env, t.vmk = some vmk → Along (daemonStep P J W F) t requests
      (fun s request => (daemonStep P J W F s request).vmk = some vmk) →
    env.io (.readHeader .request) = .ok () →
    ((openWipeTicket P (wipeTicketResponse P nonce t) >>= checkWipeTicket P env)
      (run (daemonStep P J W F) t requests)).1 = .ok ()

end Model

/-- The five requests that are answered with an `UnlockedResponse`; `unlock_with_pqc` never is. -/
def AuthRequest.Unlocks : AuthRequest → Prop
  | .unlock .. | .backupCode .. | .passkey _ | .quickUnlock .. | .recoveryKey _ => True
  | .pqc | .verifyMasterPassword _ | .changePassword .. => False

/-- The header has no ticket yet. -/
def NeedsTicket (s : DaemonState) : Prop :=
  ∃ header, s.disk.sidecar = some (.ok header) ∧ header.wipeTicketHash = ""

/-- The unlock draws a ticket and writes its hash. A password does so for a new vault, or for a
header without a ticket; quick unlock only for the latter, and it goes on if the write fails. -/
def Draws (env : Env) (s : DaemonState) : AuthRequest → Prop
  | .unlock .. | .backupCode .. => s.disk.vault = none ∨ NeedsTicket s
  | .quickUnlock .. => NeedsTicket s ∧ env.io (.writeHeader .ticket) = .ok ()
  | _ => False

/-- There is a vault to wipe, and the hash in its header is `hash`. -/
def Ticketed (hash : String) (s : DaemonState) : Prop :=
  (∃ header, s.disk.sidecar = some (.ok header) ∧ header.wipeTicketHash = hash) ∧
    s.disk.vault.isSome

section

variable {P : Primitives} {J : Serde} {W : Webauthn} {F : Factors} {env : Env}
  {s t : DaemonState} {uid : UInt32} {header : VaultHeader} {hash : String}

/-! ## The check -/

variable {vmk : Block 32} {request : AuthRequest}

theorem decryptWipeTicket_encrypt (hP : P.Ideal) (nonce : Block 12) (ticket : Bytes) :
    decryptWipeTicket P (encryptWipeTicket P nonce ticket vmk).1
      (encryptWipeTicket P nonce ticket vmk).2 vmk = .ok ticket :=
  Result.bind_eq_ok.mpr ⟨nonce, okOr_eq_ok.mpr (Block.ofBytes_bytes nonce),
    aesGcmDecrypt_eq_ok.mpr (hP.aesGcm.decrypt_encrypt _ nonce _ ticket)⟩

theorem openWipeTicket_response (hP : P.Ideal) (ht : t.vmk = some vmk) (hs : s.vmk = some vmk)
    (nonce : Block 12) :
    openWipeTicket P (wipeTicketResponse P nonce t) s = (.ok (t.wipeTicket.getD []), s) := by
  have hresponse : wipeTicketResponse P nonce t =
      encryptWipeTicket P nonce (t.wipeTicket.getD []) vmk := by
    rw [wipeTicketResponse, ht]
  have hvmk : (reads fun s : DaemonState => okOr s.vmk (.auth "locked")) s = (.ok vmk, s) := by
    simp [reads, hs, okOr]
  rw [openWipeTicket, bind_run_ok hvmk, hresponse, decryptWipeTicket_encrypt hP]
  rfl

theorem checkWipeTicket_eq_ok {ticket : Bytes} {u : Unit} :
    checkWipeTicket P env ticket s = (.ok u, t) ↔
      ticket.length = 32 ∧ env.io (.readHeader .request) = .ok () ∧
        (∃ header, s.disk.sidecar = some (.ok header) ∧ header.wipeTicketHash ≠ "" ∧
          hexEncode (P.sha3 ticket) = header.wipeTicketHash) ∧ t = s := by
  simp only [checkWipeTicket, bind_eq_ok, require_eq_ok, readHeader_eq_ok, decide_eq_true_eq]
  constructor
  · rintro ⟨_, _, ⟨hlen, rfl⟩, header, _, ⟨hio, hs, rfl⟩, _, _, ⟨hne, rfl⟩, hhash, rfl⟩
    exact ⟨hlen, hio, ⟨header, hs, hne, utf8_injective hhash⟩, rfl⟩
  · rintro ⟨hlen, hio, ⟨header, hs, hne, hhash⟩, rfl⟩
    exact ⟨(), _, ⟨hlen, rfl⟩, header, _, ⟨hio, hs, rfl⟩, (), _, ⟨hne, rfl⟩, by rw [hhash], rfl⟩

/-! ## What a run keeps -/

theorem ticketed_steady (hne : hash ≠ "") :
    Steady (fun header => header.wipeTicketHash = hash) (Ticketed hash) where
  memory hs hdisk _ _ := by
    rw [Ticketed, hdisk]
    exact hs
  vault hs _ := ⟨hs.1, rfl⟩
  header hs hsidecar := by
    obtain ⟨⟨header, hheader, hhash⟩, -⟩ := hs
    rw [hsidecar] at hheader
    cases hheader
    exact hhash
  sidecar hs hheader := ⟨⟨_, rfl, hheader⟩, hs.2⟩
  writtenBack hheader hback := (hback.ticket (by rw [hheader]; exact hne)).trans hheader

theorem stamped_wipeTicketHash (vmk : Option (Block 32)) :
    (header.stamped P J vmk).wipeTicketHash = header.wipeTicketHash := by
  cases vmk <;> rfl

/-- The vault has its ticket, or has been locked, and possibly wiped. -/
def TicketedOrLocked (hash : String) (s : DaemonState) : Prop := Ticketed hash s ∨ s.vmk = none

theorem Ticketed.congr (h : Ticketed hash s) (hview : t.ticketView = s.ticketView) :
    Ticketed hash t := by
  simp only [ticketView, Prod.mk.injEq] at hview
  rw [Ticketed, hview.2.2.1, hview.2.2.2]
  exact h

theorem TicketedOrLocked.ticketed (h : TicketedOrLocked hash s) (hvmk : s.vmk = some vmk) :
    Ticketed hash s := by
  refine h.resolve_right fun hlocked => ?_
  rw [hvmk] at hlocked
  cases hlocked

theorem ticketed_lasting (hne : hash ≠ "") :
    Lasting P env (fun header => header.wipeTicketHash = hash) (Ticketed hash)
      (TicketedOrLocked hash) where
  toSteadyIn := (ticketed_steady hne).within env
  counters hs hdisk := by
    rw [Ticketed, hdisk]
    exact hs
  fresh hs hmissing := by
    have hpresent := hs.2
    rw [hmissing] at hpresent
    cases hpresent
  policy hheader _ hticket := hticket.trans hheader
  ended := .inl
  view := by
    rintro s t (hticket | hlocked) hview
    · exact .inl (hticket.congr hview)
    · exact .inr ((congrArg Prod.fst hview).trans hlocked)
  locked _ := .inr rfl
  rejected _ := .inr rfl
  wiped _ := .inr forensicWipeInternal_vmk

/-! ## What an unlock issues -/

variable {ticket : Option Bytes} {password : Bytes} {yk : Option (Block 20)} {session : Session}
  {a : Assertion} {part : Part}

/-- The ticket that the request drew is in memory, and its hash in the header. -/
def Issued (P : Primitives) (env : Env) (t : DaemonState) : Prop :=
  t.wipeTicket = some env.wipeTicket.bytes ∧ Ticketed (hexEncode (P.sha3 env.wipeTicket.bytes)) t

/-- There is no ticket in memory, or none that the header knows of. -/
def Withheld (t : DaemonState) : Prop := t.wipeTicket = none ∨ NeedsTicket t

/-- What a successful unlock leaves, `draws` being whether it draws a ticket. -/
structure Issues (P : Primitives) (env : Env) (draws : Prop) (t : DaemonState) : Prop where
  unlocked : ∃ vmk, t.vmk = some vmk
  issued : draws → Issued P env t
  withheld : ¬ draws → Withheld t

theorem needsTicket_iff (hs : s.disk.sidecar = some (.ok header)) :
    NeedsTicket s ↔ header.wipeTicketHash = "" := by
  constructor
  · rintro ⟨header', hs', hempty⟩
    rw [hs] at hs'
    cases hs'
    exact hempty
  · exact fun hempty => ⟨header, hs, hempty⟩

theorem Issues.congr {draws draws' : Prop} (h : Issues P env draws s) (hdraws : draws' ↔ draws)
    (hview : t.ticketView = s.ticketView) : Issues P env draws' t := by
  simp only [ticketView, Prod.mk.injEq] at hview
  obtain ⟨hvmk, hticket, hsidecar, hvault⟩ := hview
  refine ⟨?_, fun hd => ?_, fun hd => ?_⟩
  · rw [hvmk]
    exact h.unlocked
  · rw [Issued, Ticketed, hticket, hsidecar, hvault]
    exact h.issued (hdraws.mp hd)
  · rw [Withheld, NeedsTicket, hticket, hsidecar]
    exact h.withheld (fun hd' => hd (hdraws.mpr hd'))

theorem ensureWipeTicket_returned (h : ensureWipeTicket P J env header s = (.ok ticket, t)) :
    ticket = if header.wipeTicketHash = "" then some env.wipeTicket.bytes else none := by
  unfold ensureWipeTicket at h
  split at h
  · next hempty =>
    obtain ⟨_, _, -, hpure⟩ := bind_eq_ok.mp h
    cases hpure
    exact (if_pos hempty).symm
  · next hne =>
    cases h
    exact (if_neg hne).symm

theorem LeavesHeader.wipeTicketHash {mem : Option (Block 32)} {stored : VaultHeader}
    (h : LeavesHeader P J env password yk vmk mem header stored) :
    stored.wipeTicketHash = if header.wipeTicketHash = "" then
      hexEncode (P.sha3 env.wipeTicket.bytes) else header.wipeTicketHash := by
  have hticket : (header.withTicket P J env mem).wipeTicketHash = if header.wipeTicketHash = "" then
      hexEncode (P.sha3 env.wipeTicket.bytes) else header.wipeTicketHash := by
    unfold VaultHeader.withTicket
    split
    · exact stamped_wipeTicketHash mem
    · rfl
  rcases h with ⟨kek, -, rfl⟩ | ⟨-, rfl⟩
  · exact (stamped_wipeTicketHash mem).trans hticket
  · exact hticket

theorem unlockExisting_wipeTicket (hs : s.disk.sidecar = some (.ok header))
    (h : unlockExisting P J env password yk uid s = (.ok session, t)) :
    t.wipeTicket = if header.wipeTicketHash = "" then some env.wipeTicket.bytes else none := by
  obtain ⟨⟨header', vmk⟩, s₀, hopen, henter⟩ := bind_eq_ok.mp h
  obtain ⟨rfl, hs', -⟩ := openHeader_ok hopen
  rw [hs] at hs'
  cases hs'
  simp only [enterVault, bind_eq_ok, modify_run, Prod.mk.injEq] at henter
  obtain ⟨_, s₁, -, ticket, s₂, hticket, _, s₃, -, _, _, ⟨-, rfl⟩, hsession⟩ := henter
  rw [← ensureWipeTicket_returned hticket]
  exact (createSession_keeps (f := (·.wipeTicket)) (fun _ _ => rfl) _).eq hsession

theorem unlockExisting_issues (h : unlockExisting P J env password yk uid s = (.ok session, t)) :
    Issues P env (NeedsTicket s) t := by
  obtain ⟨header, vmk, stored, db, hs, -, -, -, hleaves, -, hvmk, -, -, hdisk⟩ := unlockExisting_ok h
  have hticket := unlockExisting_wipeTicket hs h
  have hhash := hleaves.wipeTicketHash
  rw [needsTicket_iff hs]
  refine ⟨⟨vmk, hvmk⟩, fun hempty => ?_, fun hne => .inl ?_⟩
  · rw [if_pos hempty] at hticket hhash
    refine ⟨hticket, ⟨stored, ?_, hhash⟩, ?_⟩
    · rw [hdisk]
    · rw [hdisk]
      rfl
  · rw [hticket, if_neg hne]

theorem createAndUnlock_issues (h : createAndUnlock P J env password yk uid s = (.ok session, t)) :
    Issues P env True t := by
  obtain ⟨kek, db, hvmk, -, hticket, hdisk⟩ := createAndUnlock_ok h
  have hsidecar : t.disk.sidecar =
      some (.ok ((freshHeader P env kek).stamped P J (some env.vmk))) := by rw [hdisk]
  refine ⟨⟨env.vmk, hvmk⟩, fun _ => ⟨hticket, ⟨_, hsidecar, rfl⟩, ?_⟩,
    fun hnot => absurd trivial hnot⟩
  rw [hdisk]
  rfl

theorem tryPassword_issues (h : tryPassword P J env password yk uid s = (.ok session, t)) :
    Issues P env (s.disk.vault = none ∨ NeedsTicket s) t := by
  rw [tryPassword, bind_run_ok (gets_run _ s)] at h
  obtain ⟨res, s₁, htry, hsettle⟩ := bind_eq_ok.mp h
  obtain ⟨rfl, rfl⟩ := settleUnlock_eq_ok.mp hsettle
  rw [attemptErr_eq_ok_ok] at htry
  cases hv : s.disk.vault with
  | none =>
    rw [hv] at htry
    exact (createAndUnlock_issues htry).congr (by simp) rfl
  | some file =>
    rw [hv] at htry
    exact (unlockExisting_issues htry).congr (by simp) rfl

theorem unlockWithPasskeyInner_issues
    (h : unlockWithPasskeyInner P J W env a uid s = (.ok session, t)) : Issues P env False t := by
  simp only [unlockWithPasskeyInner, bind_eq_ok, modify_run, Prod.mk.injEq] at h
  obtain ⟨_, _, -, _, _, -, _, _, -, _, _, -, _, _, -, _, _, -, vmk, _, -, _, _, -, _, s₁, -, _, _,
    ⟨-, rfl⟩, _, s₂, hcount, hsession⟩ := h
  have hcounted := (updateSignCount_keeps (f := fun s : DaemonState => (s.vmk, s.wipeTicket))
    (fun _ _ => rfl) _ _).eq hcount
  have hkept := (createSession_keeps (f := fun s : DaemonState => (s.vmk, s.wipeTicket))
    (fun _ _ => rfl) _).eq hsession
  have hview : (t.vmk, t.wipeTicket) = (some vmk, none) := hkept.trans hcounted
  exact ⟨⟨vmk, congrArg Prod.fst hview⟩, False.elim, fun _ => .inl (congrArg Prod.snd hview)⟩

theorem recoverVault_issues {recoveryKey : Bytes}
    (h : recoverVault P env recoveryKey uid s = (.ok session, t)) : Issues P env False t := by
  obtain ⟨uuid, s₁, henter, h⟩ := bind_eq_ok.mp h
  obtain ⟨_, s₂, hreset, hsession⟩ := bind_eq_ok.mp h
  simp only [enterRecovered, bind_eq_ok, modify_run, pure_run, Prod.mk.injEq] at henter
  obtain ⟨_, _, -, _, _, -, _, _, -, vmk, _, -, _, _, -, _, _, ⟨-, rfl⟩, -, rfl⟩ := henter
  have hview : t.ticketView = _ :=
    ((createSession_keeps (f := ticketView) (fun _ _ => rfl) _).eq hsession).trans
      (resetUnlockCounter_keeps_ticket.eq hreset)
  exact Issues.congr ⟨⟨vmk, rfl⟩, False.elim, fun _ => .inl rfl⟩ Iff.rfl hview

theorem writeHeader_state_ok (hio : env.io (.writeHeader part) = .ok ()) :
    (writeHeader P J env part header s).2 = s.setSidecar (header.stamped P J s.vmk) := by
  rw [writeHeader, bind_run_ok (at_run_ok hio s), bind_run_ok (modify_run _ s)]
  exact at_keeps (f := id) _

theorem writeHeader_state_error {e : VaultError} (hio : env.io (.writeHeader part) = .error e) :
    (writeHeader P J env part header s).2 = s := by
  rw [writeHeader, bind_run_error (at_run_error hio)]

theorem quickUnlockTicket_cases (h : quickUnlockTicket P J env header s = (.ok ticket, t)) :
    (header.wipeTicketHash ≠ "" ∧ ticket = none) ∨
      (header.wipeTicketHash = "" ∧ ticket = some env.wipeTicket.bytes ∧
        t = (writeHeader P J env .ticket (header.ticketed P env) s).2) := by
  unfold quickUnlockTicket at h
  split at h
  · next hempty =>
    obtain ⟨r, hr⟩ := attemptErr_of_returns
      (writeHeader_returns (P := P) (J := J) env .ticket (header.ticketed P env)) s
    obtain ⟨res, s₁, hwrite, hpure⟩ := bind_eq_ok.mp h
    have hstate : s₁ = (writeHeader P J env .ticket (header.ticketed P env) s).2 :=
      congrArg Prod.snd (hwrite.symm.trans hr)
    cases hpure
    exact .inr ⟨hempty, rfl, hstate⟩
  · next hne =>
    cases h
    exact .inl ⟨hne, rfl⟩

theorem quickUnlockInner_issues {dbk : Bytes}
    (h : quickUnlockInner P J W env a dbk uid s = (.ok session, t)) :
    Issues P env (NeedsTicket s ∧ env.io (.writeHeader .ticket) = .ok ()) t := by
  simp only [quickUnlockInner, bind_eq_ok, readHeader_eq_ok, lift_eq_ok, at_eq_ok, modify_run,
    Prod.mk.injEq] at h
  obtain ⟨_, s₁, hjson, _, s₂, hconsume, header, _, ⟨-, hs, rfl⟩, _, _, ⟨-, rfl⟩, _, _, ⟨-, rfl⟩, _, _,
    ⟨-, rfl⟩, vmk, _, ⟨-, rfl⟩, _, s₃, hopen, _, s₄, hverify, ticket, s₅, hticket, _, _, ⟨-, rfl⟩,
    hsession⟩ := h
  obtain rfl : s₁ = s := (clientChallenge_keeps (f := id) _).eq hjson
  obtain rfl := consumeChallenge_ok hconsume
  obtain ⟨db₀, db, -, -, rfl⟩ := openVault_ok hopen
  obtain ⟨-, rfl⟩ := (onDatabase_read_eq_ok rfl).mp hverify
  have hview : t.ticketView = _ :=
    (createSession_keeps (f := ticketView) (fun _ _ => rfl) _).eq hsession
  refine Issues.congr (s := s₅.entered vmk header.vaultUuid ticket) ?_ Iff.rfl hview
  -- a challenge that is used up is not in the files
  have hneeds : NeedsTicket s₁ ↔ header.wipeTicketHash = "" := needsTicket_iff hs
  rw [hneeds]
  rcases quickUnlockTicket_cases hticket with ⟨hne, rfl⟩ | ⟨hempty, rfl, rfl⟩
  · exact ⟨⟨vmk, rfl⟩, fun hdraws => absurd hdraws.1 hne, fun _ => .inl rfl⟩
  · cases hio : env.io (.writeHeader .ticket) with
    | ok u =>
      rw [writeHeader_state_ok hio]
      exact ⟨⟨vmk, rfl⟩, fun _ => ⟨rfl, ⟨_, rfl, stamped_wipeTicketHash _⟩, rfl⟩,
        fun h => absurd ⟨hempty, rfl⟩ h⟩
    | error e =>
      rw [writeHeader_state_error hio]
      exact ⟨⟨vmk, rfl⟩, fun hdraws => absurd hdraws.2 (by simp), fun _ => .inr ⟨header, hs, hempty⟩⟩

/-! ## The handlers -/

variable {α : Type} {session' : Session}

/-- What settles a request lets a success through, and does not touch its ticket. -/
def LetsThrough {α β : Type} (k : Except VaultError α → Call β) : Prop :=
  ∀ res s b t, k res s = (.ok b, t) → ∃ a, res = .ok a ∧ t.ticketView = s.ticketView

theorem LetsThrough.attempt {β : Type} {x : Call α} {k : Except VaultError α → Call β}
    (hk : LetsThrough k) {b : β} (h : (attemptErr x >>= k) s = (.ok b, t)) :
    ∃ a u, x s = (.ok a, u) ∧ t.ticketView = u.ticketView := by
  obtain ⟨res, u, hcaught, hsettled⟩ := bind_eq_ok.mp h
  obtain ⟨a, rfl, hview⟩ := hk res u b t hsettled
  exact ⟨a, u, attemptErr_eq_ok_ok.mp hcaught, hview⟩

theorem recorded_ne_ok {e : Failure} {a : α} :
    (recordFailedUnlock env uid >>= fun _ => (throw e : Call α)) s ≠ (.ok a, t) := by
  rw [recordFailedUnlock_throw]
  intro h
  cases h

theorem settleCounted_letsThrough : LetsThrough (settleCounted P env uid) := by
  intro res s session t h
  cases res with
  | error e => exact absurd h recorded_ne_ok
  | ok a =>
    have hkeeps : Keeps ticketView (settleCounted P env uid (.ok a)) :=
      resetUnlockCounter_keeps_ticket.bind fun _ => touch_keeps_ticket.bind fun _ => .pure _
    exact ⟨a, rfl, hkeeps.eq h⟩

theorem settleRecovery_letsThrough : LetsThrough (settleRecovery env uid) := by
  intro res s session t h
  cases res with
  | error e => exact absurd h recorded_ne_ok
  | ok a =>
    cases h
    exact ⟨_, rfl, rfl⟩

theorem settleTotp_letsThrough : LetsThrough (settleTotp P env uid session) := by
  rintro (e | passes) s b t h
  · exact nomatch (rejectTotp_run e).symm.trans h
  · cases passes with
    | false => exact nomatch (rejectTotp_run _).symm.trans h
    | true => exact ⟨true, rfl, (settleTotp_granted_keeps session).eq h⟩

theorem settleBackupCode_letsThrough : LetsThrough (settleBackupCode P env uid session) := by
  rintro (e | passes) s b t h
  · exact nomatch (rejectBackupCode_run e).symm.trans h
  · cases passes with
    | false => exact nomatch (rejectBackupCode_run _).symm.trans h
    | true => exact ⟨true, rfl, (settleBackupCode_granted_keeps session).eq h⟩

theorem totpFactor_view {totpCode : Option String}
    (h : totpFactor P F env uid totpCode session s = (.ok session', t)) :
    t.ticketView = s.ticketView := by
  obtain ⟨_, u, hcheck, hview⟩ := settleTotp_letsThrough.attempt h
  exact hview.trans ((Keeps.reads (f := ticketView) _).eq hcheck)

theorem backupFactor_view {code : String}
    (h : backupFactor P F env uid code session s = (.ok session', t)) :
    t.ticketView = s.ticketView := by
  obtain ⟨_, u, hcheck, hview⟩ := settleBackupCode_letsThrough.attempt h
  exact hview.trans ((checkBackupCode_keeps_ticket code).eq hcheck)

theorem logged_view {x : Call Session} {action : String}
    (h : logged P env action x s = (.ok session, t)) :
    ∃ u, x s = (.ok session, u) ∧ t.ticketView = u.ticketView := by
  rw [logged, bind_run_ok (gets_run _ s)] at h
  obtain ⟨session', u, hx, h⟩ := bind_eq_ok.mp h
  obtain ⟨_, v, hlog, hpure⟩ := bind_eq_ok.mp h
  cases hpure
  exact ⟨u, hx, (logEvent_keeps_ticket _ action _).eq hlog⟩

/-- **What a successful unlock issues.** -/
theorem handle_issues (hunlocks : request.Unlocks)
    (h : handle P J W F env uid request s = (.ok (), t)) :
    Issues P env (Draws env s request) t := by
  obtain ⟨refusal, s₁, hchecks, h⟩ := bind_eq_ok.mp h
  -- the checks leave the files alone
  have hdisk : s₁.disk = s.disk := by
    have hkept : Preserves (fun u => u.disk = s.disk) (checks env uid request) :=
      checks_preserves (fun _ hs => hs) (fun _ hs => hs) request
    have hs₁ := hkept s rfl
    rw [hchecks] at hs₁
    exact hs₁
  have hneeds : NeedsTicket s ↔ NeedsTicket s₁ := by rw [NeedsTicket, NeedsTicket, hdisk]
  cases request with
  | unlock password yk totpCode =>
    obtain ⟨session, s₂, htry, h⟩ := bind_eq_ok.mp h
    obtain ⟨_, s₃, hfactor, hpure⟩ := bind_eq_ok.mp h
    cases hpure
    refine (tryPassword_issues htry).congr ?_ (totpFactor_view hfactor)
    rw [Draws, hdisk, hneeds]
  | backupCode password yk code =>
    obtain ⟨session, s₂, htry, h⟩ := bind_eq_ok.mp h
    obtain ⟨_, s₃, hfactor, hpure⟩ := bind_eq_ok.mp h
    cases hpure
    refine (tryPassword_issues htry).congr ?_ (backupFactor_view hfactor)
    rw [Draws, hdisk, hneeds]
  | passkey a =>
    obtain ⟨session, s₂, hlogged, hpure⟩ := bind_eq_ok.mp h
    cases hpure
    obtain ⟨u, hsettled, hview⟩ := logged_view hlogged
    obtain ⟨_, v, hinner, hview'⟩ := settleCounted_letsThrough.attempt hsettled
    exact (unlockWithPasskeyInner_issues hinner).congr Iff.rfl (hview.trans hview')
  | quickUnlock a dbk =>
    obtain ⟨session, s₂, hlogged, hpure⟩ := bind_eq_ok.mp h
    cases hpure
    obtain ⟨u, hsettled, hview⟩ := logged_view hlogged
    obtain ⟨_, v, hinner, hview'⟩ := settleCounted_letsThrough.attempt hsettled
    refine (quickUnlockInner_issues hinner).congr ?_ (hview.trans hview')
    rw [Draws, hneeds]
  | recoveryKey recoveryKey =>
    obtain ⟨session, s₂, hlogged, hpure⟩ := bind_eq_ok.mp h
    cases hpure
    obtain ⟨u, hsettled, hview⟩ := logged_view hlogged
    cases refusal with
    | some e =>
      obtain ⟨_, hrefused, -⟩ := settleRecovery_letsThrough _ _ _ _ hsettled
      cases hrefused
    | none =>
      obtain ⟨_, v, hinner, hview'⟩ := settleRecovery_letsThrough.attempt hsettled
      exact (recoverVault_issues hinner).congr Iff.rfl (hview.trans hview')
  | pqc => exact hunlocks.elim
  | verifyMasterPassword password => exact hunlocks.elim
  | changePassword old new yk => exact hunlocks.elim

/-! ## When the ticket works -/

theorem Withheld.refused (hP : P.Ideal) (h : Withheld t) (ht : t.vmk = some vmk) (nonce : Block 12) :
    ((openWipeTicket P (wipeTicketResponse P nonce t) >>= checkWipeTicket P env) t).1 ≠ .ok () := by
  rw [bind_run_ok (openWipeTicket_response hP ht ht nonce)]
  intro hpass
  obtain ⟨hlen, -, ⟨header, hs, hne, -⟩, -⟩ := checkWipeTicket_eq_ok.mp (Prod.ext hpass rfl)
  rcases h with hnone | ⟨header', hs', hempty⟩
  · -- an empty ticket has the wrong length
    rw [hnone] at hlen
    exact absurd hlen (by decide)
  · rw [hs] at hs'
    cases hs'
    exact hne hempty

theorem ticketed_run (hne : hash ≠ "") {requests : List (Env × DaemonRequest)}
    (ht : t.vmk = some vmk) (hticket : Ticketed hash t)
    (hstill : Along (daemonStep P J W F) t requests fun s request =>
      (daemonStep P J W F s request).vmk = some vmk) :
    (run (daemonStep P J W F) t requests).vmk = some vmk ∧
      Ticketed hash (run (daemonStep P J W F) t requests) := by
  refine Visits.invariant (I := fun u => u.vmk = some vmk ∧ Ticketed hash u) ⟨ht, hticket⟩ hstill
    (fun s request _ hvmk hs => ⟨hvmk, ?_⟩) (.last _ _ _)
  exact (daemonStep_lasting (ticketed_lasting hne) hs.2).ticketed hvmk

/-- **When the ticket of a response works.** Exactly if the unlock drew it, and its hash was
written: the vault was new, or its header had no ticket. -/
theorem ticketWorks_iff (hP : P.Ideal) (hsha : ∀ ticket : Block 32, P.sha3 ticket.bytes ≠ [])
    {request : AuthRequest} (hunlocks : request.Unlocks)
    (hok : handle P J W F env uid request s = (.ok (), t)) (nonce : Block 12) :
    TicketWorks P J W F nonce t ↔ Draws env s request := by
  obtain ⟨⟨vmk, hvmk⟩, hissued, hwithheld⟩ := handle_issues hunlocks hok
  constructor
  · intro hworks
    by_contra hdraws
    -- it is refused even before anything else is requested
    let quiet : Env := { env with io := fun _ => .ok () }
    exact (hwithheld hdraws).refused hP hvmk nonce (hworks vmk [] quiet hvmk (along_nil _) rfl)
  · intro hdraws vmk' requests env' ht hstill hread
    obtain ⟨hmemory, hticket⟩ := hissued hdraws
    have hne : hexEncode (P.sha3 env.wipeTicket.bytes) ≠ "" :=
      hexEncode_ne_empty (hsha env.wipeTicket)
    obtain ⟨hrun, ⟨header, hs, hhash⟩, -⟩ := ticketed_run hne ht hticket hstill
    rw [bind_run_ok (openWipeTicket_response hP ht hrun nonce), hmemory]
    have hpass := (checkWipeTicket_eq_ok (u := ())).mpr ⟨Block.length_bytes env.wipeTicket, hread,
      ⟨header, hs, by rw [hhash]; exact hne, hhash.symm⟩, rfl⟩
    exact congrArg Prod.fst hpass

end

/-- A vault as it was created and locked, from before wipe tickets or not. -/
def lockedVault (header : VaultHeader) : DaemonState := lock (closedVault header symbolicDb)

theorem handle_unlock_eq {header : VaultHeader}
    (h : OpensHeader symbolic spelledSerde (symbolicEnv 2 2) repeatedPassword none
      (lockedVault header) header symbolicVmk) :
    handle symbolic spelledSerde symbolicWebauthn symbolicFactors (symbolicEnv 2 2) 1000
        (.unlock repeatedPassword none none) (lockedVault header) =
      (((admitUnlock (symbolicEnv 2 2) repeatedPassword 1000 >>= fun _ =>
        attemptErr (enterVault symbolic spelledSerde (symbolicEnv 2 2) repeatedPassword none 1000
          header symbolicVmk) >>= settleUnlock (symbolicEnv 2 2) 1000) >>=
            totpFactor symbolic symbolicFactors (symbolicEnv 2 2) 1000 none) >>= fun _ => pure ())
        (lockedVault header) := by
  rw [handle_unlock, bind_run, handleUnlock_eq h, ← bind_run]

theorem ticketWorks_iff_ticketless :
    ∃ t, handle symbolic spelledSerde symbolicWebauthn symbolicFactors (symbolicEnv 2 2) 1000
        (.unlock repeatedPassword none none) (lockedVault (ticketlessHeader repeatedPassword)) =
          (.ok (), t) ∧
      TicketWorks symbolic spelledSerde symbolicWebauthn symbolicFactors (.replicate 12 5) t := by
  have h := (handle_unlock_eq opensHeader_ticketless).trans
    (eq_mk_of_fst (r := .ok ()) (by decide +kernel))
  refine ⟨_, h, (ticketWorks_iff symbolic_ideal symbolic_sha3_ne_nil (by exact trivial) h _).mpr ?_⟩
  exact .inr ⟨ticketlessHeader repeatedPassword, rfl, rfl⟩

/-- **The second unlock.** A vault is created, which draws its ticket, and locked; the ticket in
the answer to the next unlock is refused. -/
theorem relocked_ticket_refused :
    ∃ t vmk, handle symbolic spelledSerde symbolicWebauthn symbolicFactors (symbolicEnv 2 2) 1000
        (.unlock repeatedPassword none none) (lockedVault (spelledHeader repeatedPassword 0)) =
          (.ok (), t) ∧
      t.vmk = some vmk ∧
      (handleForensicWipe symbolic (symbolicEnv 3 3)
        (wipeTicketResponse symbolic (.replicate 12 5) t) t).1 =
          .error (.err (.auth "invalid ticket length (must be 32 bytes)")) := by
  -- the header keeps its hash, so there is nothing to draw and nothing in memory
  refine ⟨_, symbolicVmk, (handle_unlock_eq
    (opensHeader_spelled (symbolicEnv_quiet 2 2) rfl rfl)).trans (eq_mk_of_fst ?_), ?_, ?_⟩
  all_goals decide +kernel

end PwdNow.Daemon
