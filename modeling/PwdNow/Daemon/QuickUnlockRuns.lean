import PwdNow.Daemon.Reunlock
import PwdNow.Daemon.VmkCopies

/-!
# Daemon — what an enrolment for quick unlock is good for

An entry for quick unlock holds a KEK: it opens the vault as long as it is the first entry with its
id and the VMK in the header is wrapped under that KEK. `quick_unlock_enroll` checks neither the
password nor whether the id is taken, and the transparent re-wrap inside `unlock_existing` puts the
VMK under another KEK.
-/

namespace PwdNow.Daemon

open Kit Kit.Fallible

/-! ## Requests -/

inductive QuickRequest where
  | lock
  | unlock (env : Env) (password : Bytes) (yk : Option (Block 20)) (uid : UInt32)
  | enroll (env : Env) (password cid pubKeyCbor dbk : Bytes)

def quickStep (P : Primitives) (J : Serde) (s : DaemonState) : QuickRequest → DaemonState
  | .lock => Daemon.lock s
  | .unlock env password yk uid => (Daemon.unlock P J env password yk uid s).2
  | .enroll env password cid pubKeyCbor dbk =>
    (quickUnlockEnroll P J env password cid pubKeyCbor dbk s).2

/-- A fresh and valid assertion, presented by a uid that is not locked out, to a daemon with
room for a session. -/
structure Presents (W : Webauthn) (env : Env) (a : Assertion) (uid : UInt32)
    (cid pubKeyCbor : Bytes) (s : DaemonState) : Prop where
  quiet : env.Quiet
  admitted : (s.lockout.checkUnlockLockout env.checkAt uid).1 = .ok ()
  credential : a.cid = cid
  fresh : ∃ chal, (clientChallenge W a.clientDataJson s).1 = .ok chal ∧
    (s.challenges.any fun c => c.1 = chal && env.challengeAt < c.2) = true
  valid : verifyAssertion W pubKeyCbor a "localhost" true = .ok ()
  room : ∀ userId, ∃ session,
    (s.sessions.create env.nowSecs env.token userId uid defaultTtlSecs).1 = .ok session

/-- Every such assertion opens the vault, with the device key `dbk`. -/
def QuickUnlocks (P : Primitives) (J : Serde) (W : Webauthn) (cid pubKeyCbor dbk : Bytes)
    (s : DaemonState) : Prop :=
  ∀ env a uid, Presents W env a uid cid pubKeyCbor s →
    ∃ session t, quickUnlock P J W env a dbk uid s = (.ok session, t)

/-- The password alone opens the vault that is on disk, and the credential is not enrolled
yet. -/
def EnrollsOwner (P : Primitives) (password cid : Bytes) (s : DaemonState) : Prop :=
  ∃ header vmk db₀ db, s.disk.sidecar = some (.ok header) ∧
    (∀ entry ∈ header.quickUnlockCredentials, entry.credentialIdHex ≠ hexEncode cid) ∧
    unwrapVmk P (.ok ()) header password none = .ok (Block.bytes vmk) ∧
    s.disk.vault = some (.pages (sqlcipherKey P vmk.bytes) db₀) ∧
    applyMigrations db₀ = .ok db ∧ verifyChain P db vmk = .ok ()

/-- An unlock succeeds, and does not migrate the KDF parameters. -/
def KeepsKek (P : Primitives) (J : Serde) (s : DaemonState) : QuickRequest → Prop
  | .unlock env password yk uid =>
    (∃ session, (Daemon.unlock P J env password yk uid s).1 = .ok session) ∧
      ∀ header kek, s.disk.sidecar = some (.ok header) → ¬ Rewraps P env password yk header kek
  | _ => True

section

variable {P : Primitives} {J : Serde} {W : Webauthn} {env : Env} {s t : DaemonState}
  {header header' : VaultHeader} {kek vmk : Block 32} {a : Assertion} {uid : UInt32}
  {password cid pubKeyCbor dbk : Bytes}

/-! ## What has to be on disk -/

variable {alloc : Except VaultError Unit} {plain : Bytes} {yk : Option (Block 20)}

/-- The first entry with the id holds, under the device key, the KEK `kek`. -/
def HoldsKek (P : Primitives) (cid pubKeyCbor dbk : Bytes) (kek : Block 32)
    (header : VaultHeader) : Prop :=
  ∃ entry device,
    header.quickUnlockCredentials.find? (·.credentialIdHex = hexEncode cid) = some entry ∧
    entry.pubKeyCborHex = hexEncode pubKeyCbor ∧ Block.ofBytes 32 dbk = some device ∧
    openQuickUnlockEntry P entry device = some kek

/-- The entry leads to the KEK, the KEK to the VMK, and the VMK opens the vault. -/
structure Ready (P : Primitives) (cid pubKeyCbor dbk : Bytes) (kek vmk : Block 32)
    (s : DaemonState) : Prop where
  header : ∃ header, s.disk.sidecar = some (.ok header) ∧
    HoldsKek P cid pubKeyCbor dbk kek header ∧ unwrapVmkWith P header kek = .ok vmk.bytes
  vault : ∃ db₀ db, s.disk.vault = some (.pages (sqlcipherKey P vmk.bytes) db₀) ∧
    applyMigrations db₀ = .ok db ∧ verifyChain P db vmk = .ok ()

theorem unwrapVmkWith_congr (h : header'.wrapping = header.wrapping) :
    unwrapVmkWith P header' kek = unwrapVmkWith P header kek := by
  simp only [VaultHeader.wrapping, Prod.mk.injEq] at h
  obtain ⟨-, -, hvmk, hnonce⟩ := h
  simp only [unwrapVmkWith, hvmk, hnonce]

theorem unwrapVmkWith_enrolledKek (hkek : enrolledKek P alloc header password = .ok kek)
    (hunwrap : unwrapVmk P (.ok ()) header password none = .ok plain) :
    unwrapVmkWith P header kek = .ok plain := by
  simp only [enrolledKek, Result.bind_eq_ok, pure, Except.pure, Except.ok.injEq] at hkek
  obtain ⟨saltBytes, hbytes, salt, hsalt, buf, hbuf, rfl⟩ := hkek
  simp only [unwrapVmk, wrappedVmk, Result.bind_eq_ok, pure, Except.pure, Except.ok.injEq]
    at hunwrap
  obtain ⟨w, ⟨saltBytes', hbytes', salt', hsalt', buf', hbuf', ct, hct, nonce, hnonce, rfl⟩,
    hplain⟩ := hunwrap
  -- both derive from the same salt and parameters
  rw [hbytes] at hbytes'
  cases hbytes'
  rw [hsalt] at hsalt'
  cases hsalt'
  rw [deriveKek_of_ok P hbuf] at hbuf'
  cases hbuf'
  simp only [unwrapVmkWith, Result.bind_eq_ok]
  exact ⟨ct, hct, nonce, hnonce, hplain⟩

theorem openQuickUnlockEntry_entry (hP : P.Ideal) (device : Block 32) :
    openQuickUnlockEntry P (quickUnlockEntry P env cid pubKeyCbor device kek) device =
      some kek := by
  simp [openQuickUnlockEntry, quickUnlockEntry, hexDecode_hexEncode, hP.aesGcm.decrypt_encrypt]

/-! ## The quick unlock itself -/

variable {chal : Block 32} {session : Session}

theorem clientChallenge_run (json : Bytes) (s s' : DaemonState)
    (h : (clientChallenge W json s).1 = .ok chal) : clientChallenge W json s' = (.ok chal, s') := by
  have hrun : clientChallenge W json s = (.ok chal, s) := by
    have hsame := (clientChallenge_keeps (W := W) (f := id) json) s
    exact Prod.ext h hsame
  simp only [clientChallenge, bind_eq_ok, lift_eq_ok, require_eq_ok] at hrun ⊢
  obtain ⟨cdata, _, ⟨hdata, -⟩, _, _, ⟨htype, -⟩, _, _, ⟨horigin, -⟩, text, _, ⟨htext, -⟩, bytes, _,
    ⟨hbytes, -⟩, hblock, -⟩ := hrun
  exact ⟨cdata, s', ⟨hdata, rfl⟩, (), s', ⟨htype, rfl⟩, (), s', ⟨horigin, rfl⟩, text, s',
    ⟨htext, rfl⟩, bytes, s', ⟨hbytes, rfl⟩, hblock, rfl⟩

theorem consumeChallenge_run
    (h : (s.challenges.any fun c => c.1 = chal && env.challengeAt < c.2) = true) :
    consumeChallenge env chal s =
      (.ok (), { s with challenges := s.challenges.filter (·.1 ≠ chal) }) := by
  rw [consumeChallenge, bind_run_ok (gets_run _ s), bind_run_ok (modify_run _ s), h]
  rfl

theorem verifyQuickUnlock_holdsKek (h : HoldsKek P cid pubKeyCbor dbk kek header)
    (hcid : a.cid = cid) (hvalid : verifyAssertion W pubKeyCbor a "localhost" true = .ok ()) :
    verifyQuickUnlock P W header a dbk = .ok kek := by
  obtain ⟨entry, device, hfind, hpub, hdevice, hopen⟩ := h
  subst hcid
  simp only [verifyQuickUnlock, Result.bind_eq_ok, okOr_eq_ok]
  refine ⟨entry, hfind, pubKeyCbor, ?_, (), ?_, device, hdevice, hopen⟩
  · rw [hpub, hexDecode_hexEncode]
  · rw [checkAssertion, hvalid]

theorem quickUnlockTicket_run (P : Primitives) (J : Serde) (env : Env) (header : VaultHeader)
    (s : DaemonState) :
    ∃ ticket t, quickUnlockTicket P J env header s = (.ok ticket, t) ∧ t.sessions = s.sessions := by
  unfold quickUnlockTicket
  split
  · obtain ⟨r, hr⟩ := attemptErr_of_returns (writeHeader_returns (P := P) (J := J) env .ticket
      { header with wipeTicketHash := hexEncode (P.sha3 env.wipeTicket.bytes) }) s
    refine ⟨_, _, bind_run_ok hr, ?_⟩
    exact writeHeader_keeps_sessions s
  · exact ⟨none, s, rfl, rfl⟩

theorem createSession_room {userId : String}
    (h : (s.sessions.create env.nowSecs env.token userId uid defaultTtlSecs).1 = .ok session) :
    ∃ t, createSession env userId uid s = (.ok session, t) := by
  unfold createSession
  cases hcreate : s.sessions.create env.nowSecs env.token userId uid defaultTtlSecs with
  | mk r store =>
    rw [hcreate] at h
    cases h
    exact ⟨_, rfl⟩

theorem checkUnlockLockout_run
    (h : (s.lockout.checkUnlockLockout env.checkAt uid).1 = .ok ()) :
    ∃ tracker, checkUnlockLockout env uid s = (.ok (), { s with lockout := tracker }) := by
  unfold checkUnlockLockout
  cases hcheck : s.lockout.checkUnlockLockout env.checkAt uid with
  | mk r tracker =>
    rw [hcheck] at h
    cases h
    exact ⟨tracker, rfl⟩

/-- **What has to be on disk for an assertion to open the vault.** -/
theorem Ready.quickUnlock (h : Ready P cid pubKeyCbor dbk kek vmk s) :
    QuickUnlocks P J W cid pubKeyCbor dbk s := by
  intro env a uid hpresents
  obtain ⟨header, hs, hholds, hunwrap⟩ := h.header
  obtain ⟨db₀, db, hv, happly, hchain⟩ := h.vault
  obtain ⟨chal, hchal, hlive⟩ := hpresents.fresh
  have hq := hpresents.quiet
  obtain ⟨tracker, hcheck⟩ := checkUnlockLockout_run hpresents.admitted
  -- the request as far as the database
  let s₁ : DaemonState := { s with lockout := tracker }
  let s₂ : DaemonState := { s₁ with challenges := s.challenges.filter (·.1 ≠ chal) }
  have hconsume : consumeChallenge env chal s₁ = (.ok (), s₂) := consumeChallenge_run hlive
  have hread : readHeader env .request s₂ = (.ok header, s₂) :=
    readHeader_eq_ok.mpr ⟨hq _, hs, rfl⟩
  have hverify := verifyQuickUnlock_holdsKek (P := P) hholds hpresents.credential hpresents.valid
  have hopen : openVault env (sqlcipherKey P vmk.bytes) s₂ = (.ok (), _) :=
    openVault_run hq hv happly
  have hrows : onDatabase (fun db => do verifyChain P db vmk; pure db)
      (s₂.setVault (.pages (sqlcipherKey P vmk.bytes) db)) = (.ok (), _) :=
    (onDatabase_read_eq_ok rfl).mpr ⟨hchain, rfl⟩
  -- the ticket and the session
  obtain ⟨ticket, s₃, hticket, hsessions⟩ := quickUnlockTicket_run P J env
    header (s₂.setVault (.pages (sqlcipherKey P vmk.bytes) db))
  obtain ⟨session, hroom⟩ := hpresents.room header.vaultUuid
  have hroom' : ((s₃.entered vmk header.vaultUuid ticket).sessions.create env.nowSecs env.token
      header.vaultUuid uid defaultTtlSecs).1 = .ok session := by
    rw [show (s₃.entered vmk header.vaultUuid ticket).sessions = s.sessions from hsessions]
    exact hroom
  obtain ⟨s₄, hsession⟩ := createSession_room hroom'
  have hinner : quickUnlockInner P J W env a dbk uid s₁ = (.ok session, s₄) := by
    rw [quickUnlockInner, bind_run_ok (clientChallenge_run _ s s₁ hchal), bind_run_ok hconsume,
      bind_run_ok hread, bind_run_ok (lift_eq_ok.mpr ⟨hverify, rfl⟩),
      bind_run_ok (lift_eq_ok.mpr ⟨hunwrap, rfl⟩), bind_run_ok (at_run_ok (hq _) s₂),
      bind_run_ok (lift_eq_ok.mpr ⟨copyFromSlice_bytes _ vmk, rfl⟩), bind_run_ok hopen,
      bind_run_ok hrows, bind_run_ok hticket, bind_run_ok (modify_run _ s₃), hsession]
  have hsettle : settleCounted P env uid (.ok session) s₄ = (.ok session, _) := rfl
  exact ⟨session, _, (bind_run_ok hcheck).trans
    ((bind_run_ok (attemptErr_eq_ok_ok.mpr hinner)).trans hsettle)⟩

/-! ## What the requests do to it -/

theorem stamped_quickUnlockCredentials (k : Option (Block 32)) :
    (header.stamped P J k).quickUnlockCredentials = header.quickUnlockCredentials := by
  cases k <;> rfl

theorem HoldsKek.congr (h : HoldsKek P cid pubKeyCbor dbk kek header)
    (heq : header'.quickUnlockCredentials = header.quickUnlockCredentials) :
    HoldsKek P cid pubKeyCbor dbk kek header' := by
  unfold HoldsKek
  rw [heq]
  exact h

theorem HoldsKek.append (h : HoldsKek P cid pubKeyCbor dbk kek header)
    {entries : List QuickUnlockCred}
    (heq : header'.quickUnlockCredentials = header.quickUnlockCredentials ++ entries) :
    HoldsKek P cid pubKeyCbor dbk kek header' := by
  obtain ⟨entry, device, hfind, hrest⟩ := h
  refine ⟨entry, device, ?_, hrest⟩
  rw [heq, List.find?_append, hfind]
  rfl

theorem Ready.of_disk (h : Ready P cid pubKeyCbor dbk kek vmk s) (hdisk : t.disk = s.disk) :
    Ready P cid pubKeyCbor dbk kek vmk t := by
  constructor
  · rw [hdisk]
    exact h.header
  · rw [hdisk]
    exact h.vault

/-- The header with one more entry for quick unlock. -/
def VaultHeader.withQuickUnlock (header : VaultHeader) (entry : QuickUnlockCred) : VaultHeader :=
  { header with quickUnlockCredentials := header.quickUnlockCredentials ++ [entry] }

theorem Ready.enroll (h : Ready P cid pubKeyCbor dbk kek vmk s) (env : Env)
    (password cid' pubKeyCbor' dbk' : Bytes) :
    Ready P cid pubKeyCbor dbk kek vmk
      (quickUnlockEnroll P J env password cid' pubKeyCbor' dbk' s).2 := by
  refine (require_keeps _ _).bind_holds h fun _ _ => ?_
  refine (readHeader_keeps env .request).bind_holds h fun header hread => ?_
  refine (Keeps.lift _).bind_holds h fun kek' _ => (Keeps.lift _).bind_holds h fun device _ => ?_
  obtain ⟨-, hs, -⟩ := readHeader_eq_ok.mp hread
  show Ready P cid pubKeyCbor dbk kek vmk (writeHeader P J env .request
    (header.withQuickUnlock (quickUnlockEntry P env cid' pubKeyCbor' device kek')) s).2
  rcases writeHeader_cases P J env .request _ s with hsame | hset
  · rw [hsame]
    exact h
  · rw [hset]
    obtain ⟨header', hs', hholds, hunwrap⟩ := h.header
    rw [hs] at hs'
    cases hs'
    refine ⟨⟨_, rfl, ?_, ?_⟩, h.vault⟩
    · exact hholds.append (stamped_quickUnlockCredentials s.vmk)
    · rw [unwrapVmkWith_congr (stamped_wrapping s.vmk)]
      exact hunwrap

theorem withTicket_wrapping (mem : Option (Block 32)) :
    (header.withTicket P J env mem).wrapping = header.wrapping := by
  unfold VaultHeader.withTicket
  split
  · exact stamped_wrapping mem
  · rfl

theorem withTicket_quickUnlockCredentials (mem : Option (Block 32)) :
    (header.withTicket P J env mem).quickUnlockCredentials = header.quickUnlockCredentials := by
  unfold VaultHeader.withTicket
  split
  · exact stamped_quickUnlockCredentials mem
  · rfl

theorem Ready.unlock (hP : P.Ideal) (h : Ready P cid pubKeyCbor dbk kek vmk s)
    (hrun : Daemon.unlock P J env password yk uid s = (.ok session, t))
    (hkept : ∀ header kek, s.disk.sidecar = some (.ok header) →
      ¬ Rewraps P env password yk header kek) : Ready P cid pubKeyCbor dbk kek vmk t := by
  obtain ⟨header, hs, hholds, hunwrap⟩ := h.header
  obtain ⟨db₀, db, hv, -⟩ := h.vault
  obtain ⟨-, lockout, totpLockout, t', hexisting, rfl⟩ := unlock_ok (by rw [hv]; rfl) hrun
  obtain ⟨header', vmk', stored, db', hs', -, hunwrap', -, hleaves, hdb, -, -, -, hdisk⟩ :=
    unlockExisting_ok hexisting
  have hheader : header' = header := by
    have hsame : some (Except.ok header') = some (.ok header) := hs'.symm.trans hs
    exact Except.ok.inj (Option.some.inj hsame)
  subst hheader
  -- the password opened the same wrapped VMK
  obtain ⟨kek', hkek'⟩ := unwrapVmkWith_of_unwrapVmk hunwrap'
  have hvmk : vmk' = vmk := Block.bytes_inj (unwrapVmkWith_unique hP hkek' hunwrap)
  subst hvmk
  have hstored : stored = header'.withTicket P J env s.vmk := by
    rcases hleaves with ⟨buf, hwraps, -⟩ | ⟨-, hticket⟩
    · exact absurd hwraps (hkept header' buf hs)
    · exact hticket
  obtain ⟨hcurrent, hchain, -⟩ := hdb.reopens
  constructor
  · refine ⟨stored, by rw [hdisk], ?_, ?_⟩
    · rw [hstored]
      exact hholds.congr (withTicket_quickUnlockCredentials s.vmk)
    · rw [hstored, unwrapVmkWith_congr (withTicket_wrapping s.vmk)]
      exact hunwrap
  · exact ⟨db', db', by rw [hdisk], applyMigrations_of_current hcurrent, hchain⟩

/-- **A careful enrolment is ready.** -/
theorem ready_of_enroll (hP : P.Ideal) (howner : EnrollsOwner P password cid s) {u : Unit}
    (h : quickUnlockEnroll P J env password cid pubKeyCbor dbk s = (.ok u, t)) :
    ∃ kek vmk, Ready P cid pubKeyCbor dbk kek vmk t := by
  obtain ⟨header, vmk, db₀, db, hs, hnew, hunwrap, hv, happly, hchain⟩ := howner
  simp only [quickUnlockEnroll, bind_eq_ok, require_eq_ok, readHeader_eq_ok, lift_eq_ok,
    okOr_eq_ok, writeHeader_eq_ok] at h
  obtain ⟨_, _, ⟨-, rfl⟩, header', _, ⟨-, hs', rfl⟩, kek, _, ⟨hkek, rfl⟩, device, _,
    ⟨hdevice, rfl⟩, -, -, rfl⟩ := h
  rw [hs] at hs'
  cases hs'
  refine ⟨kek, vmk, ⟨_, rfl, ?_, ?_⟩, db₀, db, hv, happly, hchain⟩
  · refine ⟨quickUnlockEntry P env cid pubKeyCbor device kek, device, ?_, rfl, hdevice,
      openQuickUnlockEntry_entry hP device⟩
    -- no earlier entry has the id, so the new one is the first
    have hnone : header.quickUnlockCredentials.find?
        (·.credentialIdHex = hexEncode cid) = none := by
      rw [List.find?_eq_none]
      intro entry hmem
      simpa using hnew entry hmem
    rw [stamped_quickUnlockCredentials, List.find?_append, hnone]
    simp [quickUnlockEntry]
  · rw [unwrapVmkWith_congr (stamped_wrapping _)]
    exact unwrapVmkWith_enrolledKek hkek hunwrap

theorem Ready.step (hP : P.Ideal) (request : QuickRequest) (hkeeps : KeepsKek P J s request)
    (h : Ready P cid pubKeyCbor dbk kek vmk s) :
    Ready P cid pubKeyCbor dbk kek vmk (quickStep P J s request) := by
  cases request with
  | lock => exact h.of_disk rfl
  | unlock env password yk uid =>
    obtain ⟨⟨session, hok⟩, hkept⟩ := hkeeps
    exact h.unlock hP (Prod.ext hok rfl) hkept
  | enroll env password cid' pubKeyCbor' dbk' => exact h.enroll env password cid' pubKeyCbor' dbk'

/-- **A careful enrolment is good for as long as nobody re-wraps.** If the enrolled password alone
opens the vault and the credential was not enrolled before, every fresh assertion opens the vault
after any locks, further enrolments and successful unlocks that do not migrate the KDF parameters.
-/
theorem quickUnlock_of_run (hP : P.Ideal) (howner : EnrollsOwner P password cid s)
    (henroll : quickUnlockEnroll P J env password cid pubKeyCbor dbk s = (.ok (), t))
    {requests : List QuickRequest} (hkeeps : Along (quickStep P J) t requests (KeepsKek P J))
    {u : DaemonState} (hu : Visits (quickStep P J) t requests u) :
    QuickUnlocks P J W cid pubKeyCbor dbk u := by
  obtain ⟨kek, vmk, hready⟩ := ready_of_enroll hP howner henroll
  have hinv : Ready P cid pubKeyCbor dbk kek vmk u :=
    Visits.invariant hready hkeeps
      (fun s request _ hkept h => Ready.step (s := s) hP request hkept h) hu
  exact hinv.quickUnlock

end

/-! ### On the symbolic vault -/

def quickCredential : Bytes := [7]

def quickPublicKey : Bytes := [9]

def quickDevice : Block 32 := .replicate 32 5

def quickChallenge : Block 32 := .replicate 32 3

/-- The authenticator answers the challenge, with the user verified. -/
def quickAssertion : Assertion where
  cid := quickCredential
  authData := List.replicate 32 0 ++ [0x04]
  signature := quickPublicKey
  clientDataJson := quickChallenge.bytes

/-- The unlocked vault, with a challenge that has been issued. -/
def challengedVault : DaemonState :=
  { openedVault (spelledHeader oldPassword 0) symbolicDb with
    challenges := [(quickChallenge, fromSecs 600)] }

/-- What an enrolment leaves of it. -/
def enrolledVault (password : Bytes) : DaemonState :=
  challengedVault.setSidecar (((spelledHeader oldPassword 0).withQuickUnlock
    (quickUnlockEntry symbolic (symbolicEnv 2 2) quickCredential quickPublicKey quickDevice
      (kekOf (symbolicKek password)))).stamped symbolic spelledSerde (some symbolicVmk))

theorem quickUnlockEnroll_challengedVault {password : Bytes} (hlen : password.length ≤ 1024) :
    quickUnlockEnroll symbolic spelledSerde (symbolicEnv 2 2) password quickCredential
      quickPublicKey quickDevice.bytes challengedVault = (.ok (), enrolledVault password) := by
  have hkek : enrolledKek symbolic (.ok ()) (spelledHeader oldPassword 0) password =
      .ok (kekOf (symbolicKek password)) := by
    have hsalt : (spelledHeader oldPassword 0).argon2Salt =
        hexEncode (symbolicEnv 1 1).salt.bytes := rfl
    rw [enrolledKek, hsalt, hexDecode_hexEncode]
    simp only [okOr, bind, Except.bind, copyFromSlice_bytes]
    rfl
  simp only [quickUnlockEnroll, bind_eq_ok, require_eq_ok, readHeader_eq_ok, lift_eq_ok,
    okOr_eq_ok, writeHeader_eq_ok]
  exact ⟨(), _, ⟨by simpa using hlen, rfl⟩, spelledHeader oldPassword 0, _, ⟨rfl, rfl, rfl⟩, _, _,
    ⟨hkek, rfl⟩, quickDevice, _, ⟨Block.ofBytes_bytes _, rfl⟩, rfl, rfl, rfl⟩

theorem presents_enrolledVault (password : Bytes) :
    Presents symbolicWebauthn (symbolicEnv 3 3) quickAssertion 1000 quickCredential quickPublicKey
      (enrolledVault password) where
  quiet := symbolicEnv_quiet 3 3
  admitted := rfl
  credential := rfl
  fresh := ⟨quickChallenge, rfl, rfl⟩
  valid := by decide
  room := fun _ => ⟨_, rfl⟩

theorem enrollsOwner_challengedVault :
    EnrollsOwner symbolic oldPassword quickCredential challengedVault :=
  ⟨spelledHeader oldPassword 0, symbolicVmk, symbolicDb, symbolicDb, rfl,
    fun _ h => absurd h (List.not_mem_nil), unwrapVmk_spelledHeader oldPassword 0, rfl,
    applyMigrations_of_current symbolicDb_current, rfl⟩

/-- A lock, an unlock with the password, and another enrolment of the same credential. -/
def lockAndReopen : List QuickRequest :=
  [.lock, .unlock (symbolicEnv 3 3) oldPassword none 1000,
    .enroll (symbolicEnv 4 4) newPassword quickCredential quickPublicKey quickDevice.bytes]

theorem quickUnlock_of_run_lockAndReopen :
    Presents symbolicWebauthn (symbolicEnv 3 3) quickAssertion 1000 quickCredential quickPublicKey
        (enrolledVault oldPassword) ∧
      QuickUnlocks symbolic spelledSerde symbolicWebauthn quickCredential quickPublicKey
        quickDevice.bytes
        (run (quickStep symbolic spelledSerde) (enrolledVault oldPassword) lockAndReopen) := by
  refine ⟨presents_enrolledVault oldPassword, quickUnlock_of_run symbolic_ideal
    enrollsOwner_challengedVault (quickUnlockEnroll_challengedVault (by decide)) ?_
    (.last _ _ _)⟩
  refine along_cons trivial (along_cons ⟨?_, ?_⟩ (along_cons trivial (along_nil _)))
  · have hopens : OpensHeader symbolic spelledSerde (symbolicEnv 3 3) oldPassword none
        (lock (enrolledVault oldPassword)) _ symbolicVmk :=
      ⟨symbolicEnv_quiet 3 3, rfl, rfl, rfl, unwrapVmk_wrap symbolic_ideal ⟨rfl, rfl, rfl, rfl⟩
        (deriveKek_symbolic oldPassword _), (checkHeaderHmac_stamped symbolic_ideal).mpr rfl⟩
    exact ⟨_, congrArg Prod.fst ((hopens.unlock 1000).trans rfl)⟩
  · -- the parameters are the current ones
    rintro header kek hs hwraps
    cases hs
    have hheavy := hwraps.heavy
    revert hheavy
    decide

/-- **An enrolment with a wrong password is accepted, and opens nothing.** -/
theorem quickUnlock_wrong_enrolment :
    quickUnlockEnroll symbolic spelledSerde (symbolicEnv 2 2) newPassword quickCredential
        quickPublicKey quickDevice.bytes challengedVault = (.ok (), enrolledVault newPassword) ∧
      Presents symbolicWebauthn (symbolicEnv 3 3) quickAssertion 1000 quickCredential
        quickPublicKey (enrolledVault newPassword) ∧
      ¬ ∃ session t, quickUnlock symbolic spelledSerde symbolicWebauthn (symbolicEnv 3 3)
        quickAssertion quickDevice.bytes 1000 (enrolledVault newPassword) = (.ok session, t) := by
  refine ⟨quickUnlockEnroll_challengedVault (by decide), presents_enrolledVault newPassword, ?_⟩
  -- the VMK is wrapped under the KEK of the other password
  have hfails : (quickUnlock symbolic spelledSerde symbolicWebauthn (symbolicEnv 3 3) quickAssertion
      quickDevice.bytes 1000 (enrolledVault newPassword)).1.isOk = false := by decide +kernel
  rintro ⟨session, t, h⟩
  rw [h] at hfails
  cases hfails

end PwdNow.Daemon
