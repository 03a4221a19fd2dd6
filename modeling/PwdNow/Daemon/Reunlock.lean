import PwdNow.Daemon.Symbolic

/-!
# Daemon — unlocking twice

`unlock_existing` rewrites the header in two places, to add a wipe ticket and to re-wrap the VMK,
both before the VMK is in memory. So `write_header` keeps the MAC of the header that was there, and
the next `unlock` refuses the file unless it is the same header.
-/

namespace PwdNow.Daemon

open Kit Kit.Fallible

section

variable {P : Primitives} {J : Serde} {env : Env} {s t : DaemonState} {password : Bytes}
  {yk : Option (Block 20)} {uid : UInt32} {header stored : VaultHeader} {vmk : Block 32}

/-! ## What a rewrite does to the MAC -/

theorem hexEncode_ne_empty {bytes : Bytes} (h : bytes ≠ []) : hexEncode bytes ≠ "" := by
  intro hempty
  exact h (hexEncode_injective (hempty.trans rfl))

/-- The re-wrap under the current parameters, if it takes place, writes the salt, the
parameters, the nonce and the ciphertext that were there. -/
def KdfKept (P : Primitives) (env : Env) (password : Bytes) (yk : Option (Block 20))
    (header : VaultHeader) : Prop :=
  ∀ kek vmk, Rewraps P env password yk header kek →
    unwrapVmk P (.ok ()) header password yk = .ok (Block.bytes vmk) →
      header.wrap P env.rewrapSalt env.tuned kek env.rewrapNonce vmk = header

theorem LeavesHeader.headerHmac (h : LeavesHeader P J env password yk vmk none header stored) :
    stored.headerHmac = header.headerHmac := by
  have hticket : (header.withTicket P J env none).headerHmac = header.headerHmac := by
    unfold VaultHeader.withTicket
    split <;> rfl
  rcases h with ⟨kek, -, rfl⟩ | ⟨-, rfl⟩
  · exact hticket
  · exact hticket

/-- **When the two rewrites change nothing.** -/
theorem LeavesHeader.eq_iff (hsha : ∀ ticket : Block 32, P.sha3 ticket.bytes ≠ [])
    (h : LeavesHeader P J env password yk vmk none header stored)
    (hunwrap : Daemon.unwrapVmk P (.ok ()) header password yk = .ok vmk.bytes) :
    stored = header ↔ header.wipeTicketHash ≠ "" ∧ KdfKept P env password yk header := by
  have hhash : ∀ h' : VaultHeader, (h'.ticketed P env).wipeTicketHash ≠ "" := fun _ =>
    hexEncode_ne_empty (hsha env.wipeTicket)
  by_cases hempty : header.wipeTicketHash = ""
  · -- the new header has a ticket and the old one has none
    have hticket : (header.withTicket P J env none).wipeTicketHash ≠ "" := by
      rw [VaultHeader.withTicket, if_pos hempty]
      exact hhash header
    have hstored : stored.wipeTicketHash ≠ "" := by
      rcases h with ⟨kek, -, rfl⟩ | ⟨-, rfl⟩
      · exact hticket
      · exact hticket
    simp only [hempty, ne_eq, not_true_eq_false, false_and, iff_false]
    rintro rfl
    exact hstored hempty
  · have hsame : header.withTicket P J env none = header := by
      rw [VaultHeader.withTicket, if_neg hempty]
    rw [LeavesHeader, hsame] at h
    simp only [hempty, ne_eq, not_false_eq_true, true_and]
    rcases h with ⟨kek, hwraps, rfl⟩ | ⟨hnone, rfl⟩
    · constructor
      · intro heq kek' vmk' hwraps' hunwrap'
        have hkek : kek' = kek := by
          have hderived := hwraps'.derived
          rw [hwraps.derived] at hderived
          exact (Except.ok.inj hderived).symm
        have hvmk : vmk' = vmk := by
          rw [hunwrap] at hunwrap'
          exact Block.bytes_inj (Except.ok.inj hunwrap').symm
        rw [hkek, hvmk]
        exact heq
      · intro hkept
        exact hkept kek vmk hwraps hunwrap
    · exact ⟨fun _ kek _ hwraps _ => absurd hwraps (hnone kek), fun _ => rfl⟩

/-! ## The second unlock -/

theorem LeavesDatabase.reopens {db' : Database} (h : LeavesDatabase P J env vmk s db') :
    db'.Current ∧ verifyChain P db' vmk = .ok () ∧ MigrationSafe P db' vmk := by
  obtain ⟨db₀, db, -, happly, hchain, hrows⟩ := h
  obtain ⟨⟨version, hversion, hle⟩, -⟩ := applyMigrations_eq_ok happly
  obtain ⟨hdone, hlog, hmeta⟩ := migrateRows_eq_ok hrows
  refine ⟨⟨version, ?_, hle⟩, ?_, .inl hdone⟩
  · rw [← hversion, schemaVersion, schemaVersion, hmeta _ (by decide)]
  · rw [← hchain, verifyChain, verifyChain, hlog]

/-- **The second unlock is decided by the header.** The database and the wrapped VMK always
allow it; the MAC does if the header is the one of the first unlock. -/
theorem unlock_lock_ok_iff_stored (hP : P.Ideal) (hjson : Function.Injective J.headerJson)
    (hlocked : s.vmk = none) (hs : s.disk.sidecar = some (.ok header))
    (hv : s.disk.vault.isSome) {session : Session}
    (h : unlock P J env password yk uid s = (.ok session, t)) {env' : Env} (hq : env'.Quiet)
    (uid' : UInt32) :
    ∃ stored vmk, Daemon.unwrapVmk P (.ok ()) header password yk = .ok vmk.bytes ∧
      LeavesHeader P J env password yk vmk none header stored ∧
      ((∃ session' t', unlock P J env' password yk uid' (lock t) = (.ok session', t')) ↔
        stored = header) := by
  obtain ⟨hlen, lockout, totpLockout, t', hexisting, rfl⟩ := unlock_ok hv h
  obtain ⟨header', vmk, stored, db', hs', hlogin, hunwrap, hmac, hleaves, hdb, -, -, -, hdisk⟩ :=
    unlockExisting_ok hexisting
  have hheader : header' = header := by
    have hsame : some (Except.ok header') = some (.ok header) := hs'.symm.trans hs
    exact Except.ok.inj (Option.some.inj hsame)
  subst hheader
  have hmem : LeavesHeader P J env password yk vmk none header' stored := by
    rw [← hlocked]
    exact hleaves
  obtain ⟨hcurrent, hchain, hsafe⟩ := hdb.reopens
  refine ⟨stored, vmk, hunwrap, hmem, ?_⟩
  have hsidecar : (lock { t' with lastActivity := env.nowSecs }).disk.sidecar =
      some (.ok stored) := by
    rw [lock, lockInternal, hdisk]
  rw [unlock_lock_ok_iff (by rw [hdisk]; rfl), unlockExisting_ok_iff hP hq hsidecar
      (by rw [lock, lockInternal, hdisk]) hcurrent rfl]
  constructor
  · rintro ⟨-, -, vmk', -, hmac', -⟩
    exact (eq_of_checkHeaderHmac_kept hP hjson hmac hmem.headerHmac hmac').1
  · rintro rfl
    exact ⟨hlen, hlogin, vmk, hunwrap, hmac, rfl, hchain, hsafe⟩

/-- **An unlock can be repeated exactly when it rewrote nothing**: the header had a wipe
ticket, and its KDF parameters were not migrated. -/
theorem unlock_again_iff (hP : P.Ideal) (hjson : Function.Injective J.headerJson)
    (hsha : ∀ ticket : Block 32, P.sha3 ticket.bytes ≠ []) (hlocked : s.vmk = none)
    (hs : s.disk.sidecar = some (.ok header)) (hv : s.disk.vault.isSome) {session : Session}
    (h : unlock P J env password yk uid s = (.ok session, t)) {env' : Env} (hq : env'.Quiet)
    {uid' : UInt32} :
    (∃ session' t', unlock P J env' password yk uid' (lock t) = (.ok session', t')) ↔
      header.wipeTicketHash ≠ "" ∧ KdfKept P env password yk header := by
  obtain ⟨stored, vmk, hunwrap, hleaves, hiff⟩ :=
    unlock_lock_ok_iff_stored hP hjson hlocked hs hv h hq uid'
  rw [hiff, hleaves.eq_iff hsha hunwrap]

end

/-! ### On the symbolic vault -/

/-- The header of a vault from before wipe tickets, with a valid MAC. -/
def ticketlessHeader (password : Bytes) : VaultHeader :=
  { symbolicHeader password 0 with wipeTicketHash := "" }.stamped symbolic spelledSerde
    (some symbolicVmk)

def repeatedPassword : Bytes := utf8 "correct horse"

theorem checkHeaderHmac_ticketlessHeader (password : Bytes) :
    checkHeaderHmac symbolic spelledSerde (ticketlessHeader password) symbolicVmk = .ok () :=
  (checkHeaderHmac_stamped symbolic_ideal).mpr rfl

theorem unwrapVmk_ticketlessHeader (password : Bytes) :
    unwrapVmk symbolic (.ok ()) (ticketlessHeader password) password none = .ok symbolicVmk.bytes :=
  unwrapVmk_wrap symbolic_ideal ⟨rfl, rfl, rfl, rfl⟩ (deriveKek_symbolic password _)

theorem opensHeader_ticketless :
    OpensHeader symbolic spelledSerde (symbolicEnv 2 2) repeatedPassword none
      (lock (closedVault (ticketlessHeader repeatedPassword) symbolicDb))
      (ticketlessHeader repeatedPassword) symbolicVmk :=
  ⟨symbolicEnv_quiet 2 2, rfl, rfl, rfl, unwrapVmk_ticketlessHeader _,
    checkHeaderHmac_ticketlessHeader _⟩

theorem unlock_ticketless :
    ∃ session t, unlock symbolic spelledSerde (symbolicEnv 2 2) repeatedPassword none 1000
      (lock (closedVault (ticketlessHeader repeatedPassword) symbolicDb)) = (.ok session, t) :=
  ⟨_, _, (opensHeader_ticketless.unlock 1000).trans rfl⟩

theorem symbolic_sha3_ne_nil (ticket : Block 32) : symbolic.sha3 ticket.bytes ≠ [] := by
  intro hnil
  have hlen : ticket.bytes.length = 0 := by rw [show ticket.bytes = [] from hnil]; rfl
  simp at hlen

theorem unlock_again_iff_ticketless :
    (∃ session' t', unlock symbolic spelledSerde (symbolicEnv 3 3) repeatedPassword none 1000
        (lock (unlock symbolic spelledSerde (symbolicEnv 2 2) repeatedPassword none 1000
          (lock (closedVault (ticketlessHeader repeatedPassword) symbolicDb))).2) =
            (.ok session', t')) ↔
      (ticketlessHeader repeatedPassword).wipeTicketHash ≠ "" ∧
        KdfKept symbolic (symbolicEnv 2 2) repeatedPassword none
          (ticketlessHeader repeatedPassword) := by
  obtain ⟨session, t, h⟩ := unlock_ticketless
  rw [h]
  exact unlock_again_iff symbolic_ideal spelledSerde_headerJson_injective symbolic_sha3_ne_nil rfl
    rfl rfl h (symbolicEnv_quiet 3 3)

/-- **The second unlock fails.** A vault without a wipe ticket whose MAC is valid opens with
its password once; the same password is refused after a lock. -/
theorem unlock_ticketless_once :
    checkHeaderHmac symbolic spelledSerde (ticketlessHeader repeatedPassword) symbolicVmk = .ok () ∧
      unwrapVmk symbolic (.ok ()) (ticketlessHeader repeatedPassword) repeatedPassword none =
        .ok symbolicVmk.bytes ∧
      ∃ session t, unlock symbolic spelledSerde (symbolicEnv 2 2) repeatedPassword none 1000
          (lock (closedVault (ticketlessHeader repeatedPassword) symbolicDb)) = (.ok session, t) ∧
        ¬ ∃ session' t', unlock symbolic spelledSerde (symbolicEnv 3 3) repeatedPassword none 1000
          (lock t) = (.ok session', t') := by
  obtain ⟨session, t, h⟩ := unlock_ticketless
  refine ⟨checkHeaderHmac_ticketlessHeader _, unwrapVmk_ticketlessHeader _, session, t, h, ?_⟩
  obtain ⟨stored, vmk, hunwrap, hleaves, hiff⟩ :=
    unlock_lock_ok_iff_stored symbolic_ideal spelledSerde_headerJson_injective rfl rfl rfl h
      (symbolicEnv_quiet 3 3) 1000
  rw [hiff, hleaves.eq_iff symbolic_sha3_ne_nil hunwrap]
  rintro ⟨hticket, -⟩
  exact hticket rfl

end PwdNow.Daemon
