import PwdNow.Daemon.QuickUnlockRuns
import PwdNow.Daemon.Trackers

/-!
# Daemon — what a request can fail on

Every `Err` of a request that presents a secret is recorded as a failed attempt, whatever has caused
it. `SecretFails`: the secret was put to the test and did not pass. `InOrder`: nothing else stands
in its way, neither the other fields of the request nor the files, the memory, the sessions or the
system.
-/

namespace PwdNow.Daemon

open Kit Kit.Fallible TotpDb

section Definitions

variable (P : Primitives) (J : Serde) (W : Webauthn) (F : Factors)

/-! ## Passwords -/

/-- The files of a vault: a header that can be read, pages under the VMK that can be brought to
the current schema, and an audit chain that holds. -/
structure Files (s : DaemonState) (header : VaultHeader) (vmk : Block 32) (db : Database) :
    Prop where
  sidecar : s.disk.sidecar = some (.ok header)
  pages : ∃ db₀, s.disk.vault = some (.pages (sqlcipherKey P vmk.bytes) db₀) ∧
    applyMigrations db₀ = .ok db
  chain : verifyChain P db vmk = .ok ()

/-- The password derives a key, and opens nothing but `vmk` with it. -/
structure PasswordTestable (header : VaultHeader) (password : Bytes) (yk : Option (Block 20))
    (vmk : Block 32) : Prop where
  wrapped : ∃ w, wrappedVmk P (.ok ()) header password yk = .ok w ∧
    (w.nonce.length = 12 ∨ w.nonce.length = 24)
  opens : ∀ plain, unwrapVmk P (.ok ()) header password yk = .ok plain → plain = vmk.bytes

/-- The key that the password derives does not open the VMK. -/
def PasswordFails (header : VaultHeader) (password : Bytes) (yk : Option (Block 20)) : Prop :=
  ∃ w e, wrappedVmk P (.ok ()) header password yk = .ok w ∧
    (w.nonce.length = 12 ∨ w.nonce.length = 24) ∧ w.unwrap P = .error e

/-- There is a vault, and all that an unlock of it can fail on is the password. -/
structure UnlockInOrder (env : Env) (uid : UInt32) (s : DaemonState) (password : Bytes)
    (yk : Option (Block 20)) (header : VaultHeader) (vmk : Block 32) (db : Database) : Prop where
  files : Files P s header vmk db
  enabled : header.passwordLoginEnabled = true
  mac : checkHeaderHmac P J header vmk = .ok ()
  password : PasswordTestable P header password yk vmk
  room : HasRoom env uid s

/-- There is no vault yet, and one can be created. -/
structure Creatable (env : Env) (uid : UInt32) (s : DaemonState) (password : Bytes)
    (yk : Option (Block 20)) : Prop where
  missing : s.disk.vault = none
  derived : ∃ kek, deriveKek P (.ok ()) password yk env.salt env.tuned = .ok kek
  room : ∃ session,
    (s.sessions.create env.nowSecs env.token env.uuid uid defaultTtlSecs).1 = .ok session

/-! ## Second factors -/

/-- A code is there if one is asked for, and can be compared. -/
def TotpTestable (env : Env) (db : Database) (vmk : Block 32) (totpCode : Option String) : Prop :=
  isActive db = true → totpCode.getD "" ≠ "" ∧
    ∃ passes, verifyCode P F env.nowSecs db vmk (totpCode.getD "") = .ok passes

def TotpFails (env : Env) (db : Database) (vmk : Block 32) (totpCode : Option String) : Prop :=
  isActive db = true ∧ totpCode.getD "" ≠ "" ∧
    verifyCode P F env.nowSecs db vmk (totpCode.getD "") = .ok false

/-- There are backup codes, and they can be compared. -/
def BackupCodeTestable (env : Env) (db : Database) (vmk : Block 32) (code : String) : Prop :=
  isActive db = true ∧ ∃ passes db', verifyBackupCode P F env db vmk code = .ok (passes, db')

def BackupCodeFails (env : Env) (db : Database) (vmk : Block 32) (code : String) : Prop :=
  isActive db = true ∧ ∃ db', verifyBackupCode P F env db vmk code = .ok (false, db')

/-! ## Assertions -/

/-- The assertion answers a challenge that was issued, and that has neither expired nor been
spent. -/
def Answers (env : Env) (a : Assertion) (s : DaemonState) : Prop :=
  ∃ chal, (clientChallenge W a.clientDataJson s).1 = .ok chal ∧
    (s.challenges.any fun c => c.1 = chal && env.challengeAt < c.2) = true

def VaultHeader.passkey (header : VaultHeader) (a : Assertion) : Option PasskeySidecarEntry :=
  header.passkeyCredentials.find? (·.credentialIdHex = hexEncode a.cid)

def PasskeySidecarEntry.Readable (entry : PasskeySidecarEntry) (key : Bytes) : Prop :=
  ∃ text, entry.pubKeyCborHex = some text ∧ hexDecode text = some key

/-- The credential is not registered, or its public key turns the assertion away, or the counter
went back. -/
def PasskeyFails (header : VaultHeader) (a : Assertion) : Prop :=
  header.passkey a = none ∨ ∃ entry key e, header.passkey a = some entry ∧ entry.Readable key ∧
    (verifyAssertion W key a "localhost" true = .error e ∨
      checkSignCount a.authData entry.signCount = .error e)

/-- The public key can be read, and an assertion that passes comes with the key to `vmk`. -/
structure PasskeyTestable (header : VaultHeader) (a : Assertion) (vmk : Block 32) : Prop where
  allowed : header.strictPqcMode = false
  readable : ∀ entry, header.passkey a = some entry → ∃ key, entry.Readable key
  opens : ∀ entry count, verifyPasskey W header a = .ok (entry, count) →
    openPasskeyCopy P W header.kemSuite entry a.authData a.cid = .ok vmk.bytes

def VaultHeader.quickUnlock (header : VaultHeader) (a : Assertion) : Option QuickUnlockCred :=
  header.quickUnlockCredentials.find? (·.credentialIdHex = hexEncode a.cid)

/-- The credential is not registered, or its public key turns the assertion away, or the entry
opens under another device key than the one presented. -/
def QuickUnlockFails (header : VaultHeader) (a : Assertion) (dbk : Bytes) : Prop :=
  header.quickUnlock a = none ∨ ∃ entry key, header.quickUnlock a = some entry ∧
    hexDecode entry.pubKeyCborHex = some key ∧
    ((∃ e, verifyAssertion W key a "localhost" true = .error e) ∨
      ∃ device owner kek, Block.ofBytes 32 dbk = some device ∧
        openQuickUnlockEntry P entry owner = some kek ∧ openQuickUnlockEntry P entry device = none)

/-- The entry can be read, and an assertion that passes comes with a KEK that opens `vmk`. -/
structure QuickUnlockTestable (header : VaultHeader) (a : Assertion) (dbk : Bytes)
    (vmk : Block 32) : Prop where
  device : ∃ device, Block.ofBytes 32 dbk = some device
  readable : ∀ entry, header.quickUnlock a = some entry →
    (∃ key, hexDecode entry.pubKeyCborHex = some key) ∧
      ∃ owner kek, openQuickUnlockEntry P entry owner = some kek
  opens : ∀ kek, verifyQuickUnlock P W header a dbk = .ok kek →
    unwrapVmkWith P header kek = .ok vmk.bytes

/-! ## Recovery keys -/

/-- What it takes to open the copy of the VMK under a recovery key. -/
structure RecoveryParts (header : VaultHeader) (recoveryKey : Bytes) (kek : Block 64) (ct : Bytes)
    (nonce : Block 12) : Prop where
  parts : ∃ entry saltBytes salt nonceBytes, header.recoveryKeyCopy = some entry ∧
    hexDecode entry.salt = some saltBytes ∧ Block.ofBytes 32 saltBytes = some salt ∧
    deriveKek P (.ok ()) recoveryKey none salt entry.params = .ok kek ∧
    hexDecode entry.encryptedVmkCopy = some ct ∧
    hexDecode entry.vmkCopyNonce = some nonceBytes ∧ Block.ofBytes 12 nonceBytes = some nonce

def RecoveryKeyFails (header : VaultHeader) (recoveryKey : Bytes) : Prop :=
  ∃ kek ct nonce, RecoveryParts P header recoveryKey kek ct nonce ∧
    P.aesGcm.decrypt (kekOf kek) nonce recoveryVmkAad ct = none

/-- A recovery key is enrolled, and opens nothing but `vmk`. -/
def RecoveryKeyTestable (header : VaultHeader) (recoveryKey : Bytes) (vmk : Block 32) : Prop :=
  ∃ kek ct nonce, RecoveryParts P header recoveryKey kek ct nonce ∧
    ∀ plain, P.aesGcm.decrypt (kekOf kek) nonce recoveryVmkAad ct = some plain → plain = vmk.bytes

/-! ## Requests -/

/-- The request presents a secret that is put to the test and does not pass. -/
def SecretFails (env : Env) (s : DaemonState) : AuthRequest → Prop
  | .unlock password yk totpCode => s.disk.vault ≠ none ∧ ∃ header,
      s.disk.sidecar = some (.ok header) ∧ (PasswordFails P header password yk ∨
        ∃ vmk db, Files P s header vmk db ∧
          unwrapVmk P (.ok ()) header password yk = .ok vmk.bytes ∧
          TotpFails P F env db vmk totpCode)
  | .backupCode password yk code => s.disk.vault ≠ none ∧ ∃ header,
      s.disk.sidecar = some (.ok header) ∧ (PasswordFails P header password yk ∨
        ∃ vmk db, Files P s header vmk db ∧
          unwrapVmk P (.ok ()) header password yk = .ok vmk.bytes ∧
          BackupCodeFails P F env db vmk code)
  | .passkey a => ¬ Answers W env a s ∨ ∃ header, s.disk.sidecar = some (.ok header) ∧
      PasskeyFails W header a
  | .quickUnlock a dbk => ¬ Answers W env a s ∨ ∃ header, s.disk.sidecar = some (.ok header) ∧
      QuickUnlockFails P W header a dbk
  | .recoveryKey recoveryKey => ∃ header, s.disk.sidecar = some (.ok header) ∧
      RecoveryKeyFails P header recoveryKey
  | .pqc => False
  | .verifyMasterPassword password => ∃ header, s.disk.sidecar = some (.ok header) ∧
      PasswordFails P header password none
  | .changePassword old _ _ => ∃ header, s.disk.sidecar = some (.ok header) ∧
      PasswordFails P header old none

/-- All that the request can fail on is its secret. `unlock_with_pqc` is never in order, and a
recovery key is not that was refused by the lockout. -/
def InOrder (env : Env) (uid : UInt32) (refusal : Option VaultError) (s : DaemonState) :
    AuthRequest → Prop
  | .unlock password yk totpCode => Creatable P env uid s password yk ∨ ∃ header vmk db,
      UnlockInOrder P J env uid s password yk header vmk db ∧ TotpTestable P F env db vmk totpCode
  | .backupCode password yk code => ∃ header vmk db,
      UnlockInOrder P J env uid s password yk header vmk db ∧ BackupCodeTestable P F env db vmk code
  | .passkey a => ∃ header vmk db, Files P s header vmk db ∧ PasskeyTestable P W header a vmk ∧
      HasRoom env uid s
  | .quickUnlock a dbk => ∃ header vmk db, Files P s header vmk db ∧
      QuickUnlockTestable P W header a dbk vmk ∧ HasRoom env uid s
  | .recoveryKey recoveryKey => refusal = none ∧ ∃ header vmk db, Files P s header vmk db ∧
      RecoveryKeyTestable P header recoveryKey vmk ∧ HasRoom env uid s
  | .pqc => False
  | .verifyMasterPassword password => password.length ≤ 1024 ∧ ∃ header vmk,
      s.disk.sidecar = some (.ok header) ∧ s.vmk = some vmk ∧
      PasswordTestable P header password none vmk
  | .changePassword old new yk => old.length ≤ 1024 ∧ 12 ≤ new.length ∧ new.length ≤ 1024 ∧
      s.dbOpen = true ∧ (∃ key db, s.disk.vault = some (.pages key db)) ∧
      (∃ kek, deriveKek P (.ok ()) new yk env.salt env.tuned = .ok kek) ∧
      ∃ header vmk, s.disk.sidecar = some (.ok header) ∧ s.vmk = some vmk ∧
        PasswordTestable P header old none vmk

end Definitions

/-! ## Calls that do not return an error -/

section NoErr

variable {α β : Type} {s t : DaemonState}

/-- From `s` the call returns no `Err`; it may panic. -/
def NoErr (x : Call α) (s : DaemonState) : Prop := ∀ e, (x s).1 ≠ .error (.err e)

variable {x : Call α} {a : α} {g : α → Call β}

theorem NoErr.of_ok (h : x s = (.ok a, t)) : NoErr x s := by
  intro e
  rw [h]
  exact fun h => nomatch h

theorem NoErr.bind (hx : NoErr x s) (hg : ∀ a t, x s = (.ok a, t) → NoErr (g a) t) :
    NoErr (x >>= g) s := by
  intro e
  rw [bind_run]
  cases hrun : x s with
  | mk r t =>
    cases r with
    | ok a => exact hg a t hrun e
    | error f =>
      intro h
      have hf : f = .err e := Except.error.inj h
      apply hx e
      rw [hrun, hf]

theorem NoErr.after (h : x s = (.ok a, t)) (hg : NoErr (g a) t) : NoErr (x >>= g) s := by
  intro e
  rw [bind_run_ok h]
  exact hg e

theorem NoErr.settled {k : Except VaultError α → Call β} (hx : NoErr x s)
    (hk : ∀ a t, x s = (.ok a, t) → NoErr (k (.ok a)) t) : NoErr (attemptErr x >>= k) s := by
  intro e
  rcases attemptErr_bind_cases x k s with ⟨a, t, hrun, hcaught⟩ | ⟨e', t, hrun, -⟩ |
    ⟨site, t, -, hcaught⟩
  · rw [hcaught]
    exact hk a t hrun e
  · exact absurd (congrArg Prod.fst hrun) (hx e')
  · rw [hcaught]
    exact fun h => nomatch h

theorem NoErr.dropped (h : NoErr x s) : NoErr (x >>= fun _ => (pure () : Call Unit)) s :=
  h.bind fun _ t _ => .of_ok (pure_run () t)

theorem NoErr.logged {P : Primitives} {env : Env} {x : Call Session} (h : NoErr x s)
    (action : String) : NoErr (logged P env action x) s :=
  .after (gets_run _ s) (h.bind fun session t _ => .after (modify_run _ t)
    (.of_ok (pure_run session _)))

theorem onDatabase_noErr {f : Database → Result Database} {key : Block 32} {db : Database}
    (hv : s.disk.vault = some (.pages key db)) (hf : ∀ e, f db ≠ .error (.err e)) :
    NoErr (onDatabase f) s := by
  intro e h
  unfold onDatabase at h
  cases hrun : f db with
  | ok db' =>
    simp only [hv, hrun] at h
    exact nomatch h
  | error e' =>
    simp only [hv, hrun, Except.error.injEq] at h
    exact hf e (by rw [hrun, h])

end NoErr

/-! ## The parts of an unlock -/

section Parts

variable {P : Primitives} {J : Serde} {W : Webauthn} {F : Factors} {env : Env} {s t : DaemonState}
  {uid : UInt32} {header : VaultHeader} {vmk : Block 32} {db : Database} {password : Bytes}
  {yk : Option (Block 20)} {key : Block 32} {session : Session} {α : Type} {recoveryKey : Bytes}

theorem migrateCredentials_ne_err {uuid : String} (i : Nat) (rows : List CredentialRow)
    (db : Database) (e : VaultError) :
    migrateCredentials P J env vmk uuid i rows db ≠ .error (.err e) := by
  induction rows generalizing i db with
  | nil => exact fun h => nomatch h
  | cons row rows ih =>
    intro h
    rw [migrateCredentials] at h
    cases hrow : migrateCredential P J env vmk uuid i row db with
    | ok db' =>
      rw [hrow] at h
      exact ih (i + 1) db' h
    | error f =>
      rw [hrow] at h
      have hf : f = .err e := Except.error.inj h
      subst hf
      unfold migrateCredential at hrow
      split at hrow
      · cases hrow
      · split at hrow
        · cases hrow
        · cases hrow
        · dsimp only at hrow
          split at hrow <;> cases hrow

theorem migrateRows_ne_err (hq : env.Quiet) (uuid : String) (e : VaultError) :
    migrateRows P J env vmk uuid db ≠ .error (.err e) := by
  unfold migrateRows
  split
  · intro h
    cases h
  · simp only [hq _, outcome, bind, Except.bind, migrateTables]
    split
    · next f hf =>
      intro h
      have he : f = .err e := Except.error.inj h
      subst he
      split at hf
      · next hcreds =>
        cases hf
        exact migrateCredentials_ne_err 0 _ _ e hcreds
      · cases hf
    · intro h
      cases h

theorem migrateDataToV2_noErr (hq : env.Quiet) (hv : s.disk.vault = some (.pages key db)) :
    NoErr (migrateDataToV2 P J env vmk) s :=
  .after (gets_run _ s) (onDatabase_noErr hv fun e => migrateRows_ne_err hq _ e)

theorem openVault_files (hq : env.Quiet) (h : Files P s header vmk db) :
    openVault env (sqlcipherKey P vmk.bytes) s =
      (.ok (), s.setVault (.pages (sqlcipherKey P vmk.bytes) db)) := by
  obtain ⟨db₀, hv, happly⟩ := h.pages
  exact openVault_run hq hv happly

theorem verifyRows_files (h : Files P s header vmk db) :
    onDatabase (fun db => do verifyChain P db vmk; pure db)
        (t.setVault (.pages (sqlcipherKey P vmk.bytes) db)) =
      (.ok (), t.setVault (.pages (sqlcipherKey P vmk.bytes) db)) :=
  (onDatabase_read_eq_ok rfl).mpr ⟨h.chain, rfl⟩

theorem openVaultWith_files (hq : env.Quiet) (h : Files P s header vmk db) :
    openVaultWith P env vmk.bytes s =
      (.ok vmk, s.setVault (.pages (sqlcipherKey P vmk.bytes) db)) := by
  rw [openVaultWith, bind_run_ok (openVault_files hq h),
    bind_run_ok (lift_eq_ok.mpr ⟨copyFromSlice_bytes _ vmk, rfl⟩), bind_run_ok (verifyRows_files h)]
  rfl

theorem createSession_noErr (hs : s.disk.sidecar = some (.ok header)) (hroom : HasRoom env uid s)
    (hsessions : t.sessions = s.sessions) : NoErr (createSession env header.vaultUuid uid) t := by
  obtain ⟨session, hsession⟩ := hroom header hs
  rw [← hsessions] at hsession
  obtain ⟨u, hrun⟩ := createSession_room hsession
  exact .of_ok hrun

theorem PasswordTestable.unwrap (h : PasswordTestable P header password yk vmk)
    (hpasses : ¬ PasswordFails P header password yk) :
    unwrapVmk P (.ok ()) header password yk = .ok vmk.bytes := by
  obtain ⟨w, hw, hnonce⟩ := h.wrapped
  cases hplain : w.unwrap P with
  | error e => exact absurd ⟨w, e, hw, hnonce, hplain⟩ hpasses
  | ok plain =>
    have hunwrap : unwrapVmk P (.ok ()) header password yk = .ok plain :=
      Result.bind_eq_ok.mpr ⟨w, hw, hplain⟩
    rw [hunwrap, h.opens plain hunwrap]

theorem PasswordFails.unwrap_ne_ok (h : PasswordFails P header password yk) (plain : Bytes) :
    unwrapVmk P (.ok ()) header password yk ≠ .ok plain := by
  obtain ⟨w, e, hw, -, hfails⟩ := h
  intro hplain
  obtain ⟨w', hw', hopen⟩ := Result.bind_eq_ok.mp hplain
  rw [hw] at hw'
  cases hw'
  rw [hfails] at hopen
  cases hopen

theorem unlockExisting_noErr (hq : env.Quiet)
    (h : UnlockInOrder P J env uid s password yk header vmk db)
    (hunwrap : unwrapVmk P (.ok ()) header password yk = .ok vmk.bytes) :
    NoErr (unlockExisting P J env password yk uid) s := by
  have hopen : openHeader P J env password yk s = (.ok (header, vmk), s) :=
    (openHeader_eq_ok hq h.files.sidecar).mpr ⟨rfl, rfl, h.enabled, hunwrap, h.mac⟩
  have hdatabase : NoErr (openDatabase P J env vmk) s :=
    .after (openVault_files hq h.files) (.after (verifyRows_files h.files)
      (migrateDataToV2_noErr hq rfl))
  refine .after hopen (hdatabase.bind fun _ s₁ hdb => ?_)
  -- the ticket and the re-wrapping do not fail the unlock
  obtain ⟨ticket, s₂, hticket⟩ := ensureWipeTicket_run (P := P) (J := J) hq
  obtain ⟨s₃, hkdf⟩ := migrateKdf_run
  have hsessions : s₃.sessions = s.sessions := by
    rw [migrateKdf_keeps_sessions.eq hkdf, ensureWipeTicket_keeps_sessions.eq hticket,
      openDatabase_keeps_sessions.eq hdb]
  exact .after hticket (.after hkdf (.after (modify_run _ s₃)
    (createSession_noErr h.files.sidecar h.room hsessions)))

theorem tryPassword_ok (hv : s.disk.vault.isSome)
    (h : tryPassword P J env password yk uid s = (.ok session, t)) :
    ∃ u, unlockExisting P J env password yk uid s = (.ok session, u) ∧
      t = { u with lastActivity := env.nowSecs } := by
  rw [tryPassword, bind_run_ok (gets_run _ s)] at h
  obtain ⟨res, u, hattempt, hsettle⟩ := bind_eq_ok.mp h
  obtain ⟨rfl, rfl⟩ := settleUnlock_eq_ok.mp hsettle
  rw [if_pos hv, attemptErr_eq_ok_ok] at hattempt
  exact ⟨u, hattempt, rfl⟩

theorem tryPassword_bind_noErr {g : Session → Call α} (hq : env.Quiet)
    (h : UnlockInOrder P J env uid s password yk header vmk db)
    (hunwrap : unwrapVmk P (.ok ()) header password yk = .ok vmk.bytes)
    (hg : ∀ session t db' key, t.vmk = some vmk → t.connection = some (key, db') →
      db'.otpConfig = db.otpConfig → getParams db' = getParams db →
      NoErr (g session) t) : NoErr (tryPassword P J env password yk uid >>= g) s := by
  obtain ⟨db₀, hv, happly⟩ := h.files.pages
  have hpresent : s.disk.vault.isSome = true := by rw [hv]; rfl
  have htry : NoErr (tryPassword P J env password yk uid) s := by
    refine .after (gets_run _ s) (.settled ?_ fun session t _ => .of_ok rfl)
    rw [if_pos hpresent]
    exact unlockExisting_noErr hq h hunwrap
  refine htry.bind fun session t hrun => ?_
  obtain ⟨u, hexisting, rfl⟩ := tryPassword_ok hpresent hrun
  obtain ⟨hvmk, db', hconn, hotp, hparams⟩ :=
    unlockExisting_connection hexisting h.files.sidecar hunwrap hv happly
  exact hg session _ db' _ hvmk hconn hotp hparams

/-! ### Second factors -/

variable {db' : Database} {code : String} {totpCode : Option String}

theorem verifyCode_congr (hotp : db'.otpConfig = db.otpConfig)
    (hparams : getParams db' = getParams db) (now : Nat) :
    verifyCode P F now db' vmk code = verifyCode P F now db vmk code := by
  rw [verifyCode, verifyCode, load, load, hotp, hparams]

theorem verifyBackupCode_congr (hotp : db'.otpConfig = db.otpConfig) {passes : Bool}
    {db₁ : Database} (h : verifyBackupCode P F env db vmk code = .ok (passes, db₁)) :
    ∃ db₂, verifyBackupCode P F env db' vmk code = .ok (passes, db₂) := by
  simp only [verifyBackupCode, Result.bind_eq_ok, hotp] at h ⊢
  obtain ⟨row, hrow, json, hjson, records, hrecords, spent, hspent, hrest⟩ := h
  cases spent with
  | none =>
    cases hrest
    exact ⟨db', row, hrow, json, hjson, records, hrecords, none, hspent, rfl⟩
  | some left =>
    obtain ⟨_, hio, hdb⟩ := Result.bind_eq_ok.mp hrest
    cases hdb
    exact ⟨_, row, hrow, json, hjson, records, hrecords, some left, hspent,
      Result.bind_eq_ok.mpr ⟨(), hio, rfl⟩⟩

theorem settleTotp_noErr : NoErr (settleTotp P env uid session (.ok true)) s := by
  obtain ⟨t, hcomplete, -⟩ := completeUnlock_relaxed
  exact .after (gets_run _ s) (.after hcomplete (.after (modify_run _ t) (.of_ok rfl)))

theorem settleBackupCode_noErr : NoErr (settleBackupCode P env uid session (.ok true)) s := by
  obtain ⟨t, hreset, -⟩ := resetUnlockCounter_relaxed
  exact .after (gets_run _ s) (.after hreset (.after (modify_run _ t) (.of_ok rfl)))

theorem totpFactor_noErr (hvmk : s.vmk = some vmk) (hconn : s.connection = some (key, db'))
    (hcode : isActive db' = true → totpCode.getD "" ≠ "" ∧
      verifyCode P F env.nowSecs db' vmk (totpCode.getD "") = .ok true) :
    NoErr (totpFactor P F env uid totpCode session) s := by
  have hcheck : checkTotp P F env totpCode s = (.ok true, s) := by
    refine reads_eq_ok.mpr ⟨Result.bind_eq_ok.mpr ⟨vmk, okOr_eq_ok.mpr hvmk, ?_⟩, rfl⟩
    simp only [hconn]
    by_cases hactive : isActive db' = true
    · obtain ⟨hgiven, hpasses⟩ := hcode hactive
      rw [if_pos hactive, if_neg hgiven, hpasses]
    · rw [if_neg hactive]
  exact .after (attemptErr_eq_ok_ok.mpr hcheck) settleTotp_noErr

section

variable (hq : env.Quiet) (h : UnlockInOrder P J env uid s password yk header vmk db)
include hq h

theorem unlock_noErr (htotp : TotpTestable P F env db vmk totpCode)
    (hpasses : ¬ SecretFails P W F env s (.unlock password yk totpCode)) :
    NoErr (outcomeOf P J W F env uid none (.unlock password yk totpCode)) s := by
  obtain ⟨db₀, hv, -⟩ := h.files.pages
  have hpresent : s.disk.vault ≠ none := by rw [hv]; exact fun h => nomatch h
  have hunwrap := h.password.unwrap fun hfails =>
    hpasses ⟨hpresent, header, h.files.sidecar, .inl hfails⟩
  refine tryPassword_bind_noErr hq h hunwrap fun session t db' key hvmk hconn hotp hparams => ?_
  refine .dropped (totpFactor_noErr hvmk hconn fun hactive => ?_)
  have hactive' : isActive db = true := by rwa [isActive, hotp] at hactive
  obtain ⟨hgiven, passes, hverify⟩ := htotp hactive'
  refine ⟨hgiven, ?_⟩
  rw [verifyCode_congr hotp hparams, hverify]
  cases passes with
  | true => rfl
  | false =>
    exact absurd ⟨hpresent, header, h.files.sidecar,
      .inr ⟨vmk, db, h.files, hunwrap, hactive', hgiven, hverify⟩⟩ hpasses

theorem backupCode_noErr (hbackup : BackupCodeTestable P F env db vmk code)
    (hpasses : ¬ SecretFails P W F env s (.backupCode password yk code)) :
    NoErr (outcomeOf P J W F env uid none (.backupCode password yk code)) s := by
  obtain ⟨db₀, hv, -⟩ := h.files.pages
  have hpresent : s.disk.vault ≠ none := by rw [hv]; exact fun h => nomatch h
  have hunwrap := h.password.unwrap fun hfails =>
    hpasses ⟨hpresent, header, h.files.sidecar, .inl hfails⟩
  obtain ⟨hactive, passes, db₁, hverify⟩ := hbackup
  have htrue : passes = true := by
    cases passes with
    | true => rfl
    | false =>
      exact absurd ⟨hpresent, header, h.files.sidecar,
        .inr ⟨vmk, db, h.files, hunwrap, hactive, db₁, hverify⟩⟩ hpasses
  subst htrue
  refine tryPassword_bind_noErr hq h hunwrap fun session t db' key hvmk hconn hotp _ => ?_
  obtain ⟨db₂, hverify'⟩ := verifyBackupCode_congr hotp hverify
  have hactive' : isActive db' = true := by rw [isActive, hotp]; exact hactive
  have hcheck := checkBackupCode_run hvmk hconn hactive' hverify'
  exact .dropped (.after (attemptErr_eq_ok_ok.mpr hcheck) settleBackupCode_noErr)

end

/-! ### New vaults -/

theorem createAndUnlock_run (hq : env.Quiet) (h : Creatable P env uid s password yk) :
    ∃ session t key db, createAndUnlock P J env password yk uid s = (.ok session, t) ∧
      t.vmk = some env.vmk ∧ t.connection = some (key, db) ∧ isActive db = false := by
  obtain ⟨kek, hkek⟩ := h.derived
  obtain ⟨session, hsession⟩ := h.room
  have hderive : (lift (deriveKek P (env.io (.kdfMemory .request)) password yk env.salt env.tuned) :
      Call _) s = (.ok kek, s) := by
    rw [hq]
    exact lift_eq_ok.mpr ⟨hkek, rfl⟩
  let s₁ : DaemonState := { s with vmk := some env.vmk }
  let s₂ := s₁.setSidecar ((freshHeader P env kek).stamped P J (some env.vmk))
  have hwrite : writeHeader P J env .request (freshHeader P env kek) s₁ = (.ok (), s₂) :=
    writeHeader_eq_ok.mpr ⟨hq _, hq _, rfl⟩
  obtain ⟨db, happly, hinactive⟩ : ∃ db, applyMigrations .empty = .ok db ∧
      isActive db = false := ⟨_, rfl, rfl⟩
  let s₃ := s₂.setVault (.pages (sqlcipherKey P env.vmk.bytes) db)
  have hopen : openVault env (sqlcipherKey P env.vmk.bytes) s₂ = (.ok (), s₃) :=
    openVault_missing (s := s₂) h.missing (hq _) (hq _) happly
  let s₄ : DaemonState :=
    { s₃ with
      dbOpen := true
      vaultUuid := some env.uuid
      wipeTicket := some env.wipeTicket.bytes }
  obtain ⟨s₅, hroom⟩ := createSession_room (s := s₄) hsession
  have hcreate : createAndUnlock P J env password yk uid s = (.ok session, s₅) := by
    rw [createAndUnlock, bind_run_ok hderive, bind_run_ok (at_run_ok (hq _) s),
      bind_run_ok (modify_run _ s), bind_run_ok hwrite, bind_run_ok hopen,
      bind_run_ok (modify_run _ s₃), hroom]
  have hkept : (s₅.vmk, s₅.connection) = (s₄.vmk, s₄.connection) :=
    (createSession_keeps (f := fun s : DaemonState => (s.vmk, s.connection)) (fun _ _ => rfl) _).eq
      hroom
  obtain ⟨hvmk, hconn⟩ := Prod.mk.inj hkept
  exact ⟨session, s₅, _, db, hcreate, hvmk, hconn, hinactive⟩

theorem create_noErr (hq : env.Quiet) (h : Creatable P env uid s password yk) :
    NoErr (outcomeOf P J W F env uid none (.unlock password yk totpCode)) s := by
  obtain ⟨session, t, key, db, hcreate, hvmk, hconn, hinactive⟩ :=
    createAndUnlock_run (J := J) hq h
  have htry : tryPassword P J env password yk uid s =
      (.ok session, { t with lastActivity := env.nowSecs }) := by
    rw [tryPassword, bind_run_ok (gets_run _ s), h.missing, Option.isSome_none,
      if_neg Bool.false_ne_true, bind_run_ok (attemptErr_eq_ok_ok.mpr hcreate)]
    rfl
  refine .after htry (.dropped (totpFactor_noErr hvmk hconn fun hactive => ?_))
  rw [hinactive] at hactive
  cases hactive

/-! ### Assertions -/

variable {a : Assertion} {dbk : Bytes}

/-- The challenge is spent and the header read before the two unlocks part. -/
theorem Answers.bind_noErr {g : VaultHeader → Call α} (hq : env.Quiet) (h : Files P s header vmk db)
    (hpasses : ¬ ¬ Answers W env a s)
    (hg : ∀ t : DaemonState, Files P t header vmk db → t.sessions = s.sessions → NoErr (g header) t)
    :
    NoErr (do
      let chal ← clientChallenge W a.clientDataJson
      consumeChallenge env chal
      let header ← readHeader env .request
      g header) s := by
  obtain ⟨chal, hchal, hlive⟩ := not_not.mp hpasses
  refine .after (clientChallenge_run _ s s hchal) (.after (consumeChallenge_run hlive) ?_)
  exact .after (readHeader_eq_ok.mpr ⟨hq _, h.sidecar, rfl⟩) (hg _ ⟨h.sidecar, h.pages, h.chain⟩ rfl)

theorem PasskeyTestable.verified (h : PasskeyTestable P W header a vmk)
    (hpasses : ¬ PasskeyFails W header a) :
    ∃ entry count, verifyPasskey W header a = .ok (entry, count) := by
  cases hentry : header.passkey a with
  | none => exact absurd (.inl hentry) hpasses
  | some entry =>
    obtain ⟨key, text, htext, hkey⟩ := h.readable entry hentry
    have hfails : ∀ e, ¬ (verifyAssertion W key a "localhost" true = .error e ∨
        checkSignCount a.authData entry.signCount = .error e) :=
      fun e he => hpasses (.inr ⟨entry, key, e, hentry, ⟨text, htext, hkey⟩, he⟩)
    cases hassert : verifyAssertion W key a "localhost" true with
    | error e => exact absurd (.inl hassert) (hfails e)
    | ok u =>
      cases hcount : checkSignCount a.authData entry.signCount with
      | error e => exact absurd (.inr hcount) (hfails e)
      | ok count =>
        refine ⟨entry, count, ?_⟩
        simp only [verifyPasskey, Result.bind_eq_ok, okOr_eq_ok]
        exact ⟨entry, hentry, text, htext, key, hkey, (), by rw [checkAssertion, hassert], count,
          hcount, rfl⟩

theorem updateSignCount_noErr (cidHex : String) (count : Option UInt32) :
    NoErr (updateSignCount P J env cidHex count) s := by
  obtain ⟨t, hrun, -⟩ := updateSignCount_cases P J env cidHex count s
  exact .of_ok hrun

theorem passkey_noErr (hq : env.Quiet) (h : Files P s header vmk db)
    (htest : PasskeyTestable P W header a vmk) (hroom : HasRoom env uid s)
    (hpasses : ¬ SecretFails P W F env s (.passkey a)) :
    NoErr (unlockWithPasskeyInner P J W env a uid) s := by
  obtain ⟨entry, count, hverify⟩ := htest.verified fun hfails =>
    hpasses (.inr ⟨header, h.sidecar, hfails⟩)
  refine Answers.bind_noErr hq h (fun hnot => hpasses (.inl hnot)) fun s₁ h₁ hsame => ?_
  have hallowed : require (!header.strictPqcMode) (.auth "Strict Mode enabled") s₁ =
      (.ok (), s₁) := require_eq_ok.mpr ⟨by rw [htest.allowed]; rfl, rfl⟩
  refine .after hallowed (.after (lift_eq_ok.mpr ⟨hverify, rfl⟩)
    (.after (lift_eq_ok.mpr ⟨htest.opens entry count hverify, rfl⟩)
      (.after (openVaultWith_files hq h₁) ?_)))
  let s₂ := s₁.setVault (.pages (sqlcipherKey P vmk.bytes) db)
  refine .bind (migrateDataToV2_noErr (s := s₂) hq rfl) fun _ s₃ hmigrate => ?_
  refine .after (at_run_ok (hq _) s₃) (.after (modify_run _ s₃) ?_)
  refine .bind (updateSignCount_noErr _ _) fun _ s₄ hcount => ?_
  -- the sessions are those of the beginning
  have hkeeps : Keeps (·.sessions) (migrateDataToV2 P J env vmk) :=
    (Keeps.gets _).bind fun _ => onDatabase_keeps_sessions _
  have hmigrated : s₃.sessions = s₂.sessions := hkeeps.eq hmigrate
  have hcounted := (updateSignCount_keeps (f := fun s : DaemonState => s.sessions)
    (fun _ _ => rfl) _ _).eq hcount
  exact createSession_noErr h.sidecar hroom (hcounted.trans (hmigrated.trans hsame))

theorem QuickUnlockTestable.verified (h : QuickUnlockTestable P W header a dbk vmk)
    (hpasses : ¬ QuickUnlockFails P W header a dbk) :
    ∃ kek, verifyQuickUnlock P W header a dbk = .ok kek := by
  cases hentry : header.quickUnlock a with
  | none => exact absurd (.inl hentry) hpasses
  | some entry =>
    obtain ⟨⟨key, hkey⟩, owner, kek, howner⟩ := h.readable entry hentry
    obtain ⟨device, hdevice⟩ := h.device
    cases hassert : verifyAssertion W key a "localhost" true with
    | error e =>
      exact absurd (.inr ⟨entry, key, hentry, hkey, .inl ⟨e, hassert⟩⟩) hpasses
    | ok u =>
      cases hopen : openQuickUnlockEntry P entry device with
      | none =>
        exact absurd (.inr ⟨entry, key, hentry, hkey,
          .inr ⟨device, owner, kek, hdevice, howner, hopen⟩⟩) hpasses
      | some kek' =>
        refine ⟨kek', ?_⟩
        simp only [verifyQuickUnlock, Result.bind_eq_ok, okOr_eq_ok]
        exact ⟨entry, hentry, key, hkey, (), by rw [checkAssertion, hassert], device, hdevice,
          hopen⟩

theorem quickUnlock_noErr (hq : env.Quiet) (h : Files P s header vmk db)
    (htest : QuickUnlockTestable P W header a dbk vmk) (hroom : HasRoom env uid s)
    (hpasses : ¬ SecretFails P W F env s (.quickUnlock a dbk)) :
    NoErr (quickUnlockInner P J W env a dbk uid) s := by
  obtain ⟨kek, hverify⟩ := htest.verified fun hfails =>
    hpasses (.inr ⟨header, h.sidecar, hfails⟩)
  refine Answers.bind_noErr hq h (fun hnot => hpasses (.inl hnot)) fun s₁ h₁ hsame => ?_
  refine .after (lift_eq_ok.mpr ⟨hverify, rfl⟩)
    (.after (lift_eq_ok.mpr ⟨htest.opens kek hverify, rfl⟩) (.after (at_run_ok (hq _) s₁)
      (.after (lift_eq_ok.mpr ⟨copyFromSlice_bytes _ vmk, rfl⟩)
        (.after (openVault_files hq h₁) (.after (verifyRows_files h₁) ?_)))))
  obtain ⟨ticket, s₂, hticket, hsessions⟩ := quickUnlockTicket_run P J env
    header (s₁.setVault (.pages (sqlcipherKey P vmk.bytes) db))
  exact .after hticket (.after (modify_run _ s₂)
    (createSession_noErr h.sidecar hroom (hsessions.trans hsame)))

/-! ### Recovery keys and the master password -/

theorem RecoveryKeyTestable.opened (h : RecoveryKeyTestable P header recoveryKey vmk)
    (hpasses : ¬ RecoveryKeyFails P header recoveryKey) :
    ∃ entry, header.recoveryKeyCopy = some entry ∧
      openRecoveryCopy P (.ok ()) entry recoveryKey = .ok vmk.bytes := by
  obtain ⟨kek, ct, nonce, hparts, hopens⟩ := h
  obtain ⟨entry, saltBytes, salt, nonceBytes, hentry, hbytes, hsalt, hkek, hct, hnonceBytes,
    hnonce⟩ := hparts.parts
  cases hplain : P.aesGcm.decrypt (kekOf kek) nonce recoveryVmkAad ct with
  | none => exact absurd ⟨kek, ct, nonce, hparts, hplain⟩ hpasses
  | some plain =>
    refine ⟨entry, hentry, ?_⟩
    simp only [openRecoveryCopy, Result.bind_eq_ok, okOr_eq_ok]
    refine ⟨saltBytes, hbytes, salt, hsalt, kek, hkek, ct, hct, nonceBytes, hnonceBytes, nonce,
      hnonce, ?_⟩
    rw [aesGcmDecrypt, hplain, hopens plain hplain]
    rfl

theorem recoveryKey_noErr (hq : env.Quiet) (h : Files P s header vmk db)
    (htest : RecoveryKeyTestable P header recoveryKey vmk) (hroom : HasRoom env uid s)
    (hpasses : ¬ SecretFails P W F env s (.recoveryKey recoveryKey)) :
    NoErr (recoverVault P env recoveryKey uid) s := by
  obtain ⟨entry, hentry, hopen⟩ := htest.opened fun hfails => hpasses ⟨header, h.sidecar, hfails⟩
  have hread : readHeader env .request s = (.ok header, s) :=
    readHeader_eq_ok.mpr ⟨hq _, h.sidecar, rfl⟩
  let s₁ := s.setVault (.pages (sqlcipherKey P vmk.bytes) db)
  have henter : enterRecovered P env recoveryKey s =
      (.ok header.vaultUuid, s₁.entered vmk header.vaultUuid none) := by
    rw [enterRecovered, bind_run_ok hread,
      bind_run_ok (lift_eq_ok.mpr ⟨okOr_eq_ok.mpr hentry, rfl⟩), hq,
      bind_run_ok (lift_eq_ok.mpr ⟨hopen, rfl⟩), bind_run_ok (openVaultWith_files hq h),
      bind_run_ok (at_run_ok (hq _) s₁), bind_run_ok (modify_run _ s₁)]
    rfl
  obtain ⟨s₂, hreset, -⟩ := resetUnlockCounter_relaxed
  have hsessions : s₂.sessions = (s₁.entered vmk header.vaultUuid none).sessions :=
    resetUnlockCounter_keeps_sessions.eq hreset
  exact .after henter (.after hreset (createSession_noErr h.sidecar hroom hsessions))

theorem verifyMasterPassword_run (hq : env.Quiet) (hlen : password.length ≤ 1024)
    (hs : s.disk.sidecar = some (.ok header)) (hvmk : s.vmk = some vmk)
    (htest : PasswordTestable P header password none vmk)
    (hpasses : ¬ PasswordFails P header password none) :
    verifyMasterPasswordInner P env password s = (.ok (), s) :=
  (verifyMasterPasswordInner_eq_ok hvmk hs).mpr
    ⟨hlen, hq _, by rw [hq]; exact htest.unwrap hpasses, rfl⟩

theorem changePassword_noErr (uid : UInt32) (hq : env.Quiet) {old new : Bytes}
    (horder : InOrder P J W F env uid none s (.changePassword old new yk))
    (hpasses : ¬ SecretFails P W F env s (.changePassword old new yk)) :
    NoErr (changePasswordInner P J env old new yk) s := by
  obtain ⟨hold, hlong, hshort, hopen, ⟨key, db, hv⟩, ⟨kek, hkek⟩, header, vmk, hs, hvmk, htest⟩ :=
    horder
  have hunwrap := htest.unwrap fun hfails => hpasses ⟨header, hs, hfails⟩
  have hauthorized : authorizeChange P env old new yk s = (.ok kek, s) :=
    (authorizeChange_eq_ok hvmk hopen hs).mpr
      ⟨⟨hlong, hshort, hold, hq _, by rwa [hq], by rwa [hq]⟩, rfl⟩
  have hfinish : FinishesChange env := ⟨⟨hq _, hq _, hq _⟩, hq _, hq _⟩
  rw [changePasswordInner_eq]
  exact .after hauthorized (.of_ok (replaceKeys_run (hq _) hfinish hvmk hs hv))

theorem settleCounted_noErr : NoErr (settleCounted P env uid (.ok session)) s := by
  obtain ⟨b, t, hsettle, -⟩ := settleCounted_relaxed (.refl s)
  exact .of_ok hsettle

/-- **A request that is in order fails on its secret only.** -/
theorem outcomeOf_inOrder (hq : env.Quiet) {refusal : Option VaultError} {request : AuthRequest}
    (horder : InOrder P J W F env uid refusal s request)
    (hpasses : ¬ SecretFails P W F env s request) :
    NoErr (outcomeOf P J W F env uid refusal request) s := by
  cases request with
  | unlock password yk totpCode =>
    rcases horder with hcreate | ⟨header, vmk, db, h, htotp⟩
    · exact create_noErr (W := W) hq hcreate
    · exact unlock_noErr hq h htotp hpasses
  | backupCode password yk code =>
    obtain ⟨header, vmk, db, h, hbackup⟩ := horder
    exact backupCode_noErr hq h hbackup hpasses
  | passkey a =>
    obtain ⟨header, vmk, db, h, htest, hroom⟩ := horder
    exact ((passkey_noErr hq h htest hroom hpasses).settled fun session t _ =>
      settleCounted_noErr).logged _ |>.dropped
  | quickUnlock a dbk =>
    obtain ⟨header, vmk, db, h, htest, hroom⟩ := horder
    exact ((quickUnlock_noErr hq h htest hroom hpasses).settled fun session t _ =>
      settleCounted_noErr).logged _ |>.dropped
  | recoveryKey recoveryKey =>
    obtain ⟨rfl, header, vmk, db, h, htest, hroom⟩ := horder
    exact ((recoveryKey_noErr hq h htest hroom hpasses).settled fun session t _ =>
      .of_ok (pure_run session t)).logged _ |>.dropped
  | pqc => exact absurd horder id
  | verifyMasterPassword password =>
    obtain ⟨hlen, header, vmk, hs, hvmk, htest⟩ := horder
    have hrun := verifyMasterPassword_run hq hlen hs hvmk htest fun hfails =>
      hpasses ⟨header, hs, hfails⟩
    exact (NoErr.of_ok hrun).settled fun _ t _ => .of_ok (pure_run () t)
  | changePassword old new yk =>
    exact (changePassword_noErr uid hq horder hpasses).settled fun _ t _ => .of_ok (pure_run () t)

end Parts

end PwdNow.Daemon
