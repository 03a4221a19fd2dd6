import PwdNow.Daemon.ChangePassword
import PwdNow.Daemon.Failures

/-!
# Daemon — a password change that fails

`change_password` re-keys the pages of the database first and replaces the header last, with nothing
to undo the one when the other fails. An `Err` in between leaves pages under a VMK that no header
wraps; one after the header was replaced leaves a header with a MAC of the old VMK. Every `Err` is
also recorded as a failed unlock, which can wipe.
-/

namespace PwdNow.Daemon

open Kit Kit.Fallible LockoutTracker DaemonState

section

variable {P : Primitives} {J : Serde} {env env' : Env} {s t : DaemonState}
  {old new password : Bytes} {yk yk' : Option (Block 20)} {uid uid' : UInt32} {vmk : Block 32}
  {db : Database} {header : VaultHeader}

/-! ## Opening with a password -/

variable {key : Block 32}

/-- There is a vault, and after a lock the password opens it. Without the file `unlock` would
create a new vault under the password. -/
def OpensWith (P : Primitives) (J : Serde) (env : Env) (password : Bytes)
    (yk : Option (Block 20)) (uid : UInt32) (s : DaemonState) : Prop :=
  s.disk.vault.isSome ∧ ∃ session t, unlock P J env password yk uid (lock s) = (.ok session, t)

theorem opensWith_iff (hP : P.Ideal) (hq : env.Quiet)
    (hdisk : s.disk = ⟨some (.ok header), some (.pages key db)⟩) (hc : db.Current) :
    OpensWith P J env password yk uid s ↔
      password.length ≤ 1024 ∧ header.passwordLoginEnabled = true ∧ ∃ vmk,
        unwrapVmk P (.ok ()) header password yk = .ok vmk.bytes ∧
        checkHeaderHmac P J header vmk = .ok () ∧ key = sqlcipherKey P vmk.bytes ∧
        verifyChain P db vmk = .ok () ∧ MigrationSafe P db vmk := by
  have hv : s.disk.vault.isSome := by rw [hdisk]; rfl
  have hlock : (lock s).disk = s.disk := rfl
  have hs : (lock s).disk.sidecar = some (.ok header) := by rw [hlock, hdisk]
  rw [OpensWith, unlock_lock_ok_iff hv, unlockExisting_ok_iff hP hq hs (by rw [hlock, hdisk]) hc rfl]
  simp [hv]

theorem not_opensWith_of_lost (h : s.disk.sidecar = none ∨ s.disk.vault = none) :
    ¬ OpensWith P J env password yk uid s := by
  rintro ⟨hv, hopen⟩
  rcases h with hsidecar | hvault
  · obtain ⟨-, session, t, hexisting⟩ := (unlock_lock_ok_iff hv).mp hopen
    obtain ⟨header, _, _, _, hs, -⟩ := unlockExisting_ok hexisting
    have hnone : (lock s).disk.sidecar = none := hsidecar
    rw [hnone] at hs
    cases hs
  · rw [hvault] at hv
    cases hv

/-! ## The failure that is recorded -/

/-- The failure of an admitted request does not take the files away: the threshold is not one,
or the header cannot be read to learn it, or the wipe fails on its first step. -/
def NotWiped (env : Env) (header : VaultHeader) : Prop :=
  header.duressMaxAttempts ≠ 1 ∨ env.io (.readHeader .duress) ≠ .ok () ∨ WipeFails env

/-- **Recording a first failure** leaves a vault openable unless it wipes. A header sanitised in
place keeps its MAC, so it opens only if it was sanitised already. -/
theorem opensWith_recorded_iff (hP : P.Ideal) (hjson : Function.Injective J.headerJson)
    (hq : env'.Quiet) (hdisk : s.disk = ⟨some (.ok header), some (.pages key db)⟩) (hc : db.Current)
    (hmac : checkHeaderHmac P J header vmk = .ok ()) (habsent : s.lockout.map uid = none) {u : Unit}
    (h : recordFailedUnlock env uid s = (.ok u, t)) :
    OpensWith P J env' password yk uid' t ↔ OpensWith P J env' password yk uid' s ∧
      (NotWiped env header ∨ (WipeStops env ∧ sanitiseHeader header = header)) := by
  have hs : s.disk.sidecar = some (.ok header) := by rw [hdisk]
  have hcount : failureCount env uid s = 1 := by
    rw [failureCount, recordFailedUnlock_of_absent habsent]
  have hsame : ∀ u : DaemonState, u.disk = s.disk →
      (OpensWith P J env' password yk uid' u ↔ OpensWith P J env' password yk uid' s) := by
    intro u hu
    rw [opensWith_iff hP hq (hu.trans hdisk) hc, opensWith_iff hP hq hdisk hc]
  rcases recordFailedUnlock_cases env uid s with ⟨hreached, hrun⟩ | ⟨hnot, hrun⟩
  · rw [hrun] at h
    cases h
    rw [hcount, reached_one_iff hs] at hreached
    have hnotWiped : NotWiped env header ↔ WipeFails env := by
      simp [NotWiped, hreached.1, hreached.2]
    have hdisk' : (counted env uid s).disk = s.disk := rfl
    have hs' : (counted env uid s).disk.sidecar = some (.ok header) := by rw [hdisk', hs]
    rw [hnotWiped]
    rcases forensicWipeInternal_disk env hs' (by rw [hdisk', hdisk]; rfl) with
      ⟨hfails, hkept⟩ | ⟨hstops, hleft⟩ | ⟨hfails, hstops, hlost⟩
    · rw [hsame _ hkept]
      simp [hfails]
    · -- the header was sanitised, the database is still there
      have hfails : ¬ WipeFails env := by
        rw [WipeFails, if_neg hstops.1]
        rintro ⟨hread | herase, -⟩
        · exact hread hstops.2.1
        · exact herase hstops.2.2.1
      simp only [hfails, hstops, true_and, false_or]
      constructor
      · intro hopen
        rw [hdisk', hdisk] at hleft
        obtain ⟨-, -, vmk', -, hmac', -⟩ := (opensWith_iff hP hq hleft hc).mp hopen
        have hkept : (sanitiseHeader header).headerHmac = header.headerHmac := rfl
        have hheader : sanitiseHeader header = header :=
          (eq_of_checkHeaderHmac_kept hP hjson hmac hkept hmac').1
        rw [hheader, ← hdisk] at hleft
        exact ⟨(hsame _ hleft).mp hopen, hheader⟩
      · rintro ⟨hopen, hheader⟩
        rw [hheader, hdisk', hdisk] at hleft
        exact (hsame _ (hleft.trans hdisk.symm)).mpr hopen
    · simp only [hfails, hstops, false_and, or_self, and_false, iff_false]
      exact not_opensWith_of_lost hlost
  · rw [hrun] at h
    cases h
    rw [hcount, reached_one_iff hs] at hnot
    have hnotWiped : NotWiped env header := by
      by_cases hio : env.io (.readHeader .duress) = .ok ()
      · exact .inl fun hone => hnot ⟨hio, hone⟩
      · exact .inr (.inl hio)
    rw [hsame (counted env uid s) rfl]
    simp [hnotWiped]

/-! ## Where the change stops

The change is cut in two: what comes before the pages are re-keyed, and what comes after. -/

variable {kek : Block 64}

/-- Everything up to the re-keying: nothing is changed, and the new KEK is derived. -/
def authorizeChange (P : Primitives) (env : Env) (old new : Bytes) (yk : Option (Block 20)) :
    Call (Block 64) := do
  require (12 ≤ new.length) (.auth "new password too short")
  require (new.length ≤ 1024) (.auth "new password too long")
  verifyMasterPasswordInner P env old
  let kek ← lift (deriveKek P (env.io (.kdfMemory .newPassword)) new yk env.salt env.tuned)
  let _current ← reads fun s => okOr s.vmk (.auth "locked")
  let isOpen ← gets fun s => s.dbOpen
  require isOpen (.auth "vault is locked")
  pure kek

/-- The pages, the date, the header and the VMK in memory, one after the other. -/
def replaceKeys (P : Primitives) (J : Serde) (env : Env) (kek : Block 64) : Call Unit := do
  rekeyVault env (sqlcipherKey P env.vmk.bytes)
  env.at .passwordChangedAt
  onDatabase fun db => .ok (db.setMeta "password_changed_at" (.integer env.nowSecs))
  let header ← readHeader env .newPassword
  writeHeader P J env .newPassword (changedHeader P env kek header)
  env.at .lockedKey
  modify fun s => { s with vmk := some env.vmk }
  touch env

theorem changePasswordInner_eq :
    changePasswordInner P J env old new yk =
      authorizeChange P env old new yk >>= replaceKeys P J env := by
  simp only [authorizeChange, bind_assoc, pure_bind]
  rfl

/-- What authorizes a change: the new password has a length within bounds, the old one is the
password of the vault, and no system call fails. -/
structure Authorized (P : Primitives) (env : Env) (old new : Bytes) (yk : Option (Block 20))
    (header : VaultHeader) (vmk : Block 32) (kek : Block 64) : Prop where
  long : 12 ≤ new.length
  short : new.length ≤ 1024
  oldShort : old.length ≤ 1024
  read : env.io (.readHeader .request) = .ok ()
  verified : unwrapVmk P (env.io (.kdfMemory .request)) header old none = .ok vmk.bytes
  derived : deriveKek P (env.io (.kdfMemory .newPassword)) new yk env.salt env.tuned = .ok kek

theorem authorizeChange_keeps {γ : Type} {f : DaemonState → γ} :
    Keeps f (authorizeChange P env old new yk) :=
  .lift_bind fun _ => .lift_bind fun _ =>
    verifyMasterPasswordInner_keeps.bind fun _ => .lift_bind fun _ =>
      (Keeps.reads _).bind fun _ => (Keeps.gets _).bind fun _ => .lift_bind fun _ => .pure _

theorem authorizeChange_eq_ok (hvmk : s.vmk = some vmk) (hopen : s.dbOpen = true)
    (hs : s.disk.sidecar = some (.ok header)) :
    authorizeChange P env old new yk s = (.ok kek, t) ↔
      Authorized P env old new yk header vmk kek ∧ t = s := by
  simp only [authorizeChange, bind_eq_ok, require_eq_ok, lift_eq_ok, decide_eq_true_eq]
  constructor
  · rintro ⟨_, _, ⟨hlong, rfl⟩, _, _, ⟨hshort, rfl⟩, _, _, hverify, _, _, ⟨hkek, rfl⟩, hrest⟩
    obtain ⟨hold, hread, hunwrap, rfl⟩ := (verifyMasterPasswordInner_eq_ok hvmk hs).mp hverify
    simp only [reads_eq_ok, gets_run, pure_run, Prod.mk.injEq, Except.ok.injEq] at hrest
    obtain ⟨_, _, ⟨-, rfl⟩, _, _, ⟨-, rfl⟩, _, _, ⟨-, rfl⟩, rfl, rfl⟩ := hrest
    exact ⟨⟨hlong, hshort, hold, hread, hunwrap, hkek⟩, rfl⟩
  · rintro ⟨ha, rfl⟩
    have hverify := (verifyMasterPasswordInner_eq_ok hvmk hs (u := ())).mpr
      ⟨ha.oldShort, ha.read, ha.verified, rfl⟩
    exact ⟨(), _, ⟨ha.long, rfl⟩, (), _, ⟨ha.short, rfl⟩, (), _, hverify, kek, _,
      ⟨ha.derived, rfl⟩, vmk, _, reads_eq_ok.mpr ⟨okOr_eq_ok.mpr hvmk, rfl⟩, true, _,
      by rw [gets_run, hopen], (), _, ⟨rfl, rfl⟩, rfl⟩

/-- After the pages, the header is replaced as well. -/
structure ReplacesHeader (env : Env) : Prop where
  noted : env.io .passwordChangedAt = .ok ()
  read : env.io (.readHeader .newPassword) = .ok ()
  written : env.io (.writeHeader .newPassword) = .ok ()

/-- Once the pages are re-keyed, the change goes through. -/
structure FinishesChange (env : Env) : Prop where
  header : ReplacesHeader env
  permissions : env.io (.headerPermissions .newPassword) = .ok ()
  lockedKey : env.io .lockedKey = .ok ()

theorem replaceKeys_run (hrekey : env.io .rekey = .ok ()) (hfinish : FinishesChange env)
    (hvmk : s.vmk = some vmk) (hs : s.disk.sidecar = some (.ok header))
    (hv : s.disk.vault = some (.pages key db)) :
    replaceKeys P J env kek s = (.ok (), { s with
        vmk := some env.vmk
        lastActivity := env.nowSecs
        disk := changedDisk P J env kek header vmk db }) := by
  let newKey := sqlcipherKey P env.vmk.bytes
  let db' := db.setMeta "password_changed_at" (.integer env.nowSecs)
  have hrekeyed : rekeyVault env newKey s = (.ok (), s.setVault (.pages newKey db)) :=
    (rekeyVault_eq_ok hv).mpr ⟨hrekey, rfl⟩
  have hset : onDatabase (fun db => .ok (db.setMeta "password_changed_at" (.integer env.nowSecs)))
      (s.setVault (.pages newKey db)) = (.ok (), s.setVault (.pages newKey db')) := rfl
  have hread : readHeader env .newPassword (s.setVault (.pages newKey db')) =
      (.ok header, s.setVault (.pages newKey db')) :=
    readHeader_eq_ok.mpr ⟨hfinish.header.read, hs, rfl⟩
  have hwrite : writeHeader P J env .newPassword (changedHeader P env kek header)
      (s.setVault (.pages newKey db')) = (.ok (), _) :=
    writeHeader_eq_ok.mpr ⟨hfinish.header.written, hfinish.permissions, rfl⟩
  rw [replaceKeys, bind_run_ok hrekeyed, bind_run_ok (at_run_ok hfinish.header.noted _),
    bind_run_ok hset, bind_run_ok hread, bind_run_ok hwrite,
    bind_run_ok (at_run_ok hfinish.lockedKey _), bind_run_ok (modify_run _ _)]
  simp [touch, setSidecar, setVault, changedDisk, hvmk, newKey, db']

/-- **What the second half leaves when it fails**: nothing done, the pages re-keyed, or the
header replaced too. -/
theorem replaceKeys_eq_error (hvmk : s.vmk = some vmk) (hs : s.disk.sidecar = some (.ok header))
    (hv : s.disk.vault = some (.pages key db)) {e : Failure}
    (h : replaceKeys P J env kek s = (.error e, t)) :
    (env.io .rekey ≠ .ok () ∧ t = s) ∨
    (env.io .rekey = .ok () ∧ ¬ ReplacesHeader env ∧ ∃ db',
      (db' = db ∨ db' = db.setMeta "password_changed_at" (.integer env.nowSecs)) ∧
      t = s.setVault (.pages (sqlcipherKey P env.vmk.bytes) db')) ∨
    (env.io .rekey = .ok () ∧ ReplacesHeader env ∧
      t = { s with disk := changedDisk P J env kek header vmk db }) := by
  -- one step of the source after the other: either it failed, or it adds a fact
  rcases bind_eq_error.mp h with hfail | ⟨_, _, hrekey, h₁⟩
  · rcases bind_eq_error.mp hfail with hat | ⟨_, _, -, hmodify⟩
    · exact .inl (at_eq_error hat)
    · cases hmodify
  obtain ⟨hrekeyed, rfl⟩ := (rekeyVault_eq_ok hv).mp hrekey
  refine .inr ?_
  rcases bind_eq_error.mp h₁ with hfail | ⟨_, _, hat, h₂⟩
  · obtain ⟨hunnoted, rfl⟩ := at_eq_error hfail
    exact .inl ⟨hrekeyed, fun hr => hunnoted hr.noted, db, .inl rfl, rfl⟩
  obtain ⟨hnoted, rfl⟩ := at_eq_ok.mp hat
  have hset : onDatabase (fun db => .ok (db.setMeta "password_changed_at" (.integer env.nowSecs)))
      (s.setVault (.pages (sqlcipherKey P env.vmk.bytes) db)) =
        (.ok (), s.setVault (.pages (sqlcipherKey P env.vmk.bytes)
          (db.setMeta "password_changed_at" (.integer env.nowSecs)))) := rfl
  rw [bind_run_ok hset] at h₂
  rcases bind_eq_error.mp h₂ with hfail | ⟨header', _, hreread, h₃⟩
  · have hs' : (s.setVault (.pages (sqlcipherKey P env.vmk.bytes)
        (db.setMeta "password_changed_at" (.integer env.nowSecs)))).disk.sidecar =
        some (.ok header) := hs
    obtain ⟨hunread, rfl⟩ := readHeader_eq_error hs' hfail
    exact .inl ⟨hrekeyed, fun hr => hunread hr.read, _, .inr rfl, rfl⟩
  obtain ⟨hread, hs', rfl⟩ := readHeader_eq_ok.mp hreread
  cases hs.symm.trans hs'
  rcases bind_eq_error.mp h₃ with hfail | ⟨_, _, hwrite, h₄⟩
  · rcases writeHeader_eq_error hfail with ⟨hunwritten, rfl⟩ | ⟨hwritten, rfl⟩
    · exact .inl ⟨hrekeyed, fun hr => hunwritten hr.written, _, .inr rfl, rfl⟩
    · refine .inr ⟨hrekeyed, ⟨hnoted, hread, hwritten⟩, ?_⟩
      simp [setSidecar, setVault, changedDisk, hvmk]
  · -- the header is there, and the memory for the new VMK is not
    obtain ⟨hwritten, -, rfl⟩ := writeHeader_eq_ok.mp hwrite
    refine .inr ⟨hrekeyed, ⟨hnoted, hread, hwritten⟩, ?_⟩
    rcases bind_eq_error.mp h₄ with hfail | ⟨_, _, -, hdone⟩
    · rw [(at_eq_error hfail).2]
      simp [setSidecar, setVault, changedDisk, hvmk]
    · cases hdone

/-- A change that returns `Err` was locked out, or stopped in one of its two halves and was
recorded as a failed unlock. -/
theorem changePassword_eq_error {e : VaultError}
    (h : changePassword P J env old new yk uid s = (.error (.err e), t)) :
    ((∃ count expiry, s.lockout.map uid = some (count, expiry) ∧ env.checkAt < expiry) ∧ t = s) ∨
    ∃ s₁ s₂, ¬ (∃ count expiry, s.lockout.map uid = some (count, expiry) ∧ env.checkAt < expiry) ∧
      s₁.disk = s.disk ∧ s₁.vmk = s.vmk ∧ s₁.dbOpen = s.dbOpen ∧ s₁.lockout.map uid = none ∧
      changePasswordInner P J env old new yk s₁ = (.error (.err e), s₂) ∧
      recordFailedUnlock env uid s₂ = (.ok (), t) := by
  rcases bind_eq_error.mp h with hcheck | ⟨_, s₁, hcheck, h⟩
  · unfold checkUnlockLockout at hcheck
    split at hcheck
    · cases hcheck
    · next e' tracker hrefused =>
      obtain ⟨rfl, hentry⟩ := checkUnlockLockout_error hrefused
      cases hcheck
      exact .inl ⟨hentry, rfl⟩
  · obtain ⟨tracker, hadmitted, rfl⟩ := checkUnlockLockout_eq_ok hcheck
    have hfree : ¬ ∃ count expiry, s.lockout.map uid = some (count, expiry) ∧
        env.checkAt < expiry := by
      rintro ⟨count, expiry, hentry, hlt⟩
      have hok : (s.lockout.checkUnlockLockout env.checkAt uid).1.isOk =
          decide (expiry ≤ env.checkAt) := checkUnlockLockout_of_entry hentry
      rw [hadmitted] at hok
      simp [Except.isOk, Except.toBool] at hok
      omega
    refine .inr ⟨{ s with lockout := tracker }, ?_⟩
    rcases bind_eq_error.mp h with habort | ⟨res, s₂, hres, h⟩
    · -- a panic is not an `Err`
      unfold attemptErr at habort
      split at habort <;> cases habort
    · refine ⟨s₂, hfree, rfl, rfl, rfl, checkUnlockLockout_ok hadmitted, ?_⟩
      cases res with
      | ok u => cases h
      | error e' =>
        rcases bind_eq_error.mp h with hrecord | ⟨_, t', hrecord, hthrow⟩
        · rcases recordFailedUnlock_cases env uid s₂ with ⟨-, hrun⟩ | ⟨-, hrun⟩ <;>
            rw [hrun] at hrecord <;> cases hrecord
        · cases hthrow
          refine ⟨?_, hrecord⟩
          unfold attemptErr at hres
          split at hres <;> cases hres
          assumption

/-! ## When a failed change is harmless -/

/-- The failed change leaves a vault that the password still opens. -/
inductive HarmlessFailure (P : Primitives) (env : Env) (old new : Bytes) (yk : Option (Block 20))
    (uid : UInt32) (password : Bytes) (yk' : Option (Block 20)) (s : DaemonState)
    (header : VaultHeader) (vmk : Block 32) : Prop where
  /-- The request is turned away by the lockout. -/
  | lockedOut : (∃ count expiry, s.lockout.map uid = some (count, expiry) ∧ env.checkAt < expiry) →
      HarmlessFailure P env old new yk uid password yk' s header vmk
  /-- The change is not authorized, or the pages could not be re-keyed. -/
  | before : (∀ kek, Authorized P env old new yk header vmk kek → env.io .rekey ≠ .ok ()) →
      NotWiped env header ∨ (WipeStops env ∧ sanitiseHeader header = header) →
      HarmlessFailure P env old new yk uid password yk' s header vmk
  /-- The pages were re-keyed, with the key they had. -/
  | sameKey (kek : Block 64) : Authorized P env old new yk header vmk kek →
      env.io .rekey = .ok () → ¬ ReplacesHeader env →
      sqlcipherKey P env.vmk.bytes = sqlcipherKey P vmk.bytes →
      NotWiped env header ∨ (WipeStops env ∧ sanitiseHeader header = header) →
      HarmlessFailure P env old new yk uid password yk' s header vmk
  /-- The header was replaced too, with the VMK it wrapped and a KEK that the password derives. -/
  | sameVmk (kek kek' : Block 64) : Authorized P env old new yk header vmk kek →
      env.io .rekey = .ok () → ReplacesHeader env → env.vmk = vmk →
      deriveKek P (.ok ()) password yk' env.salt env.tuned = .ok kek' → kekOf kek' = kekOf kek →
      NotWiped env header →
      HarmlessFailure P env old new yk uid password yk' s header vmk

theorem sanitiseHeader_ne_wrapped (hnonce : header.vmkNonce = hexEncode env.vmkNonce.bytes) :
    sanitiseHeader header ≠ header := by
  intro heq
  have hzero : hexDecode (zeroedHex 24) = some (List.replicate 24 0) := by decide
  have hsame : zeroedHex 24 = header.vmkNonce := congrArg VaultHeader.vmkNonce heq
  rw [hsame, hnonce, hexDecode_hexEncode, Option.some.injEq] at hzero
  have hlen := congrArg List.length hzero
  simp at hlen

section

variable (hP : P.Ideal) (hq : env'.Quiet) (hc : db.Current) (hlen : password.length ≤ 1024)
    (hlogin : header.passwordLoginEnabled = true)
include hP hq hc hlen hlogin

theorem opensWith_rekeyed_iff (hunwrap : unwrapVmk P (.ok ()) header password yk = .ok vmk.bytes)
    (hmac : checkHeaderHmac P J header vmk = .ok ()) (hchain : verifyChain P db vmk = .ok ())
    (hsafe : MigrationSafe P db vmk) (hdisk : s.disk = ⟨some (.ok header), some (.pages key db)⟩) :
    OpensWith P J env' password yk uid s ↔ key = sqlcipherKey P vmk.bytes := by
  rw [opensWith_iff hP hq hdisk hc]
  constructor
  · rintro ⟨-, -, vmk', hunwrap', -, hkey, -⟩
    rw [hunwrap] at hunwrap'
    rw [hkey, Except.ok.inj hunwrap']
  · intro hkey
    exact ⟨hlen, hlogin, vmk, hunwrap, hmac, hkey, hchain, hsafe⟩

theorem opensWith_replaced_iff (hchain : verifyChain P db vmk = .ok ())
    (hsafe : MigrationSafe P db vmk) (hdisk : s.disk = changedDisk P J env kek header vmk db) :
    OpensWith P J env' password yk uid s ↔ env.vmk = vmk ∧ ∃ kek',
      deriveKek P (.ok ()) password yk env.salt env.tuned = .ok kek' ∧ kekOf kek' = kekOf kek := by
  have hkey : "password_changed_at" ≠ "schema_version" := by decide
  have hkey' : "password_changed_at" ≠ "data_migrated_to_v2" := by decide
  have hunwrap : ∀ plain, unwrapVmk P (.ok ())
      ((changedHeader P env kek header).stamped P J (some vmk)) password yk = .ok plain ↔ _ :=
    fun plain => unwrapVmk_wrap_iff hP ⟨rfl, rfl, rfl, rfl⟩
  rw [opensWith_iff hP hq hdisk (hc.setMeta hkey _)]
  simp only [hunwrap, checkHeaderHmac_stamped hP, verifyChain_setMeta, migrationSafe_setMeta hkey']
  constructor
  · rintro ⟨-, -, vmk', ⟨hkek, hvmk'⟩, rfl, -⟩
    exact ⟨(Block.bytes_inj hvmk').symm, hkek⟩
  · rintro ⟨rfl, hkek⟩
    exact ⟨hlen, hlogin, env.vmk, ⟨hkek, rfl⟩, rfl, rfl, hchain, hsafe⟩

end

/-- **When a failed change is harmless.** The VMK in memory is the one that the password
unwraps, and before the change the password opens the vault. -/
theorem opensWith_after_failed_change_iff (hP : P.Ideal) (hjson : Function.Injective J.headerJson)
    (hu : Unlocked s vmk db) (hs : s.disk.sidecar = some (.ok header))
    (hunwrap : unwrapVmk P (.ok ()) header password yk' = .ok vmk.bytes) (hq : env'.Quiet)
    (hopens : OpensWith P J env' password yk' uid' s) {e : VaultError}
    (herr : changePassword P J env old new yk uid s = (.error (.err e), t)) :
    OpensWith P J env' password yk' uid' t ↔
      HarmlessFailure P env old new yk uid password yk' s header vmk := by
  obtain ⟨key, hv⟩ := hu.vault
  have hdisk : s.disk = ⟨some (.ok header), some (.pages key db)⟩ := by
    rw [← hs, ← hv]
  obtain ⟨hlen, hlogin, vmk', hunwrap', hmac, hkey, hchain, hsafe⟩ :=
    (opensWith_iff hP hq hdisk hu.current).mp hopens
  obtain rfl : vmk' = vmk := by
    rw [hunwrap] at hunwrap'
    exact (Block.bytes_inj (Except.ok.inj hunwrap')).symm
  rcases changePassword_eq_error herr with
    ⟨hlocked, rfl⟩ | ⟨s₁, s₂, hfree, hdisk₁, hvmk₁, hopen₁, habsent, hinner, hrecord⟩
  · exact iff_of_true hopens (.lockedOut hlocked)
  rw [hdisk] at hdisk₁
  rw [hu.vmk] at hvmk₁
  rw [hu.dbOpen] at hopen₁
  have hs₁ : s₁.disk.sidecar = some (.ok header) := by rw [hdisk₁]
  have hv₁ : s₁.disk.vault = some (.pages key db) := by rw [hdisk₁]
  have hauthorized : ∀ kek t, authorizeChange P env old new yk s₁ = (.ok kek, t) ↔
      Authorized P env old new yk header vmk' kek ∧ t = s₁ := fun kek t =>
    authorizeChange_eq_ok hvmk₁ hopen₁ hs₁
  -- nothing was re-keyed
  have hbefore : (∀ kek, Authorized P env old new yk header vmk' kek → env.io .rekey ≠ .ok ()) →
      s₂ = s₁ → (OpensWith P J env' password yk' uid' t ↔
        HarmlessFailure P env old new yk uid password yk' s header vmk') := by
    rintro hnot rfl
    rw [opensWith_recorded_iff hP hjson hq hdisk₁ hu.current hmac habsent hrecord,
      opensWith_rekeyed_iff hP hq hu.current hlen hlogin hunwrap hmac hchain hsafe hdisk₁]
    constructor
    · rintro ⟨-, hspared⟩
      exact .before hnot hspared
    · intro h
      refine ⟨hkey, ?_⟩
      cases h with
      | lockedOut hlocked => exact absurd hlocked hfree
      | before _ hspared => exact hspared
      | sameKey kek ha hrekeyed => exact absurd hrekeyed (hnot kek ha)
      | sameVmk kek _ ha hrekeyed => exact absurd hrekeyed (hnot kek ha)
  rw [changePasswordInner_eq] at hinner
  rcases bind_eq_error.mp hinner with hauth | ⟨kek, _, hauth, hreplace⟩
  · refine hbefore (fun kek ha => ?_) (authorizeChange_keeps.same hauth)
    rw [(hauthorized kek s₁).mpr ⟨ha, rfl⟩] at hauth
    cases hauth
  obtain ⟨ha, hkeeps⟩ := (hauthorized kek _).mp hauth
  rw [hkeeps] at hreplace
  rcases replaceKeys_eq_error hvmk₁ hs₁ hv₁ hreplace with
    ⟨hrekey, hs₂⟩ | ⟨hrekeyed, hkept, db', hdb', rfl⟩ | ⟨hrekeyed, hreplaced, rfl⟩
  · exact hbefore (fun _ _ => hrekey) hs₂
  · -- the pages are under the new key, and the header is the old one
    have hdisk₂ : (s₁.setVault (.pages (sqlcipherKey P env.vmk.bytes) db')).disk =
        ⟨some (.ok header), some (.pages (sqlcipherKey P env.vmk.bytes) db')⟩ := by
      simp [setVault, hs₁]
    have hdb : db'.Current ∧ verifyChain P db' vmk' = .ok () ∧ MigrationSafe P db' vmk' := by
      rcases hdb' with rfl | rfl
      · exact ⟨hu.current, hchain, hsafe⟩
      · exact ⟨hu.current.setMeta (by decide) _, hchain,
          (migrationSafe_setMeta (by decide) _).mpr hsafe⟩
    rw [opensWith_recorded_iff hP hjson hq hdisk₂ hdb.1 hmac habsent hrecord,
      opensWith_rekeyed_iff hP hq hdb.1 hlen hlogin hunwrap hmac hdb.2.1 hdb.2.2 hdisk₂]
    constructor
    · rintro ⟨hsame, hspared⟩
      exact .sameKey kek ha hrekeyed hkept hsame hspared
    · intro h
      cases h with
      | lockedOut hlocked => exact absurd hlocked hfree
      | before hnot => exact absurd hrekeyed (hnot kek ha)
      | sameKey _ _ _ _ hsame hspared => exact ⟨hsame, hspared⟩
      | sameVmk _ _ _ _ hreplaced => exact absurd hreplaced hkept
  · -- the header wraps the new VMK under the new password, with a MAC made with the old VMK
    have hmac₂ : checkHeaderHmac P J
        ((changedHeader P env kek header).stamped P J (some vmk')) vmk' = .ok () :=
      (checkHeaderHmac_stamped hP).mpr rfl
    have hspared : NotWiped env header ↔
        NotWiped env ((changedHeader P env kek header).stamped P J (some vmk')) ∨
          (WipeStops env ∧ sanitiseHeader ((changedHeader P env kek header).stamped P J (some vmk')) =
            (changedHeader P env kek header).stamped P J (some vmk')) := by
      constructor
      · exact .inl
      · rintro (hnot | ⟨-, hsan⟩)
        · exact hnot
        · exact absurd hsan (sanitiseHeader_ne_wrapped rfl)
    have hdate : "password_changed_at" ≠ "schema_version" := by decide
    rw [opensWith_recorded_iff (s := { s₁ with disk := changedDisk P J env kek header vmk' db }) hP
        hjson hq rfl (hu.current.setMeta hdate _) hmac₂ habsent hrecord,
      opensWith_replaced_iff hP hq hu.current hlen hlogin hchain hsafe rfl, ← hspared]
    constructor
    · rintro ⟨⟨hvmk, kek', hkek', hsame⟩, hnot⟩
      exact .sameVmk kek kek' ha hrekeyed hreplaced hvmk hkek' hsame hnot
    · intro h
      cases h with
      | lockedOut hlocked => exact absurd hlocked hfree
      | before hnot => exact absurd hrekeyed (hnot kek ha)
      | sameKey _ _ _ hkept => exact absurd hreplaced hkept
      | sameVmk kek₁ kek' ha₁ _ _ hvmk hkek' hsame hnot =>
        have hkek : kek₁ = kek := by
          have hderived := ha₁.derived
          rw [ha.derived] at hderived
          exact (Except.ok.inj hderived).symm
        rw [hkek] at hsame
        exact ⟨⟨hvmk, kek', hkek', hsame⟩, hnot⟩

end

/-! ### On the symbolic vault -/

/-- A quiet environment but for the header, which cannot be written any more once the pages
are re-keyed. -/
def fullDisk : Env :=
  { symbolicEnv 2 2 with
    io := fun site =>
      if site = .writeHeader .newPassword then .error (.io "No space left on device") else .ok () }

/-- The unlocked symbolic vault, without a duress threshold. -/
def changingVault : DaemonState := openedVault (spelledHeader oldPassword 0) symbolicDb

theorem unlocked_changingVault : Unlocked changingVault symbolicVmk symbolicDb :=
  ⟨rfl, rfl, ⟨_, rfl⟩, symbolicDb_current, symbolicDb_primaryKeys⟩

theorem opensWith_changingVault :
    OpensWith symbolic spelledSerde (symbolicEnv 3 3) oldPassword none 1000 changingVault :=
  ⟨rfl, _, _, ((opensHeader_spelled (symbolicEnv_quiet 3 3) rfl rfl).unlock 1000).trans rfl⟩

theorem authorized_fullDisk :
    Authorized symbolic fullDisk oldPassword newPassword none (spelledHeader oldPassword 0)
      symbolicVmk (symbolicKek newPassword) :=
  ⟨by decide, by decide, by decide, rfl, unwrapVmk_spelledHeader oldPassword 0, rfl⟩

/-- The disk after the change has failed: the old header over re-keyed pages. -/
def strandedDisk : Disk where
  sidecar := some (.ok (spelledHeader oldPassword 0))
  vault := some (.pages (sqlcipherKey symbolic fullDisk.vmk.bytes)
    (symbolicDb.setMeta "password_changed_at" (.integer 2)))

theorem changePassword_fullDisk :
    ∃ e t, changePassword symbolic spelledSerde fullDisk oldPassword newPassword none 1000
      changingVault = (.error (.err e), t) ∧ t.disk = strandedDisk := by
  have hcheck : checkUnlockLockout fullDisk 1000 changingVault = (.ok (), changingVault) := rfl
  have hauth := (authorizeChange_eq_ok (t := changingVault) unlocked_changingVault.vmk rfl rfl).mpr
    ⟨authorized_fullDisk, rfl⟩
  rw [changePassword, bind_run_ok hcheck, bind_run, attemptErr, changePasswordInner_eq,
    bind_run_ok hauth]
  exact ⟨_, _, rfl, rfl⟩

theorem opensWith_after_failed_change_iff_fullDisk :
    OpensWith symbolic spelledSerde (symbolicEnv 3 3) oldPassword none 1000
        (changePassword symbolic spelledSerde fullDisk oldPassword newPassword none 1000
          changingVault).2 ↔
      HarmlessFailure symbolic fullDisk oldPassword newPassword none 1000 oldPassword none
        changingVault (spelledHeader oldPassword 0) symbolicVmk := by
  obtain ⟨e, t, herr, -⟩ := changePassword_fullDisk
  rw [herr]
  exact opensWith_after_failed_change_iff symbolic_ideal spelledSerde_headerJson_injective
    unlocked_changingVault rfl (unwrapVmk_spelledHeader oldPassword 0) (symbolicEnv_quiet 3 3)
    opensWith_changingVault herr

/-- **The vault is lost to a full disk.** The old password opens the vault, the change returns `Err`
as the header could not be written, and then the pages are under a key that nothing on disk leads
to. -/
theorem failed_change_loses_vault :
    Unlocked changingVault symbolicVmk symbolicDb ∧
      OpensWith symbolic spelledSerde (symbolicEnv 3 3) oldPassword none 1000 changingVault ∧
      ∃ e t, changePassword symbolic spelledSerde fullDisk oldPassword newPassword none 1000
          changingVault = (.error (.err e), t) ∧
        ¬ OpensWith symbolic spelledSerde (symbolicEnv 3 3) oldPassword none 1000 t := by
  obtain ⟨e, t, herr, hdisk⟩ := changePassword_fullDisk
  refine ⟨unlocked_changingVault, opensWith_changingVault, e, t, herr, ?_⟩
  obtain ⟨hlen, hlogin, vmk, hunwrap, hmac, -, hchain, hsafe⟩ :=
    (opensWith_iff symbolic_ideal (symbolicEnv_quiet 3 3) rfl symbolicDb_current).mp
      opensWith_changingVault
  obtain rfl : symbolicVmk = vmk := by
    rw [unwrapVmk_spelledHeader] at hunwrap
    exact Block.bytes_inj (Except.ok.inj hunwrap)
  have hkey : "password_changed_at" ≠ "schema_version" := by decide
  have hkey' : "password_changed_at" ≠ "data_migrated_to_v2" := by decide
  rw [opensWith_rekeyed_iff symbolic_ideal (symbolicEnv_quiet 3 3)
    (symbolicDb_current.setMeta hkey _) hlen hlogin hunwrap hmac hchain
    ((migrationSafe_setMeta hkey' _).mpr hsafe) hdisk]
  decide

end PwdNow.Daemon
