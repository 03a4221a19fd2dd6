import PwdNow.Daemon.FailedChange
import PwdNow.Daemon.QuickUnlock
import PwdNow.Daemon.Recovery

/-!
# Daemon — the requests that replace the header

Seven requests of `daemon/src/vault/state.rs` read `vault.db.meta`, change what they have read and
write it back. Most hold the database mutex from before the read until after the write;
`quick_unlock_enroll` and `quick_unlock_revoke` hold nothing. `HeaderRequest` is one of them cut
where another thread can come in between; put together again the parts are the functions of the
other modules (`whole_updateLoginPolicy` and so on).
-/

namespace PwdNow.Daemon

open Kit Kit.Fallible Fallible

variable (P : Primitives) (J : Serde)

def updateLoginPolicy (env : Env) (p t e : Bool) (d : UInt32) : Call Unit := do
  let h ← readHeader env .request
  writeHeader P J env .request { h with
      passwordLoginEnabled := p
      totpEnabled := t
      emailOtpEnabled := e
      duressMaxAttempts := d }

/-! ## Parts -/

/-- What a request makes of the header it has read. -/
abbrev Edit := VaultHeader → Result VaultHeader

/-- What a request has to do with the VMK in memory, the stamping of the header apart. -/
inductive VmkUse where
  | unused
  /-- its read guard is held from the beginning to the end -/
  | held
  /-- it is looked at in the beginning, and replaced in the end -/
  | replaced
  deriving DecidableEq

/-- The sidecar, and whether there are pages behind it. -/
def DaemonState.files (s : DaemonState) : Option (Except String VaultHeader) × Bool :=
  (s.disk.sidecar,
    match s.disk.vault with
    | some (.pages _ _) => true
    | _ => false)

open DaemonState

/-- What a change looks at before it takes the mutex. -/
def DaemonState.changeView (s : DaemonState) :
    Option (Except String VaultHeader) × Option (Block 32) × Bool :=
  (s.disk.sidecar, s.vmk, s.dbOpen)

/-- A request that replaces the header, with what its parts look at and leave alone. -/
structure HeaderRequest where
  env : Env
  part : Part
  /-- the database mutex is held from before the header is read until it is written -/
  guarded : Bool
  use : VmkUse
  prepare : Call Edit
  enter : Call Unit
  settle : Call Unit
  prepare_keeps : Keeps id prepare
  prepare_result : ∀ s t, (use ≠ .unused → s.vmk = t.vmk) →
    (use = .replaced → s.files = t.files ∧ s.dbOpen = t.dbOpen) → (prepare s).1 = (prepare t).1
  enter_keeps : Keeps (fun s => (s.files, s.vmk, s.dbOpen)) enter
  enter_respects : Respects files enter
  settle_keeps : Keeps (fun s => (s.files, s.dbOpen)) settle
  settle_vmk : ∀ s t, s.vmk = t.vmk → (settle s).2.vmk = (settle t).2.vmk
  settle_unused : use ≠ .replaced → settle = pure ()

variable (env : Env) (recoveryKey : Bytes) (f : Database → Database)

namespace HeaderRequest

/-- From the mutex to the header that is about to be written. -/
def load (r : HeaderRequest) (edit : Edit) : Call VaultHeader := do
  r.enter
  let header ← readHeader r.env r.part
  lift (edit header)

def store (r : HeaderRequest) (header : VaultHeader) : Call Unit :=
  writeHeader P J r.env r.part header

/-- The request with nothing in between. -/
def whole (r : HeaderRequest) : Call Unit := do
  let edit ← r.prepare
  let header ← r.load edit
  r.store P J header
  r.settle

/-! ## The seven -/

/-- A request that does nothing but edit the header. -/
def editing (env : Env) (part : Part) (guarded : Bool) (prepare : Result Edit) :
    HeaderRequest where
  env := env
  part := part
  guarded := guarded
  use := .unused
  prepare := lift prepare
  enter := pure ()
  settle := pure ()
  prepare_keeps := .lift _
  prepare_result _ _ _ _ := rfl
  enter_keeps := .pure ()
  enter_respects := .pure ()
  settle_keeps := .pure ()
  settle_vmk _ _ h := h
  settle_unused _ := rfl

def updateLoginPolicy (env : Env) (p t e : Bool) (d : UInt32) : HeaderRequest :=
  editing env .request true <| .ok fun h => .ok { h with
      passwordLoginEnabled := p
      totpEnabled := t
      emailOtpEnabled := e
      duressMaxAttempts := d }

def addPasskeyToSidecar (env : Env) (cid encVmk nonce pubKeyCbor : Bytes) : HeaderRequest :=
  editing env .request true <| .ok fun header =>
    let others := header.passkeyCredentials.filter (·.credentialIdHex ≠ hexEncode cid)
    if others.length < 16 then .ok
      { header with passkeyCredentials := others ++
          [{ credentialIdHex := hexEncode cid
             encryptedVmkCopy := hexEncode encVmk
             vmkCopyNonce := hexEncode nonce
             pubKeyCborHex := some (hexEncode pubKeyCbor)
             signCount := 0 }] }
    else fail (.auth "too many passkeys registered (max 16)")

/-- The update of the counter in `unlock_with_passkey`; an entry that is gone is not updated. -/
def updateSignCount (env : Env) (cidHex : String) (count : UInt32) : HeaderRequest :=
  editing env .signCount true <| .ok fun fresh =>
    if fresh.passkeyCredentials.any (·.credentialIdHex = cidHex) then .ok
      { fresh with passkeyCredentials := setSignCount cidHex count fresh.passkeyCredentials }
    else fail (.auth "not registered")

def quickUnlockEnroll (env : Env) (password cid pubKeyCbor dbk : Bytes) : HeaderRequest :=
  editing env .request false <|
    if password.length ≤ 1024 then .ok fun header => do
      let kek ← enrolledKek P (env.io (.kdfMemory .request)) header password
      let dbk ← okOr (Block.ofBytes 32 dbk) (.crypto "dbk len")
      pure { header with quickUnlockCredentials :=
        header.quickUnlockCredentials ++ [quickUnlockEntry P env cid pubKeyCbor dbk kek] }
    else fail (.auth "password too long")

def quickUnlockRevoke (env : Env) : HeaderRequest :=
  editing env .request false <| .ok fun header => .ok { header with quickUnlockCredentials := [] }

/-- The copy of the VMK is sealed before the mutex is taken. -/
def recoveryEdit (env : Env) (recoveryKey : Bytes) : Call Edit := do
  let vmk ← reads fun s => okOr s.vmk (.auth "Vault locked")
  let kek ← lift (deriveKek P (env.io (.kdfMemory .request)) recoveryKey none env.salt env.tuned)
  pure fun header => .ok { header with recoveryKeyCopy := some (recoveryEntry P env kek vmk) }

theorem recoveryEdit_keeps : Keeps id (recoveryEdit P env recoveryKey) :=
  (Keeps.reads _).bind fun _ => .lift_bind fun _ => .pure _

theorem recoveryEdit_respects : Respects vmk (recoveryEdit P env recoveryKey) := by
  refine (Respects.reads fun s t hst => ?_).bind fun _ => (Respects.lift _).bind fun _ =>
    .pure _
  rw [hst]

def enrollRecoveryKey (env : Env) (recoveryKey : Bytes) : HeaderRequest :=
  { editing env .request true (.ok .ok) with
    use := .held
    prepare := recoveryEdit P env recoveryKey
    prepare_keeps := recoveryEdit_keeps P env recoveryKey
    prepare_result := fun s t hvmk _ =>
      (recoveryEdit_respects P env recoveryKey s t (hvmk (by decide))).1
    settle_unused := fun _ => rfl }

/-- The old password is verified, and the new KEK derived, before the mutex is taken. -/
def changeEdit (env : Env) (oldPassword newPassword : Bytes) (yk : Option (Block 20)) :
    Call Edit := do
  let kek ← authorizeChange P env oldPassword newPassword yk
  pure fun header => .ok (changedHeader P env kek header)

theorem changeEdit_respects (oldPassword newPassword : Bytes) (yk : Option (Block 20)) :
    Respects changeView (changeEdit P env oldPassword newPassword yk) := by
  have hread : Respects changeView (readHeader env .request) := by
    refine (Respects.lift _).bind fun _ => .reads fun s t hst => ?_
    rw [show s.disk.sidecar = t.disk.sidecar from (Prod.mk.inj hst).1]
  have hvmk : ∀ s t : DaemonState, s.changeView = t.changeView → s.vmk = t.vmk :=
    fun s t hst => (Prod.mk.inj (Prod.mk.inj hst).2).1
  have hopen : ∀ s t : DaemonState, s.changeView = t.changeView → s.dbOpen = t.dbOpen :=
    fun s t hst => (Prod.mk.inj (Prod.mk.inj hst).2).2
  have hverify : Respects changeView (verifyMasterPasswordInner P env oldPassword) :=
    (Respects.lift _).bind fun _ => hread.bind fun _ => (Respects.lift _).bind fun _ =>
      (Respects.lift _).bind fun _ => (Respects.gets hvmk).bind fun _ => .lift _
  refine .bind ?_ fun _ => .pure _
  refine (Respects.lift _).bind fun _ => (Respects.lift _).bind fun _ => hverify.bind fun _ =>
    (Respects.lift _).bind fun _ => (Respects.reads fun s t hst => ?_).bind fun _ =>
      (Respects.gets hopen).bind fun _ => (Respects.lift _).bind fun _ => .pure _
  rw [hvmk s t hst]

/-- What a change does to the pages before it reads the header again. -/
def rekeyPages (env : Env) : Call Unit := do
  rekeyVault env (sqlcipherKey P env.vmk.bytes)
  env.at .passwordChangedAt
  onDatabase fun db => .ok (db.setMeta "password_changed_at" (.integer env.nowSecs))

theorem files_setVault_pages {s : DaemonState} {key newKey : Block 32} {db newDb : Database}
    (hv : s.disk.vault = some (.pages key db)) :
    (s.setVault (.pages newKey newDb)).files = s.files := by
  simp [files, setVault, hv]

theorem rekeyVault_keeps (newKey : Block 32) :
    Keeps (fun s : DaemonState => (s.files, s.vmk, s.dbOpen)) (rekeyVault env newKey) := by
  refine at_keeps.bind fun _ => .modify fun s => ?_
  split
  · next hv => exact congrArg (·, s.vmk, s.dbOpen) (files_setVault_pages hv)
  · rfl

theorem onDatabase_total_keeps :
    Keeps (fun s : DaemonState => (s.files, s.vmk, s.dbOpen)) (onDatabase fun db => .ok (f db)) := by
  intro s
  unfold onDatabase
  split
  · next hv => exact congrArg (·, s.vmk, s.dbOpen) (files_setVault_pages hv)
  · rfl

theorem rekeyPages_keeps :
    Keeps (fun s : DaemonState => (s.files, s.vmk, s.dbOpen)) (rekeyPages P env) :=
  (rekeyVault_keeps env _).bind fun _ => at_keeps.bind fun _ => onDatabase_total_keeps _

theorem onDatabase_total_run (s : DaemonState) :
    (onDatabase (fun db => .ok (f db)) s).1 =
      if s.files.2 then .ok () else fail (.database "unable to open database file") := by
  unfold onDatabase files
  cases s.disk.vault with
  | none => rfl
  | some file => cases file <;> rfl

theorem rekeyPages_respects : Respects files (rekeyPages P env) := by
  have hfiles : ∀ {x : Call Unit}, Keeps (fun s : DaemonState => (s.files, s.vmk, s.dbOpen)) x →
      Keeps files x := fun hx s => (Prod.mk.inj (hx s)).1
  have hrekey : Respects files (rekeyVault env (sqlcipherKey P env.vmk.bytes)) := by
    refine .of_keeps (hfiles (rekeyVault_keeps env _)) fun s t _ => ?_
    unfold rekeyVault Env.at
    cases env.io .rekey <;> rfl
  refine hrekey.bind fun _ => (Respects.lift _).bind fun _ =>
    .of_keeps (hfiles (onDatabase_total_keeps _)) fun s t hst => ?_
  rw [onDatabase_total_run, onDatabase_total_run, hst]

/-- The new VMK is in memory. -/
def enterVmk (env : Env) : Call Unit := do
  env.at .lockedKey
  modify fun s => { s with vmk := some env.vmk }
  touch env

def changePassword (env : Env) (oldPassword newPassword : Bytes) (yk : Option (Block 20)) :
    HeaderRequest where
  env := env
  part := .newPassword
  guarded := true
  use := .replaced
  prepare := changeEdit P env oldPassword newPassword yk
  enter := rekeyPages P env
  settle := enterVmk env
  prepare_keeps := authorizeChange_keeps.bind fun _ => .pure _
  prepare_result s t hvmk hview := by
    obtain ⟨hfiles, hopen⟩ := hview rfl
    refine (changeEdit_respects P env oldPassword newPassword yk s t ?_).1
    exact Prod.ext (Prod.mk.inj hfiles).1 (Prod.ext (hvmk (by decide)) hopen)
  enter_keeps := rekeyPages_keeps P env
  enter_respects := rekeyPages_respects P env
  settle_keeps := by
    refine at_keeps.bind fun _ => .bind (.modify ?_) fun _ => .modify ?_
    · intro s
      rfl
    · intro s
      rfl
  settle_vmk s t h := by
    have hrespects : Respects vmk (enterVmk env) :=
      (Respects.lift _).bind fun _ => (Respects.modify fun _ _ _ => rfl).bind fun _ =>
        .modify fun _ _ hst => hst
    exact (hrespects s t h).2
  settle_unused h := absurd rfl h

/-! ## Put together again -/

section Whole

variable (env : Env)

theorem whole_editing (part : Part) (guarded : Bool) (prepare : Result Edit) :
    (editing env part guarded prepare).whole P J =
      lift prepare >>= fun edit => readHeader env part >>= fun header =>
        lift (edit header) >>= writeHeader P J env part := by
  simp only [whole, load, store, editing, pure_bind, bind_pure_unit, bind_assoc]

theorem whole_updateLoginPolicy (p t e : Bool) (d : UInt32) :
    (updateLoginPolicy env p t e d).whole P J = Daemon.updateLoginPolicy P J env p t e d :=
  whole_editing P J env _ _ _

theorem whole_quickUnlockRevoke :
    (quickUnlockRevoke env).whole P J = Daemon.quickUnlockRevoke P J env :=
  whole_editing P J env _ _ _

theorem whole_addPasskeyToSidecar (cid encVmk nonce pubKeyCbor : Bytes) :
    (addPasskeyToSidecar env cid encVmk nonce pubKeyCbor).whole P J =
      Daemon.addPasskeyToSidecar P J env cid encVmk nonce pubKeyCbor := by
  rw [addPasskeyToSidecar, whole_editing, lift_ok_bind, Daemon.addPasskeyToSidecar]
  congr 1
  funext header
  by_cases hroom : (header.passkeyCredentials.filter
      (·.credentialIdHex ≠ hexEncode cid)).length < 16
  · simp only [hroom, if_true, require, decide_true, lift_ok_bind]
  · simp only [hroom, if_false, require, decide_false, Bool.false_eq_true]
    rfl

theorem whole_quickUnlockEnroll (password cid pubKeyCbor dbk : Bytes) :
    (quickUnlockEnroll P env password cid pubKeyCbor dbk).whole P J =
      Daemon.quickUnlockEnroll P J env password cid pubKeyCbor dbk := by
  rw [quickUnlockEnroll, whole_editing, Daemon.quickUnlockEnroll]
  by_cases hshort : password.length ≤ 1024
  · simp only [hshort, if_true, require, decide_true, lift_ok_bind]
    congr 1
    funext header
    cases enrolledKek P (env.io (.kdfMemory .request)) header password with
    | error e => rfl
    | ok kek => cases okOr (Block.ofBytes 32 dbk) (.crypto "dbk len") <;> rfl
  · simp only [hshort, if_false, require, decide_false, Bool.false_eq_true]
    rfl

theorem whole_enrollRecoveryKey (recoveryKey : Bytes) :
    (enrollRecoveryKey P env recoveryKey).whole P J =
      Daemon.enrollRecoveryKey P J env recoveryKey := by
  simp only [whole, load, store, enrollRecoveryKey, editing, recoveryEdit, pure_bind,
    bind_pure_unit, bind_assoc, lift_ok_bind, Daemon.enrollRecoveryKey]

theorem whole_changePassword (oldPassword newPassword : Bytes) (yk : Option (Block 20)) :
    (changePassword P env oldPassword newPassword yk).whole P J =
      changePasswordInner P J env oldPassword newPassword yk := by
  rw [changePasswordInner_eq]
  simp only [whole, load, store, changePassword, changeEdit, rekeyPages, enterVmk,
    pure_bind, bind_assoc, lift_ok_bind]
  rfl

/-- Errors are ignored there, so that only the states agree. -/
theorem whole_updateSignCount (cidHex : String) (count : UInt32) (s : DaemonState) :
    ((updateSignCount env cidHex count).whole P J s).2 =
      (Daemon.updateSignCount P J env cidHex (some count) s).2 := by
  have hattempt : ∀ {α : Type} (x : Call α) (s : DaemonState), (attemptErr x s).2 = (x s).2 := by
    intro α x s
    unfold attemptErr
    split <;> simp [*]
  rw [updateSignCount, whole_editing, lift_ok_bind]
  simp only [Daemon.updateSignCount]
  cases hread : readHeader env .signCount s with
  | mk r t =>
    cases r with
    | error e =>
      rw [bind_run_error hread]
      cases e <;> simp [bind_run, attemptErr, hread]
    | ok fresh =>
      rw [bind_run_ok hread, bind_run_ok (attemptErr_eq_ok_ok.mpr hread)]
      by_cases hentry : fresh.passkeyCredentials.any (·.credentialIdHex = cidHex) = true
      · simp only [hentry, if_true, lift_ok_bind]
        rw [← hattempt, bind_run]
        cases attemptErr _ t with
        | mk r u => cases r <;> rfl
      · simp only [hentry]
        rfl

end Whole

end HeaderRequest

end PwdNow.Daemon
