import PwdNow.Daemon.Rows
import PwdNow.Daemon.Serving

/-!
# Daemon — setting up and removing TOTP

`begin_setup`, `confirm_setup` and `remove` of `daemon/src/vault/totp_db.rs` with their handlers,
and the TOTP gate of `GrpcServer::unlock`. A request is not one transaction. The confirmation is
noted in `vault_meta`, which nothing reads: the gate counts the rows of `otp_config`, and
`begin_setup` replaces them at once.
-/

namespace PwdNow.Daemon

open Kit Kit.Fallible Option DaemonState

variable (P : Primitives) (J : Serde) (F : Factors)

/-! ## `totp_db` -/

namespace TotpDb

structure TotpSetupInfo where
  secretB32 : String
  otpUri : String
  backupCodes : List String

/-- The random draws of one `begin_setup`. -/
structure SetupDraws where
  /-- `totp::generate_secret()` -/
  secretB32 : String
  secretNonce : Block 12
  /-- ten bytes for each of the ten backup codes -/
  rawCodes : List Bytes
  /-- `hash_password`, with a salt of its own for each code -/
  hashPassword : String → Option String
  backupNonce : Block 12
  id : String

def base32Alphabet : List Char := "ABCDEFGHIJKLMNOPQRSTUVWXYZ234567".toList

def base32Char (index : UInt64) : Char := base32Alphabet.getD (index &&& 0x1F).toNat 'A'

/-- `while bits >= 5`: the letters of the complete groups, and the bits that are left. -/
def drainGroups (buf : UInt64) (bits : Nat) : List Char × Nat :=
  if 5 ≤ bits then
    let rest := drainGroups buf (bits - 5)
    (base32Char (buf >>> (bits - 5).toUInt64) :: rest.1, rest.2)
  else ([], bits)

/-- The loop over the bytes of one code. -/
def encodeGroups (buf : UInt64) (bits : Nat) : Bytes → List Char
  | [] => if 0 < bits then [base32Char (buf <<< (5 - bits).toUInt64)] else []
  | x :: raw =>
    let buf := (buf <<< 8) ||| x.toUInt64
    let drained := drainGroups buf (bits + 8)
    drained.1 ++ encodeGroups buf drained.2 raw

def backupCode (raw : Bytes) : String := String.ofList (encodeGroups 0 0 raw)

/-- The codes, and their hashes sealed under the VMK. -/
def generateBackupCodes (draws : SetupDraws) (vmk : Block 32) :
    Result (List String × Bytes × Bytes) := do
  let codes := draws.rawCodes.map backupCode
  let records ← codes.mapM fun code => do
    let hash ← okOr (draws.hashPassword code) (.crypto "backup code hash failed")
    pure (⟨hash, none⟩ : BackupCode)
  pure (codes, P.aesGcm.encrypt vmk draws.backupNonce backupAad (F.backupCodesJson records),
    draws.backupNonce.bytes)

def secretAad : Bytes := utf8 "totp-secret-aad-v1"

/-- The `i`-th statement of a request, on the open connection. -/
def execute (env : Env) (i : Nat) (f : Database → Database) : Call Unit := do
  env.at (.statement i)
  modify fun s =>
    match s.connection with
    | some (key, db) => s.setVault (.pages key (f db))
    | none => s

def setConfirmed (env : Env) (i : Nat) (active : Bool) : Call Unit :=
  execute env i (·.setMeta "totp_active" (.integer (if active then 1 else 0)))

/-- `with_vmk_db!` -/
def withVmkDb : Call (Block 32 × Database) := do
  let vmk ← reads fun s => okOr s.vmk (.auth "locked")
  let conn ← reads fun s => okOr s.connection (.auth "vault is locked")
  pure (vmk, conn.2)

def sealedConfig (draws : SetupDraws) (now : Int) (vmk : Block 32) (backup : Bytes × Bytes) :
    OtpConfigRow where
  id := draws.id
  encryptedSecret := P.aesGcm.encrypt vmk draws.secretNonce secretAad (utf8 draws.secretB32)
  secretNonce := draws.secretNonce.bytes
  backupCodes := backup.1
  backupNonce := backup.2
  createdAt := now

def otpUri (accountLabel issuer secretB32 : String) : String :=
  "otpauth://totp/" ++ issuer ++ ":" ++ accountLabel ++ "?secret=" ++ secretB32 ++ "&issuer=" ++
    issuer ++ "&algorithm=SHA512&digits=8&period=30"

/-- The row of the last setup goes before the new one is confirmed. -/
def beginSetup (env : Env) (draws : SetupDraws) (accountLabel issuer : String) :
    Call TotpSetupInfo := do
  let opened ← withVmkDb
  let backup ← lift (generateBackupCodes P F draws opened.1)
  execute env 0 fun db => { db with otpConfig := [] }
  execute env 1 fun db =>
    { db with otpConfig := db.otpConfig ++ [sealedConfig P draws env.nowSecs opened.1 backup.2] }
  execute env 2 (·.setMeta "totp_algorithm" (.text "SHA512"))
  execute env 3 (·.setMeta "totp_digits" (.integer 8))
  setConfirmed env 4 false
  pure ⟨draws.secretB32, otpUri accountLabel issuer draws.secretB32, backup.1⟩

/-- `verify_code`, and the error of a wrong code. -/
def requireCode (env : Env) (code : String) : Call Unit := do
  let opened ← withVmkDb
  let passes ← lift (verifyCode P F env.nowSecs opened.2 opened.1 code)
  require passes (.auth "invalid code")

def confirmSetup (env : Env) (code : String) : Call Unit := do
  requireCode P F env code
  setConfirmed env 0 true

/-- `DELETE FROM vault_meta WHERE key IN (..)` -/
def deleteMeta (keys : List String) (db : Database) : Database :=
  { db with vaultMeta := fun key => if key ∈ keys then none else db.vaultMeta key }

def remove (env : Env) (code : String) : Call Unit := do
  requireCode P F env code
  execute env 0 fun db => { db with otpConfig := [] }
  execute env 1 (deleteMeta ["totp_algorithm", "totp_digits"])

end TotpDb

/-! ## The requests -/

inductive TotpRequest where
  | setup (draws : TotpDb.SetupDraws)
  | confirm (code : String)
  | remove (code : String)
  | unlock (password : Bytes) (yk : Option (Block 20)) (totpCode : Option String) (uid : UInt32)

structure TotpCall where
  env : Env
  request : TotpRequest

/-- `audit::log` without a resource; its outcome is ignored. -/
def logAction (env : Env) (action : String) : Call Unit := modify fun s =>
  match s.vmk, s.connection with
  | some vmk, some (key, db) => s.setVault (.pages key (logRows P env vmk 0 [(action, none)] db))
  | _, _ => s

/-- The handlers, once a session has been validated. -/
def serveTotp (call : TotpCall) : Call Unit :=
  match call.request with
  | .setup draws => TotpDb.beginSetup P F call.env draws "vault" "VaultManager" >>= fun _ => pure ()
  | .confirm code => TotpDb.confirmSetup P F call.env code >>= fun _ =>
      logAction P call.env "TOTP_ENABLE"
  | .remove code => TotpDb.remove P F call.env code >>= fun _ =>
      logAction P call.env "TOTP_DISABLE"
  | .unlock password yk totpCode uid =>
      handleUnlock P J F call.env password yk totpCode uid >>= fun _ => pure ()

/-! ## What a run has confirmed -/

inductive Transition where
  | confirm | remove
  deriving DecidableEq

/-- A secret, and the VMK it is sealed under. -/
structure TotpSecret where
  secretB32 : String
  vmk : Block 32
  deriving DecidableEq

structure Ledger where
  /-- the last `confirm_setup` or `remove` that was completed -/
  last : Option Transition
  /-- the secret that was confirmed, until it is removed -/
  confirmed : Option TotpSecret
  /-- the secret of a `begin_setup` that is neither confirmed nor removed -/
  pending : Option TotpSecret

namespace Ledger

def new : Ledger := ⟨none, none, none⟩

/-- A request that was served, and the files it left. A vault that is wiped takes its transitions
with it. -/
def record (ledger : Ledger) (s : DaemonState) (request : TotpRequest)
    (served : Except Failure Unit × DaemonState) : Ledger :=
  match request, served.1 with
  | .setup draws, .ok _ => { ledger with pending := s.vmk.map fun vmk => ⟨draws.secretB32, vmk⟩ }
  | .confirm _, .ok _ => ⟨some .confirm, ledger.pending.or ledger.confirmed, none⟩
  | .remove _, .ok _ => ⟨some .remove, none, none⟩
  | .unlock .., _ => if served.2.disk.vault.isNone then new else ledger
  | _, .error _ => ledger

/-- What is stored: the latest setup. -/
def stored (ledger : Ledger) : Option TotpSecret := ledger.pending.or ledger.confirmed

end Ledger

/-- One request, and the ledger kept beside. -/
def ledgerStep (x : DaemonState × Ledger) (call : TotpCall) : DaemonState × Ledger :=
  ((serveTotp P J F call x.1).2, x.2.record x.1 call.request (serveTotp P J F call x.1))

/-- No statement fails, and nobody unlocks while a setup awaits its confirmation. -/
def AllConfirmed (x : DaemonState × Ledger) (call : TotpCall) : Prop :=
  match call.request with
  | .unlock .. => x.2.pending = none
  | _ => ∀ i, call.env.io (.statement i) = .ok ()

variable {P J F} {env : Env} {s t : DaemonState} {vmk key : Block 32} {db : Database}

/-! ## Statements -/

theorem connection_setVault (h : s.connection = some (key, db)) (db' : Database) :
    (s.setVault (.pages key db')).connection = some (key, db') := by
  unfold connection at h
  split at h
  · next hopen hv => simp only [connection, setVault, hopen]
  · cases h

namespace TotpDb

theorem execute_run {i : Nat} (hio : env.io (.statement i) = .ok ())
    (hconn : s.connection = some (key, db)) (f : Database → Database) :
    execute env i f s = (.ok (), s.setVault (.pages key (f db))) := by
  rw [execute, bind_run_ok (at_run_ok hio s), modify_run, hconn]

theorem execute_next (hio : ∀ i, env.io (.statement i) = .ok ())
    (hconn : s.connection = some (key, db)) (i : Nat) (f : Database → Database) (db' : Database) :
    execute env i f (s.setVault (.pages key db')) = (.ok (), s.setVault (.pages key (f db'))) :=
  execute_run (hio i) (connection_setVault hconn db') f

theorem withVmkDb_run (hvmk : s.vmk = some vmk) (hconn : s.connection = some (key, db)) :
    withVmkDb s = (.ok (vmk, db), s) := by
  simp only [withVmkDb, bind_eq_ok, reads_eq_ok, okOr_eq_ok, pure_run, Prod.mk.injEq]
  exact ⟨vmk, s, ⟨hvmk, rfl⟩, (key, db), s, ⟨hconn, rfl⟩, rfl, rfl⟩

theorem withVmkDb_cases : (∃ e, withVmkDb s = (.error e, s)) ∨
    ∃ vmk key db, s.vmk = some vmk ∧ s.connection = some (key, db) ∧
      withVmkDb s = (.ok (vmk, db), s) := by
  cases hvmk : s.vmk with
  | none =>
    refine .inl ⟨.err (.auth "locked"), ?_⟩
    rw [withVmkDb, bind_run, reads, hvmk]
    rfl
  | some vmk =>
    cases hconn : s.connection with
    | none =>
      refine .inl ⟨.err (.auth "vault is locked"), ?_⟩
      rw [withVmkDb, bind_run_ok (reads_eq_ok.mpr ⟨by rw [hvmk]; rfl, rfl⟩), bind_run, reads, hconn]
      rfl
    | some conn => exact .inr ⟨vmk, conn.1, conn.2, rfl, rfl, withVmkDb_run hvmk hconn⟩

/-- The rows after a setup. -/
def configured (row : OtpConfigRow) (db : Database) : Database :=
  ((({ db with otpConfig := [row] } : Database).setMeta "totp_algorithm" (.text "SHA512")).setMeta
    "totp_digits" (.integer 8)).setMeta "totp_active" (.integer 0)

theorem beginSetup_cases (hio : ∀ i, env.io (.statement i) = .ok ()) (draws : SetupDraws)
    (accountLabel issuer : String) :
    (∃ e, beginSetup P F env draws accountLabel issuer s = (.error e, s)) ∨
      ∃ vmk key db backup info, s.vmk = some vmk ∧ s.connection = some (key, db) ∧
        beginSetup P F env draws accountLabel issuer s = (.ok info,
          s.setVault (.pages key (configured (sealedConfig P draws env.nowSecs vmk backup) db))) := by
  rcases withVmkDb_cases with ⟨e, hrun⟩ | ⟨vmk, key, db, hvmk, hconn, hrun⟩
  · exact .inl ⟨e, by rw [beginSetup, bind_run_error hrun]⟩
  cases hgen : generateBackupCodes P F draws vmk with
  | error e =>
    refine .inl ⟨e, ?_⟩
    rw [beginSetup, bind_run_ok hrun, bind_run, hgen]
    rfl
  | ok backup =>
    refine .inr ⟨vmk, key, db, backup.2, ⟨draws.secretB32, otpUri accountLabel issuer draws.secretB32,
      backup.1⟩, hvmk, hconn, ?_⟩
    have hlift : lift (generateBackupCodes P F draws vmk) s = (.ok backup, s) :=
      lift_eq_ok.mpr ⟨hgen, rfl⟩
    rw [beginSetup, bind_run_ok hrun, bind_run_ok hlift, bind_run_ok (execute_run (hio 0) hconn _)]
    rw [bind_run_ok (execute_next hio hconn 1 _ _), bind_run_ok (execute_next hio hconn 2 _ _),
      bind_run_ok (execute_next hio hconn 3 _ _), setConfirmed,
      bind_run_ok (execute_next hio hconn 4 _ _)]
    rfl

theorem requireCode_run (hvmk : s.vmk = some vmk) (hconn : s.connection = some (key, db))
    {code : String} (hverify : verifyCode P F env.nowSecs db vmk code = .ok true) :
    requireCode P F env code s = (.ok (), s) := by
  have hlift : lift (verifyCode P F env.nowSecs db vmk code) s = (.ok true, s) :=
    lift_eq_ok.mpr ⟨hverify, rfl⟩
  rw [requireCode, bind_run_ok (withVmkDb_run hvmk hconn), bind_run_ok hlift]
  rfl

theorem requireCode_cases (code : String) :
    (∃ e, requireCode P F env code s = (.error e, s)) ∨
      ∃ vmk key db, s.vmk = some vmk ∧ s.connection = some (key, db) ∧
        verifyCode P F env.nowSecs db vmk code = .ok true ∧
        requireCode P F env code s = (.ok (), s) := by
  rcases withVmkDb_cases with ⟨e, hrun⟩ | ⟨vmk, key, db, hvmk, hconn, hrun⟩
  · exact .inl ⟨e, by rw [requireCode, bind_run_error hrun]⟩
  cases hverify : verifyCode P F env.nowSecs db vmk code with
  | error e =>
    refine .inl ⟨e, ?_⟩
    rw [requireCode, bind_run_ok hrun, bind_run, hverify]
    rfl
  | ok passes =>
    cases passes with
    | false =>
      have hlift : lift (verifyCode P F env.nowSecs db vmk code) s = (.ok false, s) :=
        lift_eq_ok.mpr ⟨hverify, rfl⟩
      refine .inl ⟨.err (.auth "invalid code"), ?_⟩
      rw [requireCode, bind_run_ok hrun, bind_run_ok hlift]
      rfl
    | true => exact .inr ⟨vmk, key, db, hvmk, hconn, hverify, requireCode_run hvmk hconn hverify⟩

/-- What comes after `requireCode` is done if the code passes, and nothing if it does not. -/
theorem requireCode_bind_cases (code : String) {rest : Call Unit} {f : Database → Database}
    (hrest : ∀ {key db}, s.connection = some (key, db) → rest s =
      (.ok (), s.setVault (.pages key (f db)))) :
    (∃ e, (requireCode P F env code >>= fun _ => rest) s = (.error e, s)) ∨
      ∃ vmk key db, s.connection = some (key, db) ∧
        verifyCode P F env.nowSecs db vmk code = .ok true ∧
        (requireCode P F env code >>= fun _ => rest) s =
          (.ok (), s.setVault (.pages key (f db))) := by
  rcases requireCode_cases (P := P) (F := F) code with
    ⟨e, hrun⟩ | ⟨vmk, key, db, -, hconn, hverify, hrun⟩
  · exact .inl ⟨e, bind_run_error hrun⟩
  · exact .inr ⟨vmk, key, db, hconn, hverify, (bind_run_ok hrun).trans (hrest hconn)⟩

end TotpDb

/-! ## What the table holds -/

variable {γ : Type} {f : Database → γ}

/-- What `load` and `get_params` read. -/
def totpRows (db : Database) : List OtpConfigRow × Option SqlValue :=
  (db.otpConfig, db.vaultMeta "totp_digits")

theorem totpRows_configured (row : OtpConfigRow) :
    totpRows (TotpDb.configured row db) = ([row], some (.integer 8)) := by
  simp [totpRows, TotpDb.configured, Database.setMeta]

theorem totpRows_spared : Spared totpRows :=
  Spared.prod (.of_tables fun _ _ _ _ _ _ _ _ => rfl) (.meta (by decide) (by decide))

variable (P) in
/-- No row, or one row with the secret and the eight digits of its codes. -/
def Stores (view : List OtpConfigRow × Option SqlValue) : Option TotpSecret → Prop
  | none => view.1 = []
  | some secret => view.2 = some (.integer 8) ∧ ∃ row, ∃ nonce : Block 12, view.1 = [row] ∧
      row.secretNonce = nonce.bytes ∧ row.encryptedSecret =
        P.aesGcm.encrypt secret.vmk nonce TotpDb.secretAad (utf8 secret.secretB32)

variable {stored : Option TotpSecret}

theorem Stores.isActive (h : Stores P (totpRows db) stored) :
    TotpDb.isActive db = stored.isSome := by
  cases stored with
  | none =>
    have hnil : db.otpConfig = [] := h
    rw [TotpDb.isActive, hnil]
    rfl
  | some secret =>
    obtain ⟨-, row, nonce, hrow, -⟩ := h
    have hrow : db.otpConfig = [row] := hrow
    rw [TotpDb.isActive, hrow]
    rfl

/-- A code is compared with the stored secret, and under the VMK it is sealed under only. -/
theorem Stores.verifyCode_iff (hP : P.Ideal) {secret : TotpSecret}
    (h : Stores P (totpRows db) (some secret)) (now : Nat) (code : String) (passes : Bool) :
    TotpDb.verifyCode P F now db vmk code = .ok passes ↔
      vmk = secret.vmk ∧ Totp.verify F now secret.secretB32 code 8 = .ok passes := by
  obtain ⟨hdigits, row, nonce, hrow, hnonce, hsealed⟩ := h
  have hrow : db.otpConfig = [row] := hrow
  have hdigits : db.vaultMeta "totp_digits" = some (.integer 8) := hdigits
  have hparams : TotpDb.getParams db = 8 := by
    rw [TotpDb.getParams, hdigits]
    rfl
  simp only [TotpDb.verifyCode, TotpDb.load, hparams, Result.bind_eq_ok, okOr_eq_ok, hrow,
    List.head?_cons, some.injEq]
  constructor
  · rintro ⟨config, ⟨_, rfl, plaintext, hopen, secretB32, htext, hconfig⟩, hverify⟩
    rw [hnonce, hsealed] at hopen
    obtain ⟨hvmk, -, rfl⟩ := (openSealed_encrypt_iff hP nonce _).mp hopen
    rw [fromUTF8_utf8] at htext
    cases htext
    cases hconfig
    exact ⟨hvmk, hverify⟩
  · rintro ⟨rfl, hverify⟩
    refine ⟨⟨row.id, secret.secretB32⟩, ⟨row, rfl, utf8 secret.secretB32, ?_, secret.secretB32,
      fromUTF8_utf8 _, rfl⟩, hverify⟩
    rw [hnonce, hsealed]
    exact openSealed_encrypt hP nonce _

theorem Stores.isSome_of_verifyCode {now : Nat} {code : String} {passes : Bool}
    (h : Stores P (totpRows db) stored)
    (hverify : TotpDb.verifyCode P F now db vmk code = .ok passes) : stored.isSome := by
  cases stored with
  | none =>
    have hnil : db.otpConfig = [] := h
    rw [TotpDb.verifyCode, TotpDb.load, hnil] at hverify
    cases hverify
  | some secret => rfl

theorem rows_connection (h : s.connection = some (key, db)) : rows f s = f db := by
  rw [rows, connection_eq_some h]
  rfl

theorem logAction_keeps_rows (hf : Spared f) (action : String) :
    Keeps (rows f) (logAction P env action) := by
  refine .modify fun s => ?_
  split
  next vmk key db hvmk hconn =>
    rw [rows_connection hconn]
    exact logRows_spared hf _ _ _
  next => rfl

/-! ## One request -/

variable {x : DaemonState × Ledger} {call : TotpCall}

variable (P) in
/-- The table and the ledger agree. -/
structure InStep (x : DaemonState × Ledger) : Prop where
  stores : Stores P (rows totpRows x.1) x.2.stored
  last : x.2.last = some .confirm ↔ x.2.confirmed.isSome

theorem ledgerStep_of_run {r : Except Failure Unit} (hrun : serveTotp P J F call x.1 = (r, t)) :
    ledgerStep P J F x call = (t, x.2.record x.1 call.request (r, t)) := by
  rw [ledgerStep, hrun]

section

variable (h : InStep P x) (hio : ∀ i, env.io (.statement i) = .ok ())
include h hio

theorem setup_inStep (draws : TotpDb.SetupDraws) :
    InStep P (ledgerStep P J F x ⟨env, .setup draws⟩) := by
  rcases TotpDb.beginSetup_cases (P := P) (F := F) hio draws "vault" "VaultManager" with
    ⟨e, hrun⟩ | ⟨vmk, key, db, backup, info, hvmk, hconn, hrun⟩
  · have hserve : serveTotp P J F ⟨env, .setup draws⟩ x.1 = (.error e, x.1) := bind_run_error hrun
    rw [ledgerStep_of_run hserve]
    exact h
  · have hserve : serveTotp P J F ⟨env, .setup draws⟩ x.1 = (.ok (), x.1.setVault (.pages key
        (TotpDb.configured (TotpDb.sealedConfig P draws env.nowSecs vmk backup) db))) :=
      bind_run_ok hrun
    rw [ledgerStep_of_run hserve]
    refine ⟨?_, h.last⟩
    show Stores P (totpRows (TotpDb.configured _ db))
      (or (x.1.vmk.map fun vmk => ⟨draws.secretB32, vmk⟩) x.2.confirmed)
    rw [hvmk, totpRows_configured]
    exact ⟨rfl, _, draws.secretNonce, rfl, rfl, rfl⟩

theorem confirm_inStep (code : String) : InStep P (ledgerStep P J F x ⟨env, .confirm code⟩) := by
  rcases TotpDb.requireCode_bind_cases (P := P) (F := F) (s := x.1) code
      fun hconn => TotpDb.execute_run (hio 0) hconn (·.setMeta "totp_active" (.integer 1)) with
    ⟨e, hrun⟩ | ⟨vmk, key, db, hconn, hverify, hrun⟩
  · have hserve : serveTotp P J F ⟨env, .confirm code⟩ x.1 = (.error e, x.1) := bind_run_error hrun
    rw [ledgerStep_of_run hserve]
    exact h
  · have hserve : serveTotp P J F ⟨env, .confirm code⟩ x.1 = logAction P env "TOTP_ENABLE"
        (x.1.setVault (.pages key (db.setMeta "totp_active" (.integer 1)))) := bind_run_ok hrun
    rw [ledgerStep_of_run hserve]
    have hrows : rows totpRows x.1 = totpRows db := rows_connection hconn
    have hstores : Stores P (totpRows db) x.2.stored := hrows ▸ h.stores
    refine ⟨?_, ?_⟩
    · -- the flag is not among what is read
      show Stores P (rows totpRows (logAction P env "TOTP_ENABLE" _).2) (or none x.2.stored)
      rw [logAction_keeps_rows totpRows_spared, none_or]
      have hflag : totpRows (db.setMeta "totp_active" (.integer 1)) = totpRows db := by
        simp [totpRows, Database.setMeta]
      show Stores P (totpRows (db.setMeta "totp_active" (.integer 1))) x.2.stored
      rw [hflag]
      exact hstores
    · show some Transition.confirm = some .confirm ↔ x.2.stored.isSome = true
      simp only [hstores.isSome_of_verifyCode hverify]

theorem remove_inStep (code : String) : InStep P (ledgerStep P J F x ⟨env, .remove code⟩) := by
  have hremoved {key db} (hconn : x.1.connection = some (key, db)) :
      (TotpDb.execute env 0 (fun db => { db with otpConfig := [] }) >>= fun _ =>
        TotpDb.execute env 1 (TotpDb.deleteMeta ["totp_algorithm", "totp_digits"])) x.1 =
        (.ok (), x.1.setVault (.pages key
          (TotpDb.deleteMeta ["totp_algorithm", "totp_digits"] { db with otpConfig := [] }))) := by
    rw [bind_run_ok (TotpDb.execute_run (hio 0) hconn _), TotpDb.execute_next hio hconn]
  rcases TotpDb.requireCode_bind_cases (P := P) (F := F) (s := x.1)
    (f := fun db => TotpDb.deleteMeta _ { db with otpConfig := [] }) code hremoved with
    ⟨e, hrun⟩ | ⟨vmk, key, db, hconn, -, hrun⟩
  · have hserve : serveTotp P J F ⟨env, .remove code⟩ x.1 = (.error e, x.1) := bind_run_error hrun
    rw [ledgerStep_of_run hserve]
    exact h
  · have hserve : serveTotp P J F ⟨env, .remove code⟩ x.1 = logAction P env "TOTP_DISABLE"
        (x.1.setVault (.pages key
          (TotpDb.deleteMeta ["totp_algorithm", "totp_digits"] { db with otpConfig := [] }))) :=
      bind_run_ok hrun
    rw [ledgerStep_of_run hserve]
    constructor
    · show (rows totpRows (logAction P env "TOTP_DISABLE" _).2).1 = []
      rw [logAction_keeps_rows totpRows_spared]
      rfl
    · show some Transition.remove = some .confirm ↔ (none : Option TotpSecret).isSome = true
      decide

end

theorem unlock_inStep (h : InStep P x) (password : Bytes) (yk : Option (Block 20))
    (totpCode : Option String) (uid : UInt32) :
    InStep P (ledgerStep P J F x ⟨env, .unlock password yk totpCode uid⟩) := by
  have hrows : RowsOrGone totpRows x.1
      (serveTotp P J F ⟨env, .unlock password yk totpCode uid⟩ x.1).2 := by
    have hhandle : RowsOrGone totpRows x.1 (handleUnlock P J F env password yk totpCode uid x.1).2 :=
      handleUnlock_rows totpRows_spared totpCode
    show RowsOrGone totpRows x.1 ((handleUnlock P J F env password yk totpCode uid >>= fun _ =>
      pure ()) x.1).2
    rw [bind_run]
    cases hrun : handleUnlock P J F env password yk totpCode uid x.1 with
    | mk r t =>
      rw [hrun] at hhandle
      cases r <;> exact hhandle
  cases hserve : serveTotp P J F ⟨env, .unlock password yk totpCode uid⟩ x.1 with
  | mk r t =>
    rw [hserve] at hrows
    rw [ledgerStep_of_run hserve]
    have hrecord : x.2.record x.1 (.unlock password yk totpCode uid) (r, t) =
        if t.disk.vault.isNone then .new else x.2 := by
      cases r <;> rfl
    rw [hrecord]
    cases hv : t.disk.vault with
    | none =>
      -- the vault was wiped, or was never there
      constructor
      · show (rowsOf totpRows t.disk.vault).1 = []
        rw [hv]
        rfl
      · show Ledger.new.last = some .confirm ↔ Ledger.new.confirmed.isSome = true
        decide
    | some file =>
      rcases hrows with hkept | hgone
      · refine ⟨?_, h.last⟩
        show Stores P (rows totpRows t) x.2.stored
        rw [hkept]
        exact h.stores
      · rw [hv] at hgone
        cases hgone

theorem inStep_step (h : InStep P x) (hok : AllConfirmed x call) :
    InStep P (ledgerStep P J F x call) := by
  obtain ⟨env, request⟩ := call
  cases request with
  | setup draws => exact setup_inStep h hok draws
  | confirm code => exact confirm_inStep h hok code
  | remove code => exact remove_inStep h hok code
  | unlock password yk totpCode uid => exact unlock_inStep h password yk totpCode uid

/-! ## The gate -/

section Gate

variable {password : Bytes} {yk : Option (Block 20)} {uid : UInt32} {session : Session}

/-- **The gate goes by what is stored**, confirmed or not: a code is asked for if there is a secret,
and is compared with it. -/
theorem gate_of_inStep (hP : P.Ideal) (hx : InStep P x)
    (h : unlock P J env password yk uid x.1 = (.ok session, t)) :
    ((handleUnlock P J F env password yk none uid x.1).1 =
        .error (.err (.auth "TOTP code required")) ↔ x.2.stored.isSome) ∧
      ∀ code, code ≠ "" →
        ((handleUnlock P J F env password yk (some code) uid x.1).1 = .ok session ↔
          ∀ secret ∈ x.2.stored, t.vmk = some secret.vmk ∧
            Totp.verify F env.nowSecs secret.secretB32 code 8 = .ok true) := by
  obtain ⟨vmk, key, db, hvmk, hconn⟩ := unlock_opens h
  have hrows : rows totpRows x.1 = totpRows db := by
    rw [← unlock_ok_rows totpRows_spared h, rows_connection hconn]
  have hstores : Stores P (totpRows db) x.2.stored := hrows ▸ hx.stores
  -- whether a code is asked for, and what it is compared with, are both up to the row
  have hactive := hstores.isActive
  cases hstored : x.2.stored with
  | none =>
    rw [hstored] at hactive
    have hgranted : ∀ totpCode, (handleUnlock P J F env password yk totpCode uid x.1).1 =
        .ok session := by
      intro totpCode
      rw [handleUnlock_granted_iff h, checkTotp_eq hvmk hconn, hactive]
      rfl
    constructor
    · rw [hgranted]
      simp
    · intro code hcode
      rw [hgranted]
      simp
  | some secret =>
    rw [hstored] at hactive hstores
    constructor
    · refine iff_of_true (handleUnlock_refused h ?_) rfl
      rw [checkTotp_eq hvmk hconn, hactive]
      rfl
    · intro code hcode
      rw [handleUnlock_granted_iff h, checkTotp_eq hvmk hconn, hactive]
      simp only [isSome_some, if_true, getD_some, if_neg hcode]
      rw [hstores.verifyCode_iff hP, hvmk]
      simp

end Gate

/-- **TOTP is mandatory exactly once it is confirmed**, along every run in which no statement fails
and nobody unlocks while a setup awaits its confirmation. -/
theorem totp_of_run (hP : P.Ideal) (hs : (rows totpRows s).1 = []) {calls : List TotpCall}
    (hok : Along (ledgerStep P J F) (s, .new) calls AllConfirmed) {before after : List TotpCall}
    {password : Bytes} {yk : Option (Block 20)} {totpCode : Option String} {uid : UInt32}
    (hcalls : calls = before ++ ⟨env, .unlock password yk totpCode uid⟩ :: after)
    {session : Session}
    (h : unlock P J env password yk uid (run (ledgerStep P J F) (s, .new) before).1 =
      (.ok session, t)) :
    ((handleUnlock P J F env password yk none uid (run (ledgerStep P J F) (s, .new) before).1).1 =
        .error (.err (.auth "TOTP code required")) ↔
      (run (ledgerStep P J F) (s, .new) before).2.last = some .confirm) ∧
    ∀ code, code ≠ "" →
      ((handleUnlock P J F env password yk (some code) uid
          (run (ledgerStep P J F) (s, .new) before).1).1 = .ok session ↔
        ∀ secret ∈ (run (ledgerStep P J F) (s, .new) before).2.confirmed,
          t.vmk = some secret.vmk ∧ Totp.verify F env.nowSecs secret.secretB32 code 8 = .ok true) := by
  subst hcalls
  have hstart : InStep P (s, Ledger.new) := by
    constructor
    · exact hs
    · show Ledger.new.last = some .confirm ↔ Ledger.new.confirmed.isSome = true
      decide
  have hinv : InStep P (run (ledgerStep P J F) (s, .new) before) :=
    Visits.invariant hstart hok (fun _ _ _ hsettled hx => inStep_step hx hsettled)
      ⟨before, List.prefix_append _ _, rfl⟩
  -- nothing awaits its confirmation, so what is stored is what was confirmed
  have hpending : (run (ledgerStep P J F) (s, .new) before).2.pending = none :=
    hok before _ after rfl
  have hstored : (run (ledgerStep P J F) (s, .new) before).2.stored =
      (run (ledgerStep P J F) (s, .new) before).2.confirmed := by
    rw [Ledger.stored, hpending, none_or]
  rw [hinv.last, ← hstored]
  exact gate_of_inStep hP hinv h

/-! ### On the symbolic vault -/

/-- An open vault with the rows `db`. -/
def totpVault (db : Database) : DaemonState := openedVault (spelledHeader (utf8 "password") 0) db

/-- No audit row is written. -/
def totpEnv : Env := { symbolicEnv 2 2 with auditTs := fun _ => none }

def setupOf (secretB32 : String) : TotpCall :=
  ⟨totpEnv, .setup ⟨secretB32, .replicate 12 2, [], fun _ => none, .replicate 12 2, "totp"⟩⟩

def confirmWith (code : String) : TotpCall := ⟨totpEnv, .confirm code⟩

def unlockWith (totpCode : Option String) : TotpCall :=
  ⟨totpEnv, .unlock (utf8 "password") none totpCode 1000⟩

def totpStep : DaemonState × Ledger → TotpCall → DaemonState × Ledger :=
  ledgerStep symbolic spelledSerde symbolicFactors

theorem totpEnv_quiet : totpEnv.Quiet := fun _ => rfl

/-- The session that the unlock ends in. -/
def totpSession : Session :=
  ⟨"token", (spelledHeader [] 0).vaultUuid, 1000, 2, 2 + defaultTtlSecs, 2 + absoluteTtlSecs⟩

theorem totp_of_run_confirmed :
    let s := (run totpStep (totpVault symbolicDb, .new) [setupOf "A", confirmWith "A"]).1
    ∃ session, (handleUnlock symbolic spelledSerde symbolicFactors totpEnv (utf8 "password") none
        none 1000 s).1 = .error (.err (.auth "TOTP code required")) ∧
      (handleUnlock symbolic spelledSerde symbolicFactors totpEnv (utf8 "password") none
        (some "A") 1000 s).1 = .ok session := by
  intro s
  have h : unlock symbolic spelledSerde totpEnv (utf8 "password") none 1000 s =
      (.ok totpSession, _) :=
    ((opensHeader_spelled totpEnv_quiet rfl rfl).unlock 1000).trans
      (eq_mk_of_fst (by decide +kernel))
  have hpending : (run totpStep (totpVault symbolicDb, .new)
      [setupOf "A", confirmWith "A"]).2.pending = none := by decide +kernel
  have hok : Along totpStep (totpVault symbolicDb, .new)
      [setupOf "A", confirmWith "A", unlockWith none] AllConfirmed :=
    along_cons (fun _ => rfl) (along_cons (fun _ => rfl) (along_cons hpending (along_nil _)))
  have hcalls : [setupOf "A", confirmWith "A", unlockWith none] =
      [setupOf "A", confirmWith "A"] ++
        ⟨totpEnv, .unlock (utf8 "password") none none 1000⟩ :: [] := rfl
  obtain ⟨hdemand, hcode⟩ := totp_of_run symbolic_ideal rfl hok hcalls h
  refine ⟨totpSession, hdemand.mpr ?_, (hcode "A" (by decide)).mpr ?_⟩
  · decide +kernel
  · decide +kernel

/-- A setup that nobody confirms, in a vault without TOTP, -/
def abandonedSetup : DaemonState × Ledger :=
  run totpStep (totpVault symbolicDb, .new) [setupOf "B"]

/-- and in a vault where another secret was confirmed before. -/
def replacedSetup : DaemonState × Ledger :=
  run totpStep (totpVault symbolicDb, .new) [setupOf "A", confirmWith "A", setupOf "B"]

/-- A code is demanded although no setup was ever confirmed; and the confirmed secret is refused
while the other one is granted. -/
theorem abandoned_setup_counts :
    (abandonedSetup.2.last = none ∧
      (∃ session t, unlock symbolic spelledSerde totpEnv (utf8 "password") none 1000
        abandonedSetup.1 = (.ok session, t)) ∧
      (handleUnlock symbolic spelledSerde symbolicFactors totpEnv (utf8 "password") none none 1000
        abandonedSetup.1).1 = .error (.err (.auth "TOTP code required"))) ∧
    replacedSetup.2.confirmed = some ⟨"A", symbolicVmk⟩ ∧
      ∃ session t, unlock symbolic spelledSerde totpEnv (utf8 "password") none 1000
          replacedSetup.1 = (.ok session, t) ∧ t.vmk = some symbolicVmk ∧
        (handleUnlock symbolic spelledSerde symbolicFactors totpEnv (utf8 "password") none
          (some "A") 1000 replacedSetup.1).1 ≠ .ok session ∧
        (handleUnlock symbolic spelledSerde symbolicFactors totpEnv (utf8 "password") none
          (some "B") 1000 replacedSetup.1).1 = .ok session := by
  have hab : OpensHeader symbolic spelledSerde totpEnv (utf8 "password") none abandonedSetup.1 _ _ :=
    opensHeader_spelled totpEnv_quiet rfl rfl
  have hre : OpensHeader symbolic spelledSerde totpEnv (utf8 "password") none replacedSetup.1 _ _ :=
    opensHeader_spelled totpEnv_quiet rfl rfl
  refine ⟨⟨by decide +kernel, ⟨totpSession, _, (hab.unlock 1000).trans (eq_mk_of_fst ?_)⟩, ?_⟩,
    by decide +kernel, totpSession, _, (hre.unlock 1000).trans (eq_mk_of_fst ?_), ?_, ?_, ?_⟩
  · decide +kernel
  · refine (congrArg (·.1) (handleUnlock_eq hab _)).trans ?_
    decide +kernel
  · decide +kernel
  · decide +kernel
  · refine ne_of_eq_of_ne (congrArg (·.1) (handleUnlock_eq hre _)) ?_
    decide +kernel
  · refine (congrArg (·.1) (handleUnlock_eq hre _)).trans ?_
    decide +kernel

end PwdNow.Daemon
