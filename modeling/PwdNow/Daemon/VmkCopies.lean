import PwdNow.Daemon.FailedChange
import PwdNow.Daemon.QuickUnlock
import PwdNow.Daemon.Recovery

/-!
# Daemon — the copies of the VMK in the header

A header holds the VMK several times: wrapped under the password, under the recovery key, and under
the key of every passkey. A run is followed together with the secret that each copy was last
enrolled with (`Enrolled`); a copy is current when that secret opens it to the VMK whose key opens
the database. `change_password` draws a new VMK, wraps it under the new password and drops the
passkeys, but leaves the recovery copy. That apart, and apart from a change that fails after the
pages are re-keyed, every request keeps the copies current.
-/

namespace PwdNow.Daemon

open Kit Kit.Fallible Option

/-! ## Secrets and requests -/

/-- The secrets that the copies in the header were enrolled with. -/
structure Enrolled where
  password : Bytes
  yk : Option (Block 20)
  recoveryKey : Bytes
  /-- by credential id in hex: the authenticator data and the id -/
  passkey : String → Bytes × Bytes

open Enrolled

inductive VaultRequest where
  | unlock (env : Env) (password : Bytes) (yk : Option (Block 20)) (uid : UInt32)
  | lock
  | changePassword (env : Env) (old new : Bytes) (yk : Option (Block 20)) (uid : UInt32)
  | enrollRecoveryKey (env : Env) (recoveryKey : Bytes)
  | registerPasskey (env : Env) (authData cid pubKeyCbor : Bytes)

/-- Everything that `encrypted_vmk` is opened with, apart from the password. -/
def VaultHeader.wrapping (header : VaultHeader) : String × KdfParams × String × String :=
  (header.argon2Salt, header.params, header.encryptedVmk, header.vmkNonce)

/-- The other copies, and what they are opened with. -/
def VaultHeader.copies (header : VaultHeader) :
    UInt8 × Option RecoveryKeySidecarEntry × List PasskeySidecarEntry :=
  (header.kemSuite, header.recoveryKeyCopy, header.passkeyCredentials)

def DaemonState.header (s : DaemonState) : Option VaultHeader :=
  match s.disk.sidecar with
  | some (.ok header) => some header
  | _ => none

/-- A request that leaves another copy behind has enrolled it with its own secret; so has one
that creates the vault. -/
def Enrolled.after (g : Enrolled) (request : VaultRequest) (s t : DaemonState) : Enrolled :=
  match request with
  | .unlock _ password yk _ =>
    if s.disk.vault.isNone ∨ t.header.map (·.wrapping) ≠ s.header.map (·.wrapping) then
      { g with password := password, yk := yk }
    else g
  | .lock => g
  | .changePassword _ _ new yk _ =>
    if t.header.map (·.wrapping) ≠ s.header.map (·.wrapping) then
      { g with password := new, yk := yk }
    else g
  | .enrollRecoveryKey _ recoveryKey =>
    if t.header.map (·.copies) ≠ s.header.map (·.copies) then
      { g with recoveryKey := recoveryKey }
    else g
  | .registerPasskey _ authData cid _ =>
    if t.header.map (·.copies) ≠ s.header.map (·.copies) then
      { g with passkey := Function.update g.passkey (hexEncode cid) (authData, cid) }
    else g

section

variable (P : Primitives) (J : Serde) (W : Webauthn)

/-- What a request leaves, whether it returns `Ok`, `Err` or panics. -/
def VaultRequest.run (request : VaultRequest) (s : DaemonState) : DaemonState :=
  match request with
  | .unlock env password yk uid => (Daemon.unlock P J env password yk uid s).2
  | .lock => Daemon.lock s
  | .changePassword env old new yk uid => (Daemon.changePassword P J env old new yk uid s).2
  | .enrollRecoveryKey env recoveryKey => (Daemon.enrollRecoveryKey P J env recoveryKey s).2
  | .registerPasskey env authData cid pubKeyCbor =>
    (Daemon.registerPasskey P J W env authData cid pubKeyCbor s).2

def copiesStep (sg : DaemonState × Enrolled) (request : VaultRequest) : DaemonState × Enrolled :=
  let t := request.run P J W sg.1
  (t, sg.2.after request sg.1 t)

/-- Every copy in the header is opened by its secret, and holds `vmk`. -/
structure CopiesOpen (g : Enrolled) (header : VaultHeader) (vmk : Block 32) : Prop where
  password : unwrapVmk P (.ok ()) header g.password g.yk = .ok vmk.bytes
  recoveryKey : ∀ entry ∈ header.recoveryKeyCopy,
    openRecoveryCopy P (.ok ()) entry g.recoveryKey = .ok vmk.bytes
  passkeys : ∀ entry ∈ header.passkeyCredentials,
    openPasskeyCopy P W header.kemSuite entry (g.passkey entry.credentialIdHex).1
      (g.passkey entry.credentialIdHex).2 = .ok vmk.bytes

/-- Where there is a header and a database, every copy in the one holds the VMK that opens the
other. -/
def CopiesCurrent (s : DaemonState) (g : Enrolled) : Prop :=
  ∀ header file, s.disk.sidecar = some (.ok header) → s.disk.vault = some file →
    ∃ vmk db, CopiesOpen P W g header vmk ∧
      file.unlockedBy (sqlcipherKey P vmk.bytes) = .ok db

/-- No password is changed while a recovery key is enrolled (unless the draw of the new VMK
repeats the old one), no change fails after the pages are re-keyed, and no wipe stops after the
header is sanitised. -/
def Careful (s : DaemonState) (request : VaultRequest) : Prop :=
  match request with
  | .unlock env _ _ _ => ¬ WipeStops env
  | .changePassword env _ _ _ _ =>
    ¬ WipeStops env ∧ (env.io .rekey = .ok () → FinishesChange env) ∧
      ∀ header, s.disk.sidecar = some (.ok header) →
        header.recoveryKeyCopy = none ∨ s.vmk = some env.vmk
  | _ => True

end

section

variable {P : Primitives} {J : Serde} {W : Webauthn} {env : Env} {s t : DaemonState}
  {g : Enrolled} {header header' : VaultHeader} {vmk vmk' : Block 32}
  {password password' : Bytes} {yk yk' : Option (Block 20)} {uid : UInt32}

/-! ## Headers -/

variable {alloc : Except VaultError Unit}

theorem header_of_sidecar (h : s.disk.sidecar = some (.ok header)) : s.header = some header := by
  rw [DaemonState.header, h]

@[simp] theorem header_setSidecar : (s.setSidecar header).header = some header := rfl

theorem stamped_wrapping (k : Option (Block 32)) :
    (header.stamped P J k).wrapping = header.wrapping := by
  cases k <;> rfl

theorem stamped_copies (k : Option (Block 32)) : (header.stamped P J k).copies = header.copies := by
  cases k <;> rfl

theorem unwrapVmk_congr (h : header'.wrapping = header.wrapping) :
    unwrapVmk P alloc header' password yk = unwrapVmk P alloc header password yk := by
  simp only [VaultHeader.wrapping, Prod.mk.injEq] at h
  obtain ⟨hsalt, hparams, hvmk, hnonce⟩ := h
  simp only [unwrapVmk, wrappedVmk, hsalt, hparams, hvmk, hnonce]

theorem unwrapVmk_unique (hP : P.Ideal) {alloc' : Except VaultError Unit} {plain plain' : Bytes}
    (h : unwrapVmk P alloc header password yk = .ok plain)
    (h' : unwrapVmk P alloc' header password' yk' = .ok plain') : plain = plain' := by
  obtain ⟨kek, hkek⟩ := unwrapVmkWith_of_unwrapVmk h
  obtain ⟨kek', hkek'⟩ := unwrapVmkWith_of_unwrapVmk h'
  exact unwrapVmkWith_unique hP hkek hkek'

theorem CopiesOpen.congr (h : CopiesOpen P W g header vmk)
    (hwrapping : header'.wrapping = header.wrapping) (hcopies : header'.copies = header.copies) :
    CopiesOpen P W g header' vmk := by
  simp only [VaultHeader.copies, Prod.mk.injEq] at hcopies
  obtain ⟨hsuite, hrecovery, hpasskeys⟩ := hcopies
  refine ⟨?_, ?_, ?_⟩
  · rw [unwrapVmk_congr hwrapping]
    exact h.password
  · rw [hrecovery]
    exact h.recoveryKey
  · rw [hsuite, hpasskeys]
    exact h.passkeys

theorem CopiesOpen.setPassword (h : CopiesOpen P W g header vmk)
    (hopen : unwrapVmk P (.ok ()) header' password yk = .ok vmk.bytes)
    (hcopies : header'.copies = header.copies) :
    CopiesOpen P W { g with password := password, yk := yk } header' vmk := by
  simp only [VaultHeader.copies, Prod.mk.injEq] at hcopies
  obtain ⟨hsuite, hrecovery, hpasskeys⟩ := hcopies
  refine ⟨hopen, ?_, ?_⟩
  · rw [hrecovery]
    exact h.recoveryKey
  · rw [hsuite, hpasskeys]
    exact h.passkeys

/-! ## The invariant -/

/-- The key of `vmk` opens the vault file. -/
def VaultOpens (P : Primitives) (vmk : Block 32) (s : DaemonState) : Prop :=
  ∃ file db, s.disk.vault = some file ∧ file.unlockedBy (sqlcipherKey P vmk.bytes) = .ok db

/-- The copies are current, and so is the VMK in memory. -/
def Sound (P : Primitives) (W : Webauthn) (s : DaemonState) (g : Enrolled) : Prop :=
  s.disk.vault = none ∨ s.disk.sidecar = none ∨
    ∃ header vmk, s.disk.sidecar = some (.ok header) ∧ CopiesOpen P W g header vmk ∧
      VaultOpens P vmk s ∧ (s.vmk = none ∨ s.vmk = some vmk)

theorem Sound.copiesCurrent (h : Sound P W s g) : CopiesCurrent P W s g := by
  intro header file hs hv
  rcases h with hnone | hnone | ⟨header', vmk, hs', hopen, ⟨file', db, hv', hdb⟩, -⟩
  · rw [hnone] at hv
    cases hv
  · rw [hnone] at hs
    cases hs
  · rw [hs] at hs'
    cases hs'
    rw [hv] at hv'
    cases hv'
    exact ⟨vmk, db, hopen, hdb⟩

theorem Sound.of_files (h : Sound P W s g) (hdisk : t.disk = s.disk)
    (hvmk : t.vmk = s.vmk ∨ t.vmk = none) : Sound P W t g := by
  rcases h with hnone | hnone | ⟨header, vmk, hs, hopen, ⟨file, db, hv, hdb⟩, hmem⟩
  · exact .inl (by rw [hdisk, hnone])
  · exact .inr (.inl (by rw [hdisk, hnone]))
  · refine .inr (.inr ⟨header, vmk, by rw [hdisk, hs], hopen, ⟨file, db, by rw [hdisk, hv], hdb⟩, ?_⟩)
    rcases hvmk with hsame | hlocked
    · rw [hsame]
      exact hmem
    · exact .inl hlocked

/-! ## Unlocking -/

variable {key : Block 32} {db : Database} {kek : Block 64}

/-- What is left of the files after a request: all of it, or not both of them. -/
def Settled (t t' : DaemonState) : Prop :=
  (t.disk = t'.disk ∧ (t.vmk = t'.vmk ∨ t.vmk = none)) ∨ t.disk.sidecar = none ∨
    t.disk.vault = none

theorem Settled.sound (h : Settled t s) (hs : Sound P W s g) : Sound P W t g := by
  rcases h with ⟨hdisk, hvmk⟩ | hsidecar | hvault
  · exact hs.of_files hdisk hvmk
  · exact .inr (.inl hsidecar)
  · exact .inl hvault

theorem unlock_settled (hstops : ¬ WipeStops env) :
    ∃ s', s'.disk = s.disk ∧ s'.vmk = s.vmk ∧
      ((unlock P J env password yk uid s).2 = s' ∨ ∃ t',
        t' = (if s.disk.vault.isSome then unlockExisting P J env password yk uid s'
          else createAndUnlock P J env password yk uid s').2 ∧
        Settled (unlock P J env password yk uid s).2 t') := by
  cases hpass : admitUnlock env password uid s with
  | mk r s' =>
    have hkept := (admitUnlock_keeps (f := fun s : DaemonState => (s.disk, s.vmk))
      (fun _ _ => rfl) fun _ _ => rfl).eq hpass
    obtain ⟨hdisk, hvmk⟩ := Prod.mk.inj hkept
    refine ⟨s', hdisk, hvmk, ?_⟩
    cases r with
    | error e =>
      left
      rw [unlock, bind_run_error hpass]
    | ok present =>
      right
      obtain ⟨rfl, -⟩ := admitUnlock_ok hpass
      have hinner : (if s.disk.vault.isSome then unlockExisting P J env password yk uid
          else createAndUnlock P J env password yk uid) s' =
          (if s.disk.vault.isSome then unlockExisting P J env password yk uid s'
            else createAndUnlock P J env password yk uid s') := by
        split <;> rfl
      refine ⟨_, rfl, ?_⟩
      rw [unlock, bind_run_ok hpass, ← hinner, bind_run, attemptErr]
      cases (if s.disk.vault.isSome then unlockExisting P J env password yk uid
          else createAndUnlock P J env password yk uid) s' with
      | mk r t' =>
        cases r with
        | ok session => exact .inl ⟨rfl, .inl rfl⟩
        | error e =>
          cases e with
          | abort site => exact .inl ⟨rfl, .inl rfl⟩
          | err e =>
            -- the failure is recorded, and may wipe
            show Settled ((recordFailedUnlock env uid >>= fun _ =>
              (throw (Failure.err e) : Call Session)) t').2 t'
            rw [recordFailedUnlock_throw]
            exact recordFailedUnlock_disk hstops uid t'

/-- In the course of an unlock: the copies are as `header` has them, and the password opens
the wrapping if it is another one by now. -/
structure Entering (P : Primitives) (header : VaultHeader) (vmk : Block 32) (password : Bytes)
    (yk : Option (Block 20)) (s : DaemonState) : Prop where
  header : ∃ header', s.disk.sidecar = some (.ok header') ∧ header'.copies = header.copies ∧
    (header'.wrapping = header.wrapping ∨
      unwrapVmk P (.ok ()) header' password yk = .ok vmk.bytes)
  vault : VaultOpens P vmk s
  memory : s.vmk = none ∨ s.vmk = some vmk

theorem unlockedBy_pages : (VaultFile.pages key db).unlockedBy key = .ok db := if_pos rfl

theorem Entering.setVault (h : Entering P header vmk password yk s) {file : VaultFile}
    (hfile : file.unlockedBy (sqlcipherKey P vmk.bytes) = .ok db) :
    Entering P header vmk password yk (s.setVault file) :=
  ⟨h.header, ⟨file, db, rfl, hfile⟩, h.memory⟩

theorem VaultOpens.key_eq (h : VaultOpens P vmk s) (hv : s.disk.vault = some (.pages key db)) :
    key = sqlcipherKey P vmk.bytes := by
  obtain ⟨file, db', hfile, hopen⟩ := h
  rw [hv] at hfile
  cases hfile
  rw [VaultFile.unlockedBy] at hopen
  by_contra hne
  rw [if_neg hne] at hopen
  cases hopen

theorem openDatabase_entering :
    Preserves (Entering P header vmk password yk) (openDatabase P J env vmk) := by
  have hrows : ∀ f, Preserves (Entering P header vmk password yk) (onDatabase f) := by
    refine fun f => onDatabase_preserves fun s key db db' hs hv _ => ?_
    rw [hs.vault.key_eq hv]
    exact hs.setVault unlockedBy_pages
  refine .bind ?_ fun _ => (hrows _).bind fun _ => (Preserves.gets _).bind fun _ => hrows _
  exact openVault_preserves (fun s hs _ => hs.setVault rfl)
    (fun s _ _ hs _ _ => hs.setVault unlockedBy_pages) env

theorem rewrapVmkWithCurrentKdf_entering (hP : P.Ideal) :
    Preserves (Entering P header vmk password yk)
      (rewrapVmkWithCurrentKdf P J env password yk vmk) := by
  refine (Preserves.lift _).bind_ok fun s kek t hs hderive _ => ?_
  obtain ⟨hkek, rfl⟩ := lift_eq_ok.mp hderive
  refine readHeader_preserves.bind_ok (fun s stored t hs hread _ => ?_) _ hs
  obtain ⟨-, hstored, rfl⟩ := readHeader_eq_ok.mp hread
  have hopen : ∀ k, unwrapVmk P (.ok ()) ((stored.wrap P env.rewrapSalt env.tuned kek
      env.rewrapNonce vmk).stamped P J k) password yk = .ok vmk.bytes := by
    intro k
    rw [unwrapVmk_congr (stamped_wrapping k)]
    exact unwrapVmk_wrap hP ⟨rfl, rfl, rfl, rfl⟩ hkek
  obtain ⟨header', hheader', hcopies, -⟩ := hs.header
  rw [hstored] at hheader'
  cases hheader'
  refine writeHeader_preserves (fun s hs => ⟨⟨_, rfl, ?_, .inr (hopen s.vmk)⟩, hs.vault, hs.memory⟩) _ hs
  rw [stamped_copies]
  exact hcopies

/-- **Entering the vault** renews the wrapping at most, under the password presented. -/
theorem enterVault_entering (hP : P.Ideal) :
    Preserves (Entering P header vmk password yk)
      (enterVault P J env password yk uid header vmk) := by
  refine openDatabase_entering.bind fun _ => .bind ?_ fun ticket => .bind ?_
    fun _ => .bind (.modify ?_) fun _ => ?_
  · unfold ensureWipeTicket
    refine .ite (.bind ?_ fun _ => .pure _) (.pure _)
    refine writeHeader_preserves (fun s hs => ⟨⟨_, rfl, ?_, .inl ?_⟩, hs.vault, hs.memory⟩)
    · rw [stamped_copies]
      rfl
    · rw [stamped_wrapping]
      rfl
  · unfold migrateKdf
    exact .ite ((attemptErr_preserves (rewrapVmkWithCurrentKdf_entering hP)).bind
      fun _ => .pure _) (.pure _)
  · intro s hs
    exact ⟨hs.header, hs.vault, .inr rfl⟩
  · intro s hs
    unfold createSession
    split <;> exact ⟨hs.header, hs.vault, hs.memory⟩

theorem unlockExisting_no_sidecar (hs : s.disk.sidecar = none) :
    (unlockExisting P J env password yk uid s).2 = s := by
  rw [unlockExisting, bind_run]
  cases hopen : openHeader P J env password yk s with
  | mk r t =>
    obtain rfl := openHeader_keeps.same hopen
    cases r with
    | error e => rfl
    | ok opened =>
      obtain ⟨header', vmk'⟩ := opened
      obtain ⟨-, hs', -⟩ := openHeader_ok hopen
      rw [hs] at hs'
      cases hs'

theorem unlockExisting_entering (hP : P.Ideal) {secret : Bytes} {response : Option (Block 20)}
    (hsecret : unwrapVmk P (.ok ()) header secret response = .ok vmk.bytes)
    (hs : s.disk.sidecar = some (.ok header)) (hv : VaultOpens P vmk s)
    (hmem : s.vmk = none ∨ s.vmk = some vmk) :
    Entering P header vmk password yk (unlockExisting P J env password yk uid s).2 := by
  have hstart : Entering P header vmk password yk s := ⟨⟨header, hs, rfl, .inl rfl⟩, hv, hmem⟩
  rw [unlockExisting, bind_run]
  cases hopen : openHeader P J env password yk s with
  | mk r t =>
    obtain rfl := openHeader_keeps.same hopen
    cases r with
    | error e => exact hstart
    | ok opened =>
      obtain ⟨header', vmk'⟩ := opened
      obtain ⟨-, hs', -, hunwrap, -⟩ := openHeader_ok hopen
      rw [hs] at hs'
      cases hs'
      -- the wrapping holds one VMK
      obtain rfl : vmk' = vmk := Block.bytes_inj (unwrapVmk_unique hP hunwrap hsecret)
      exact enterVault_entering hP _ hstart

theorem Entering.sound (h : Entering P header vmk password yk t)
    (hopen : CopiesOpen P W g header vmk) (hs : s.disk.sidecar = some (.ok header))
    (hv : s.disk.vault.isNone = false) {u : DaemonState} (hsettled : Settled u t) :
    Sound P W u (g.after (.unlock env password yk uid) s u) := by
  rcases hsettled with ⟨hdisk, hvmk⟩ | hsidecar | hvault
  · obtain ⟨header', hs', hcopies, hwrapping⟩ := h.header
    have hsu : u.disk.sidecar = some (.ok header') := by rw [hdisk, hs']
    simp only [after, hv, header_of_sidecar hs, header_of_sidecar hsu, map_some,
      ne_eq, some.injEq, Bool.false_eq_true, false_or]
    have ht : ∀ g', CopiesOpen P W g' header' vmk → Sound P W u g' := fun g' hg' =>
      Sound.of_files (.inr (.inr ⟨header', vmk, hs', hg', h.vault, h.memory⟩)) hdisk hvmk
    by_cases hsame : header'.wrapping = header.wrapping
    · rw [if_neg (not_not_intro hsame)]
      exact ht g (hopen.congr hsame hcopies)
    · rw [if_pos hsame]
      exact ht _ (hopen.setPassword (hwrapping.resolve_left hsame) hcopies)
  · exact .inr (.inl hsidecar)
  · exact .inl hvault

/-- In the course of a creation, from the moment that the header is written. -/
structure Creating (P : Primitives) (env : Env) (kek : Block 64) (s : DaemonState) : Prop where
  header : ∃ header, s.disk.sidecar = some (.ok header) ∧
    header.wrapping = (freshHeader P env kek).wrapping ∧
    header.copies = (freshHeader P env kek).copies
  vault : s.disk.vault = none ∨ VaultOpens P env.vmk s
  memory : s.vmk = some env.vmk

theorem createAndUnlock_creating (hv : s.disk.vault = none) :
    (createAndUnlock P J env password yk uid s).2.disk.vault = none ∨
      ∃ kek, deriveKek P (env.io (.kdfMemory .request)) password yk env.salt env.tuned = .ok kek ∧
        Creating P env kek (createAndUnlock P J env password yk uid s).2 := by
  cases hderive : deriveKek P (env.io (.kdfMemory .request)) password yk env.salt env.tuned with
  | error e =>
    left
    rw [createAndUnlock, hderive, bind_run_error (lift_run _ s)]
    exact hv
  | ok kek =>
    rw [createAndUnlock, hderive, bind_run_ok (lift_run _ s)]
    cases hkey : env.io .lockedKey with
    | error e =>
      left
      rw [bind_run_error (at_run_error hkey)]
      exact hv
    | ok _ =>
      rw [bind_run_ok (at_run_ok hkey s), bind_run_ok (modify_run _ s)]
      -- the header is written, and from then on the vault can only be opened
      have hrest : Preserves (Creating P env kek) (do
          openVault env (sqlcipherKey P env.vmk.bytes)
          modify fun s =>
            { s with
              dbOpen := true
              vaultUuid := some env.uuid
              wipeTicket := some env.wipeTicket.bytes }
          createSession env env.uuid uid : Call Session) := by
        refine .bind ?_ fun _ => .bind (.modify ?_) fun _ => ?_
        · exact openVault_preserves
            (fun s hs _ => ⟨hs.header, .inr ⟨.empty, .empty, rfl, rfl⟩, hs.memory⟩)
            (fun s _ db hs _ _ => ⟨hs.header, .inr ⟨_, db, rfl, unlockedBy_pages⟩, hs.memory⟩) env
        · intro s hs
          exact ⟨hs.header, hs.vault, hs.memory⟩
        · intro s hs
          unfold createSession
          split <;> exact ⟨hs.header, hs.vault, hs.memory⟩
      cases hwrite : writeHeader P J env .request (freshHeader P env kek)
          { s with vmk := some env.vmk } with
      | mk r u =>
        cases r with
        | error e =>
          left
          rw [bind_run_error hwrite]
          rcases writeHeader_eq_error hwrite with ⟨-, rfl⟩ | ⟨-, rfl⟩
          · exact hv
          · exact hv
        | ok _ =>
          right
          obtain ⟨-, -, rfl⟩ := writeHeader_eq_ok.mp hwrite
          refine ⟨kek, rfl, ?_⟩
          rw [bind_run_ok hwrite]
          exact hrest _ ⟨⟨_, rfl, stamped_wrapping _, stamped_copies _⟩, .inl hv, rfl⟩

theorem Creating.sound (hP : P.Ideal)
    (hkek : deriveKek P alloc password yk env.salt env.tuned = .ok kek) (h : Creating P env kek s) :
    Sound P W s { g with password := password, yk := yk } := by
  rcases h.vault with hnone | hvault
  · exact .inl hnone
  · obtain ⟨header, hs, hwrapping, hcopies⟩ := h.header
    refine .inr (.inr ⟨header, env.vmk, hs, ⟨?_, ?_, ?_⟩, hvault, .inr h.memory⟩)
    · rw [unwrapVmk_congr hwrapping]
      exact unwrapVmk_wrap hP ⟨rfl, rfl, rfl, rfl⟩ hkek
    · have hnone : header.recoveryKeyCopy = none := congrArg (·.2.1) hcopies
      simp [hnone]
    · have hnone : header.passkeyCredentials = [] := congrArg (·.2.2) hcopies
      simp [hnone]

theorem sound_unlock (hP : P.Ideal) (hstops : ¬ WipeStops env) (h : Sound P W s g) :
    Sound P W (unlock P J env password yk uid s).2
      (g.after (.unlock env password yk uid) s (unlock P J env password yk uid s).2) := by
  obtain ⟨s', hdisk, hvmk, hleft⟩ := unlock_settled hstops
  generalize (unlock P J env password yk uid s).2 = t at hleft ⊢
  cases hv : s.disk.vault with
  | none =>
    have hafter : g.after (.unlock env password yk uid) s t =
        { g with password := password, yk := yk } := by
      simp [after, hv]
    rw [hafter]
    rcases hleft with rfl | ⟨t', ht', hsettled⟩
    · exact .inl (by rw [hdisk, hv])
    · rw [hv, isSome_none, if_neg (by decide)] at ht'
      have hnone : s'.disk.vault = none := by rw [hdisk, hv]
      rcases createAndUnlock_creating hnone with hlost | ⟨kek, hkek, hcreating⟩
      · exact hsettled.sound (.inl (by rw [ht', hlost]))
      · rw [← ht'] at hcreating
        exact hsettled.sound (hcreating.sound hP hkek)
  | some file =>
    have hpresent : s.disk.vault.isNone = false := by rw [hv]; rfl
    rcases h with hnone | hnone | ⟨header, vmk, hs, hopen, hvault, hmem⟩
    · rw [hv] at hnone
      cases hnone
    · rcases hleft with rfl | ⟨t', ht', hsettled⟩
      · exact .inr (.inl (by rw [hdisk, hnone]))
      · rw [hv, isSome_some, if_pos rfl,
          unlockExisting_no_sidecar (by rw [hdisk, hnone])] at ht'
        refine hsettled.sound (.inr (.inl ?_))
        rw [ht', hdisk, hnone]
    · have hs' : s'.disk.sidecar = some (.ok header) := by rw [hdisk, hs]
      have hvault' : VaultOpens P vmk s' := by rw [VaultOpens, hdisk]; exact hvault
      have hmem' : s'.vmk = none ∨ s'.vmk = some vmk := by rw [hvmk]; exact hmem
      rcases hleft with rfl | ⟨t', ht', hsettled⟩
      · -- the request was not admitted
        have hstart : Entering P header vmk password yk t :=
          ⟨⟨header, hs', rfl, .inl rfl⟩, hvault', hmem'⟩
        exact hstart.sound hopen hs hpresent (.inl ⟨rfl, .inl rfl⟩)
      · rw [hv, isSome_some, if_pos rfl] at ht'
        have hentering : Entering P header vmk password yk t' := by
          rw [ht']
          exact unlockExisting_entering hP hopen.password hs' hvault' hmem'
        exact hentering.sound hopen hs hpresent hsettled

/-! ## Changing the password -/

variable {old new : Bytes}

/-- The second half of a change, in an environment where it goes through once the pages are
re-keyed: nothing happens, or everything does. -/
theorem replaceKeys_cases (hfinish : env.io .rekey = .ok () → FinishesChange env)
    (hvmk : s.vmk = some vmk) (hs : s.disk.sidecar = some (.ok header)) :
    (∃ e, replaceKeys P J env kek s = (.error (.err e), s)) ∨
      ∃ key db, s.disk.vault = some (.pages key db) ∧ replaceKeys P J env kek s =
        (.ok (), { s with
          vmk := some env.vmk
          lastActivity := env.nowSecs
          disk := changedDisk P J env kek header vmk db }) := by
  cases hrekey : env.io .rekey with
  | error e =>
    left
    have hfail : rekeyVault env (sqlcipherKey P env.vmk.bytes) s = (.error (.err e), s) :=
      bind_run_error (at_run_error hrekey)
    exact ⟨e, by rw [replaceKeys, bind_run_error hfail]⟩
  | ok _ =>
    -- without pages there is nothing to re-key, and the date cannot be noted
    have hnothing : (∀ key db, s.disk.vault ≠ some (.pages key db)) →
        replaceKeys P J env kek s =
          (.error (.err (.database "unable to open database file")), s) := by
      intro hno
      have hkept : rekeyVault env (sqlcipherKey P env.vmk.bytes) s = (.ok (), s) := by
        rw [rekeyVault, bind_run_ok (at_run_ok hrekey s), modify_run]
        split
        · next key db hv => exact absurd hv (hno key db)
        · rfl
      rw [replaceKeys, bind_run_ok hkept, bind_run_ok (at_run_ok (hfinish hrekey).header.noted s)]
      refine bind_run_error ?_
      unfold onDatabase
      split
      · next key db hv => exact absurd hv (hno key db)
      · rfl
    rcases hv : s.disk.vault with _ | (_ | ⟨key, db⟩)
    · exact .inl ⟨_, hnothing (by simp [hv])⟩
    · exact .inl ⟨_, hnothing (by simp [hv])⟩
    · exact .inr ⟨key, db, rfl, replaceKeys_run hrekey (hfinish hrekey) hvmk hs hv⟩

theorem not_copiesCurrent
    (hcopy : (s.header.bind (·.recoveryKeyCopy)).map (openRecoveryCopy P (.ok ()) · g.recoveryKey) =
      some (.ok vmk.bytes)) (hfile : (s.disk.vault.map fun file =>
      (file.unlockedBy (sqlcipherKey P vmk.bytes)).isOk) = some false) :
    ¬ CopiesCurrent P W s g := by
  intro hcurrent
  obtain ⟨entry, hentry, hopen⟩ := map_eq_some_iff.mp hcopy
  obtain ⟨header, hheader, hentry⟩ := bind_eq_some_iff.mp hentry
  obtain ⟨file, hv, hlocked⟩ := map_eq_some_iff.mp hfile
  have hs : s.disk.sidecar = some (.ok header) := by
    unfold DaemonState.header at hheader
    split at hheader
    · next hs => rw [hs, some.inj hheader]
    · cases hheader
  obtain ⟨vmk', db', hopens, hdb⟩ := hcurrent header file hs hv
  have hstale := hopens.recoveryKey entry hentry
  rw [hopen] at hstale
  obtain rfl : vmk = vmk' := Block.bytes_inj (Except.ok.inj hstale)
  rw [hdb] at hlocked
  cases hlocked

theorem sound_changed (hP : P.Ideal) (hkek : deriveKek P alloc new yk env.salt env.tuned = .ok kek)
    (hopen : CopiesOpen P W g header vmk)
    (hrecovery : header.recoveryKeyCopy = none ∨ env.vmk = vmk)
    (hs : s.disk.sidecar = some (.ok header))
    (hdisk : t.disk = changedDisk P J env kek header vmk db) (hvmk : t.vmk = some env.vmk) :
    Sound P W t (g.after (.changePassword env old new yk uid) s t) := by
  let header' := (changedHeader P env kek header).stamped P J (some vmk)
  have hs' : t.disk.sidecar = some (.ok header') := by rw [hdisk]; rfl
  have hv : VaultOpens P env.vmk t := by
    rw [VaultOpens, hdisk]
    exact ⟨_, _, rfl, unlockedBy_pages⟩
  have hnew : unwrapVmk P (.ok ()) header' new yk = .ok env.vmk.bytes :=
    unwrapVmk_changedHeader hP hkek (some vmk)
  -- the recovery copy is the one that was there
  have hcopy : ∀ entry ∈ header'.recoveryKeyCopy,
      openRecoveryCopy P (.ok ()) entry g.recoveryKey = .ok env.vmk.bytes := by
    intro entry hentry
    have hentry' : header.recoveryKeyCopy = some entry := hentry
    rcases hrecovery with hnone | hsame
    · rw [hnone] at hentry'
      cases hentry'
    · rw [hsame]
      exact hopen.recoveryKey entry hentry'
  have hnone : ∀ entry, entry ∉ header'.passkeyCredentials := fun entry => List.not_mem_nil
  simp only [after, header_of_sidecar hs, header_of_sidecar hs', map_some, ne_eq,
    some.injEq]
  by_cases hsame : header'.wrapping = header.wrapping
  · -- a wrapping with the same text holds the same VMK
    have hold : unwrapVmk P (.ok ()) header' g.password g.yk = .ok vmk.bytes := by
      rw [unwrapVmk_congr hsame]
      exact hopen.password
    have hvmk' : vmk = env.vmk := Block.bytes_inj (unwrapVmk_unique hP hold hnew)
    rw [if_neg (not_not_intro hsame)]
    refine .inr (.inr ⟨header', env.vmk, hs', ⟨?_, hcopy, ?_⟩, hv, .inr hvmk⟩)
    · rw [← hvmk']
      exact hold
    · exact fun entry hentry => absurd hentry (hnone entry)
  · rw [if_pos hsame]
    exact .inr (.inr ⟨header', env.vmk, hs', ⟨hnew, hcopy,
      fun entry hentry => absurd hentry (hnone entry)⟩, hv, .inr hvmk⟩)

theorem authorizeChange_ok (h : authorizeChange P env old new yk s = (.ok kek, t)) :
    t = s ∧ (∃ header vmk, s.disk.sidecar = some (.ok header) ∧ s.vmk = some vmk) ∧
      deriveKek P (env.io (.kdfMemory .newPassword)) new yk env.salt env.tuned = .ok kek := by
  refine ⟨authorizeChange_keeps.same h, ?_⟩
  simp only [authorizeChange, bind_eq_ok, require_eq_ok, lift_eq_ok] at h
  obtain ⟨_, s₁, ⟨-, h₁⟩, _, s₂, ⟨-, h₂⟩, _, s₃, hverify, kek', s₄, ⟨hkek, h₄⟩, hrest⟩ := h
  have h₃ := verifyMasterPasswordInner_keeps.same hverify
  simp only [verifyMasterPasswordInner, bind_eq_ok, require_eq_ok, readHeader_eq_ok] at hverify
  obtain ⟨_, s₅, ⟨-, h₅⟩, header, _, ⟨-, hs, -⟩, -⟩ := hverify
  simp only [reads_eq_ok, okOr_eq_ok, gets_run, pure_run, Prod.mk.injEq, Except.ok.injEq] at hrest
  obtain ⟨vmk, _, ⟨hvmk, -⟩, _, _, -, _, _, -, rfl, -⟩ := hrest
  rw [h₅, h₂, h₁] at hs
  rw [h₄, h₃, h₂, h₁] at hvmk
  exact ⟨⟨header, vmk, hs, hvmk⟩, hkek⟩

theorem changePassword_settled (hstops : ¬ WipeStops env)
    (hfinish : env.io .rekey = .ok () → FinishesChange env) :
    Settled (changePassword P J env old new yk uid s).2 s ∨
      ∃ header vmk kek db, s.disk.sidecar = some (.ok header) ∧ s.vmk = some vmk ∧
        s.disk.vault ≠ none ∧
        deriveKek P (env.io (.kdfMemory .newPassword)) new yk env.salt env.tuned = .ok kek ∧
        (changePassword P J env old new yk uid s).2.disk = changedDisk P J env kek header vmk db ∧
        (changePassword P J env old new yk uid s).2.vmk = some env.vmk := by
  cases hcheck : checkUnlockLockout env uid s with
  | mk r s₁ =>
    have hkeeps : Keeps (fun s : DaemonState => (s.disk, s.vmk)) (checkUnlockLockout env uid) :=
      checkUnlockLockout_keeps fun _ _ => rfl
    obtain ⟨hdisk, hvmk⟩ := Prod.mk.inj (hkeeps.eq hcheck)
    cases r with
    | error e =>
      rw [changePassword, bind_run_error hcheck]
      exact .inl (.inl ⟨hdisk, .inl hvmk⟩)
    | ok _ =>
      rw [changePassword, bind_run_ok hcheck, bind_run, attemptErr, changePasswordInner_eq, bind_run]
      -- a failure that leaves what was there is recorded
      have hrecord : ∀ e : VaultError, Settled ((recordFailedUnlock env uid >>= fun _ =>
          (throw (Failure.err e) : Call Unit)) s₁).2 s := by
        intro e
        rw [recordFailedUnlock_throw]
        have hsettled := recordFailedUnlock_disk hstops uid s₁
        rw [hdisk, hvmk] at hsettled
        exact hsettled
      cases hauth : authorizeChange P env old new yk s₁ with
      | mk r s₂ =>
        cases r with
        | error e =>
          obtain rfl := authorizeChange_keeps.same hauth
          cases e with
          | abort site => exact .inl (.inl ⟨hdisk, .inl hvmk⟩)
          | err e => exact .inl (hrecord e)
        | ok kek =>
          obtain ⟨rfl, ⟨header, vmk, hs, hmem⟩, hkek⟩ := authorizeChange_ok hauth
          simp only
          rcases replaceKeys_cases (P := P) (J := J) hfinish hmem hs with
            ⟨e, herr⟩ | ⟨key, db, hv, hrun⟩
          · rw [herr]
            exact .inl (hrecord e)
          · rw [hrun]
            refine .inr ⟨header, vmk, kek, db, by rw [← hdisk, hs], by rw [← hvmk, hmem], ?_, hkek, rfl,
              rfl⟩
            rw [← hdisk, hv]
            simp

theorem sound_changePassword (hP : P.Ideal) (hstops : ¬ WipeStops env)
    (hfinish : env.io .rekey = .ok () → FinishesChange env)
    (hrecovery : ∀ header, s.disk.sidecar = some (.ok header) → header.recoveryKeyCopy = none ∨
      s.vmk = some env.vmk)
    (h : Sound P W s g) :
    Sound P W (changePassword P J env old new yk uid s).2
      (g.after (.changePassword env old new yk uid) s
        (changePassword P J env old new yk uid s).2) := by
  rcases changePassword_settled hstops hfinish with hsettled |
    ⟨header, vmk, kek, db, hs, hmem, hv, hkek, hdisk, hvmk⟩
  · generalize (changePassword P J env old new yk uid s).2 = t at hsettled ⊢
    have hsound := hsettled.sound h
    rcases hsettled with ⟨hdisk, -⟩ | hsidecar | hvault
    · have hsame : t.header = s.header := by rw [DaemonState.header, DaemonState.header, hdisk]
      have hafter : g.after (.changePassword env old new yk uid) s t = g := by
        simp [after, hsame]
      rw [hafter]
      exact hsound
    · exact .inr (.inl hsidecar)
    · exact .inl hvault
  · rcases h with hnone | hnone | ⟨header', vmk', hs', hopen, -, hmem'⟩
    · exact absurd hnone hv
    · rw [hnone] at hs
      cases hs
    · rw [hs] at hs'
      cases hs'
      -- the VMK in memory is the one that the copies hold
      obtain rfl : vmk = vmk' := by
        rw [hmem] at hmem'
        exact some.inj (hmem'.resolve_left (by simp))
      refine sound_changed hP hkek hopen ((hrecovery header hs).imp_right fun hsame => ?_) hs hdisk
        hvmk
      rw [hmem] at hsame
      exact (some.inj hsame).symm

/-! ## Enrolling -/

variable {recoveryKey authData cid : Bytes}

theorem openRecoveryCopy_recoveryEntry (hP : P.Ideal)
    (hkek : deriveKek P alloc recoveryKey none env.salt env.tuned = .ok kek) :
    openRecoveryCopy P (.ok ()) (recoveryEntry P env kek vmk) recoveryKey = .ok vmk.bytes := by
  simp [openRecoveryCopy, recoveryEntry, okOr, bind, Except.bind, deriveKek_of_ok P hkek,
    aesGcmDecrypt, hP.aesGcm.decrypt_encrypt]

/-- The header with a recovery key enrolled. -/
def VaultHeader.withRecovery (P : Primitives) (env : Env) (kek : Block 64) (vmk : Block 32)
    (header : VaultHeader) : VaultHeader :=
  { header with recoveryKeyCopy := some (recoveryEntry P env kek vmk) }

/-- The header is replaced by one that `Q` relates it to, or nothing happens. -/
def Enrolls (P : Primitives) (J : Serde) (Q : VaultHeader → Block 32 → VaultHeader → Prop)
    (s t : DaemonState) : Prop :=
  t = s ∨ ∃ header vmk header', s.disk.sidecar = some (.ok header) ∧ s.vmk = some vmk ∧
    Q header vmk header' ∧ t = s.setSidecar (header'.stamped P J s.vmk)

theorem writeHeader_enrolls {Q : VaultHeader → Block 32 → VaultHeader → Prop} {e : VaultError}
    (hread : readHeader env .request s = (.ok header, s))
    (hvmk : reads (fun s => okOr s.vmk e) s = (.ok vmk, s))
    (hQ : Q header vmk header') : Enrolls P J Q s (writeHeader P J env .request header' s).2 := by
  obtain ⟨-, hs, -⟩ := readHeader_eq_ok.mp hread
  have hmem : s.vmk = some vmk := okOr_eq_ok.mp (reads_eq_ok.mp hvmk).1
  exact (writeHeader_cases P J env .request header' s).imp_right fun hwritten =>
    ⟨header, vmk, header', hs, hmem, hQ, hwritten⟩

/-- **A new copy, made of the VMK in memory**, is current; if its text is the one that was there
before, it has the secret that it had. -/
theorem Enrolls.sound {Q : VaultHeader → Block 32 → VaultHeader → Prop} {g' : Enrolled}
    (henrolls : Enrolls P J Q s t) (h : Sound P W s g)
    (hQ : ∀ header vmk header', Q header vmk header' → header'.wrapping = header.wrapping ∧
      (CopiesOpen P W g header vmk → CopiesOpen P W g' header' vmk)) :
    Sound P W t (if t.header.map (·.copies) ≠ s.header.map (·.copies) then g' else g) := by
  rcases henrolls with rfl | ⟨header, vmk, header', hs, hmem, hnew, rfl⟩
  · simpa using h
  obtain ⟨hwrapping, hcopies⟩ := hQ header vmk header' hnew
  simp only [header_of_sidecar hs, header_setSidecar, map_some, stamped_copies, ne_eq, some.injEq]
  rcases h with hnone | hnone | ⟨header₀, vmk₀, hs₀, hopen, hvault, hmem₀⟩
  · exact .inl hnone
  · rw [hnone] at hs
    cases hs
  · rw [hs] at hs₀
    cases hs₀
    obtain rfl : vmk = vmk₀ := by
      rw [hmem] at hmem₀
      exact some.inj (hmem₀.resolve_left (by simp))
    have hheader' : CopiesOpen P W (if ¬ header'.copies = header.copies then g' else g) header'
      vmk := by
      by_cases hsame : header'.copies = header.copies
      · rw [if_neg (not_not_intro hsame)]
        exact hopen.congr hwrapping hsame
      · rw [if_pos hsame]
        exact hcopies hopen
    exact .inr (.inr ⟨_, vmk, rfl, hheader'.congr (stamped_wrapping _) (stamped_copies _), hvault,
      .inr hmem⟩)

theorem sound_enrollRecoveryKey (hP : P.Ideal) (h : Sound P W s g) :
    Sound P W (enrollRecoveryKey P J env recoveryKey s).2
      (g.after (.enrollRecoveryKey env recoveryKey) s
        (enrollRecoveryKey P J env recoveryKey s).2) := by
  have henrolls : Enrolls P J (fun header vmk header' => ∃ kek, deriveKek P
      (env.io (.kdfMemory .request)) recoveryKey none env.salt env.tuned = .ok kek ∧
      header' = header.withRecovery P env kek vmk) s (enrollRecoveryKey P J env recoveryKey s).2 := by
    unfold enrollRecoveryKey
    refine (Keeps.reads _).bind_holds (.inl rfl) fun vmk hvmk => ?_
    refine (Keeps.lift _).bind_holds (.inl rfl) fun kek hkek => ?_
    refine (readHeader_keeps env .request).bind_holds (.inl rfl) fun header hread => ?_
    exact writeHeader_enrolls hread hvmk ⟨kek, (lift_eq_ok.mp hkek).1, rfl⟩
  refine henrolls.sound h ?_
  rintro header vmk _ ⟨kek, hkek, rfl⟩
  refine ⟨rfl, fun hopen => ⟨hopen.password, ?_, hopen.passkeys⟩⟩
  intro entry hentry
  cases hentry
  exact openRecoveryCopy_recoveryEntry hP hkek

/-- The header with a passkey registered, in place of one with the same id. -/
def VaultHeader.withPasskey (P : Primitives) (env : Env) (wrapKey vmk : Block 32)
    (cid pubKeyCbor : Bytes) (header : VaultHeader) : VaultHeader :=
  { header with passkeyCredentials :=
      header.passkeyCredentials.filter (·.credentialIdHex ≠ hexEncode cid) ++
        [{ credentialIdHex := hexEncode cid
           encryptedVmkCopy :=
             hexEncode (P.xchacha20.encrypt wrapKey env.passkeyNonce passkeyVmkAad vmk.bytes)
           vmkCopyNonce := hexEncode env.passkeyNonce.bytes
           pubKeyCborHex := some (hexEncode pubKeyCbor)
           signCount := 0 }] }

theorem openPasskeyCopy_sealed (hP : P.Ideal) {suite : UInt8} {wrapKey : Block 32}
    (hkey : deriveVmkWrapKey W authData cid suite = .ok wrapKey) (nonce : Block 24)
    {entry : PasskeySidecarEntry}
    (hcopy : entry.encryptedVmkCopy = hexEncode
      (P.xchacha20.encrypt wrapKey nonce passkeyVmkAad vmk.bytes))
    (hnonce : entry.vmkCopyNonce = hexEncode nonce.bytes) :
    openPasskeyCopy P W suite entry authData cid = .ok vmk.bytes := by
  have hlen : Block.ofBytes 12 nonce.bytes = none := by
    simp [Block.ofBytes]
  simp [openPasskeyCopy, hkey, hcopy, hnonce, okOr, openSealed, hlen, xchachaDecrypt,
    hP.xchacha20.decrypt_encrypt, bind, Except.bind]

theorem sound_registerPasskey (hP : P.Ideal) {pubKeyCbor : Bytes} (h : Sound P W s g) :
    Sound P W (registerPasskey P J W env authData cid pubKeyCbor s).2
      (g.after (.registerPasskey env authData cid pubKeyCbor) s
        (registerPasskey P J W env authData cid pubKeyCbor s).2) := by
  have henrolls : Enrolls P J (fun header vmk header' => ∃ wrapKey,
      deriveVmkWrapKey W authData cid header.kemSuite = .ok wrapKey ∧
      header' = header.withPasskey P env wrapKey vmk cid pubKeyCbor) s
      (registerPasskey P J W env authData cid pubKeyCbor s).2 := by
    unfold registerPasskey addPasskeyToSidecar
    refine (readHeader_keeps env .request).bind_holds (.inl rfl) fun header hread => ?_
    refine (Keeps.lift _).bind_holds (.inl rfl) fun wrapKey hkey => ?_
    refine (Keeps.reads _).bind_holds (.inl rfl) fun vmk hvmk => ?_
    refine (readHeader_keeps env .request).bind_holds (.inl rfl) fun header' hread' => ?_
    cases hread.symm.trans hread'
    refine (require_keeps _ _).bind_holds (.inl rfl) fun _ _ => ?_
    exact writeHeader_enrolls hread hvmk ⟨wrapKey, (lift_eq_ok.mp hkey).1, rfl⟩
  refine henrolls.sound h ?_
  rintro header vmk _ ⟨wrapKey, hkey, rfl⟩
  refine ⟨rfl, fun hopen => ⟨hopen.password, hopen.recoveryKey, fun entry hentry => ?_⟩⟩
  rcases List.mem_append.mp hentry with hold | hnew
  · -- the entries that stay have other ids
    obtain ⟨hmem, hid⟩ := List.mem_filter.mp hold
    have hne : entry.credentialIdHex ≠ hexEncode cid := by simpa using hid
    dsimp only
    rw [Function.update_of_ne hne]
    exact hopen.passkeys entry hmem
  · obtain rfl := List.mem_singleton.mp hnew
    dsimp only
    rw [Function.update_self]
    exact openPasskeyCopy_sealed hP hkey env.passkeyNonce rfl rfl

/-! ## Runs -/

/-- **One request** keeps the copies current if it is careful. -/
theorem sound_step (hP : P.Ideal) (request : VaultRequest) (hcareful : Careful s request)
    (h : Sound P W s g) :
    Sound P W (copiesStep P J W (s, g) request).1 (copiesStep P J W (s, g) request).2 := by
  cases request with
  | unlock env password yk uid => exact sound_unlock hP hcareful h
  | lock => exact h.of_files rfl (.inr rfl)
  | changePassword env old new yk uid =>
    exact sound_changePassword hP hcareful.1 hcareful.2.1 hcareful.2.2 h
  | enrollRecoveryKey env recoveryKey => exact sound_enrollRecoveryKey hP h
  | registerPasskey env authData cid pubKeyCbor => exact sound_registerPasskey hP h

/-- **The copies stay current** in every run of careful requests that starts without a
vault. -/
theorem copiesCurrent_of_run (hP : P.Ideal) {requests : List VaultRequest}
    (hstart : s.disk.vault = none)
    (hcareful : Along (copiesStep P J W) (s, g) requests fun sg request => Careful sg.1 request)
    {tg : DaemonState × Enrolled} (hvisits : Visits (copiesStep P J W) (s, g) requests tg) :
    CopiesCurrent P W tg.1 tg.2 := by
  have hsound : Sound P W tg.1 tg.2 := by
    refine hvisits.invariant (I := fun tg => Sound P W tg.1 tg.2) (.inl hstart) hcareful ?_
    intro sg request _ hok h
    exact sound_step hP request hok h
  exact hsound.copiesCurrent

end

/-! ### On the symbolic vault -/

theorem Env.Quiet.not_wipeStops {env : Env} (hq : env.Quiet) : ¬ WipeStops env :=
  fun h => h.2.2.2.1 (hq _)

def recoveryPhrase : Bytes := utf8 "abandon ability able about"

/-- Nothing is enrolled yet. -/
def nothingEnrolled : Enrolled := ⟨[], none, [], fun _ => ([], [])⟩

/-- A vault is created, a recovery key is enrolled, and the vault is unlocked again. -/
def enrollAndReopen : List VaultRequest :=
  [.unlock (symbolicEnv 1 1) oldPassword none 1000,
    .enrollRecoveryKey (symbolicEnv 2 2) recoveryPhrase, .lock,
    .unlock (symbolicEnv 3 3) oldPassword none 1000]

theorem copiesCurrent_of_run_enrollAndReopen :
    CopiesCurrent symbolic symbolicWebauthn
      (run (copiesStep symbolic spelledSerde symbolicWebauthn) (.new, nothingEnrolled)
        enrollAndReopen).1
      (run (copiesStep symbolic spelledSerde symbolicWebauthn) (.new, nothingEnrolled)
        enrollAndReopen).2 := by
  refine copiesCurrent_of_run symbolic_ideal rfl ?_ (.last _ _ _)
  refine along_cons (symbolicEnv_quiet 1 1).not_wipeStops ?_
  refine along_cons trivial (along_cons trivial ?_)
  exact along_cons (symbolicEnv_quiet 3 3).not_wipeStops (along_nil _)

/-- A vault is created, a recovery key is enrolled, and the password is changed. -/
def enrollAndChange : List VaultRequest :=
  [.unlock (symbolicEnv 1 1) oldPassword none 1000,
    .enrollRecoveryKey (symbolicEnv 2 2) recoveryPhrase,
    .changePassword (symbolicEnv 3 3) oldPassword newPassword none 1000]

/-- **The recovery key opens a VMK that opens nothing.** -/
theorem recovery_copy_stale :
    ¬ CopiesCurrent symbolic symbolicWebauthn
      (run (copiesStep symbolic spelledSerde symbolicWebauthn) (.new, nothingEnrolled)
        enrollAndChange).1
      (run (copiesStep symbolic spelledSerde symbolicWebauthn) (.new, nothingEnrolled)
        enrollAndChange).2 := by
  have hstale : ∀ tg, tg = run (copiesStep symbolic spelledSerde symbolicWebauthn)
        (.new, nothingEnrolled) enrollAndChange →
      (tg.1.header.bind (·.recoveryKeyCopy)).map
          (openRecoveryCopy symbolic (.ok ()) · tg.2.recoveryKey) = some (.ok symbolicVmk.bytes) ∧
        (tg.1.disk.vault.map fun file =>
          (file.unlockedBy (sqlcipherKey symbolic symbolicVmk.bytes)).isOk) = some false := by
    rintro _ rfl
    decide +kernel
  exact not_copiesCurrent (hstale _ rfl).1 (hstale _ rfl).2

end PwdNow.Daemon
