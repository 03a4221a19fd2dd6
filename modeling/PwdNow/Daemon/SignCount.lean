import PwdNow.Daemon.Rows
import PwdNow.Kit.Watermark

/-!
# Daemon — signature counters

A passkey's counter is kept twice: in the sidecar, where `unlock_with_passkey` compares it, and in
its row of `fido2_credentials`, where `verify_fido2_assertion` does
(`daemon/src/vault/fido2_db.rs`). Both let a counter of zero pass, and the second then stores it.
-/

namespace PwdNow.Daemon

open Kit Kit.Fallible List

variable (P : Primitives) (J : Serde) (W : Webauthn)

/-! ## `fido2_db` -/

namespace Fido2Db

def getByCredentialId (db : Database) (credentialId : Bytes) : Result Fido2CredRow :=
  okOr (db.fido2Credentials.rows.find? (·.credentialId = credentialId))
    (.database "Query returned no rows")

/-- The row with that id gets the counter. -/
def counted (now : Nat) (id : String) (signCount : UInt32) (row : Fido2CredRow) : Fido2CredRow :=
  if row.id = id then { row with signCount, lastUsedAt := some now } else row

section

variable (now : Nat) (id : String) (signCount : UInt32) (row : Fido2CredRow)

theorem counted_id : (counted now id signCount row).id = row.id := by
  unfold counted
  split <;> rfl

theorem counted_credentialId : (counted now id signCount row).credentialId = row.credentialId := by
  unfold counted
  split <;> rfl

end

/-- `UPDATE fido2_credentials SET sign_count=?1, last_used_at=?2 WHERE id=?3` -/
def setCount (now : Nat) (id : String) (signCount : UInt32) (table : Fido2Credentials) :
    Fido2Credentials where
  rows := table.rows.map (counted now id signCount)
  ids := by
    rw [map_map, Function.comp_def]
    simp only [counted_id]
    exact table.ids
  credentialIds := by
    rw [map_map, Function.comp_def]
    simp only [counted_credentialId]
    exact table.credentialIds

def updateSignCount (now : Nat) (db : Database) (id : String) (signCount : UInt32) :
    Result Database :=
  if db.fido2Credentials.rows.any (·.id = id) then
    .ok { db with fido2Credentials := setCount now id signCount db.fido2Credentials }
  else fail (.database "Query returned no rows")

end Fido2Db

/-- `verify_fido2_assertion` once the session has been validated. -/
def verifyFido2Assertion (env : Env) (a : Assertion) : Call Unit := do
  let _vmk ← reads fun s => okOr s.vmk (.auth "locked")
  let conn ← reads fun s => okOr s.connection (.auth "vault is locked")
  let row ← lift (Fido2Db.getByCredentialId conn.2 a.cid)
  lift (verifyAssertion W row.publicKeyCbor a "localhost" true)
  if 37 ≤ a.authData.length then do
    let newCount := u32FromBeBytes ((a.authData.drop 33).take 4)
    require (!(newCount > 0 && newCount ≤ row.signCount)) (.auth "signature counter regression")
    env.at (.statement 0)
    let db ← lift (Fido2Db.updateSignCount env.nowSecs conn.2 row.id newCount)
    modify fun s => s.setVault (.pages conn.1 db)
  else pure ()

/-! ## Both paths -/

inductive AssertionPath where
  | unlock | verify
  deriving DecidableEq

/-- A request that presents an assertion. -/
structure PasskeyUse where
  path : AssertionPath
  env : Env
  a : Assertion
  uid : UInt32

/-- The counter that authenticator data carries, if it is long enough. -/
def counterOf (authData : Bytes) : Option Nat :=
  if 37 ≤ authData.length then some (u32FromBeBytes ((authData.drop 33).take 4)).toNat else none

def usePasskey (use : PasskeyUse) : Call Unit :=
  match use.path with
  | .unlock => handlePasskey P J W use.env use.a use.uid >>= fun _ => pure ()
  | .verify => verifyFido2Assertion W use.env use.a

def passkeyStep (s : DaemonState) (use : PasskeyUse) : DaemonState := (usePasskey P J W use s).2

def Accepted (s : DaemonState) (use : PasskeyUse) : Prop := (usePasskey P J W use s).1 = .ok ()

def fido2Rows (db : Database) : List Fido2CredRow := db.fido2Credentials.rows

def rowCount (cid : Bytes) (s : DaemonState) : Option Nat :=
  ((rowsOf fido2Rows s.disk.vault).find? (·.credentialId = cid)).map (·.signCount.toNat)

def sidecarCount (cid : Bytes) (s : DaemonState) : Option Nat :=
  match s.disk.sidecar with
  | some (.ok header) =>
    (header.passkeyCredentials.find? (·.credentialIdHex = hexEncode cid)).map (·.signCount.toNat)
  | _ => none

/-- The assertion carries a counter that is not zero, and no system call fails. -/
def Counting (use : PasskeyUse) : Prop :=
  use.env.Quiet ∧ ∃ n, counterOf use.a.authData = some n ∧ 0 < n

/-- Accepted on that path for that credential, with the counter `n`. -/
def AcceptsCount (path : AssertionPath) (cid : Bytes) (s : DaemonState) (use : PasskeyUse)
    (n : Nat) : Prop :=
  use.path = path ∧ use.a.cid = cid ∧ counterOf use.a.authData = some n ∧ Accepted P J W s use

variable {P J W} {env : Env} {s t : DaemonState} {cid : Bytes} {n : Nat}

theorem fido2Rows_spared : Spared fido2Rows :=
  .of_tables fun _ _ _ _ _ _ _ _ => rfl

/-! ## The counter in the sidecar -/

variable {authData : Bytes} {stored count : UInt32} {cidHex : String}

theorem counterOf_eq_some (h : counterOf authData = some n) :
    37 ≤ authData.length ∧ (u32FromBeBytes ((authData.drop 33).take 4)).toNat = n := by
  unfold counterOf at h
  split at h
  · next hlen =>
    cases h
    exact ⟨hlen, rfl⟩
  · cases h

theorem lt_of_checkSignCount (h : checkSignCount authData stored = .ok (some count)) :
    stored.toNat < count.toNat := by
  unfold checkSignCount at h
  split at h
  · dsimp only at h
    split at h
    · cases h
    · split at h
      · next hlt =>
        cases h
        exact UInt32.lt_iff_toNat_lt.mp hlt
      · cases h
  · cases h

theorem checkSignCount_of_pos {newCount : Option UInt32} (hn : counterOf authData = some n)
    (hpos : 0 < n) (h : checkSignCount authData stored = .ok newCount) :
    ∃ count, newCount = some count ∧ count.toNat = n ∧ stored.toNat < n := by
  obtain ⟨hlen, hcount⟩ := counterOf_eq_some hn
  rw [checkSignCount, if_pos hlen] at h
  dsimp only at h
  generalize u32FromBeBytes ((authData.drop 33).take 4) = count at hcount h
  split at h
  · cases h
  · next hpass =>
    simp only [gt_iff_lt, UInt32.lt_iff_toNat_lt, UInt32.le_iff_toNat_le,
      UInt32.toNat_zero] at hpass h
    have hlt : stored.toNat < count.toNat := by omega
    rw [if_pos hlt] at h
    cases h
    exact ⟨count, rfl, hcount, by omega⟩

theorem signCount_of_find_setSignCount {entries : List PasskeySidecarEntry}
    {entry : PasskeySidecarEntry}
    (h : (setSignCount cidHex count entries).find? (·.credentialIdHex = cidHex) = some entry) :
    entry.signCount = count := by
  induction entries with
  | nil => cases h
  | cons first entries ih =>
    rw [setSignCount] at h
    by_cases hid : first.credentialIdHex = cidHex
    · rw [if_pos hid, find?_cons_of_pos (by simpa using hid)] at h
      cases h
      rfl
    · rw [if_neg hid, find?_cons_of_neg (by simpa using hid)] at h
      exact ih h

theorem find_setSignCount_other {other : String} (hne : other ≠ cidHex)
    (entries : List PasskeySidecarEntry) :
    (setSignCount cidHex count entries).find? (·.credentialIdHex = other) =
      entries.find? (·.credentialIdHex = other) := by
  induction entries with
  | nil => rfl
  | cons entry entries ih =>
    rw [setSignCount]
    by_cases hid : entry.credentialIdHex = cidHex
    · have hother : ¬ entry.credentialIdHex = other := by
        rw [hid]
        exact hne.symm
      rw [if_pos hid, find?_cons_of_neg (by simpa using hother),
        find?_cons_of_neg (by simpa using hother)]
    · rw [if_neg hid]
      simp only [find?_cons, ih]

theorem stamped_passkeyCredentials (header : VaultHeader) (k : Option (Block 32)) :
    (header.stamped P J k).passkeyCredentials = header.passkeyCredentials := by
  cases k <;> rfl

section Requests

/-! What `handle` does to the counters: everything but the writing of a counter leaves them alone
or wipes them. -/

variable {a : Assertion} {uid : UInt32}
  {Q : Option (Except String VaultHeader) × List Fido2CredRow → Prop} {header : VaultHeader}

/-- `Q` still holds once a counter that passes the check is stored. -/
def Counts (P : Primitives) (J : Serde) (a : Assertion)
    (Q : Option (Except String VaultHeader) × List Fido2CredRow → Prop) : Prop :=
  ∀ header rows entry count, Q (some (.ok header), rows) →
    header.passkeyCredentials.find? (·.credentialIdHex = hexEncode a.cid) = some entry →
    checkSignCount a.authData entry.signCount = .ok (some count) →
    ∀ (fresh : VaultHeader) rows' k, Q (some (.ok fresh), rows') →
      Q (some (.ok (VaultHeader.stamped P J { fresh with
        passkeyCredentials := setSignCount (hexEncode a.cid) count fresh.passkeyCredentials } k)),
        rows')

theorem verifyPasskey_eq_ok {verified : PasskeySidecarEntry × Option UInt32}
    (h : verifyPasskey W header a = .ok verified) :
    header.passkeyCredentials.find? (·.credentialIdHex = hexEncode a.cid) = some verified.1 ∧
      checkSignCount a.authData verified.1.signCount = .ok verified.2 := by
  simp only [verifyPasskey, Result.bind_eq_ok, okOr_eq_ok] at h
  obtain ⟨entry, hfind, _, -, _, -, _, -, newCount, hcheck, hverified⟩ := h
  cases hverified
  exact ⟨hfind, hcheck⟩

theorem updateSignCount_preserves {newCount : Option UInt32}
    (hset : ∀ count ∈ newCount, ∀ (fresh : VaultHeader) rows k, Q (some (.ok fresh), rows) →
      Q (some (.ok (VaultHeader.stamped P J { fresh with
        passkeyCredentials := setSignCount cidHex count fresh.passkeyCredentials } k)), rows)) :
    Preserves (fun s => Q (files fido2Rows s)) (updateSignCount P J env cidHex newCount) := by
  intro s hs
  obtain ⟨t, hrun, rfl | ⟨count, fresh, hcount, hsidecar, rfl⟩⟩ :=
    updateSignCount_cases P J env cidHex newCount s
  · rwa [hrun]
  · rw [hrun]
    refine hset count hcount fresh _ s.vmk ?_
    rw [← hsidecar]
    exact hs

theorem unlockWithPasskeyInner_preserves (hcounts : Counts P J a Q) :
    Preserves (fun s => Q (files fido2Rows s)) (unlockWithPasskeyInner P J W env a uid) := by
  have hof : ∀ {α : Type} {x : Call α}, Keeps (files fido2Rows) x →
      Preserves (fun s => Q (files fido2Rows s)) x :=
    fun h => h.preserves Q
  refine (Preserves.of_same (clientChallenge_keeps _)).bind fun chal => .bind ?_ fun _ => ?_
  · exact (Preserves.gets _).bind fun _ => .bind (.modify fun s hs => hs) fun _ =>
      .lift _
  refine readHeader_preserves.bind_ok fun s header t hs hread ht => ?_
  obtain ⟨-, hsidecar, rfl⟩ := readHeader_eq_ok.mp hread
  have hheader : Q (some (.ok header), rowsOf fido2Rows t.disk.vault) := by
    rw [← hsidecar]
    exact hs
  -- the rest of the request knows the header it has read
  refine Preserves.bind (I := fun s => Q (files fido2Rows s)) (Preserves.lift _) (fun _ => ?_) t ht
  refine (Preserves.lift _).bind_ok fun s verified t' hs' hverified ht' => ?_
  obtain ⟨hfind, hcheck⟩ := verifyPasskey_eq_ok (lift_eq_ok.mp hverified).1
  refine Preserves.bind (I := fun s => Q (files fido2Rows s)) (Preserves.lift _) (fun plain => ?_) t' ht'
  refine (hof (openVaultWith_keeps_files fido2Rows_spared _)).bind fun vmk => ?_
  refine (hof (migrateDataToV2_keeps_files fido2Rows_spared _)).bind fun _ => .lift_bind fun _ => ?_
  refine .bind (.modify fun s hs => hs) fun _ => ?_
  refine .bind (updateSignCount_preserves ?_) fun _ =>
    hof (createSession_keeps (fun _ _ => rfl) _)
  intro count hcount fresh rows k hfresh
  rw [hcount] at hcheck
  exact hcounts header _ verified.1 count hheader hfind hcheck fresh rows k hfresh

theorem settleCounted_ok_keeps_files (session : Session) :
    Keeps (files fido2Rows) (settleCounted P env uid (.ok session)) :=
  .bind (.modify fun _ => flushPending_files fido2Rows_spared) fun _ =>
    .bind (.modify fun _ => rfl) fun _ => .pure _

theorem settleCounted_preserves (hq : env.Quiet) (hgone : Q (none, []))
    (res : Except VaultError Session) :
    Preserves (fun s => Q (files fido2Rows s)) (settleCounted P env uid res) := by
  cases res with
  | ok session => exact (settleCounted_ok_keeps_files session).preserves Q
  | error e =>
    refine .bind (fun s hs => ?_) fun _ => fun s hs => hs
    rcases recordFailedUnlock_files (f := fido2Rows) hq uid s with hsame | hwiped
    · rw [hsame]
      exact hs
    · rw [hwiped]
      exact hgone

theorem handlePasskey_preserves (hq : env.Quiet) (hgone : Q (none, [])) (hcounts : Counts P J a Q) :
    Preserves (fun s => Q (files fido2Rows s)) (handlePasskey P J W env a uid) := by
  refine (Preserves.gets _).bind fun flushed => .bind ?_ fun session =>
    ((logEvent_keeps_files fido2Rows_spared _ _ _).preserves Q).bind fun _ => .pure _
  refine ((checkUnlockLockout_keeps fun _ _ => rfl).preserves Q).bind fun _ =>
    (attemptErr_preserves (unlockWithPasskeyInner_preserves hcounts)).bind fun res =>
      settleCounted_preserves hq hgone res

theorem sidecarCount_of_files (h : files fido2Rows t = files fido2Rows s) :
    sidecarCount cid t = sidecarCount cid s := by
  have hsidecar : t.disk.sidecar = s.disk.sidecar := congrArg Prod.fst h
  rw [sidecarCount, sidecarCount, hsidecar]

theorem sidecarCount_of_sidecar (hs : s.disk.sidecar = some (.ok header)) :
    sidecarCount cid s = (header.passkeyCredentials.find? (·.credentialIdHex = hexEncode cid)).map
        (·.signCount.toNat) := by
  rw [sidecarCount, hs]

theorem updateSignCount_raises (hq : env.Quiet) (cid : Bytes) (count : UInt32) (s : DaemonState) :
    AtLeast count.toNat
      (sidecarCount cid (updateSignCount P J env (hexEncode cid) (some count) s).2) := by
  by_cases hreadable : ∃ header, s.disk.sidecar = some (.ok header)
  · obtain ⟨fresh, hs⟩ := hreadable
    have hread : attemptErr (readHeader env .signCount) s = (.ok (.ok fresh), s) :=
      attemptErr_eq_ok_ok.mpr (readHeader_eq_ok.mpr ⟨hq _, hs, rfl⟩)
    have hwrite : ∀ header, attemptErr (writeHeader P J env .signCount header) s =
        (.ok (.ok ()), s.setSidecar (header.stamped P J s.vmk)) := fun header =>
      attemptErr_eq_ok_ok.mpr (writeHeader_eq_ok.mpr ⟨hq _, hq _, rfl⟩)
    rw [updateSignCount, bind_run_ok hread]
    simp only
    split
    · -- the first entry with the id is the one that was written
      rw [bind_run_ok (hwrite _)]
      intro m hm
      rw [pure_run, sidecarCount_of_sidecar rfl, stamped_passkeyCredentials] at hm
      obtain ⟨entry, hentry, rfl⟩ := Option.mem_map.mp hm
      rw [signCount_of_find_setSignCount hentry]
    · next hnone =>
      -- an entry that is gone has no counter
      intro m hm
      rw [pure_run, sidecarCount_of_sidecar hs] at hm
      obtain ⟨entry, hentry, -⟩ := Option.mem_map.mp hm
      have hid := find?_some hentry
      exact absurd (any_eq_true.mpr ⟨entry, mem_of_find?_eq_some hentry, hid⟩) hnone
  · obtain ⟨t, hrun, rfl | ⟨_, fresh, -, hs, -⟩⟩ :=
      updateSignCount_cases P J env (hexEncode cid) (some count) s
    · rw [hrun]
      intro m hm
      rw [sidecarCount] at hm
      split at hm
      · next header hs => exact absurd ⟨header, hs⟩ hreadable
      · cases hm
    · exact absurd ⟨fresh, hs⟩ hreadable

/-- **What an accepted unlock says about the counter in the sidecar**: it was smaller, and is not
any more. -/
theorem handlePasskey_accepted (hq : env.Quiet) (hn : counterOf a.authData = some n) (hpos : 0 < n)
    {session : Session} (h : handlePasskey P J W env a uid s = (.ok session, t)) :
    (∃ m, sidecarCount a.cid s = some m ∧ m < n) ∧ AtLeast n (sidecarCount a.cid t) := by
  obtain ⟨flushed, _, hflushed, h⟩ := bind_eq_ok.mp h
  obtain ⟨-, rfl⟩ := Prod.mk.inj hflushed
  obtain ⟨session', s₁, hunlock, h⟩ := bind_eq_ok.mp h
  obtain ⟨_, s₂, hlog, hend⟩ := bind_eq_ok.mp h
  obtain ⟨-, rfl⟩ := Prod.mk.inj hend
  obtain ⟨_, s₃, hcheck, hunlock⟩ := bind_eq_ok.mp hunlock
  obtain ⟨res, s₄, hinner, hsettle⟩ := bind_eq_ok.mp hunlock
  have hchecked : files fido2Rows s₃ = files fido2Rows s :=
    (checkUnlockLockout_keeps fun _ _ => rfl).eq hcheck
  have hlogged : files fido2Rows s₂ = files fido2Rows s₁ :=
    (logEvent_keeps_files fido2Rows_spared _ _ _).eq hlog
  cases res with
  | error e =>
    obtain ⟨_, _, -, hthrow⟩ := bind_eq_ok.mp hsettle
    cases hthrow
  | ok session'' =>
    rw [attemptErr_eq_ok_ok] at hinner
    simp only [unlockWithPasskeyInner, bind_eq_ok, readHeader_eq_ok, require_eq_ok, lift_eq_ok,
      at_eq_ok, modify_run, Prod.mk.injEq] at hinner
    obtain ⟨chal, _, hchal, _, _, hspent, header, _, ⟨-, hs, rfl⟩, _, _, ⟨-, rfl⟩, verified, _,
      ⟨hverified, rfl⟩, plain, s₅, ⟨-, rfl⟩, vmk, s₆, hopen, _, _, hmigrate, _, s₇, ⟨-, rfl⟩, _, _,
      ⟨-, rfl⟩, _, s₈, hcount, hsession⟩ := hinner
    obtain ⟨hfind, hpassed⟩ := verifyPasskey_eq_ok hverified
    obtain ⟨count, hnew, hcountn, hlt⟩ := checkSignCount_of_pos hn hpos hpassed
    constructor
    · -- the header that was read is the one there was at the start
      have hsame := (clientChallenge_keeps a.clientDataJson).same hchal
      have hsidecar : s₅.disk.sidecar = s.disk.sidecar := by
        rw [consumeChallenge_ok hspent, hsame]
        exact congrArg Prod.fst hchecked
      rw [hsidecar] at hs
      exact ⟨_, by rw [sidecarCount_of_sidecar hs, hfind]; rfl, hlt⟩
    · have hraised : AtLeast n (sidecarCount a.cid s₈) := by
        have hstored := updateSignCount_raises (P := P) (J := J) hq a.cid count
          (s₇.entered vmk header.vaultUuid none)
        rw [← hnew, hcount, hcountn] at hstored
        exact hstored
      have hcreated : files fido2Rows s₄ = files fido2Rows s₈ :=
        (createSession_keeps (fun _ _ => rfl) _).eq hsession
      have hsettled : files fido2Rows s₁ = files fido2Rows s₄ :=
        (settleCounted_ok_keeps_files _).eq hsettle
      rw [sidecarCount_of_files (hlogged.trans (hsettled.trans hcreated))]
      exact hraised

/-! ## The counter in the row -/

theorem verifyFido2Assertion_failsClean : FailsClean (verifyFido2Assertion W env a) := by
  refine .bind (.reads _) fun _ => .bind (.reads _) fun conn =>
    .bind (.lift _) fun row => .bind (.lift _) fun _ => ?_
  split
  · exact .bind (require_keeps _ _) fun _ => .bind at_keeps fun _ =>
      .bind (.lift _) fun _ => .modify _
  · exact .of_same (.pure ())

/-- **What an accepted assertion leaves**: the row has its counter, which was greater than the one
stored if positive. -/
theorem verifyFido2Assertion_ok (hn : counterOf a.authData = some n)
    (h : verifyFido2Assertion W env a s = (.ok (), t)) :
    ∃ key db row count, s.disk.vault = some (.pages key db) ∧
      db.fido2Credentials.rows.find? (·.credentialId = a.cid) = some row ∧ count.toNat = n ∧
      ¬ (0 < n ∧ n ≤ row.signCount.toNat) ∧
      t = s.setVault (.pages key { db with
        fido2Credentials := Fido2Db.setCount env.nowSecs row.id count db.fido2Credentials }) := by
  obtain ⟨hlen, hcount⟩ := counterOf_eq_some hn
  simp only [verifyFido2Assertion, if_pos hlen, bind_eq_ok, reads_eq_ok, lift_eq_ok, require_eq_ok,
    at_eq_ok, modify_run, okOr_eq_ok, Fido2Db.getByCredentialId, Prod.mk.injEq] at h
  obtain ⟨_, _, ⟨-, rfl⟩, ⟨key, db⟩, _, ⟨hconn, rfl⟩, row, _, ⟨hfind, rfl⟩, _, _, ⟨-, rfl⟩, _, _,
    ⟨hpass, rfl⟩, _, _, ⟨-, rfl⟩, db', _, ⟨hupdate, rfl⟩, -, rfl⟩ := h
  refine ⟨key, db, row, _, connection_eq_some hconn, hfind, hcount, ?_, ?_⟩
  · rintro ⟨hpos, hle⟩
    simp only [gt_iff_lt, UInt32.lt_iff_toNat_lt, UInt32.le_iff_toNat_le, UInt32.toNat_zero, hcount,
      Bool.not_eq_true', Bool.and_eq_false_iff, decide_eq_false_iff_not] at hpass
    omega
  · unfold Fido2Db.updateSignCount at hupdate
    split at hupdate
    · cases hupdate
      rfl
    · cases hupdate

theorem find_setCount (now : Nat) (id : String) (table : Fido2Credentials) :
    (Fido2Db.setCount now id count table).rows.find? (·.credentialId = cid) =
      (table.rows.find? (·.credentialId = cid)).map (Fido2Db.counted now id count) := by
  show (table.rows.map _).find? _ = _
  rw [find?_map]
  simp only [Function.comp_def, Fido2Db.counted_credentialId]

theorem rowCount_of_vault {key : Block 32} {db : Database}
    (hv : s.disk.vault = some (.pages key db)) : rowCount cid s =
      (db.fido2Credentials.rows.find? (·.credentialId = cid)).map (·.signCount.toNat) := by
  rw [rowCount, hv]
  rfl

theorem verifyFido2Assertion_row (hn : counterOf a.authData = some n) (hpos : 0 < n)
    (h : verifyFido2Assertion W env a s = (.ok (), t)) :
    (∃ m, rowCount a.cid s = some m ∧ m < n) ∧ rowCount a.cid t = some n ∧
      ∀ cid k, AtLeast k (rowCount cid s) → AtLeast k (rowCount cid t) := by
  obtain ⟨key, db, row, count, hv, hfind, rfl, hpass, rfl⟩ := verifyFido2Assertion_ok hn h
  have hlt : row.signCount.toNat < count.toNat := by omega
  refine ⟨⟨_, by rw [rowCount_of_vault hv, hfind]; rfl, hlt⟩, ?_, ?_⟩
  · rw [rowCount_of_vault rfl, find_setCount, hfind]
    simp [Fido2Db.counted]
  · intro cid k hk m hm
    rw [rowCount_of_vault rfl, find_setCount, Option.map_map] at hm
    obtain ⟨row', hrow', rfl⟩ := Option.mem_map.mp hm
    have hk' : k ≤ row'.signCount.toNat := by
      apply hk
      rw [rowCount_of_vault hv, hrow']
      rfl
    show k ≤ (Fido2Db.counted env.nowSecs row.id count row').signCount.toNat
    unfold Fido2Db.counted
    split
    · next hid =>
      -- ids are unique, so the row that was written is the one that was compared
      have hsame : row' = row :=
        inj_on_of_nodup_map db.fido2Credentials.ids (mem_of_find?_eq_some hrow')
          (mem_of_find?_eq_some hfind) hid
      rw [hsame] at hk'
      show k ≤ count.toNat
      omega
    · exact hk'

/-! ## Both counters are watermarks -/

variable {use : PasskeyUse}

theorem usePasskey_unlock (hpath : use.path = .unlock) :
    usePasskey P J W use = handlePasskey P J W use.env use.a use.uid >>= fun _ => pure () := by
  rw [usePasskey, hpath]

theorem usePasskey_verify (hpath : use.path = .verify) :
    usePasskey P J W use = verifyFido2Assertion W use.env use.a := by
  rw [usePasskey, hpath]

theorem usePasskey_preserves (hpath : use.path = .unlock) (hq : use.env.Quiet)
    (hgone : Q (none, [])) (hcounts : Counts P J use.a Q) :
    Preserves (fun s => Q (files fido2Rows s)) (usePasskey P J W use) := by
  rw [usePasskey_unlock hpath]
  exact (handlePasskey_preserves hq hgone hcounts).bind fun _ => .pure ()

theorem verify_keeps_sidecar : Keeps (·.disk.sidecar) (verifyFido2Assertion W env a) := by
  refine (Keeps.reads _).bind fun _ => (Keeps.reads _).bind fun conn =>
    .lift_bind fun row => .lift_bind fun _ => ?_
  split
  · exact (require_keeps _ _).bind fun _ => at_keeps.bind fun _ =>
      .lift_bind fun _ => .modify fun _ => rfl
  · exact .pure ()

theorem atLeast_sidecarCount_iff : AtLeast n (sidecarCount cid s) ↔
    ∀ header, s.disk.sidecar = some (.ok header) → AtLeast n
      ((header.passkeyCredentials.find? (·.credentialIdHex = hexEncode cid)).map
        (·.signCount.toNat)) := by
  constructor
  · intro hle header hs
    rwa [sidecarCount_of_sidecar hs] at hle
  · intro hle
    unfold sidecarCount
    split
    · next header hs => exact hle header hs
    · intro m hm
      cases hm

theorem counts_sidecar : Counts P J a fun counters =>
    ∀ header, counters.1 = some (.ok header) → AtLeast n
      ((header.passkeyCredentials.find? (·.credentialIdHex = hexEncode cid)).map
        (·.signCount.toNat)) := by
  intro header _ entry count hle hfind hcheck fresh _ k hfresh written hwritten
  cases hwritten
  rw [stamped_passkeyCredentials]
  -- the entry may have changed since it was compared, but what is written exceeds what was read
  by_cases hid : hexEncode cid = hexEncode a.cid
  · intro m hm
    obtain ⟨entry', hentry', rfl⟩ := Option.mem_map.mp hm
    rw [hid] at hentry'
    have hstored : n ≤ entry.signCount.toNat := by
      apply hle header rfl
      rw [hid, hfind]
      rfl
    have hlt := lt_of_checkSignCount hcheck
    rw [signCount_of_find_setSignCount hentry']
    omega
  · rw [find_setSignCount_other hid]
    exact hfresh fresh rfl

theorem accepted_unlock (hpath : use.path = .unlock) (h : Accepted P J W s use) : ∃ session,
      handlePasskey P J W use.env use.a use.uid s = (.ok session, passkeyStep P J W s use) := by
  have hrun : usePasskey P J W use s = (.ok (), passkeyStep P J W s use) := Prod.ext h rfl
  rw [usePasskey_unlock hpath] at hrun
  obtain ⟨session, _, hhandle, hend⟩ := bind_eq_ok.mp hrun
  obtain ⟨-, rfl⟩ := Prod.mk.inj hend
  exact ⟨session, hhandle⟩

theorem accepted_verify (hpath : use.path = .verify) (h : Accepted P J W s use) :
    verifyFido2Assertion W use.env use.a s = (.ok (), passkeyStep P J W s use) := by
  rw [← usePasskey_verify (P := P) (J := J) hpath]
  exact Prod.ext h rfl

theorem unlock_accepts (hok : Counting use) (haccepts : AcceptsCount P J W .unlock cid s use n) :
    (∃ m, sidecarCount cid s = some m ∧ m < n) ∧
      AtLeast n (sidecarCount cid (passkeyStep P J W s use)) := by
  obtain ⟨hpath, rfl, hn, haccepted⟩ := haccepts
  obtain ⟨hq, n', hn', hpos⟩ := hok
  obtain rfl : n = n' := Option.some.inj (hn.symm.trans hn')
  obtain ⟨session, hrun⟩ := accepted_unlock hpath haccepted
  exact handlePasskey_accepted hq hn hpos hrun

theorem verify_accepts (hok : Counting use) (haccepts : AcceptsCount P J W .verify cid s use n) :
    (∃ m, rowCount cid s = some m ∧ m < n) ∧
      AtLeast n (rowCount cid (passkeyStep P J W s use)) := by
  obtain ⟨hpath, rfl, hn, haccepted⟩ := haccepts
  obtain ⟨-, n', hn', hpos⟩ := hok
  obtain rfl : n = n' := Option.some.inj (hn.symm.trans hn')
  obtain ⟨hexceeds, hstored, -⟩ :=
    verifyFido2Assertion_row hn hpos (accepted_verify hpath haccepted)
  refine ⟨hexceeds, fun m hm => ?_⟩
  rw [hstored] at hm
  cases hm
  exact le_rfl

/-- **The counter in the sidecar is a watermark** of the unlocks. -/
theorem sidecar_watermark :
    Watermark (passkeyStep P J W) (sidecarCount cid) Counting (AcceptsCount P J W .unlock cid) where
  keeps s use n hok hs := by
    rw [atLeast_sidecarCount_iff] at hs ⊢
    cases hpath : use.path with
    | unlock =>
      refine usePasskey_preserves hpath hok.1 ?_ counts_sidecar s hs
      intro header hgone
      cases hgone
    | verify =>
      have hsidecar : (passkeyStep P J W s use).disk.sidecar = s.disk.sidecar := by
        rw [passkeyStep, usePasskey_verify hpath]
        exact verify_keeps_sidecar s
      rw [hsidecar]
      exact hs
  raises _ _ _ hok haccepts := (unlock_accepts hok haccepts).2
  exceeds _ _ _ hok haccepts := (unlock_accepts hok haccepts).1

/-- **The counter in the row is a watermark** of the assertions that are verified. -/
theorem row_watermark :
    Watermark (passkeyStep P J W) (rowCount cid) Counting (AcceptsCount P J W .verify cid) where
  keeps s use n hok hs := by
    obtain ⟨hq, m, hm, hpos⟩ := hok
    cases hpath : use.path with
    | unlock =>
      -- the rows are the second half of `files`
      let Q : Option (Except String VaultHeader) × List Fido2CredRow → Prop := fun counters =>
        AtLeast n ((counters.2.find? (·.credentialId = cid)).map (·.signCount.toNat))
      refine usePasskey_preserves (Q := Q) hpath hq ?_ ?_ s hs
      · intro m hm
        cases hm
      · exact fun _ _ _ _ _ _ _ _ _ _ hfresh => hfresh
    | verify =>
      rw [passkeyStep, usePasskey_verify hpath]
      cases hrun : verifyFido2Assertion W use.env use.a s with
      | mk res t =>
        cases res with
        | ok _ => exact (verifyFido2Assertion_row hm hpos hrun).2.2 cid n hs
        | error e =>
          have hsame : t = s := verifyFido2Assertion_failsClean s e t hrun
          rw [hsame]
          exact hs
  raises _ _ _ hok haccepts := (verify_accepts hok haccepts).2
  exceeds _ _ _ hok haccepts := (verify_accepts hok haccepts).1

end Requests

/-! ## Every run -/

/-- The two stores of a path. -/
def storedCount : AssertionPath → Bytes → DaemonState → Option Nat
  | .unlock => sidecarCount
  | .verify => rowCount

theorem storedCount_watermark (path : AssertionPath) (cid : Bytes) :
    Watermark (passkeyStep P J W) (storedCount path cid) Counting (AcceptsCount P J W path cid) := by
  cases path
  · exact sidecar_watermark
  · exact row_watermark

/-- **Clones are detected**: along a run of assertions with positive counters neither store's
counter goes down, and what a path accepts is greater than what it accepted before. -/
theorem signCounts_of_run (s : DaemonState) {uses : List PasskeyUse}
    (hok : ∀ use ∈ uses, Counting use) (path : AssertionPath) (cid : Bytes) :
    (∀ first middle, first ++ middle <+: uses →
      ∀ n ∈ storedCount path cid (run (passkeyStep P J W) s first),
        ∀ m ∈ storedCount path cid (run (passkeyStep P J W) s (first ++ middle)), n ≤ m) ∧
    (∀ first use middle later, first ++ use :: (middle ++ [later]) <+: uses →
      ∀ c, AcceptsCount P J W path cid (run (passkeyStep P J W) s first) use c →
        later.path = path → later.a.cid = cid → (∀ c' ∈ counterOf later.a.authData, c' ≤ c) →
          ¬ Accepted P J W (run (passkeyStep P J W) s (first ++ use :: middle)) later) := by
  have hmark := storedCount_watermark (P := P) (J := J) (W := W) path cid
  constructor
  · intro first middle hpart n hn m hm
    rw [run_append] at hm
    refine hmark.mark_le (fun use huse => hok use (hpart.subset ?_)) hn hm
    exact mem_append_right _ huse
  · intro first use middle later hpart c hfirst hpath hcid hle haccepted
    have hpart' : ∀ x ∈ use :: (middle ++ [later]), Counting x := fun x hx =>
      hok x (hpart.subset (mem_append_right _ hx))
    obtain ⟨-, c', hc', -⟩ := hpart' later (by simp)
    rw [run_append] at haccepted
    have hlt : c < c' := hmark.lt_of_accepts hpart' hfirst ⟨hpath, hcid, hc', haccepted⟩
    have hge : c' ≤ c := hle c' hc'
    omega

/-! ### A key whose counter is 5 -/

/-- A vault with one security key. -/
def keyVault (row : Fido2CredRow) : DaemonState :=
  openedVault (spelledHeader (utf8 "password") 0) { symbolicDb with
    fido2Credentials := ⟨[row], nodup_singleton _, nodup_singleton _⟩ }

def securityKey (signCount : UInt32) (lastUsedAt : Option Nat) : Fido2CredRow where
  id := "key"
  credentialId := [7]
  publicKeyCbor := [9]
  signCount := signCount
  lastUsedAt := lastUsedAt

/-- The user is verified, and the counter is `count`. -/
def keyUse (count : UInt8) : PasskeyUse where
  path := .verify
  env := symbolicEnv 2 2
  a := { cid := [7], authData := .replicate 32 0 ++ [0x05, 0, 0, 0, count]
         signature := [9], clientDataJson := [] }
  uid := 1000

instance (s : DaemonState) (use : PasskeyUse) :
    Decidable (Accepted symbolic spelledSerde symbolicWebauthn s use) :=
  inferInstanceAs (Decidable ((usePasskey symbolic spelledSerde symbolicWebauthn use s).1 = .ok ()))

theorem signCounts_of_run_key :
    AcceptsCount symbolic spelledSerde symbolicWebauthn .verify [7] (keyVault (securityKey 0 none))
        (keyUse 5) 5 ∧
      ¬ Accepted symbolic spelledSerde symbolicWebauthn
        (run (passkeyStep symbolic spelledSerde symbolicWebauthn) (keyVault (securityKey 0 none))
          [keyUse 5]) (keyUse 3) := by
  have hcounting : ∀ use ∈ [keyUse 5, keyUse 3], Counting use := by
    intro use huse
    rcases mem_cons.mp huse with rfl | huse
    · exact ⟨symbolicEnv_quiet 2 2, 5, rfl, by decide⟩
    · rcases mem_singleton.mp huse with rfl
      exact ⟨symbolicEnv_quiet 2 2, 3, rfl, by decide⟩
  have hfirst : AcceptsCount symbolic spelledSerde symbolicWebauthn .verify [7]
      (keyVault (securityKey 0 none)) (keyUse 5) 5 :=
    ⟨rfl, rfl, rfl, by decide +kernel⟩
  refine ⟨hfirst, (signCounts_of_run _ hcounting .verify [7]).2 [] (keyUse 5) [] (keyUse 3)
    prefix_rfl 5 hfirst rfl rfl ?_⟩
  intro c' hc'
  cases hc'
  decide

/-- A counter of zero is accepted after 5 and stored; then 3 is accepted as well. -/
theorem signCount_reset :
    let step := passkeyStep symbolic spelledSerde symbolicWebauthn
    let s := keyVault (securityKey 0 none)
    (∀ use ∈ [keyUse 5, keyUse 0, keyUse 3], use.env.Quiet ∧
        verifyAssertion symbolicWebauthn [9] use.a "localhost" true = .ok ()) ∧
      Accepted symbolic spelledSerde symbolicWebauthn s (keyUse 5) ∧
      rowCount [7] (run step s [keyUse 5]) = some 5 ∧
      Accepted symbolic spelledSerde symbolicWebauthn (run step s [keyUse 5]) (keyUse 0) ∧
      rowCount [7] (run step s [keyUse 5, keyUse 0]) = some 0 ∧
      Accepted symbolic spelledSerde symbolicWebauthn (run step s [keyUse 5, keyUse 0])
        (keyUse 3) := by
  refine ⟨?_, ?_, ?_, ?_, ?_, ?_⟩
  · intro use huse
    simp only [mem_cons, not_mem_nil, or_false] at huse
    rcases huse with rfl | rfl | rfl <;> exact ⟨symbolicEnv_quiet 2 2, by decide +kernel⟩
  all_goals decide +kernel

end PwdNow.Daemon
