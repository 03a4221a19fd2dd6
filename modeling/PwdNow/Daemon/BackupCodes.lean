import PwdNow.Daemon.TotpSetup

/-!
# Daemon — backup codes

`verify_backup_code` of `daemon/src/vault/totp_db.rs` after `generate_backup_codes`, any number of
times on one row of `otp_config`. A run is followed together with the codes accepted: the records in
the row are those of the codes, and exactly the accepted ones are marked.
-/

namespace PwdNow.Daemon.TotpDb

open Kit List

variable (P : Primitives) (F : Factors) (vmk : Block 32)

structure BackupCall where
  env : Env
  code : String

/-- The row in use, and the codes accepted so far. -/
structure Spending where
  db : Database
  accepted : List String

/-- A call that returns `Err` leaves the table as it is. -/
def Spending.step (s : Spending) (call : BackupCall) : Spending :=
  match verifyBackupCode P F call.env s.db vmk call.code with
  | .ok (true, db) => ⟨db, call.code :: s.accepted⟩
  | .ok (false, db) => ⟨db, s.accepted⟩
  | .error _ => s

/-- What is assumed of the libraries: a hash accepts exactly the text it was made of, and JSON and
the cipher give back what was put in. -/
structure ExactHashes (hashPassword : String → Option String) : Prop where
  parseHash : ∀ code hash, hashPassword code = some hash → F.parseHash hash = .ok ()
  verifyHash : ∀ code hash, hashPassword code = some hash →
    ∀ input, F.verifyHash input hash = decide (input = utf8 code)
  json : ∀ records, F.parseBackupCodes (F.backupCodesJson records) = .ok records

variable {P F vmk} {draws : SetupDraws} {codes spent : List String} {records : List BackupCode}
  {code : String} {now : Int}

/-- The records are those of the codes, and the spent ones are marked. -/
def Records (draws : SetupDraws) (spent codes : List String) (records : List BackupCode) : Prop :=
  Forall₂ (fun code record => draws.hashPassword code = some record.hash ∧
    (record.usedAt.isSome ↔ code ∈ spent)) codes records

/-- What a walk over the records comes to: the code is marked if it is there and was not spent. -/
inductive Walked (draws : SetupDraws) (spent codes : List String) (code : String) :
    Result (Option (List BackupCode)) → Prop where
  | spends {records : List BackupCode} (hmem : code ∈ codes) (hfresh : code ∉ spent)
      (h : Records draws (code :: spent) codes records) : Walked draws spent codes code
        (.ok (some records))
  | fails (h : code ∈ codes → code ∈ spent) : Walked draws spent codes code (.ok none)

theorem Walked.cons {first : String} {record : BackupCode} {r : Result (Option (List BackupCode))}
    (h : Walked draws spent codes code r) (hhash : draws.hashPassword first = some record.hash)
    (hused : record.usedAt.isSome ↔ first ∈ spent) (hskip : code = first → first ∈ spent) :
    Walked draws spent (first :: codes) code (r >>= fun rest => pure (rest.map (record :: ·))) := by
  cases h with
  | spends hmem hfresh h =>
    have hne : first ≠ code := fun heq => hfresh (heq ▸ hskip heq.symm)
    exact .spends (mem_cons_of_mem _ hmem) hfresh
      (.cons ⟨hhash, by rw [hused, mem_cons, or_iff_right hne]⟩ h)
  | fails h =>
    refine .fails fun hmem => ?_
    rcases mem_cons.mp hmem with heq | hmem
    · exact heq ▸ hskip heq
    · exact h hmem

/-- **One walk over the records.** Induction on the records, with the codes beside them. -/
theorem walked (hF : ExactHashes F draws.hashPassword) (hcodes : codes.Nodup)
    (h : Records draws spent codes records) (now : Int) (code : String) :
    Walked draws spent codes code (spendBackupCode F now code records) := by
  induction h with
  | nil => exact .fails fun h => absurd h not_mem_nil
  | @cons first record codes records hfirst hrest ih =>
    obtain ⟨hhash, hused⟩ := hfirst
    obtain ⟨hnew, hcodes⟩ := nodup_cons.mp hcodes
    by_cases hmarked : record.usedAt.isSome = true
    · rw [spendBackupCode, if_pos hmarked]
      exact (ih hcodes).cons hhash hused fun _ => hused.mp hmarked
    · rw [spendBackupCode, if_neg hmarked, hF.parseHash first _ hhash]
      show Walked _ _ _ _ (if F.verifyHash (utf8 code) record.hash then _ else _)
      rw [hF.verifyHash first _ hhash]
      by_cases heq : code = first
      · subst heq
        rw [if_pos (decide_eq_true rfl)]
        have hfresh : code ∉ spent := fun hspent => hmarked (hused.mpr hspent)
        refine .spends mem_cons_self hfresh (.cons ⟨hhash, by simp⟩ ?_)
        have hothers := (forall₂_and_left codes records).mpr
          ⟨fun other hother => show other ≠ code from fun heq => hnew (heq ▸ hother), hrest⟩
        exact hothers.imp fun other r hr =>
          ⟨hr.2.1, by rw [hr.2.2, mem_cons, or_iff_right hr.1]⟩
      · have hdiffers : utf8 code ≠ utf8 first := fun h => heq (utf8_injective h)
        rw [if_neg (by simpa using hdiffers)]
        exact (ih hcodes).cons hhash hused fun h => absurd h heq

/-! ## Runs -/

variable {db : Database} {s : Spending}

/-- The row in use holds the records. -/
def Stored (P : Primitives) (F : Factors) (vmk : Block 32) (db : Database)
    (records : List BackupCode) : Prop :=
  ∃ row rest nonce, db.otpConfig = row :: rest ∧ row.backupNonce = Block.bytes nonce ∧
    row.backupCodes = P.aesGcm.encrypt vmk nonce backupAad (F.backupCodesJson records)

section

variable (hP : P.Ideal) (hF : ExactHashes F draws.hashPassword) (hcodes : codes.Nodup)
include hP hF hcodes

/-- **One call** spends the code, unless that cannot be stored, or changes nothing. -/
theorem verifyBackupCode_cases (h : Stored P F vmk db records)
    (hrecords : Records draws spent codes records) (env : Env) (code : String) :
    (code ∈ codes ∧ code ∉ spent ∧ ∃ db' records', Stored P F vmk db' records' ∧
        Records draws (code :: spent) codes records' ∧
        verifyBackupCode P F env db vmk code =
          (outcome (env.io .backupCodes) >>= fun _ => .ok (true, db'))) ∨
      ((code ∈ codes → code ∈ spent) ∧ verifyBackupCode P F env db vmk code = .ok (false, db)) := by
  obtain ⟨row, rest, nonce, hotp, hnonce, hct⟩ := h
  have hopen : openSealed P vmk row.backupCodes row.backupNonce backupAad
      (.crypto "invalid backup nonce length") = .ok (F.backupCodesJson records) := by
    rw [hct, hnonce]
    exact openSealed_encrypt hP nonce _
  have hwalked := walked hF hcodes hrecords env.nowSecs code
  simp only [verifyBackupCode, hotp, head?_cons, okOr, hopen, hF.json, orErr, bind, Except.bind]
  generalize spendBackupCode F env.nowSecs code records = r at hwalked
  cases hwalked with
  | spends hmem hfresh hmarked =>
    exact .inl ⟨hmem, hfresh, _, _, ⟨_, _, env.kekNonce, rfl, rfl, rfl⟩, hmarked, rfl⟩
  | fails hspent => exact .inr ⟨hspent, rfl⟩

/-- The invariant: what has been accepted is marked, and nothing else. -/
structure Spending.Sound (P : Primitives) (F : Factors) (vmk : Block 32) (draws : SetupDraws)
    (codes : List String) (s : Spending) : Prop where
  stored : ∃ records, Stored P F vmk s.db records ∧ Records draws s.accepted codes records
  once : s.accepted.Nodup

theorem Spending.Sound.step (h : s.Sound P F vmk draws codes) (call : BackupCall) :
    (s.step P F vmk call).Sound P F vmk draws codes := by
  obtain ⟨⟨records, hstored, hrecords⟩, honce⟩ := h
  unfold Spending.step
  rcases verifyBackupCode_cases hP hF hcodes hstored hrecords call.env call.code with
    ⟨-, hfresh, db', records', hstored', hrecords', hrun⟩ | ⟨-, hrun⟩
  · cases hio : outcome (call.env.io .backupCodes) with
    | ok u =>
      rw [hrun, hio]
      exact ⟨⟨records', hstored', hrecords'⟩, nodup_cons.mpr ⟨hfresh, honce⟩⟩
    | error e =>
      rw [hrun, hio]
      exact ⟨⟨records, hstored, hrecords⟩, honce⟩
  · rw [hrun]
    exact ⟨⟨records, hstored, hrecords⟩, honce⟩

theorem Spending.Sound.run (h : s.Sound P F vmk draws codes) (calls : List BackupCall) :
    (run (Spending.step P F vmk) s calls).Sound P F vmk draws codes :=
  Visits.invariant h (along_true calls) (fun _ call _ _ h => h.step hP hF hcodes call)
    (.last _ _ calls)

end

theorem accepted_presented (calls : List BackupCall)
    (h : code ∈ (run (Spending.step P F vmk) s calls).accepted) :
    code ∈ s.accepted ∨ code ∈ calls.map (·.code) := by
  induction calls using reverseRecOn with
  | nil => exact .inl h
  | append_singleton calls call ih =>
    rw [run_concat] at h
    unfold Spending.step at h
    rw [map_append, mem_append]
    split at h
    · rcases mem_cons.mp h with rfl | h
      · exact .inr (.inr mem_cons_self)
      · exact (ih h).imp_right .inl
    · exact (ih h).imp_right .inl
    · exact (ih h).imp_right .inl

theorem records_of_mapM (h : (codes.mapM fun code => do
      let hash ← okOr (draws.hashPassword code) (.crypto "backup code hash failed")
      pure (⟨hash, none⟩ : BackupCode)) = .ok records) : Records draws [] codes records := by
  induction codes generalizing records with
  | nil =>
    cases h
    exact .nil
  | cons code codes ih =>
    simp only [mapM_cons, Result.bind_eq_ok, okOr_eq_ok] at h
    obtain ⟨record, ⟨hash, hhash, hrecord⟩, rest, hrest, hall⟩ := h
    cases hrecord
    cases hall
    exact .cons ⟨hhash, by simp⟩ (ih hrest)

open Spelling in
def spellBackupCode : Spelling BackupCode :=
  (string.pair (nat.pair nat).option).via
    (fun r => (r.hash, r.usedAt.map fun i => (i.toNat, (-i).toNat)))
    (fun t => ⟨t.1, t.2.map fun p => p.1 - p.2⟩)
    fun ⟨hash, usedAt⟩ => by
      cases usedAt with
      | none => rfl
      | some i =>
        simp only [Option.map_some, BackupCode.mk.injEq, Option.some.injEq, true_and]
        omega

/-- The symbolic factors, with records that can be read back. -/
def spelledFactors : Factors :=
  { symbolicFactors with
    backupCodesJson := spellBackupCode.list.write
    parseBackupCodes := fun b => (spellBackupCode.list.parse b).elim (.error "") .ok }

def oneCode : SetupDraws :=
  ⟨"", .replicate 12 0, [replicate 10 7], some, .replicate 12 1, ""⟩

theorem oneCode_exact : ExactHashes spelledFactors oneCode.hashPassword where
  parseHash _ _ _ := rfl
  verifyHash code hash h input := by
    cases h
    exact decide_eq_decide.mpr eq_comm
  json records := by
    simp only [spelledFactors, Spelling.parse_write]
    rfl

def oneCodeDb : Database :=
  { symbolicDb with
    otpConfig := [sealedConfig symbolic oneCode 0 symbolicVmk
      (symbolic.aesGcm.encrypt symbolicVmk oneCode.backupNonce backupAad
        (spelledFactors.backupCodesJson
        [⟨backupCode (replicate 10 7), none⟩]), oneCode.backupNonce.bytes)] }

end PwdNow.Daemon.TotpDb
