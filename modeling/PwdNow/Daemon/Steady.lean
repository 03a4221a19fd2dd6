import PwdNow.Daemon.Failures
import PwdNow.Daemon.Grpc

/-!
# Daemon — what a request keeps until its outcome

Between its checks and its outcome a request opens the vault file, writes back headers that it has
read, and puts keys and sessions in memory. `Steady` and `SteadyIn` collect what an invariant has to
stand for this. A header that is written back has the threshold it had, the wipe ticket it had, if
any, and the KDF parameters it had or those of `tune_params`.
-/

namespace PwdNow.Daemon

open Kit Kit.Fallible

/-- `stored` is written in the place of `header`. -/
structure VaultHeader.WrittenBack (header stored : VaultHeader) : Prop where
  threshold : stored.duressMaxAttempts = header.duressMaxAttempts
  ticket : header.wipeTicketHash ≠ "" → stored.wipeTicketHash = header.wipeTicketHash

/-- An invariant of the files and the two counters, under which every header is in `H`. -/
structure Steady (H : VaultHeader → Prop) (I : DaemonState → Prop) : Prop where
  memory : ∀ {s t : DaemonState}, I s → t.disk = s.disk → t.lockout = s.lockout →
    t.totpLockout = s.totpLockout → I t
  vault : ∀ {s : DaemonState}, I s → ∀ file, I (s.setVault file)
  header : ∀ {s : DaemonState} {header}, I s → s.disk.sidecar = some (.ok header) → H header
  sidecar : ∀ {s : DaemonState} {header}, I s → H header → I (s.setSidecar header)
  writtenBack : ∀ {header stored : VaultHeader}, H header → header.WrittenBack stored → H stored

/-- `stored` is written in the place of `header` by a request that runs in `env`. -/
structure VaultHeader.Edited (env : Env) (header stored : VaultHeader) : Prop
    extends header.WrittenBack stored where
  params : stored.params = header.params ∨ stored.params = env.tuned

/-- As `Steady`, for what is written in `env`. -/
structure SteadyIn (env : Env) (H : VaultHeader → Prop) (I : DaemonState → Prop) : Prop where
  memory : ∀ {s t : DaemonState}, I s → t.disk = s.disk → t.lockout = s.lockout →
    t.totpLockout = s.totpLockout → I t
  vault : ∀ {s : DaemonState}, I s → ∀ file, I (s.setVault file)
  header : ∀ {s : DaemonState} {header}, I s → s.disk.sidecar = some (.ok header) → H header
  sidecar : ∀ {s : DaemonState} {header}, I s → H header → I (s.setSidecar header)
  edited : ∀ {header stored : VaultHeader}, H header → header.Edited env stored → H stored

theorem Steady.within {H : VaultHeader → Prop} {I : DaemonState → Prop} (h : Steady H I)
    (env : Env) : SteadyIn env H I where
  memory := h.memory
  vault := h.vault
  header := h.header
  sidecar := h.sidecar
  edited hheader hedit := h.writtenBack hheader hedit.toWrittenBack

section

variable {P : Primitives} {J : Serde} {W : Webauthn} {F : Factors} {env : Env}
  {H : VaultHeader → Prop} {I : DaemonState → Prop} {s : DaemonState} {uid : UInt32}
  {header stored : VaultHeader} {α : Type}

section

variable (h : SteadyIn env H I)
include h

theorem writeHeader_steady (hheader : H header) (hedit : header.Edited env stored) (part : Part) :
    Preserves I (writeHeader P J env part stored) := by
  refine writeHeader_preserves (fun s hs => h.sidecar hs (h.edited hheader ?_))
  -- the MAC is none of the three
  cases s.vmk <;> exact ⟨⟨hedit.threshold, hedit.ticket⟩, hedit.params⟩

theorem onDatabase_steady (f : Database → Result Database) : Preserves I (onDatabase f) :=
  onDatabase_preserves fun _ _ _ _ hs _ _ => h.vault hs _

theorem openVault_steady (key : Block 32) : Preserves I (openVault env key) :=
  openVault_preserves (fun _ hs _ => h.vault hs _) (fun _ _ _ hs _ _ => h.vault hs _) env

theorem createSession_steady (userId : String) : Preserves I (createSession env userId uid) := by
  intro s hs
  unfold createSession
  split <;> exact h.memory hs rfl rfl rfl

theorem readHeader_bind_steady {part : Part} {g : VaultHeader → Call α}
    (hg : ∀ header, H header → Preserves I (g header)) :
    Preserves I (readHeader env part >>= g) := by
  refine readHeader_preserves.bind_ok fun s header t hs hread ht => ?_
  obtain ⟨-, hsidecar, rfl⟩ := readHeader_eq_ok.mp hread
  exact hg header (h.header hs hsidecar) _ ht

theorem openDatabase_steady (vmk : Block 32) : Preserves I (openDatabase P J env vmk) :=
  (openVault_steady h _).bind fun _ => (onDatabase_steady h _).bind fun _ =>
    (Preserves.gets _).bind fun _ => onDatabase_steady h _

theorem ensureWipeTicket_steady (hheader : H header) :
    Preserves I (ensureWipeTicket P J env header) := by
  unfold ensureWipeTicket
  split
  · next hempty =>
    refine (writeHeader_steady h hheader ?_ _).bind fun _ => .pure _
    exact ⟨⟨rfl, fun hne => absurd hempty hne⟩, .inl rfl⟩
  · exact .pure _

theorem quickUnlockTicket_steady (hheader : H header) :
    Preserves I (quickUnlockTicket P J env header) := by
  unfold quickUnlockTicket
  split
  · next hempty =>
    refine (attemptErr_preserves (writeHeader_steady h hheader ?_ _)).bind fun _ => .pure _
    exact ⟨⟨rfl, fun hne => absurd hempty hne⟩, .inl rfl⟩
  · exact .pure _

end

variable {password : Bytes} {yk : Option (Block 20)}

section

variable (h : SteadyIn env H I)
include h

theorem enterVault_steady {vmk : Block 32} (hheader : H header) :
    Preserves I (enterVault P J env password yk uid header vmk) := by
  refine (openDatabase_steady h vmk).bind fun _ => (ensureWipeTicket_steady h hheader).bind fun _ =>
    .bind ?_ fun _ => .bind (.modify fun s hs => h.memory hs rfl rfl rfl)
      fun _ => createSession_steady h _
  refine .ite ((attemptErr_preserves ?_).bind fun _ => .pure _) (.pure _)
  exact .lift_bind fun _ => readHeader_bind_steady h fun _ hread =>
    writeHeader_steady h hread (by exact ⟨⟨rfl, fun _ => rfl⟩, .inr rfl⟩) _

theorem unlockExisting_steady : Preserves I (unlockExisting P J env password yk uid) := by
  refine (Preserves.of_same openHeader_keeps).bind_ok fun s opened t hs hopen ht => ?_
  obtain ⟨header, vmk⟩ := opened
  obtain ⟨rfl, hsidecar, -⟩ := openHeader_ok hopen
  exact enterVault_steady h (h.header hs hsidecar) _ ht

theorem createAndUnlock_steady (hfresh : ∀ kek, H (freshHeader P env kek)) :
    Preserves I (createAndUnlock P J env password yk uid) := by
  refine .lift_bind fun kek => .lift_bind fun _ =>
    .bind (.modify fun s hs => h.memory hs rfl rfl rfl) fun _ =>
      (writeHeader_steady h (hfresh kek) (by exact ⟨⟨rfl, fun _ => rfl⟩, .inl rfl⟩) _).bind fun _ =>
        (openVault_steady h _).bind fun _ =>
          .bind (.modify fun s hs => h.memory hs rfl rfl rfl) fun _ =>
            createSession_steady h _

theorem clientChallenge_steady {json : Bytes} {g : Block 32 → Call α}
    (hg : ∀ chal, Preserves I (g chal)) :
    Preserves I (do
      let chal ← clientChallenge W json
      consumeChallenge env chal
      g chal) := by
  refine (Preserves.of_same (clientChallenge_keeps json)).bind fun chal =>
    .bind ((Preserves.gets _).bind fun _ => .bind (.modify ?_) fun _ =>
      .lift _) fun _ => hg chal
  exact fun s hs => h.memory hs rfl rfl rfl

theorem openVaultWith_steady (vmkPlain : Bytes) : Preserves I (openVaultWith P env vmkPlain) :=
  (openVault_steady h _).bind fun _ => .lift_bind fun _ =>
    (onDatabase_steady h _).bind fun _ => .pure _

theorem updateSignCount_steady (cidHex : String) (newCount : Option UInt32) :
    Preserves I (updateSignCount P J env cidHex newCount) := by
  intro s hs
  obtain ⟨t, hrun, rfl | ⟨_, fresh, -, hsidecar, rfl⟩⟩ :=
    updateSignCount_cases P J env cidHex newCount s
  · rwa [hrun]
  · rw [hrun]
    refine h.sidecar hs (h.edited (h.header hs hsidecar) ?_)
    cases s.vmk <;> exact ⟨⟨rfl, fun _ => rfl⟩, .inl rfl⟩

theorem unlockWithPasskeyInner_steady (a : Assertion) :
    Preserves I (unlockWithPasskeyInner P J W env a uid) := by
  refine clientChallenge_steady h fun _ => readHeader_preserves.bind fun _ =>
    .lift_bind fun _ => .lift_bind fun _ => .lift_bind fun _ =>
      (openVaultWith_steady h _).bind fun _ => .bind ?_ fun _ =>
        .lift_bind fun _ => .bind (.modify ?_) fun _ =>
          (updateSignCount_steady h _ _).bind fun _ => createSession_steady h _
  · exact (Preserves.gets _).bind fun _ => onDatabase_steady h _
  · exact fun s hs => h.memory hs rfl rfl rfl

theorem quickUnlockInner_steady (a : Assertion) (dbk : Bytes) :
    Preserves I (quickUnlockInner P J W env a dbk uid) := by
  refine clientChallenge_steady h fun _ => readHeader_bind_steady h fun header hheader =>
    .lift_bind fun _ => .lift_bind fun _ => .lift_bind fun _ =>
      .lift_bind fun _ => (openVault_steady h _).bind fun _ =>
        (onDatabase_steady h _).bind fun _ => (quickUnlockTicket_steady h hheader).bind fun _ =>
          .bind (.modify ?_) fun _ => createSession_steady h _
  exact fun s hs => h.memory hs rfl rfl rfl

theorem enterRecovered_steady (recoveryKey : Bytes) :
    Preserves I (enterRecovered P env recoveryKey) := by
  refine readHeader_preserves.bind fun _ => .lift_bind fun _ =>
    .lift_bind fun _ => (openVaultWith_steady h _).bind fun _ =>
      .lift_bind fun _ => .bind (.modify ?_) fun _ => .pure _
  exact fun s hs => h.memory hs rfl rfl rfl

theorem changePasswordInner_steady (old new : Bytes) :
    Preserves I (changePasswordInner P J env old new yk) := by
  refine .lift_bind fun _ => .lift_bind fun _ =>
    (Preserves.of_same verifyMasterPasswordInner_keeps).bind fun _ => .lift_bind fun _ =>
      (Preserves.reads _).bind fun _ => (Preserves.gets _).bind fun _ => (Preserves.lift _).bind
        fun _ => .bind ?_ fun _ => .lift_bind fun _ =>
          (onDatabase_steady h _).bind fun _ => readHeader_bind_steady h fun header hheader =>
            (writeHeader_steady h hheader (by exact ⟨⟨rfl, fun _ => rfl⟩, .inr rfl⟩) _).bind fun _ =>
              .lift_bind fun _ => .bind (.modify ?_) fun _ => .modify ?_
  · refine .lift_bind fun _ => .modify fun s hs => ?_
    split
    · exact h.vault hs _
    · exact hs
  · exact fun s hs => h.memory hs rfl rfl rfl
  · exact fun s hs => h.memory hs rfl rfl rfl

theorem checkBackupCode_steady (code : String) : Preserves I (checkBackupCode P F env code) := by
  refine (Preserves.reads _).bind fun _ => (Preserves.reads _).bind fun _ =>
    .lift_bind fun _ => .lift_bind fun _ =>
      .bind (.modify ?_) fun _ => .pure _
  exact fun s hs => h.vault hs _

end

end

end PwdNow.Daemon
