import PwdNow.Daemon.State

/-!
# Daemon — what recording a failure does

`record_failed_unlock`, `record_totp_failure` and the wipe they can end in, whatever the system
calls answer. Both count first and then compare with the threshold of the header on disk; the wipe
begins with `lock()`, and its errors are ignored.
-/

namespace PwdNow.Daemon

open Kit Kit.Fallible

variable {env : Env} {s t : DaemonState} {uid : UInt32} {header : VaultHeader}

/-! ## Counting -/

/-- The state once a failed unlock is counted. -/
def counted (env : Env) (uid : UInt32) (s : DaemonState) : DaemonState :=
  { s with
    pendingAudit :=
      if s.pendingAudit.length < 100 then s.pendingAudit ++ [("UNLOCK_FAILED", none)]
      else s.pendingAudit
    lockout := (s.lockout.recordFailedUnlock env.failAt uid).2 }

/-- The count that reaches the comparison with the threshold. -/
def failureCount (env : Env) (uid : UInt32) (s : DaemonState) : UInt32 :=
  (s.lockout.recordFailedUnlock env.failAt uid).1

/-- The header can be read, and its threshold is at most `count`. -/
def Reached (env : Env) (count : UInt32) (s : DaemonState) : Prop :=
  env.io (.readHeader .duress) = .ok () ∧ ∃ header, s.disk.sidecar = some (.ok header) ∧
    header.duressMaxAttempts > 0 ∧ count ≥ header.duressMaxAttempts

theorem reached_one_iff (hs : s.disk.sidecar = some (.ok header)) :
    Reached env 1 s ↔ env.io (.readHeader .duress) = .ok () ∧ header.duressMaxAttempts = 1 := by
  have hone : header.duressMaxAttempts > 0 ∧ (1 : UInt32) ≥ header.duressMaxAttempts ↔
      header.duressMaxAttempts = 1 := by
    simp only [gt_iff_lt, ge_iff_le, UInt32.lt_iff_toNat_lt, UInt32.le_iff_toNat_le,
      ← UInt32.toNat_inj, UInt32.toNat_zero, UInt32.toNat_one]
    omega
  simp [Reached, hs, ← hone]

theorem recordFailedUnlock_run :
    recordFailedUnlock env uid s =
      wipeIfReached env (failureCount env uid s) (counted env uid s) := by
  by_cases hroom : s.pendingAudit.length < 100
  · simp only [recordFailedUnlock, bind_run, modify_run, gets_run, counted, failureCount,
      if_pos hroom]
  · simp only [recordFailedUnlock, bind_run, modify_run, gets_run, counted, failureCount,
      if_neg hroom]

/-! ## The wipe -/

theorem mediaOverwrite_returns : Returns (mediaOverwrite env) :=
  (Returns.at env _).bind fun _ => (Returns.modify _).bind fun _ => (Returns.at env _).bind
    fun _ => .modify _

theorem removeFiles_cases :
    (env.io .removeVault ≠ .ok () ∧ env.io .removeMeta ≠ .ok () ∧ removeFiles env s = (.ok (), s)) ∨
      (¬ (env.io .removeVault ≠ .ok () ∧ env.io .removeMeta ≠ .ok ()) ∧
        ∃ t, removeFiles env s = (.ok (), t) ∧ (t.disk.sidecar = none ∨ t.disk.vault = none)) := by
  cases hvault : env.io .removeVault <;> cases hmeta : env.io .removeMeta <;>
    simp [removeFiles, bind_run, attemptErr, Env.at, hvault, hmeta, outcome, fail, removeVault,
      removeSidecar]

theorem cryptographicErase_cases (hs : s.disk.sidecar = some (.ok header))
    (hv : s.disk.vault.isSome) :
    (∃ e, cryptographicErase env s = (.error (.err e), s) ∧
      (env.io .readMeta ≠ .ok () ∨ env.io .eraseHeader ≠ .ok ())) ∨
    (∃ e, cryptographicErase env s =
        (.error (.err e), s.setSidecar (sanitiseHeader header)) ∧
      env.io .readMeta = .ok () ∧ env.io .eraseHeader = .ok () ∧ env.io .unlinkVault ≠ .ok ()) ∨
    (∃ r t, cryptographicErase env s = (r, t) ∧ (∀ site, r ≠ .error (.abort site)) ∧
      t.disk.vault = none ∧
      env.io .readMeta = .ok () ∧ env.io .eraseHeader = .ok () ∧ env.io .unlinkVault = .ok ()) := by
  cases hread : env.io .readMeta with
  | error e => exact .inl ⟨e, bind_run_error (at_run_error hread), .inl (by simp)⟩
  | ok _ =>
    have hhead : cryptographicErase env s = (do
        env.at .eraseHeader
        modify fun s => s.setSidecar (sanitiseHeader header)
        unlinkVault env
        env.at .unlinkMeta
        modify removeSidecar : Call Unit) s := by
      rw [cryptographicErase, bind_run_ok (at_run_ok hread s)]
      exact bind_run_ok (reads_eq_ok.mpr ⟨by rw [hs], rfl⟩)
    rw [hhead]
    cases herase : env.io .eraseHeader with
    | error e => exact .inl ⟨e, bind_run_error (at_run_error herase), .inr (by simp)⟩
    | ok _ =>
      rw [bind_run_ok (at_run_ok herase s), bind_run_ok (modify_run _ s)]
      -- the header is sanitised in place; from here on an error leaves it so
      have hpresent : (s.setSidecar (sanitiseHeader header)).disk.vault.isSome = true := hv
      cases hunlink : env.io .unlinkVault with
      | error e =>
        refine .inr (.inl ⟨e, ?_, rfl, rfl, by simp⟩)
        refine bind_run_error ?_
        simp [unlinkVault, bind_run, hpresent, at_run_error hunlink]
      | ok _ =>
        have hgone : unlinkVault env (s.setSidecar (sanitiseHeader header)) =
            (.ok (), removeVault (s.setSidecar (sanitiseHeader header))) := by
          simp [unlinkVault, bind_run, hpresent, Env.at, hunlink, outcome]
        rw [bind_run_ok hgone]
        refine .inr (.inr ?_)
        cases hmeta : env.io .unlinkMeta with
        | error e =>
          exact ⟨_, _, bind_run_error (at_run_error hmeta), by simp, rfl, rfl, rfl, rfl⟩
        | ok _ =>
          exact ⟨_, _, bind_run_ok (at_run_ok hmeta _), by simp, rfl, rfl, rfl, rfl⟩

/-- The wipe fails before it has changed anything on disk, and so do the removals it falls
back to. -/
def WipeFails (env : Env) : Prop :=
  if env.wipeMode = some "overwrite" then env.io .overwriteMeta ≠ .ok ()
  else (env.io .readMeta ≠ .ok () ∨ env.io .eraseHeader ≠ .ok ()) ∧
    env.io .removeVault ≠ .ok () ∧ env.io .removeMeta ≠ .ok ()

/-- The wipe sanitises the header, and then can remove neither file. -/
def WipeStops (env : Env) : Prop :=
  env.wipeMode ≠ some "overwrite" ∧ env.io .readMeta = .ok () ∧ env.io .eraseHeader = .ok () ∧
    env.io .unlinkVault ≠ .ok () ∧ env.io .removeVault ≠ .ok () ∧ env.io .removeMeta ≠ .ok ()

theorem forensicWipeInternal_erase (hmode : env.wipeMode ≠ some "overwrite")
    {r : Except Failure Unit} {u : DaemonState} (h : cryptographicErase env (lock s) = (r, u))
    (hr : ∀ site, r ≠ .error (.abort site)) :
    (r = .ok () ∧ forensicWipeInternal env s = (.ok (), u)) ∨
      ((∃ e, r = .error (.err e)) ∧ forensicWipeInternal env s = removeFiles env u) := by
  rw [forensicWipeInternal, bind_run_ok (modify_run lock s), if_neg hmode]
  cases r with
  | ok _ =>
    rw [bind_run_ok (attemptErr_eq_ok_ok.mpr h)]
    exact .inl ⟨rfl, rfl⟩
  | error e =>
    cases e with
    | abort site => exact absurd rfl (hr site)
    | err e =>
      rw [bind_run_ok (attemptErr_of_err h)]
      exact .inr ⟨⟨e, rfl⟩, rfl⟩

section

variable (env : Env)

/-- **How far a wipe gets.** -/
theorem forensicWipeInternal_disk (hs : s.disk.sidecar = some (.ok header))
    (hv : s.disk.vault.isSome) :
    (WipeFails env ∧ (forensicWipeInternal env s).2.disk = s.disk) ∨
      (WipeStops env ∧ (forensicWipeInternal env s).2.disk =
        ⟨some (.ok (sanitiseHeader header)), s.disk.vault⟩) ∨
      (¬ WipeFails env ∧ ¬ WipeStops env ∧ ((forensicWipeInternal env s).2.disk.sidecar = none ∨
        (forensicWipeInternal env s).2.disk.vault = none)) := by
  by_cases hmode : env.wipeMode = some "overwrite"
  · rw [forensicWipeInternal, bind_run_ok (modify_run lock s), if_pos hmode]
    simp only [WipeFails, WipeStops, hmode, if_true, not_true_eq_false, ne_eq, false_and,
      not_false_eq_true, true_and, false_or]
    -- the sidecar goes first
    cases hmeta : env.io .overwriteMeta <;> cases hvault : env.io .overwriteVault <;>
      simp [mediaOverwrite, bind_run, Env.at, hmeta, hvault, outcome, fail, removeSidecar,
        removeVault, lock, lockInternal]
  · have hfails : WipeFails env ↔ (env.io .readMeta ≠ .ok () ∨ env.io .eraseHeader ≠ .ok ()) ∧
        env.io .removeVault ≠ .ok () ∧ env.io .removeMeta ≠ .ok () := by
      rw [WipeFails, if_neg hmode]
    -- a fallback that removes nothing leaves what the erasure left
    have hfallback : ∀ e u, cryptographicErase env (lock s) = (.error (.err e), u) →
        (env.io .removeVault ≠ .ok () ∧ env.io .removeMeta ≠ .ok () ∧
          (forensicWipeInternal env s).2 = u) ∨
        (¬ WipeFails env ∧ ¬ WipeStops env ∧ ((forensicWipeInternal env s).2.disk.sidecar = none ∨
          (forensicWipeInternal env s).2.disk.vault = none)) := by
      intro e u herase
      rcases forensicWipeInternal_erase hmode herase (by simp) with ⟨hok, -⟩ | ⟨-, hrun⟩
      · cases hok
      rw [hrun]
      rcases removeFiles_cases with ⟨h₁, h₂, hkept⟩ | ⟨hsome, t, hremove, hlost⟩
      · exact .inl ⟨h₁, h₂, by rw [hkept]⟩
      · rw [hremove]
        exact .inr ⟨fun h => hsome (hfails.mp h).2, fun h => hsome h.2.2.2.2, hlost⟩
    rcases cryptographicErase_cases (s := lock s) hs hv with
      ⟨e, herase, hwhy⟩ | ⟨e, herase, hread, hsan, hunlink⟩ |
      ⟨r, u, herase, hr, hgone, hread, hsan, hunlink⟩
    · rcases hfallback e _ herase with ⟨h₁, h₂, hkept⟩ | hlost
      · exact .inl ⟨hfails.mpr ⟨hwhy, h₁, h₂⟩, by rw [hkept]; rfl⟩
      · exact .inr (.inr hlost)
    · rcases hfallback e _ herase with ⟨h₁, h₂, hkept⟩ | hlost
      · exact .inr (.inl ⟨⟨hmode, hread, hsan, hunlink, h₁, h₂⟩, by rw [hkept]; rfl⟩)
      · exact .inr (.inr hlost)
    · refine .inr (.inr ⟨?_, fun h => h.2.2.2.1 hunlink, ?_⟩)
      · rw [hfails]
        rintro ⟨hwhy | hwhy, -⟩
        · exact hwhy hread
        · exact hwhy hsan
      · rcases forensicWipeInternal_erase hmode herase hr with ⟨-, hrun⟩ | ⟨-, hrun⟩
        · rw [hrun]
          exact .inr hgone
        · rw [hrun]
          rcases removeFiles_cases with ⟨-, -, hkept⟩ | ⟨-, t, hremove, hlost⟩
          · rw [hkept]
            exact .inr hgone
          · rw [hremove]
            exact hlost

theorem unlinkVault_returns : Returns (unlinkVault env) := by
  refine (Returns.gets _).bind fun present => ?_
  cases present with
  | false => exact .pure ()
  | true => exact (Returns.at env _).bind fun _ => .modify _

theorem cryptographicErase_returns : Returns (cryptographicErase env) := by
  refine (Returns.at env _).bind fun _ => .bind ?_ fun header => (Returns.at env _).bind
    fun _ => (Returns.modify _).bind fun _ => (unlinkVault_returns env).bind fun _ =>
      (Returns.at env _).bind fun _ => .modify _
  intro s site t h
  rw [reads_run, Prod.mk.injEq] at h
  split at h <;> simp [fail] at h

theorem forensicWipeInternal_returns : Returns (forensicWipeInternal env) := by
  refine (Returns.modify _).bind fun _ => ?_
  split
  · exact mediaOverwrite_returns
  · refine (cryptographicErase_returns env).attemptErr.bind fun res => ?_
    cases res with
    | ok _ => exact .pure ()
    | error _ =>
      exact ((Returns.at env _).bind fun _ => .modify _).attemptErr.bind fun _ =>
        ((Returns.at env _).bind fun _ => .modify _).attemptErr.bind fun _ => .pure ()

/-! ## Recording -/

theorem wipeIfReached_cases (count : UInt32) (s : DaemonState) :
    (Reached env count s ∧
      wipeIfReached env count s = (.ok (), (forensicWipeInternal env s).2)) ∨
    (¬ Reached env count s ∧ wipeIfReached env count s = (.ok (), s)) := by
  obtain ⟨r, hr⟩ := attemptErr_of_returns (readHeader_returns env .duress) s
  have hkept : (readHeader env .duress s).2 = s := (readHeader_keeps env .duress).same rfl
  rw [hkept] at hr
  cases r with
  | error e =>
    refine .inr ⟨?_, ?_⟩
    · rintro ⟨hio, header, hs, -⟩
      rw [attemptErr_eq_ok_ok.mpr (readHeader_eq_ok.mpr ⟨hio, hs, rfl⟩)] at hr
      cases hr
    · rw [wipeIfReached, bind_run_ok hr]
      rfl
  | ok header =>
    obtain ⟨hio, hs, -⟩ := readHeader_eq_ok.mp (attemptErr_eq_ok_ok.mp hr)
    by_cases hreached : header.duressMaxAttempts > 0 ∧ count ≥ header.duressMaxAttempts
    · obtain ⟨r', hwipe⟩ := attemptErr_of_returns (forensicWipeInternal_returns env) s
      refine .inl ⟨⟨hio, header, hs, hreached⟩, ?_⟩
      rw [wipeIfReached, bind_run_ok hr]
      simp only [if_pos hreached]
      rw [bind_run_ok hwipe]
      rfl
    · refine .inr ⟨?_, ?_⟩
      · rintro ⟨-, header', hs', hreached'⟩
        rw [hs] at hs'
        cases hs'
        exact hreached hreached'
      · rw [wipeIfReached, bind_run_ok hr]
        simp only [if_neg hreached]
        rfl

/-- **A recorded failure** is counted, and wipes if the count has reached the threshold. -/
theorem recordFailedUnlock_cases (uid : UInt32) (s : DaemonState) :
    (Reached env (failureCount env uid s) s ∧ recordFailedUnlock env uid s =
      (.ok (), (forensicWipeInternal env (counted env uid s)).2)) ∨
    (¬ Reached env (failureCount env uid s) s ∧
      recordFailedUnlock env uid s = (.ok (), counted env uid s)) := by
  rw [recordFailedUnlock_run]
  -- counting does not touch the files
  exact wipeIfReached_cases env (failureCount env uid s) (counted env uid s)

theorem recordFailedUnlock_throw {α : Type} (e : Failure) :
    (recordFailedUnlock env uid >>= fun _ => (throw e : Call α)) s =
      (.error e, (recordFailedUnlock env uid s).2) := by
  rw [bind_run]
  rcases recordFailedUnlock_cases env uid s with ⟨-, hrun⟩ | ⟨-, hrun⟩ <;> rw [hrun] <;> rfl

end

theorem forensicWipeInternal_inv {I : DaemonState → Prop}
    (hsanitise : ∀ s header, I s → s.disk.sidecar = some (.ok header) →
      I (s.setSidecar (sanitiseHeader header)))
    (hsidecar : ∀ s, I s → I (removeSidecar s)) (hvault : ∀ s, I s → I (removeVault s))
    (env : Env) (h : I (lock s)) : I (forensicWipeInternal env s).2 := by
  have hat : ∀ {β : Type} (site : Site) (x : Call β), Preserves I x →
      Preserves I (env.at site >>= fun _ => x) :=
    fun site x hx => .lift_bind fun _ => hx
  have hunlink : Preserves I (unlinkVault env) := by
    refine (Preserves.gets _).bind fun present => ?_
    cases present
    · exact .pure ()
    · exact hat _ _ (.modify hvault)
  have herase : Preserves I (cryptographicErase env) := by
    refine hat _ _ ((Preserves.reads _).bind_ok fun u header v hu hread _ => ?_)
    obtain ⟨hparsed, rfl⟩ := reads_eq_ok.mp hread
    have hfound : v.disk.sidecar = some (.ok header) := by
      split at hparsed <;> simp_all [fail]
    cases hio : env.io .eraseHeader with
    | error e =>
      rw [bind_run_error (at_run_error hio)]
      exact hu
    | ok _ =>
      rw [bind_run_ok (at_run_ok hio v), bind_run_ok (modify_run _ v)]
      exact hunlink.bind (fun _ => hat _ _ (.modify hsidecar)) _
        (hsanitise v header hu hfound)
  have hremove : Preserves I (removeFiles env) :=
    (attemptErr_preserves (hat _ _ (.modify hvault))).bind fun _ =>
      (attemptErr_preserves (hat _ _ (.modify hsidecar))).bind fun _ => .pure ()
  have hoverwrite : Preserves I (mediaOverwrite env) :=
    hat _ _ (.bind (.modify hsidecar) fun _ => hat _ _ (.modify hvault))
  rw [forensicWipeInternal, bind_run_ok (modify_run lock s)]
  split
  · exact hoverwrite _ h
  · refine Preserves.bind (attemptErr_preserves herase) (fun res => ?_) _ h
    cases res with
    | ok _ => exact .pure ()
    | error _ => exact hremove

theorem forensicWipeInternal_vmk : (forensicWipeInternal env s).2.vmk = none :=
  forensicWipeInternal_inv (I := (·.vmk = none)) (fun _ _ h _ => h) (fun _ h => h) (fun _ h => h) env
    rfl

theorem forensicWipeInternal_no_vault (hv : s.disk.vault = none) :
    (forensicWipeInternal env s).2.disk.vault = none :=
  forensicWipeInternal_inv (I := (·.disk.vault = none)) (fun _ _ h _ => h) (fun _ h => h)
    (fun _ _ => rfl) env hv

/-- **What a recorded failure leaves of the files**, unless a wipe stops halfway: both as they
were, or not both of them. -/
theorem recordFailedUnlock_disk (hstops : ¬ WipeStops env) (uid : UInt32) (s : DaemonState) :
    ((recordFailedUnlock env uid s).2.disk = s.disk ∧
        ((recordFailedUnlock env uid s).2.vmk = s.vmk ∨
          (recordFailedUnlock env uid s).2.vmk = none)) ∨
      (recordFailedUnlock env uid s).2.disk.sidecar = none ∨
      (recordFailedUnlock env uid s).2.disk.vault = none := by
  rcases recordFailedUnlock_cases env uid s with ⟨⟨-, header, hs, -⟩, hrun⟩ | ⟨-, hrun⟩
  · rw [hrun]
    cases hv : s.disk.vault with
    | none => exact .inr (.inr (forensicWipeInternal_no_vault hv))
    | some file =>
      have hcounted : (counted env uid s).disk.vault.isSome := by
        show s.disk.vault.isSome = true
        rw [hv]
        rfl
      rcases forensicWipeInternal_disk env (s := counted env uid s) hs hcounted with
        ⟨-, hkept⟩ | ⟨hstop, -⟩ | ⟨-, -, hlost⟩
      · exact .inl ⟨hkept, .inr forensicWipeInternal_vmk⟩
      · exact absurd hstop hstops
      · exact .inr hlost
  · rw [hrun]
    exact .inl ⟨rfl, .inl rfl⟩

end PwdNow.Daemon
