import PwdNow.Kit.Serial
import PwdNow.Server.UsersFile

/-!
# Server — `users.enc` under several workers

Any number of workers start on an empty data directory (`initAuth`) and serve calls of
`withUsersLock`, step by step. Where a call holds the lock, nobody else writes; but both `initAuth`
and `withUsersLock` create the file without the lock, on the strength of an existence check made
before.
-/

namespace PwdNow.Server

open Kit Async Protocol UsersDir Option

/-! ## Workers -/

inductive UsersProc (U : Type) where
  | initAuth (worker : Worker)
  | withUsersLock (worker : Worker) (fn : List U → Except RepoError (Option Js × List U))

section

variable {U : Type} (F : FileNode) (C : Codec (List U))

/-- `readFileSync(keyPath)` -/
def readMasterKey : UsersTask (Block 32) :=
  .section_ .masterKey fun _ => .reads fun s => s.masterKey.elim (.error .enoent) .ok

/-- `writeFileSync(keyPath, randomBytes(32), { flag: 'wx' })` -/
def createMasterKey : UsersTask (Block 32) :=
  .section_ .masterKey fun i s =>
    match s.masterKey with
    | some _ => (.error .eexist, s)
    | none => (.ok i.masterKey, { s with masterKey := some i.masterKey })

def masterKeyExists : UsersTask Bool := .section_ .exists_ fun _ => .gets fun s => s.masterKey.isSome

/-- The worker takes calls from now on. -/
def listen (worker : Worker) (masterKey : Block 32) : UsersTask Unit :=
  .section_ .start fun _ => .modify fun s =>
    { s with ctx := Function.update s.ctx worker (some masterKey) }

def initAuth (worker : Worker) : UsersTask Unit := do
  let found ← masterKeyExists
  let masterKey ← if found then readMasterKey else createMasterKey
  ensureUsers F C masterKey
  listen worker masterKey

/-- A call comes in once the worker listens. -/
def listening (worker : Worker) : UsersTask (Block 32) :=
  .waiting .start (fun _ s => (s.ctx worker).isSome) fun _ =>
    .reads fun s => (s.ctx worker).elim (.error .enoent) .ok

def UsersProc.task (me : Pid) : UsersProc U → UsersTask (Option Js)
  | .initAuth worker => do
    Server.initAuth F C worker
    pure none
  | .withUsersLock worker fn => do
    let masterKey ← listening worker
    Server.withUsersLock F C me masterKey isFalse fn

/-- What the callback makes of the users. -/
def UsersProc.effect : UsersProc U → List U → List U
  | .initAuth _, users => users
  | .withUsersLock _ fn, users => (saved isFalse fn users).getD users

/-- The callbacks of `log`, one after the other, from the empty list on. -/
def serial (procs : Pid → UsersProc U) (log : List Pid) : List U :=
  log.foldl (fun users p => (procs p).effect users) []

theorem serial_concat (procs : Pid → UsersProc U) (log : List Pid) (p : Pid) :
    serial procs (log ++ [p]) = (procs p).effect (serial procs log) := by
  simp [serial]

end

section

variable {U : Type} (F : FileNode) (C : Codec (List U)) (procs : Pid → UsersProc U)

/-- The file opens to what the logged callbacks have made. -/
structure Serialised (s : UsersDir) : Prop where
  absent : s.users = none → s.log = []
  opens : ∀ bytes, s.users = some bytes → ∃ masterKey, s.masterKey = some masterKey ∧
    openFile F masterKey C usersInfo bytes = some (serial procs s.log)
  ctx : ∀ worker masterKey, s.ctx worker = some masterKey → s.masterKey = some masterKey
  nodup : s.log.Nodup
  calls : ∀ p ∈ s.log, ∃ worker fn, procs p = .withUsersLock worker fn

def usersProtocol : Protocol Pid UsersStep UsersInput UsersDir where
  inv := Serialised F C procs
  rely p s s' := (∀ masterKey, s.masterKey = some masterKey → s'.masterKey = some masterKey) ∧
    (s.users.isSome → s'.users.isSome) ∧ (p ∈ s'.log ↔ p ∈ s.log) ∧
    (s.lock = some p → s'.lock = some p ∧ s'.log = s.log)
  refl _ _ := ⟨fun _ h => h, id, Iff.rfl, fun h => ⟨h, rfl⟩⟩
  trans h h' := by
    refine ⟨fun k hk => h'.1 k (h.1 k hk), fun hu => h'.2.1 (h.2.1 hu),
      h'.2.2.1.trans h.2.2.1, fun hlock => ?_⟩
    obtain ⟨hlock', hlog'⟩ := h.2.2.2 hlock
    obtain ⟨hlock'', hlog''⟩ := h'.2.2.2 hlock'
    exact ⟨hlock'', hlog''.trans hlog'⟩
  may
    | .create, _, s => s.log = []
    | _, _, _ => True

end

variable {U : Type} {F : FileNode} {C : Codec (List U)} {procs : Pid → UsersProc U} {p : Pid}
  {s s' : UsersDir} {masterKey : Block 32} {α β : Type}

theorem safe_looks {Q : Except RepoError α → UsersDir → Prop} {label : UsersStep}
    {ready : UsersInput → UsersDir → Bool} {f : UsersDir → Except RepoError α}
    (h : ∀ s', (usersProtocol F C procs).rely p s s' → Serialised F C procs s' →
      ∀ t, (usersProtocol F C procs).rely p s' t → Q (f s') t) :
    (usersProtocol F C procs).Safe p Q (.waiting label ready fun _ => .reads f) s :=
  safe_waiting fun _ s' hrely hinv _ _ => ⟨Fair.refl s', fun t ht => h s' hrely hinv t ht⟩

/-! ## Creation -/

theorem fair_create (hF : F.Ideal) (hC : C.Lawful) (hkey : s.masterKey = some masterKey)
    (hlog : s.log = []) (iv : Block 12) :
    (usersProtocol F C procs).Fair p s
      { s with users := some (writeEncryptedFile F masterKey C iv usersInfo []) } := by
  refine ⟨fun hinv => ⟨fun h => by simp at h, ?_, hinv.ctx, hinv.nodup, hinv.calls⟩,
    fun q _ => ⟨fun _ h => h, fun _ => rfl, Iff.rfl, fun h => ⟨h, rfl⟩⟩⟩
  rintro bytes hbytes
  cases hbytes
  refine ⟨masterKey, hkey, ?_⟩
  rw [openFile_writeEncryptedFile hF hC]
  simp only [hlog]
  rfl

theorem ensureUsers_safe (hF : F.Ideal) (hC : C.Lawful) {R : UsersDir → Prop}
    (hR : ∀ s s', (usersProtocol F C procs).rely p s s' → R s → R s')
    (hcreate : ∀ s users, R s → R { s with users })
    (hkey : ∀ s, R s → s.masterKey = some masterKey) (hs : R s) :
    (usersProtocol F C procs).Safe p (fun _ s => R s ∧ s.users.isSome)
      (ensureUsers F C masterKey) s := by
  refine Safe.bind (safe_looks fun s' hrely _ t ht => ?_)
  have hs' := hR _ _ hrely hs
  dsimp only
  cases hfound : s'.users.isSome with
  | true => exact fun u hu => ⟨hR _ _ hu (hR _ _ ht hs'), hu.2.1 (ht.2.1 hfound)⟩
  | false =>
    refine safe_waiting fun i u hu _ _ hmay => ?_
    have hRu := hR _ _ hu (hR _ _ ht hs')
    refine ⟨fair_create hF hC (hkey u hRu) hmay i.iv, fun v hv => ?_⟩
    exact ⟨hR _ _ hv (hcreate _ _ hRu), hv.2.1 rfl⟩

/-! ## Under the lock -/

variable {log : List Pid} {worker : Worker} {fn : List U → Except RepoError (Option Js × List U)}
  {r : Except RepoError (Option Js)}

/-- `p` holds the lock on a file that is there, and the callbacks logged so far are `log`. -/
structure HoldsUsers (p : Pid) (masterKey : Block 32) (log : List Pid) (s : UsersDir) : Prop where
  lock : s.lock = some p
  log : s.log = log
  masterKey : s.masterKey = some masterKey
  users : s.users.isSome

theorem HoldsUsers.rely (h : HoldsUsers p masterKey log s)
    (hrely : (usersProtocol F C procs).rely p s s') : HoldsUsers p masterKey log s' := by
  obtain ⟨hkey, husers, -, hlock⟩ := hrely
  obtain ⟨hlock', hlog'⟩ := hlock h.lock
  exact ⟨hlock', hlog'.trans h.log, hkey _ h.masterKey, husers h.users⟩

theorem HoldsUsers.opens (h : HoldsUsers p masterKey log s) (hinv : Serialised F C procs s) :
    readEncryptedFile F masterKey C usersInfo s.users [] = serial procs log := by
  obtain ⟨bytes, hbytes⟩ := isSome_iff_exists.mp h.users
  obtain ⟨masterKey', hkey, hopen⟩ := hinv.opens bytes hbytes
  rw [h.masterKey] at hkey
  cases hkey
  rw [hbytes]
  simp only [readEncryptedFile, hopen, getD_some, h.log]

section

variable (hproc : procs p = .withUsersLock worker fn) (h : HoldsUsers p masterKey log s)
    (hp : p ∉ log)
include hproc h hp

theorem fair_logged {bytes : Bytes} (hopen : Serialised F C procs s →
      openFile F masterKey C usersInfo bytes = some ((procs p).effect (serial procs log))) :
    (usersProtocol F C procs).Fair p s (logged { s with users := some bytes } p) := by
  refine ⟨fun hinv => ⟨fun hnone => by simp [logged] at hnone, ?_, hinv.ctx, ?_, ?_⟩, ?_⟩
  · rintro bytes' hbytes'
    cases hbytes'
    refine ⟨masterKey, h.masterKey, ?_⟩
    rw [hopen hinv, logged, serial_concat, h.log]
  · have hnodup := hinv.nodup
    rw [h.log] at hnodup
    simp only [logged, h.log]
    simpa using hnodup.concat hp
  · intro q hq
    rcases List.mem_append.mp hq with hq | hq
    · exact hinv.calls q hq
    · rw [List.mem_singleton.mp hq]
      exact ⟨worker, fn, hproc⟩
  · intro q hq
    refine ⟨fun _ hkey => hkey, fun _ => rfl, ?_, fun hlock => ?_⟩
    · simp [logged, hq]
    · rw [h.lock] at hlock
      exact absurd (some.inj hlock).symm hq

theorem fair_logged_unsaved (heffect : (procs p).effect (serial procs log) = serial procs log) :
    (usersProtocol F C procs).Fair p s (s.logged p) := by
  obtain ⟨bytes, hbytes⟩ := isSome_iff_exists.mp h.users
  have hsame : s.logged p = logged { s with users := some bytes } p := by
    rw [← hbytes]
  rw [hsame]
  refine fair_logged hproc h hp fun hinv => ?_
  obtain ⟨masterKey', hkey, hopen⟩ := hinv.opens bytes hbytes
  rw [h.masterKey] at hkey
  cases hkey
  rw [hopen, heffect, h.log]

end

/-- Where a call has ended, its callback is logged, unless it did not come to that. -/
def Logs (p : Pid) (fn : List U → Except RepoError (Option Js × List U)) :
    Except RepoError (Option Js) → UsersDir → Prop
  | .ok _, s => p ∈ s.log
  | .error e, s => p ∈ s.log → ∃ users, fn users = .error e

theorem Logs.rely (h : Logs p fn r s) (hrely : (usersProtocol F C procs).rely p s s') :
    Logs p fn r s' := by
  cases r with
  | ok a => exact hrely.2.2.1.mpr h
  | error e => exact fun hmem => h (hrely.2.2.1.mp hmem)

theorem underLock_safe (hF : F.Ideal) (hC : C.Lawful) (hproc : procs p = .withUsersLock worker fn)
    (hp : p ∉ log) (hs : HoldsUsers p masterKey log s) :
    (usersProtocol F C procs).Safe p (Logs p fn) (underLock F C p masterKey isFalse fn) s := by
  have heffect : (procs p).effect (serial procs log) =
      (saved isFalse fn (serial procs log)).getD (serial procs log) := by
    rw [hproc, UsersProc.effect]
  have hlogged : ∀ (u : UsersDir), p ∈ (u.logged p).log := fun u => by simp [logged]
  refine Safe.bind (safe_looks fun s' hrely hinv t ht => ?_)
  have hholds := hs.rely hrely
  dsimp only
  rw [hholds.opens hinv]
  have hholds := hholds.rely ht
  refine Safe.bind (safe_waiting fun i s' hrely _ _ _ => ?_)
  have hholds := hholds.rely hrely
  -- the three ends of the callback: it throws, returns `false`, or leaves users to be written
  unfold saved at heffect
  cases hfn : fn (serial procs log) with
  | error e =>
    rw [hfn] at heffect
    exact ⟨fair_logged_unsaved hproc hholds hp heffect, fun _ _ _ _ _ => ⟨_, hfn⟩⟩
  | ok r =>
    obtain ⟨result, users'⟩ := r
    rw [hfn] at heffect
    dsimp only at heffect ⊢
    by_cases hresult : isFalse result
    · simp only [hresult, if_true] at heffect ⊢
      refine ⟨fair_logged_unsaved hproc hholds hp heffect, fun t ht u hu => ?_⟩
      exact hu.2.2.1.mpr (ht.2.2.1.mpr (hlogged s'))
    · simp only [hresult, Bool.false_eq_true, if_false, getD_some] at heffect ⊢
      refine ⟨Fair.refl s', fun t ht => ?_⟩
      refine Safe.bind (safe_waiting fun i' u hu _ _ _ => ?_)
      have hholds := (hholds.rely ht).rely hu
      refine ⟨fair_logged hproc hholds hp fun _ => ?_, fun v hv w hw => ?_⟩
      · rw [openFile_writeEncryptedFile hF hC, heffect]
      · exact hw.2.2.1.mpr (hv.2.2.1.mpr (hlogged u))

theorem fair_lock {o : Option Pid} (h : ∀ q, q ≠ p → s.lock ≠ some q) :
    (usersProtocol F C procs).Fair p s { s with lock := o } :=
  ⟨fun hinv => ⟨hinv.absent, hinv.opens, hinv.ctx, hinv.nodup, hinv.calls⟩,
    fun q hq => ⟨fun _ hkey => hkey, id, Iff.rfl, fun hlock => absurd hlock (h q hq)⟩⟩

theorem unlockUsers_safe (hr : Logs p fn r s) :
    (usersProtocol F C procs).Safe p (fun r' s => r' = .ok () ∧ Logs p fn r s)
      (unlockUsers p) s := by
  refine safe_waiting fun i s' hrely _ _ _ => ?_
  have hr' := hr.rely hrely
  dsimp only [Fallible.modify_run]
  split
  · rename_i hlock
    refine ⟨fair_lock fun q hq hlock' => hq ?_, fun t ht => ⟨rfl, ?_⟩⟩
    · exact some.inj (hlock'.symm.trans hlock)
    · have hsame : Logs p fn r { s' with lock := none } := by cases r <;> exact hr'
      exact hsame.rely ht
  · exact ⟨Fair.refl s', fun t ht => ⟨rfl, hr'.rely ht⟩⟩

/-- What is known of a call before it has the lock. -/
structure CallsUsers (p : Pid) (masterKey : Block 32) (s : UsersDir) : Prop where
  masterKey : s.masterKey = some masterKey
  log : p ∉ s.log

theorem CallsUsers.rely (h : CallsUsers p masterKey s)
    (hrely : (usersProtocol F C procs).rely p s s') : CallsUsers p masterKey s' :=
  ⟨hrely.1 _ h.masterKey, fun hmem => h.log (hrely.2.2.1.mp hmem)⟩

theorem withUsersLock_safe (hF : F.Ideal) (hC : C.Lawful)
    (hproc : procs p = .withUsersLock worker fn) (hs : CallsUsers p masterKey s) :
    (usersProtocol F C procs).Safe p (Logs p fn) (withUsersLock F C p masterKey isFalse fn) s := by
  have hnot : ∀ {e s}, CallsUsers p masterKey s → Logs p fn (.error e) s := fun h hmem =>
    absurd hmem h.log
  refine Safe.bind ((ensureUsers_safe hF hC (fun _ _ hrely h => h.rely hrely)
    (fun s users h => ⟨h.masterKey, h.log⟩) (fun _ h => h.masterKey) hs).mono ?_)
  rintro (e | _) s ⟨hs, husers⟩
  · exact fun u hu => hnot (hs.rely hu)
  refine Safe.bind (safe_waiting fun i s' hrely _ _ _ => ?_)
  have hs := hs.rely hrely
  have husers := hrely.2.1 husers
  split
  · rename_i hnone
    rw [isNone_iff_eq_none] at hnone
    simp [hnone] at husers
  split
  · rename_i hfree
    rw [isNone_iff_eq_none] at hfree
    refine ⟨fair_lock (by simp [hfree]), fun t ht => Safe.finally_ ?_⟩
    have hholds : HoldsUsers p masterKey s'.log t :=
      HoldsUsers.rely (s := { s' with lock := some p }) ⟨rfl, rfl, hs.masterKey, husers⟩ ht
    refine (underLock_safe hF hC hproc hs.log hholds).mono fun r u hr => ?_
    refine (unlockUsers_safe hr).mono ?_
    rintro r' v ⟨rfl, hv⟩
    exact fun w hw => hv.rely hw
  · exact ⟨Fair.refl s', fun t ht u hu => hnot ((hs.rely ht).rely hu)⟩

/-! ## Starting a worker -/

theorem createMasterKey_safe {Q : Except RepoError (Block 32) → UsersDir → Prop}
    (herror : ∀ e s, Q (.error e) s) (hok : ∀ k s, s.masterKey = some k → Q (.ok k) s) :
    (usersProtocol F C procs).Safe p Q createMasterKey s := by
  refine safe_waiting fun i s' _ _ _ _ => ?_
  cases hkey : s'.masterKey with
  | some k => exact ⟨Fair.refl s', fun t _ => herror _ t⟩
  | none =>
    refine ⟨⟨fun hinv => ⟨hinv.absent, ?_, ?_, hinv.nodup, hinv.calls⟩, fun q _ => ⟨?_, id, Iff.rfl,
      fun h => ⟨h, rfl⟩⟩⟩, fun t ht => hok _ t (ht.1 _ rfl)⟩
    · -- without a key nothing has been written
      intro bytes hbytes
      obtain ⟨k, hk, -⟩ := hinv.opens bytes hbytes
      rw [hkey] at hk
      cases hk
    · intro worker k hk
      have hk' := hinv.ctx worker k hk
      rw [hkey] at hk'
      cases hk'
    · intro k hk
      rw [hkey] at hk
      cases hk

theorem listen_safe (hkey : s.masterKey = some masterKey) :
    (usersProtocol F C procs).Safe p (fun _ _ => True) (listen worker masterKey) s := by
  refine safe_waiting fun i s' hrely _ _ _ => ⟨⟨fun hinv => ?_, fun q _ => ?_⟩, fun _ _ => trivial⟩
  · refine ⟨hinv.absent, hinv.opens, fun worker' k hk => ?_, hinv.nodup, hinv.calls⟩
    by_cases hworker : worker' = worker
    · subst hworker
      have hk' : masterKey = k := by simpa using hk
      rw [← hk']
      exact hrely.1 _ hkey
    · exact hinv.ctx worker' k (by simpa [hworker] using hk)
  · exact ⟨fun _ h => h, id, Iff.rfl, fun h => ⟨h, rfl⟩⟩

theorem initAuth_safe (hF : F.Ideal) (hC : C.Lawful) :
    (usersProtocol F C procs).Safe p (fun _ _ => True) (initAuth F C worker) s := by
  refine Safe.bind (safe_looks fun s' _ _ t _ => ?_)
  have hrest : ∀ k u, u.masterKey = some k → (usersProtocol F C procs).Safe p (fun _ _ => True) (do
      ensureUsers F C k
      listen worker k) u := by
    intro k u hk
    refine Safe.bind ((ensureUsers_safe (R := fun s => s.masterKey = some k) hF hC
      (fun _ _ hrely h => hrely.1 _ h) (fun _ _ h => h) (fun _ h => h) hk).mono ?_)
    rintro (e | _) v ⟨hv, -⟩
    · exact fun _ _ => trivial
    · exact listen_safe hv
  dsimp only
  split
  · refine Safe.bind (safe_looks fun u _ _ v hv => ?_)
    cases hkey : u.masterKey with
    | none => exact fun _ _ => trivial
    | some k => exact hrest k v (hv.1 _ hkey)
  · exact Safe.bind (createMasterKey_safe (fun _ _ _ _ => trivial) hrest)

/-! ## Any interleaving -/

/-- What is known where a process has ended. -/
def UsersProc.Ended (p : Pid) : UsersProc U → Except RepoError (Option Js) → UsersDir → Prop
  | .initAuth _, _, _ => True
  | .withUsersLock _ fn, r, s => Logs p fn r s

theorem task_safe (hF : F.Ideal) (hC : C.Lawful) (p : Pid) :
    (usersProtocol F C procs).Safe p ((procs p).Ended p) ((procs p).task F C p) .empty := by
  cases hproc : procs p with
  | initAuth worker =>
    refine Safe.bind ((initAuth_safe hF hC).mono fun r s _ => ?_)
    cases r <;> exact fun _ _ => trivial
  | withUsersLock worker fn =>
    refine Safe.bind (safe_looks fun s hrely hinv t ht => ?_)
    have hp : p ∉ s.log := fun hmem => by
      have := hrely.2.2.1.mp hmem
      simp [empty] at this
    cases hctx : s.ctx worker with
    | none => exact fun u hu hmem => absurd (ht.2.2.1.mp (hu.2.2.1.mp hmem)) hp
    | some masterKey =>
      have hcalls : CallsUsers p masterKey t :=
        CallsUsers.rely ⟨hinv.ctx worker masterKey hctx, hp⟩ ht
      exact withUsersLock_safe hF hC hproc hcalls

theorem serialised_empty : Serialised F C procs .empty where
  absent _ := rfl
  opens _ h := by cases h
  ctx _ _ h := by cases h
  nodup := List.nodup_nil
  calls _ h := by cases h

/-- The workers and their calls, on an empty data directory. -/
def usersSystem (F : FileNode) (C : Codec (List U)) (procs : Pid → UsersProc U) :
    System Pid UsersStep UsersInput UsersDir RepoError (Option Js) :=
  ⟨.empty, fun p => (procs p).task F C p⟩

/-- If the next step creates the file, no callback has had its effect yet. -/
def CreatesEarly (t : System Pid UsersStep UsersInput UsersDir RepoError (Option Js))
    (e : Pid × UsersInput) : Prop :=
  match t.procs e.1 with
  | .await .create _ _ _ => t.shared.log = []
  | _ => True

instance (t : System Pid UsersStep UsersInput UsersDir RepoError (Option Js))
    (e : Pid × UsersInput) : Decidable (CreatesEarly t e) := by
  unfold CreatesEarly
  split <;> infer_instance

theorem CreatesEarly.allowed
    {t : System Pid UsersStep UsersInput UsersDir RepoError (Option Js)} {e : Pid × UsersInput}
    (h : CreatesEarly t e) : System.Allowed (usersProtocol F C procs) t e := by
  unfold CreatesEarly at h
  unfold System.Allowed
  cases hproc : t.procs e.1 with
  | await label ready act next =>
    rw [hproc] at h
    cases label <;> exact h
  | _ => trivial

/-- **`users.enc` is serialised.** The file, if there is one, opens to what the logged callbacks
make of the empty list, one after the other. Logged, once each, are the calls that have returned,
and of those that have failed only the ones whose callback threw. -/
theorem users_serial (hF : F.Ideal) (hC : C.Lawful) (procs : Pid → UsersProc U)
    (es : List (Pid × UsersInput))
    (hearly : Along System.step (usersSystem F C procs) es CreatesEarly)
    (t : System Pid UsersStep UsersInput UsersDir RepoError (Option Js))
    (ht : Kit.run System.step (usersSystem F C procs) es = t) :
    (∀ bytes, t.shared.users = some bytes → ∃ masterKey, t.shared.masterKey = some masterKey ∧
      openFile F masterKey C usersInfo bytes = some (serial procs t.shared.log)) ∧
    (t.shared.users = none → t.shared.log = []) ∧ t.shared.log.Nodup ∧
    (∀ p ∈ t.shared.log, ∃ worker fn, procs p = .withUsersLock worker fn ∧
      ∀ e, t.outcomes p = some (.error e) → ∃ users, fn users = .error e) ∧
    ∀ p worker fn, procs p = .withUsersLock worker fn →
      ∀ r, t.outcomes p = some (.ok r) → p ∈ t.shared.log := by
  have hstart : System.Sound (usersProtocol F C procs) (fun p => (procs p).Ended p)
      (usersSystem F C procs) := ⟨serialised_empty, fun p => task_safe hF hC p⟩
  have hsound : System.Sound (usersProtocol F C procs) (fun p => (procs p).Ended p) t := by
    subst ht
    exact System.invariant hstart (fun pre e post heq => (hearly pre e post heq).allowed)
      (.last _ _ _)
  refine ⟨hsound.inv.opens, hsound.inv.absent, hsound.inv.nodup, fun p hp => ?_, ?_⟩
  · obtain ⟨worker, fn, hproc⟩ := hsound.inv.calls p hp
    refine ⟨worker, fn, hproc, fun e he => ?_⟩
    have hlogs := hsound.of_outcome he
    rw [hproc] at hlogs
    exact hlogs hp
  · intro p worker fn hproc r hr
    have hlogs := hsound.of_outcome hr
    rw [hproc] at hlogs
    exact hlogs

/-! ## Two workers that start at the same time -/

/-- The callback of `insertUser`. -/
def registers (user : PlainUser) (users : List PlainUser) :
    Except RepoError (Option Js × List PlainUser) :=
  (insertFn user users).map fun r => (some (.string r.1), r.2)

/-- Two workers; the second one is sent a registration. -/
def coldStart : Pid → UsersProc PlainUser
  | 0 => .initAuth 0
  | 2 => .withUsersLock 1 (registers secondUser)
  | _ => .initAuth 1

/-- Whose step is next, one after the other. -/
def turns (ps : List Pid) : List (Pid × UsersInput) := ps.map fun p => (p, ⟨someIv, newKey, false⟩)

def afterTurns (ps : List Pid) : System Pid UsersStep UsersInput UsersDir RepoError (Option Js) :=
  Kit.run System.step (usersSystem symbolicFile plainUsers coldStart) (turns ps)

/-- One worker after the other: the registration is in the file. -/
theorem users_serial_of_turns :
    ∃ bytes masterKey, (afterTurns [0, 0, 0, 0, 0, 1, 1, 1, 1, 2, 2, 2, 2, 2, 2, 2]).shared.users =
        some bytes ∧
      openFile symbolicFile masterKey plainUsers usersInfo bytes = some (serial coldStart
        (afterTurns [0, 0, 0, 0, 0, 1, 1, 1, 1, 2, 2, 2, 2, 2, 2, 2]).shared.log) ∧
      (afterTurns [0, 0, 0, 0, 0, 1, 1, 1, 1, 2, 2, 2, 2, 2, 2, 2]).shared.log = [2] := by
  have hserial := users_serial symbolicFile_ideal plainUsers_lawful coldStart
    (turns [0, 0, 0, 0, 0, 1, 1, 1, 1, 2, 2, 2, 2, 2, 2, 2]) (by decide +kernel) _ rfl
  have hsome : (afterTurns [0, 0, 0, 0, 0, 1, 1, 1, 1, 2, 2, 2, 2, 2, 2, 2]).shared.users.isSome := by
    decide +kernel
  obtain ⟨bytes, hbytes⟩ := isSome_iff_exists.mp hsome
  obtain ⟨masterKey, -, hopen⟩ := hserial.1 bytes hbytes
  exact ⟨bytes, masterKey, hbytes, hopen, by decide +kernel⟩

/-- The first worker looks for the file, and creates it when the second one has already served the
registration. That call has returned, and is the only one; the file is empty. -/
theorem registration_lost_at_start :
    ((afterTurns [0, 0, 0, 1, 1, 1, 1, 1, 2, 2, 2, 2, 2, 2, 2, 0, 0]).outcomes 2).map Except.isOk =
      some true ∧
    (∀ p worker fn, coldStart p = .withUsersLock worker fn → p = 2) ∧
    (afterTurns [0, 0, 0, 1, 1, 1, 1, 1, 2, 2, 2, 2, 2, 2, 2, 0, 0]).shared.users =
      some (writeEncryptedFile symbolicFile newKey plainUsers someIv usersInfo []) ∧
    ∀ order : List Pid, order.Perm [2] → serial coldStart order = [secondUser] := by
  refine ⟨by decide +kernel, fun p worker fn h => ?_, by decide +kernel, fun order horder => ?_⟩
  · unfold coldStart at h
    split at h
    · cases h
    · rfl
    · cases h
  · rw [List.perm_singleton.mp horder]
    rfl

end PwdNow.Server
