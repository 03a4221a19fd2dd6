import PwdNow.Client.Storage
import PwdNow.Kit.Serial

/-!
# Client — clearing the key store

`SecureKeyStore` of `web/src/crypto/keystore.ts`: what it keeps in memory, what it keeps in
`sessionStorage` for a refresh, and `clear()`. Nobody awaits persisting and restoring.
-/

namespace PwdNow.Client

open Kit Async System

/-- What is written to `sessionStorage`. -/
structure Persisted where
  token : Option String
  v2Salt : Option (Block 16)
  localKeyV1 : Option (Block 32)
  sigKeyV1 : Option Bytes
  localKeyV2 : Option (Block 32)
  sigKeyV2 : Option Bytes

/-- The `_pwd_ks` entry: sealed under the wrapping key of this page, or not. -/
inductive KsEntry where
  | sealed (data : Persisted)
  | unreadable

structure KsState where
  keys : KeyStore
  isRestoring : Bool
  sessionStorage : Option KsEntry

/-- What a section gets from outside: whether what was awaited succeeded, and which of the
callbacks that are due comes first. -/
structure Resume where
  ok : Bool
  pick : ℕ

abbrev KsTask := Async Unit Resume KsState Unit

inductive KeySlot where
  | localKeyV1
  | sigKeyV1
  | localKeyV2
  | sigKeyV2

def keySlots : List KeySlot := [.localKeyV1, .sigKeyV1, .localKeyV2, .sigKeyV2]

def Persisted.has (data : Persisted) : KeySlot → Bool
  | .localKeyV1 => data.localKeyV1.isSome
  | .sigKeyV1 => data.sigKeyV1.isSome
  | .localKeyV2 => data.localKeyV2.isSome
  | .sigKeyV2 => data.sigKeyV2.isSome

namespace KeyStore

def has (keys : KeyStore) : KeySlot → Bool
  | .localKeyV1 => keys.localKeyV1.isSome
  | .sigKeyV1 => keys.sigKeyV1.isSome
  | .localKeyV2 => keys.localKeyV2.isSome
  | .sigKeyV2 => keys.sigKeyV2.isSome

def importKey (keys : KeyStore) (data : Persisted) : KeySlot → KeyStore
  | .localKeyV1 => { keys with localKeyV1 := data.localKeyV1 }
  | .sigKeyV1 => { keys with sigKeyV1 := data.sigKeyV1 }
  | .localKeyV2 => { keys with localKeyV2 := data.localKeyV2 }
  | .sigKeyV2 => { keys with sigKeyV2 := data.sigKeyV2 }

/-- `data.x && !this.#x`. -/
def lacks (keys : KeyStore) (data : Persisted) (slot : KeySlot) : Bool :=
  data.has slot && !keys.has slot

/-- `if (data.token) this.#token = …`, and the same for the salt. -/
def restoreToken (keys : KeyStore) (data : Persisted) : KeyStore :=
  { keys with token := data.token <|> keys.token, v2Salt := data.v2Salt <|> keys.v2Salt }

end KeyStore

/-! ## The methods -/

/-- The section after an await; if what was awaited failed, it throws. -/
def awaited {α : Type} (f : Fallible Unit KsState α) : KsTask α :=
  section_ () fun i s => if i.ok then f s else (.error (), s)

-- whether the page has a wrapping key does not change: the promise for it is kept
variable (wrappingKey : Bool) {s : KsState}

/-- Each key is read when its turn comes. -/
def persistToSessionStorage : KsTask Unit :=
  tryCatch (do
    let keys ← section_ () fun _ => .gets (·.keys)
    let sigKeyV1 ← awaited (.gets (·.keys.sigKeyV1))
    let localKeyV2 ← awaited (.gets (·.keys.localKeyV2))
    let sigKeyV2 ← awaited (.gets (·.keys.sigKeyV2))
    let data := ⟨keys.token, keys.v2Salt, keys.localKeyV1, sigKeyV1, localKeyV2, sigKeyV2⟩
    awaited (.modify fun s =>
      { s with sessionStorage := if wrappingKey then some (.sealed data) else none }))
    fun _ => return ()

/-- `unsealFromSessionStorage`. -/
def unsealFromSessionStorage : KsEntry → Except Unit (Option Persisted)
  | .sealed data => .ok (if wrappingKey then some data else none)
  | .unreadable => if wrappingKey then .error () else .ok none

/-- What is still to be run after the keys have been unsealed. -/
inductive Callback where
  | importKey (slot : KeySlot)
  | restored

def Callback.run (data : Persisted) (ok : Bool) (s : KsState) : Callback → KsState
  | importKey slot => if ok then { s with keys := s.keys.importKey data slot } else s
  | restored => { s with isRestoring := false }

/-- The callbacks, in whichever order they come. -/
def callbacks (data : Persisted) : ℕ → List Callback → KsTask Unit
  | 0, _ => return ()
  | n + 1, due => do
    let rest ← section_ () fun i s =>
      let k := i.pick % due.length
      (.ok (due.eraseIdx k), (due[k]?.elim s (·.run data i.ok s)))
    callbacks data n rest

def restoreFromSessionStorage : KsTask Unit := do
  let stored ← section_ () fun _ s =>
    if s.isRestoring then (.ok none, s)
    else (.ok s.sessionStorage, { s with isRestoring := s.sessionStorage.isSome })
  match stored with
  | none => return ()
  | some entry =>
    let (data, due) ← section_ () fun i s =>
      match if i.ok then unsealFromSessionStorage wrappingKey entry else .error () with
      | .ok (some data) =>
        let keys := s.keys.restoreToken data
        (.ok (data, (keySlots.filter (keys.lacks data)).map .importKey ++ [.restored]),
          { s with keys })
      | _ => (.ok (⟨none, none, none, none, none, none⟩, [.restored]), s)
    callbacks data due.length due

/-- The imports of `restoreAsync`, from the key whose import is awaited; at most `n` are left. -/
def importKeys (data : Persisted) : ℕ → List KeySlot → KsTask Unit
  | 0, _ => return ()
  | _, [] => return ()
  | n + 1, slot :: rest => do
    let rest ← awaited fun s =>
      let keys := s.keys.importKey data slot
      (.ok (rest.dropWhile (!keys.lacks data ·)), { s with keys })
    importKeys data n rest

def restoreAsync : KsTask Unit := do
  let stored ← section_ () fun _ => .gets (·.sessionStorage)
  match stored with
  | none => return ()
  | some entry =>
    tryCatch (do
      let read ← awaited fun s =>
        match unsealFromSessionStorage wrappingKey entry with
        | .ok (some data) =>
          let keys := s.keys.restoreToken data
          (.ok (some (data, keySlots.dropWhile (!keys.lacks data ·))), { s with keys })
        | .ok none => (.ok none, s)
        | .error e => (.error e, s)
      match read with
      | none => return ()
      | some (data, slots) => importKeys data keySlots.length slots)
      fun _ => return ()

def KsState.clear (s : KsState) : KsState :=
  { s with keys := s.keys.clear, sessionStorage := none }

inductive KsOp where
  | persistToSessionStorage
  | restoreFromSessionStorage
  | restoreAsync
  | clear

def KsOp.task : KsOp → KsTask Unit
  | persistToSessionStorage => Client.persistToSessionStorage wrappingKey
  | restoreFromSessionStorage => Client.restoreFromSessionStorage wrappingKey
  | restoreAsync => Client.restoreAsync wrappingKey
  | clear => section_ () fun _ => .modify KsState.clear

/-- The store, with every call about to be made. -/
def keyStoreTab (ops : ℕ → KsOp) (s : KsState) : System ℕ Unit Resume KsState Unit Unit :=
  ⟨s, fun p => (ops p).task wrappingKey⟩

/-- No token, no local key, no signing key, no salt. -/
structure KeyStore.Cleared (keys : KeyStore) : Prop where
  token : keys.token = none
  localKeyV1 : keys.localKeyV1 = none
  sigKeyV1 : keys.sigKeyV1 = none
  localKeyV2 : keys.localKeyV2 = none
  sigKeyV2 : keys.sigKeyV2 = none
  v2Salt : keys.v2Salt = none

/-- Nothing in memory, and no `_pwd_ks` entry. -/
structure KsState.Cleared (s : KsState) : Prop where
  keys : s.keys.Cleared
  sessionStorage : s.sessionStorage = none

/-! ## Without a wrapping key -/

/-- A section that leaves a cleared store cleared. -/
def KeepsCleared (s s' : KsState) : Prop := s.Cleared → s'.Cleared

theorem keepsCleared_refl (s : KsState) : KeepsCleared s s := fun h => h

theorem KeepsCleared.of_eq {s' : KsState} (hkeys : s'.keys = s.keys)
    (hstorage : s'.sessionStorage = s.sessionStorage) : KeepsCleared s s' :=
  fun h => ⟨hkeys ▸ h.keys, hstorage.trans h.sessionStorage⟩

theorem steps_awaited {α : Type} {K : KsState → KsState → Prop} {f : Fallible Unit KsState α}
    (hrefl : ∀ s, K s s) (h : ∀ s, K s (f s).2) : (awaited f).Steps K := by
  refine steps_section fun i s => ?_
  split
  · exact h s
  · exact hrefl s

theorem KsState.cleared_clear (h : s.keys.v2Salt = none) : s.clear.Cleared :=
  ⟨⟨rfl, rfl, rfl, rfl, rfl, h⟩, rfl⟩

theorem persist_keepsCleared : (persistToSessionStorage false).Steps KeepsCleared := by
  refine steps_tryCatch ?_ fun _ => trivial
  refine steps_bind (steps_section fun _ s => keepsCleared_refl s) fun keys => ?_
  refine steps_bind (steps_awaited keepsCleared_refl keepsCleared_refl) fun sigKeyV1 => ?_
  refine steps_bind (steps_awaited keepsCleared_refl keepsCleared_refl) fun localKeyV2 => ?_
  refine steps_bind (steps_awaited keepsCleared_refl keepsCleared_refl) fun sigKeyV2 => ?_
  exact steps_awaited keepsCleared_refl fun s h => ⟨h.keys, rfl⟩

theorem unseal_without_wrappingKey (entry : KsEntry) :
    unsealFromSessionStorage false entry = .ok none := by
  cases entry <;> rfl

theorem callbacks_restored_keepsCleared (data : Persisted) :
    (callbacks data 1 [.restored]).Steps KeepsCleared := by
  refine steps_bind (steps_section fun i s => ?_) fun _ => trivial
  simp only [List.length_singleton, Nat.mod_one]
  exact .of_eq rfl rfl

theorem restoreFromSessionStorage_keepsCleared :
    (restoreFromSessionStorage false).Steps KeepsCleared := by
  refine steps_bind (steps_section fun _ s => ?_) fun stored => ?_
  · split <;> exact .of_eq rfl rfl
  · cases stored with
    | none => trivial
    | some entry =>
      have hnothing : ∀ ok : Bool, (if ok then unsealFromSessionStorage false entry
          else .error ()) = .ok none ∨ (if ok then unsealFromSessionStorage false entry
          else .error ()) = .error () := by
        intro ok
        cases ok
        · exact .inr rfl
        · exact .inl (unseal_without_wrappingKey entry)
      refine steps_section_bind (fun i s => ?_) fun i s due hdue => ?_
      · rcases hnothing i.ok with h | h <;> rw [h] <;> exact keepsCleared_refl s
      · rcases hnothing i.ok with h | h <;> rw [h] at hdue <;> cases hdue <;>
          exact callbacks_restored_keepsCleared _

theorem restoreAsync_keepsCleared : (restoreAsync false).Steps KeepsCleared := by
  refine steps_bind (steps_section fun _ s => keepsCleared_refl s) fun stored => ?_
  cases stored with
  | none => trivial
  | some entry =>
    refine steps_tryCatch (steps_section_bind (fun i s => ?_) fun i s read hread => ?_)
      fun _ => trivial
    · rw [unseal_without_wrappingKey]
      split <;> exact keepsCleared_refl s
    · rw [unseal_without_wrappingKey] at hread
      split at hread
      · cases hread
        trivial
      · cases hread

theorem KsOp.task_keepsCleared (op : KsOp) : (op.task false).Steps KeepsCleared := by
  cases op with
  | persistToSessionStorage => exact persist_keepsCleared
  | restoreFromSessionStorage => exact restoreFromSessionStorage_keepsCleared
  | restoreAsync => exact restoreAsync_keepsCleared
  | clear => exact steps_section fun _ s h => KsState.cleared_clear h.keys.v2Salt

/-! ## Runs -/

section Runs

variable {wrappingKey} {ops : ℕ → KsOp} {s₀ : KsState} {c : ℕ} {i : Resume}
  {before after : List (ℕ × Resume)}

theorem step_clear {t : System ℕ Unit Resume KsState Unit Unit}
    (hc : t.procs c = KsOp.clear.task wrappingKey) :
    step t (c, i) = ⟨t.shared.clear, Function.update t.procs c (.done ())⟩ := by
  unfold step
  dsimp only
  rw [hc]
  rfl

/-- **`clear()` is final**, if no salt was set, and nothing was under way or nothing can be
sealed. After it, only what was called before goes on. -/
theorem clear_final_of_quiet (hc : ops c = .clear) (hnew : c ∉ before.map Prod.fst)
    (hcalled : ∀ e ∈ after, e.1 = c ∨ e.1 ∈ before.map Prod.fst)
    (hsalt : (run step (keyStoreTab wrappingKey ops s₀) before).shared.keys.v2Salt = none)
    (hquiet : wrappingKey = false ∨ ∀ e ∈ before,
      ((run step (keyStoreTab wrappingKey ops s₀) before).outcomes e.1).isSome) :
    (run step (keyStoreTab wrappingKey ops s₀) (before ++ (c, i) :: after)).shared.Cleared := by
  rw [run_append, run_cons]
  generalize ht : run step (keyStoreTab wrappingKey ops s₀) before = t at *
  have hproc : t.procs c = KsOp.clear.task wrappingKey := by
    rw [← ht, run_procs_of_notMem hnew, ← hc]
    rfl
  rw [step_clear hproc]
  refine invariant_of_steps (fun e he => ?_) (KsState.cleared_clear hsalt)
  by_cases hself : e.1 = c
  · rw [hself]
    simp only [Function.update_self]
    trivial
  · dsimp only
    rw [Function.update_of_ne hself]
    rcases hquiet with rfl | hended
    -- without a wrapping key no section brings anything back, whatever was under way
    · rw [← ht]
      exact steps_procs_run (KsOp.task_keepsCleared (ops e.1))
    · obtain ⟨e', he', heq⟩ := List.mem_map.mp ((hcalled e he).resolve_left hself)
      rw [← heq]
      exact steps_of_outcome (hended e' he')

end Runs

/-- Both kinds of run are under way when `clear()` is called. -/
def logout : ℕ → KsOp
  | 0 => .persistToSessionStorage
  | 1 => .restoreAsync
  | _ => .clear

/-- A tab with a session, saved for a refresh. -/
def loggedIn : KsState where
  keys := ⟨some "36f1e2c8-4c7e-4a54-9d70-0d5d0a2d3c11", some (.replicate 32 1), none, none, none,
    none, none⟩
  isRestoring := false
  sessionStorage := some (.sealed ⟨some "36f1e2c8-4c7e-4a54-9d70-0d5d0a2d3c11", none,
    some (.replicate 32 1), none, none, none⟩)

theorem clear_final_of_quiet_logout :
    (run step (keyStoreTab false logout loggedIn)
      ([(0, ⟨true, 0⟩), (1, ⟨true, 0⟩)] ++ (2, ⟨true, 0⟩) ::
        [(1, ⟨true, 0⟩), (0, ⟨true, 0⟩), (0, ⟨true, 0⟩), (0, ⟨true, 0⟩),
          (0, ⟨true, 0⟩)])).shared.Cleared :=
  clear_final_of_quiet rfl (by decide) (by decide) rfl (.inl rfl)

/-- The runs come to their ends after `clear()`. -/
def loggedOut : System ℕ Unit Resume KsState Unit Unit :=
  run step (keyStoreTab true logout loggedIn) ([(0, ⟨true, 0⟩), (1, ⟨true, 0⟩)] ++ (2, ⟨true, 0⟩) ::
      [(1, ⟨true, 0⟩), (1, ⟨true, 0⟩), (0, ⟨true, 0⟩), (0, ⟨true, 0⟩), (0, ⟨true, 0⟩),
        (0, ⟨true, 0⟩)])

/-- **`clear()` is undone**: the token and the key are back, in memory and in the entry. -/
theorem pending_runs_undo_clear :
    (∀ p < 3, (loggedOut.outcomes p).isSome) ∧ loggedOut.shared.keys.token = loggedIn.keys.token ∧
      loggedOut.shared.keys.localKeyV1 = loggedIn.keys.localKeyV1 ∧
      loggedOut.shared.sessionStorage.isSome ∧ ¬ loggedOut.shared.Cleared := by
  refine ⟨by decide, rfl, rfl, rfl, fun h => ?_⟩
  cases h.sessionStorage

end PwdNow.Client
