import PwdNow.Client.Symbolic

/-!
# Client — edits through the functions of one render

Every mutator of a render starts from the list the render captured, so of several calls
awaited one after another only the last one leaves a trace in what is stored.
-/

namespace PwdNow.Client

open Kit Kit.Fallible CredentialOp List

variable {Rest : Type} (P : Platform Rest)

namespace Render

/-- One call of a mutator. -/
def perform (r : Render Rest) (call : Call) : CredentialOp Rest → Action Rest Unit
  | .add c => r.addCredential P call c
  | .update c => r.updateCredential P call c
  | .delete id => r.deleteCredential P call id
  | .move source target ids => r.moveCredentials P call source target ids

/-- Calls awaited one after another, up to the first that rejects. -/
def awaitAll (r : Render Rest) : List (CredentialOp Rest × Call) → Action Rest Unit
  | [] => pure ()
  | (op, call) :: rest => do
    r.perform P call op
    awaitAll r rest

variable {P} {r : Render Rest} {s : App Rest}

theorem perform_eq (hmode : r.daemonConnected = false) (call : Call) (op : CredentialOp Rest) :
    r.perform P call op = r.editCredentials P call.net (op.apply r.credentials) := by
  cases op with
  | add c => simp [perform, addCredential, hmode, apply]
  | update c => simp [perform, updateCredential, hmode, apply]
  | delete id => simp [perform, deleteCredential, hmode, apply]
  | move source target ids => simp [perform, moveCredentials, hmode, apply]

/-- **The last call wins**: each stores its own edit of the render's list, over what was stored
before. -/
theorem awaitAll_stores (hP : P.aesGcm.Ideal) (hmode : r.daemonConnected = false)
    (calls : List (CredentialOp Rest × Call)) (hw : ∀ x ∈ calls, s.device.Writable x.2.net) :
    ∃ s', r.awaitAll P calls s = (.ok (), s') ∧ s.device.Wrote .credentials s'.device ∧
      s'.folders = s.folders ∧
      ∀ last, calls.getLast? = some last → s'.device.Reads P .credentials
          (P.credentials.stringify (last.1.apply r.credentials)) := by
  induction calls generalizing s with
  | nil => exact ⟨s, rfl, .refl _ _, rfl, by simp⟩
  | cons x rest ih =>
    obtain ⟨op, call⟩ := x
    obtain ⟨dev, hrun, hreads, hwrote⟩ := editCredentials_stores hP hmode
      (hw (op, call) mem_cons_self) (op.apply r.credentials)
    rw [← perform_eq hmode call op] at hrun
    obtain ⟨s', hrest, hwrote', hfolders, hlast⟩ := ih
      (s := { s with credentials := op.apply r.credentials, device := dev })
      fun x hx => hwrote.writable.mpr (hw x (mem_cons_of_mem _ hx))
    refine ⟨s', by rw [awaitAll, bind_run_ok hrun, hrest], hwrote.trans hwrote', hfolders, ?_⟩
    intro last hgetLast
    cases rest with
    | nil =>
      cases hgetLast
      cases hrest
      exact hreads
    | cons y rest => exact hlast last (by rwa [getLast?_cons_cons] at hgetLast)

end Render

variable {P} {r : Render Rest} {s : App Rest}

/-- **One render keeps one edit.** After calls awaited one after another through one render, every
write having gone through, what is stored is the result of all of them exactly when the last call
covers what the others changed. -/
theorem reads_applyAll_iff (hP : P.Ideal) (hmode : r.daemonConnected = false)
    (calls : List (CredentialOp Rest × Call)) (last : CredentialOp Rest × Call)
    (hw : ∀ x ∈ calls ++ [last], s.device.Writable x.2.net) :
    (r.awaitAll P (calls ++ [last]) s).2.device.Reads P .credentials (P.credentials.stringify
        (applyAll ((calls ++ [last]).map Prod.fst) r.credentials)) ↔
      last.1.Covers (applyAll (calls.map Prod.fst) r.credentials) r.credentials := by
  obtain ⟨s', hrun, -, -, hlast⟩ := Render.awaitAll_stores hP.aesGcm hmode _ hw
  have hreads := hlast last (by simp)
  rw [hrun, map_append, map_singleton, applyAll_concat, ← apply_eq_apply_iff]
  constructor
  · intro h
    exact hP.credentials.stringify_inj (h.unique hreads)
  · intro h
    rw [h]
    exact hreads

/-- Two credentials that differ in their ids. -/
def mail : Credential Unit := ⟨.string "mail", "personal", ()⟩

def bank : Credential Unit := ⟨.string "bank", "personal", ()⟩

def addMail : CredentialOp Unit × Call := (.add mail, symbolicCall)

def addBank : CredentialOp Unit × Call := (.add bank, symbolicCall)

theorem twoAdds_writable :
    ∀ x ∈ [addMail] ++ [addBank], (symbolicApp [] []).device.Writable x.2.net := by
  intro x hx
  simp only [cons_append, nil_append, mem_cons, not_mem_nil, or_false] at hx
  rcases hx with rfl | rfl
  · exact symbolicDevice_writable [] []
  · exact symbolicDevice_writable [] []

theorem reads_applyAll_iff_twoAdds :
    ((symbolicApp [] []).render.awaitAll symbolicPlatform ([addMail] ++ [addBank])
        (symbolicApp [] [])).2.device.Reads symbolicPlatform .credentials
        (symbolicPlatform.credentials.stringify
          (applyAll (([addMail] ++ [addBank]).map Prod.fst) [])) ↔
      addBank.1.Covers (applyAll ([addMail].map Prod.fst) []) [] :=
  reads_applyAll_iff symbolicPlatform_ideal rfl [addMail] addBank twoAdds_writable

/-- **Two additions, one credential.** Both writes go through, and what is stored is not the
list of the two. -/
theorem twoAdds_not_stored :
    ((symbolicApp [] []).render.awaitAll symbolicPlatform ([addMail] ++ [addBank])
        (symbolicApp [] [])).1 = .ok () ∧
      ¬ ((symbolicApp [] []).render.awaitAll symbolicPlatform ([addMail] ++ [addBank])
          (symbolicApp [] [])).2.device.Reads symbolicPlatform .credentials
        (symbolicPlatform.credentials.stringify
          (applyAll (([addMail] ++ [addBank]).map Prod.fst) [])) := by
  obtain ⟨s', hrun, -, -, hlast⟩ := Render.awaitAll_stores (r := (symbolicApp [] []).render)
    symbolicPlatform_ideal.aesGcm rfl _ twoAdds_writable
  rw [hrun]
  refine ⟨rfl, fun hreads => ?_⟩
  have heq := symbolicPlatform_ideal.credentials.stringify_inj (hreads.unique (hlast addBank rfl))
  revert heq
  decide

end PwdNow.Client
