import PwdNow.Daemon.Symbolic

/-!
# Daemon — the contents of the header

`sanitise_header` of `daemon/src/vault/wipe.rs`: what of a header's secrets is still there after a
wipe. The copy of the VMK for the recovery key is.
-/

namespace PwdNow.Daemon

open Kit Kit.Fallible

/-- The secret-bearing content of a header: of each entry the wrapped copy and its nonce, and
the whole copy for the recovery key. -/
structure HeaderSecrets where
  argon2Salt : String
  encryptedVmk : String
  vmkNonce : String
  wipeTicketHash : String
  passkeys : List (String × String)
  pqc : List (String × String)
  quickUnlock : List (String × String)
  recoveryKeyCopy : Option RecoveryKeySidecarEntry
  deriving DecidableEq

def VaultHeader.secrets (h : VaultHeader) : HeaderSecrets where
  argon2Salt := h.argon2Salt
  encryptedVmk := h.encryptedVmk
  vmkNonce := h.vmkNonce
  wipeTicketHash := h.wipeTicketHash
  passkeys := h.passkeyCredentials.map fun e => (e.encryptedVmkCopy, e.vmkCopyNonce)
  pqc := h.pqcCredentials.map fun e => (e.dkSeedHex, e.dkNonceHex)
  quickUnlock := h.quickUnlockCredentials.map fun e => (e.encKek, e.nonce)
  recoveryKeyCopy := h.recoveryKeyCopy

def VaultHeader.withoutSecrets (h : VaultHeader) : VaultHeader :=
  { h with
    argon2Salt := "", encryptedVmk := "", vmkNonce := "", wipeTicketHash := ""
    passkeyCredentials := h.passkeyCredentials.map fun e =>
      { e with encryptedVmkCopy := "", vmkCopyNonce := "" }
    pqcCredentials := h.pqcCredentials.map fun e => { e with dkSeedHex := "", dkNonceHex := "" }
    quickUnlockCredentials := h.quickUnlockCredentials.map fun e =>
      { e with encKek := "", nonce := "" }
    recoveryKeyCopy := none }

/-- **A wipe leaves the copy for the recovery key**, and nothing else that is secret. -/
theorem sanitiseHeader_secrets_eq_iff {h₁ h₂ : VaultHeader}
    (h : h₁.withoutSecrets = h₂.withoutSecrets) :
    (sanitiseHeader h₁).secrets = (sanitiseHeader h₂).secrets ↔
      h₁.recoveryKeyCopy = h₂.recoveryKeyCopy := by
  have hpasskeys : h₁.passkeyCredentials.length = h₂.passkeyCredentials.length := by
    simpa [VaultHeader.withoutSecrets] using congrArg (·.passkeyCredentials.length) h
  have hpqc : h₁.pqcCredentials.length = h₂.pqcCredentials.length := by
    simpa [VaultHeader.withoutSecrets] using congrArg (·.pqcCredentials.length) h
  simp [VaultHeader.secrets, sanitiseHeader, Function.comp_def, List.map_const', hpasskeys, hpqc]

def recoverableHeader (copy : String) : VaultHeader :=
  { symbolicHeader [] 0 with recoveryKeyCopy := some ⟨copy, "", "", ⟨0, 0, 0⟩⟩ }

theorem sanitiseHeader_secrets_recoverable :
    (recoverableHeader "aa").withoutSecrets =
        { recoverableHeader "aa" with argon2Salt := "salt" }.withoutSecrets ∧
      ((sanitiseHeader (recoverableHeader "aa")).secrets =
          (sanitiseHeader { recoverableHeader "aa" with argon2Salt := "salt" }).secrets ↔
        (recoverableHeader "aa").recoveryKeyCopy =
          { recoverableHeader "aa" with argon2Salt := "salt" }.recoveryKeyCopy) :=
  ⟨rfl, sanitiseHeader_secrets_eq_iff rfl⟩

/-- Two copies of different VMKs are told apart after the wipe. -/
theorem recovery_copy_survives_wipe :
    (recoverableHeader "aa").withoutSecrets = (recoverableHeader "bb").withoutSecrets ∧
      (sanitiseHeader (recoverableHeader "aa")).secrets ≠
        (sanitiseHeader (recoverableHeader "bb")).secrets := by
  refine ⟨rfl, fun h => ?_⟩
  have hcopy := congrArg HeaderSecrets.recoveryKeyCopy h
  exact absurd hcopy (by decide)

end PwdNow.Daemon
