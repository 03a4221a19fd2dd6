import PwdNow.Kit.Bytes

/-!
# Kit — ideal authenticated encryption

An `Aead n` is a pair of functions with 32-byte keys and `n`-byte nonces. `Aead.Ideal`: opening
inverts sealing under the same key, nonce and associated data, and under nothing else. A ciphertext
then opens under at most one key (`Ideal.key_unique`), and opening is decided by comparing with a
sealing (`Ideal.decrypt_eq_some`).

`Aead.symbolic` is an executable ideal scheme: the ciphertext spells out the key, the nonce, the
associated data (with its length in unary) and the plaintext.
-/

namespace Kit

open List

structure Aead (n : Nat) where
  /-- key, nonce, associated data, plaintext -/
  encrypt : Block 32 → Block n → Bytes → Bytes → Bytes
  /-- key, nonce, associated data, ciphertext -/
  decrypt : Block 32 → Block n → Bytes → Bytes → Option Bytes

namespace Aead

variable {n : Nat}

structure Ideal (A : Aead n) : Prop where
  decrypt_encrypt : ∀ k nonce aad pt, A.decrypt k nonce aad (A.encrypt k nonce aad pt) = some pt
  encrypt_of_decrypt : ∀ k nonce aad ct pt,
    A.decrypt k nonce aad ct = some pt → ct = A.encrypt k nonce aad pt
  encrypt_inj : ∀ k k' nonce nonce' aad aad' pt pt',
    A.encrypt k nonce aad pt = A.encrypt k' nonce' aad' pt' →
      k = k' ∧ nonce = nonce' ∧ aad = aad' ∧ pt = pt'

namespace Ideal

variable {A : Aead n} {k k' : Block 32} {nonce nonce' : Block n} {aad aad' ct pt pt' : Bytes}

theorem decrypt_eq_some (h : A.Ideal) :
    A.decrypt k nonce aad ct = some pt ↔ ct = A.encrypt k nonce aad pt := by
  constructor
  · exact h.encrypt_of_decrypt k nonce aad ct pt
  · rintro rfl
    exact h.decrypt_encrypt k nonce aad pt

theorem key_unique (h : A.Ideal) (h₁ : A.decrypt k nonce aad ct = some pt)
    (h₂ : A.decrypt k' nonce' aad' ct = some pt') : k = k' ∧ pt = pt' := by
  rw [h.decrypt_eq_some] at h₁ h₂
  rw [h₁] at h₂
  obtain ⟨hk, -, -, hpt⟩ := h.encrypt_inj _ _ _ _ _ _ _ _ h₂
  exact ⟨hk, hpt⟩

end Ideal

/-! ## The symbolic scheme -/

/-- Everything a symbolic ciphertext spells out before the plaintext. -/
def symbolicHead (k : Block 32) (nonce : Block n) (aad : Bytes) : Bytes :=
  k.bytes ++ (nonce.bytes ++ (replicate aad.length 1 ++ (0 :: aad)))

def symbolic (n : Nat) : Aead n where
  encrypt k nonce aad pt := symbolicHead k nonce aad ++ pt
  decrypt k nonce aad ct :=
    if symbolicHead k nonce aad <+: ct then some (ct.drop (symbolicHead k nonce aad).length)
    else none

theorem unary_append_inj {i j : Nat} {a b : Bytes}
    (h : replicate i (1 : UInt8) ++ 0 :: a = replicate j 1 ++ 0 :: b) : i = j ∧ a = b := by
  induction i generalizing j with
  | zero =>
    cases j with
    | zero => simpa using h
    | succ j => simp [replicate_succ] at h
  | succ i ih =>
    cases j with
    | zero => simp [replicate_succ] at h
    | succ j =>
      simp only [replicate_succ, cons_append, cons.injEq, true_and] at h
      obtain ⟨hij, hab⟩ := ih h
      exact ⟨by rw [hij], hab⟩

theorem symbolic_encrypt_inj {k k' : Block 32} {nonce nonce' : Block n} {aad aad' pt pt' : Bytes}
    (h : (symbolic n).encrypt k nonce aad pt = (symbolic n).encrypt k' nonce' aad' pt') :
    k = k' ∧ nonce = nonce' ∧ aad = aad' ∧ pt = pt' := by
  simp only [symbolic, symbolicHead, append_assoc, cons_append] at h
  obtain ⟨hk, h⟩ := append_inj h (by simp)
  obtain ⟨hn, h⟩ := append_inj h (by simp)
  obtain ⟨hlen, h⟩ := unary_append_inj h
  obtain ⟨ha, hp⟩ := append_inj h hlen
  exact ⟨Block.bytes_inj hk, Block.bytes_inj hn, ha, hp⟩

theorem symbolic_ideal (n : Nat) : (symbolic n).Ideal where
  decrypt_encrypt k nonce aad pt := by simp [symbolic]
  encrypt_of_decrypt k nonce aad ct pt h := by
    simp only [symbolic] at h ⊢
    split at h
    · next hpre =>
      obtain ⟨rest, rfl⟩ := hpre
      simpa using h
    · simp at h
  encrypt_inj _ _ _ _ _ _ _ _ h := symbolic_encrypt_inj h

end Aead

end Kit
