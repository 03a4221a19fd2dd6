import PwdNow.Server.Login

/-!
# Server — a symbolic instance

A `Node` that meets `Node.Ideal` and evaluates: a hash spells out what was hashed.
-/

namespace PwdNow.Server

open Kit List

/-- A character as three bytes. -/
def charBytes (c : Char) : Bytes :=
  [UInt8.ofNat (c.toNat / 65536), UInt8.ofNat (c.toNat / 256), UInt8.ofNat c.toNat]

def textBytes (t : Text) : Bytes := t.flatMap charBytes

theorem charBytes_inj {a b : Char} (h : charBytes a = charBytes b) : a = b := by
  have hlt : ∀ c : Char, c.toNat < 1114112 := fun c => by
    have := c.valid
    simp only [UInt32.isValidChar, Nat.isValidChar] at this
    simp only [Char.toNat]
    omega
  simp only [charBytes, cons.injEq, and_true, ← UInt8.toNat_inj, UInt8.toNat_ofNat'] at h
  have ha := hlt a
  have hb := hlt b
  exact Char.toNat_inj.mp (by omega)

theorem textBytes_inj {s t : Text} (h : textBytes s = textBytes t) : s = t := by
  induction s generalizing t with
  | nil =>
    cases t with
    | nil => rfl
    | cons b t => simp [textBytes, charBytes] at h
  | cons a s ih =>
    cases t with
    | nil => simp [textBytes, charBytes] at h
    | cons b t =>
      rw [textBytes, textBytes, flatMap_cons, flatMap_cons] at h
      obtain ⟨hhead, htail⟩ := append_inj h rfl
      rw [charBytes_inj hhead, ih htail]

def symbolicHex (b : Bytes) : Text :=
  b.flatMap fun x => [hexDigits.getD (x.toNat / 16) '0', hexDigits.getD (x.toNat % 16) '0']

def symbolicNode : Node where
  argon2Hash _ p := argon2idTag ++ p
  argon2Verify h p := some (h == argon2idTag ++ p)
  pbkdf2Sha512 p _ := textBytes p
  scrypt p _ := textBytes p
  bufferFromHex t := (hexDecodeChars t).getD []
  toHex := symbolicHex
  utf8 := textBytes
  sha256 := symbolicHex
  totpGenerate _ ts := some (otpCode (ts / 30000).toNat)
  dummyArgon2Hash := argon2idTag

theorem symbolicNode_ideal : symbolicNode.Ideal where
  argon2Hash_tag _ p := isPrefixOf_iff_prefix.mpr (prefix_append argon2idTag p)
  argon2Verify_hash _ p q := by
    simp only [symbolicNode, Option.some.injEq]
    rw [Bool.eq_iff_iff, beq_iff_eq, beq_iff_eq, append_cancel_left_eq]
  argon2Verify_inj h p q hp hq := by
    simp only [symbolicNode, Option.some.injEq, beq_iff_eq] at hp hq
    exact append_cancel_left (hp.symm.trans hq)
  pbkdf2_inj _ _ _ := textBytes_inj
  scrypt_inj _ _ _ := textBytes_inj
  bufferFromHex_toHex b := by
    simp only [symbolicNode, symbolicHex, hexDecodeChars_encode, Option.getD_some]

/-- What every section is handed, unless said otherwise. -/
def symbolicInput : Input := ⟨1000000, [7], 7, false⟩

/-- A record as registration writes it. -/
def symbolicUser (password : Text) : User where
  id := "u1"
  emailHash := "e1"
  passwordHash := symbolicNode.argon2Hash [] password
  salt := []
  recoveryKeyHash := []
  recoveryKeySalt := []
  recoveryKeyExpiresAt := 0
  mfaEnforce := ⟨false, false⟩
  mfaTotpSecret := []
  duressEnforce := none
  duressFailureCount := 0
  cryptoSalt := []
  passwordChangedAt := 0
  revocationEpoch := 0

/-- A server with one user, whose session list is `sessions`. -/
def symbolicBackend (u : User) (sessions : List Session) : Backend where
  users := [u]
  dirs := Function.update (fun _ => none) u.id (some ⟨sessions, none⟩)
  dirLock _ := none
  mfaPending := ⟨fun _ => none, fun _ => none⟩
  stateStore _ := none
  usedTotpPeriods _ := []
  cleared _ := 0

/-- The session of the user who owns the account. -/
def ownerJti : Jti := ⟨['0'], some 0⟩

def ownerSessions : List Session := [⟨ownerJti, 0, true⟩]

/-- The owner's browser. -/
def owner : Caller := ⟨some ⟨"u1", ownerJti, 1000000⟩, ['x'], ['x']⟩

def ownerPassword : Text := "correct horse".toList

def symbolicLogin (password : Text) : LoginRequest := ⟨none, "e1", password, "10.0.0.1", "c1"⟩

end PwdNow.Server
