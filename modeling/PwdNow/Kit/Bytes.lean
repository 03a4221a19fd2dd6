import Mathlib.Data.UInt

/-!
# Kit — byte strings, fixed-width blocks and hexadecimal text

Byte strings are lists of `UInt8`. A `Block n` is an array of exactly `n` bytes
(`[u8; n]`), so a key or a nonce of the wrong length cannot be built; `Block.ofBytes` is
the checked conversion. Hexadecimal text is decoded the way it was encoded
(`hexDecode_hexEncode`), and only text of even length over the hexadecimal digits decodes.
-/

namespace Kit

open List

abbrev Bytes := List UInt8

/-- An array of exactly `n` bytes. -/
def Block (n : Nat) := { b : Bytes // b.length = n }

namespace Block

variable {n : Nat}

instance : DecidableEq (Block n) := inferInstanceAs (DecidableEq { b : Bytes // b.length = n })

def bytes (b : Block n) : Bytes := b.val

@[simp] theorem length_bytes (b : Block n) : b.bytes.length = n := b.property

theorem bytes_inj {a b : Block n} (h : a.bytes = b.bytes) : a = b := Subtype.ext h

/-- The checked conversion of a byte string: `none` unless its length is `n`. -/
def ofBytes (n : Nat) (b : Bytes) : Option (Block n) :=
  if h : b.length = n then some ⟨b, h⟩ else none

@[simp] theorem ofBytes_bytes (b : Block n) : ofBytes n b.bytes = some b := by
  unfold ofBytes
  rw [dif_pos b.length_bytes]
  rfl

theorem bytes_of_ofBytes {b : Bytes} {k : Block n} (h : ofBytes n b = some k) : k.bytes = b := by
  unfold ofBytes at h
  split at h
  · cases h
    rfl
  · simp at h

/-- The block of `n` copies of one byte. -/
def replicate (n : Nat) (x : UInt8) : Block n := ⟨List.replicate n x, by simp⟩

/-- The first `k` bytes of a block. -/
def take (k : Nat) (b : Block n) (h : k ≤ n) : Block k :=
  ⟨b.val.take k, by rw [length_take, b.property]; omega⟩

end Block

/-- The UTF-8 bytes of a text. -/
def utf8 (s : String) : Bytes := s.toList.flatMap String.utf8EncodeChar

theorem utf8_injective : Function.Injective utf8 := by
  intro a b h
  have hbytes : a.toList.utf8Encode = b.toList.utf8Encode := congrArg toByteArray h
  rw [← String.toByteArray_ofList, ← String.toByteArray_ofList, String.ofList_toList,
    String.ofList_toList] at hbytes
  exact String.toByteArray_inj.mp hbytes

theorem fromUTF8_utf8 (s : String) : String.fromUTF8? ⟨(utf8 s).toArray⟩ = some s := by
  have hbytes : (⟨(utf8 s).toArray⟩ : ByteArray) = s.toByteArray := by
    rw [← String.utf8Encode_toList]
    exact ByteArray.ext data_toByteArray.symm
  rw [hbytes, String.fromUTF8?, dif_pos s.isValidUTF8]
  rfl

/-! ## Hexadecimal text -/

def hexDigits : List Char :=
  ['0', '1', '2', '3', '4', '5', '6', '7', '8', '9', 'a', 'b', 'c', 'd', 'e', 'f']

def hexEncode (b : Bytes) : String :=
  String.ofList <| b.flatMap fun x =>
    [hexDigits.getD (x.toNat / 16) '0', hexDigits.getD (x.toNat % 16) '0']

/-- The value of one hexadecimal digit, of either case. -/
def hexValue (c : Char) : Option Nat :=
  if '0' ≤ c ∧ c ≤ '9' then some (c.toNat - 48)
  else if 'a' ≤ c ∧ c ≤ 'f' then some (c.toNat - 87)
  else if 'A' ≤ c ∧ c ≤ 'F' then some (c.toNat - 55)
  else none

def hexDecodeChars : List Char → Option Bytes
  | [] => some []
  | [_] => none
  | hi :: lo :: rest => do
    let h ← hexValue hi
    let l ← hexValue lo
    let bytes ← hexDecodeChars rest
    pure (UInt8.ofNat (16 * h + l) :: bytes)

def hexDecode (s : String) : Option Bytes := hexDecodeChars s.toList

theorem hexValue_hexDigits (n : Fin 16) : hexValue (hexDigits.getD n '0') = some n.val := by
  revert n
  decide

theorem hexDecodeChars_encode (b : Bytes) :
    hexDecodeChars (b.flatMap fun x =>
      [hexDigits.getD (x.toNat / 16) '0', hexDigits.getD (x.toNat % 16) '0']) = some b := by
  induction b with
  | nil => rfl
  | cons x rest ih =>
    have hlt : x.toNat < 256 := x.toNat_lt
    have hhi := hexValue_hexDigits ⟨x.toNat / 16, by omega⟩
    have hlo := hexValue_hexDigits ⟨x.toNat % 16, by omega⟩
    have hbyte : UInt8.ofNat (16 * (x.toNat / 16) + x.toNat % 16) = x := by
      rw [Nat.div_add_mod, UInt8.ofNat_toNat]
    rw [flatMap_cons, cons_append, cons_append, nil_append]
    simp only [hexDecodeChars, hhi, hlo, ih, Option.bind_eq_bind, Option.bind_some, hbyte]
    rfl

@[simp] theorem hexDecode_hexEncode (b : Bytes) : hexDecode (hexEncode b) = some b := by
  rw [hexDecode, hexEncode, String.toList_ofList, hexDecodeChars_encode]

theorem hexEncode_injective : Function.Injective hexEncode := by
  intro a b h
  have := congrArg hexDecode h
  simpa using this

theorem length_hexEncode (b : Bytes) : (hexEncode b).toList.length = 2 * b.length := by
  rw [hexEncode, String.toList_ofList]
  induction b with
  | nil => rfl
  | cons x rest ih =>
    rw [flatMap_cons, length_append, ih, length_cons]
    change 2 + 2 * rest.length = 2 * (rest.length + 1)
    omega

theorem mem_hexDigits_of_mem_hexEncode {b : Bytes} {c : Char} (h : c ∈ (hexEncode b).toList) :
    c ∈ hexDigits := by
  have hdigit : ∀ n : Fin 16, hexDigits.getD n '0' ∈ hexDigits := by decide
  rw [hexEncode, String.toList_ofList, mem_flatMap] at h
  obtain ⟨x, -, hx⟩ := h
  have hlt : x.toNat < 256 := x.toNat_lt
  rcases mem_cons.mp hx with rfl | hlow
  · exact hdigit ⟨x.toNat / 16, by omega⟩
  · rw [mem_singleton.mp hlow]
    exact hdigit ⟨x.toNat % 16, by omega⟩

end Kit
