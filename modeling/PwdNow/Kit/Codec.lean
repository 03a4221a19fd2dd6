import Mathlib.Logic.Encodable.Basic
import PwdNow.Kit.Spelling

/-!
# Kit — values as text

A `Codec α` writes values of `α` as text and reads them back; `Codec.Lawful` says that what
was written is read back as it was, and is not the empty text. Every encodable type has a
lawful codec (`Codec.ofEncodable`), and so has every spelling (`Codec.ofSpelling`).
-/

namespace Kit

structure Codec (α : Type) where
  stringify : α → Bytes
  parse : Bytes → Option α

namespace Codec

variable {α : Type}

structure Lawful (C : Codec α) : Prop where
  parse_stringify : ∀ a, C.parse (C.stringify a) = some a
  stringify_ne_nil : ∀ a, C.stringify a ≠ []

theorem Lawful.stringify_inj {C : Codec α} (h : C.Lawful) {a b : α}
    (heq : C.stringify a = C.stringify b) : a = b := by
  have := congrArg C.parse heq
  simpa [h.parse_stringify] using this

/-- The code number in unary. -/
def ofEncodable (α : Type) [Encodable α] : Codec α where
  stringify a := List.replicate (Encodable.encode a + 1) 0
  parse b := Encodable.decode (b.length - 1)

theorem ofEncodable_lawful [Encodable α] : (ofEncodable α).Lawful where
  parse_stringify a := by simp [ofEncodable]
  stringify_ne_nil a := by simp [ofEncodable]

/-- The spelled value, behind one byte. -/
def ofSpelling (S : Spelling α) : Codec α where
  stringify a := 0 :: S.write a
  parse b := S.parse b.tail

theorem ofSpelling_lawful (S : Spelling α) : (ofSpelling S).Lawful where
  parse_stringify a := S.parse_write a
  stringify_ne_nil a := by simp [ofSpelling]

end Codec

end Kit
