import PwdNow.Kit.Bytes

/-!
# Kit — self-delimiting texts

A `Spelling α` writes values of `α` so that the reader knows where a value ends: `read` takes
one value off the front of a byte string and returns the rest. Spellings compose, so a record
is spelled by pairing its fields, and a written text determines the value
(`Spelling.write_injective`). They stand in for serialisers whose format does not matter.
-/

namespace Kit

open Option List

structure Spelling (α : Type) where
  write : α → Bytes
  read : Bytes → Option (α × Bytes)
  read_write : ∀ a rest, read (write a ++ rest) = some (a, rest)

namespace Spelling

variable {α β : Type}

theorem write_injective (S : Spelling α) : Function.Injective S.write := by
  intro a b h
  have ha := S.read_write a []
  have hb := S.read_write b []
  rw [h, hb] at ha
  simpa using ha.symm

/-- Spell a value as another one that determines it. -/
def via (S : Spelling α) (f : β → α) (g : α → β) (h : ∀ b, g (f b) = b) : Spelling β where
  write b := S.write (f b)
  read bytes := (S.read bytes).map fun p => (g p.1, p.2)
  read_write b rest := by
    rw [S.read_write, map_some, h]

/-! ## Numbers, in unary -/

def readUnary : Bytes → Option (Nat × Bytes)
  | [] => none
  | x :: rest =>
    if x = 0 then some (0, rest)
    else (readUnary rest).map fun p => (p.1 + 1, p.2)

def nat : Spelling Nat where
  write n := replicate n 1 ++ [0]
  read := readUnary
  read_write n rest := by
    induction n with
    | zero => rfl
    | succ n ih =>
      have hne : (1 : UInt8) ≠ 0 := by decide
      rw [replicate_succ, cons_append, cons_append, readUnary, if_neg hne, ih]
      rfl

/-! ## Composition -/

def pair (S : Spelling α) (T : Spelling β) : Spelling (α × β) where
  write p := S.write p.1 ++ T.write p.2
  read bytes :=
    (S.read bytes).bind fun p => (T.read p.2).map fun q => ((p.1, q.1), q.2)
  read_write p rest := by
    rw [append_assoc, S.read_write, bind_some, T.read_write]
    rfl

/-- The elements one after the other; how many there are is written before them. -/
def readAll (S : Spelling α) : Nat → Bytes → Option (List α × Bytes)
  | 0, bytes => some ([], bytes)
  | n + 1, bytes =>
    (S.read bytes).bind fun p => (readAll S n p.2).map fun q => (p.1 :: q.1, q.2)

theorem readAll_flatMap (S : Spelling α) (as : List α) (rest : Bytes) :
    readAll S as.length (as.flatMap S.write ++ rest) = some (as, rest) := by
  induction as with
  | nil => rfl
  | cons a as ih =>
    rw [flatMap_cons, append_assoc, length_cons, readAll, S.read_write, bind_some, ih]
    rfl

def list (S : Spelling α) : Spelling (List α) where
  write as := nat.write as.length ++ as.flatMap S.write
  read bytes := (nat.read bytes).bind fun p => readAll S p.1 p.2
  read_write as rest := by
    rw [append_assoc, nat.read_write, bind_some]
    exact readAll_flatMap S as rest

/-- A missing value is the empty list. -/
def option (S : Spelling α) : Spelling (Option α) :=
  (list S).via toList head? fun o => by cases o <;> rfl

def string : Spelling String :=
  (list (nat.via Char.toNat Char.ofNat Char.ofNat_toNat)).via String.toList String.ofList
    fun _ => String.ofList_toList

def bool : Spelling Bool :=
  nat.via Bool.toNat (· == 1) fun b => by cases b <;> rfl

def uint8 : Spelling UInt8 := nat.via UInt8.toNat UInt8.ofNat fun _ => UInt8.ofNat_toNat

def uint32 : Spelling UInt32 := nat.via UInt32.toNat UInt32.ofNat fun _ => UInt32.ofNat_toNat

/-- The whole text is one value. -/
def parse (S : Spelling α) (bytes : Bytes) : Option α := (S.read bytes).map (·.1)

theorem parse_write (S : Spelling α) (a : α) : S.parse (S.write a) = some a := by
  have h := S.read_write a []
  rw [append_nil] at h
  rw [parse, h]
  rfl

end Spelling

end Kit
