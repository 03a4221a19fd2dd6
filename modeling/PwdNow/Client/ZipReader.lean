import PwdNow.Kit.Bytes

/-!
# Client — reading a file out of a ZIP

`extractFromZip` of `web/src/utils/importExport.ts`: a scan for local file headers. A `DataView`
throws when a number lies across the end of the buffer; `slice` takes what there is.
-/

namespace PwdNow.Client

open Kit

/-- `RangeError` of a `DataView`. -/
inductive ZipError where
  | outOfBounds
  deriving DecidableEq

/-- `dv.getUint16` and `dv.getUint32`, little-endian, of `width` bytes. -/
def getUint (data : Bytes) (offset width : ℕ) : Except ZipError ℕ :=
  if offset + width ≤ data.length then
    .ok (((data.drop offset).take width).foldr (fun b n => b.toNat + 256 * n) 0)
  else .error .outOfBounds

/-- `data.slice(start, stop)`. -/
def slice (data : Bytes) (start stop : ℕ) : Bytes := (data.take stop).drop start

structure LocalHeader where
  nameLen : ℕ
  extraLen : ℕ
  compSize : ℕ

def readLocalHeader (data : Bytes) (offset : ℕ) : Except ZipError LocalHeader := do
  let nameLen ← getUint data (offset + 26) 2
  let extraLen ← getUint data (offset + 28) 2
  let compSize ← getUint data (offset + 18) 4
  pure ⟨nameLen, extraLen, compSize⟩

/-- Where the file begins whose header is at `offset`. -/
def LocalHeader.fileOffset (h : LocalHeader) (offset : ℕ) : ℕ :=
  offset + 30 + h.nameLen + h.extraLen

section

variable (decode : Bytes → String) (data : Bytes) (targetName : String)

/-- The loop of `extractFromZip`; `decode` is the `TextDecoder`. -/
def scan (offset : ℕ) : Except ZipError (Option Bytes) :=
  if offset + 4 < data.length then
    match getUint data offset 4 with
    | .error e => .error e
    | .ok sig =>
      if sig ≠ 0x04034B50 then scan (offset + 1)
      else
        match readLocalHeader data offset with
        | .error e => .error e
        | .ok h =>
          if decode (slice data (offset + 30) (offset + 30 + h.nameLen)) = targetName then
            .ok (some (slice data (h.fileOffset offset) (h.fileOffset offset + h.compSize)))
          else scan (h.fileOffset offset + h.compSize)
  else .ok none
termination_by data.length - offset
decreasing_by
  · omega
  · unfold LocalHeader.fileOffset
    omega

def extractFromZip : Except ZipError (Option Bytes) := scan decode data targetName 0

/-- There is a header at `offset`, and its file is called `targetName`. -/
def MatchesAt (offset : ℕ) (h : LocalHeader) : Prop :=
  getUint data offset 4 = .ok 0x04034B50 ∧ readLocalHeader data offset = .ok h ∧
    decode (slice data (offset + 30) (offset + 30 + h.nameLen)) = targetName

/-- The headers lie within the buffer, and so do the files that are called `targetName`. -/
structure WithinBuffer : Prop where
  header : ∀ offset, getUint data offset 4 = .ok 0x04034B50 → offset + 30 ≤ data.length
  file : ∀ offset h, MatchesAt decode data targetName offset h →
    h.fileOffset offset + h.compSize ≤ data.length

/-- `null`, or exactly the bytes that follow a header with that name. -/
def Extracted (r : Except ZipError (Option Bytes)) : Prop :=
  r = .ok none ∨ ∃ offset h, MatchesAt decode data targetName offset h ∧
    ∃ file, r = .ok (some file) ∧ file.length = h.compSize ∧
      ∃ before after, data = before ++ file ++ after ∧ before.length = h.fileOffset offset

end

variable {decode : Bytes → String} {data : Bytes} {targetName : String}

theorem slice_within {start size : ℕ} (h : start + size ≤ data.length) :
    (slice data start (start + size)).length = size ∧ ∃ before after,
      data = before ++ slice data start (start + size) ++ after ∧ before.length = start := by
  refine ⟨by simp [slice]; omega, data.take start, data.drop (start + size), ?_, by simp; omega⟩
  rw [slice, List.drop_take, Nat.add_sub_cancel_left, ← List.take_add, List.take_append_drop]

theorem readLocalHeader_within {offset : ℕ} (h : offset + 30 ≤ data.length) :
    ∃ hdr, readLocalHeader data offset = .ok hdr := by
  have hread : ∀ at_ width, at_ + width ≤ 30 → ∃ n, getUint data (offset + at_) width = .ok n :=
    fun at_ width hle => ⟨_, if_pos (by omega)⟩
  obtain ⟨nameLen, hname⟩ := hread 26 2 (by omega)
  obtain ⟨extraLen, hextra⟩ := hread 28 2 (by omega)
  obtain ⟨compSize, hcomp⟩ := hread 18 4 (by omega)
  exact ⟨⟨nameLen, extraLen, compSize⟩, by simp [readLocalHeader, hname, hextra, hcomp, bind,
    Except.bind, pure, Except.pure]⟩

/-- A header of a file of one byte without a name, and the byte. -/
def smallZip : Bytes :=
  [0x50, 0x4B, 3, 4] ++ List.replicate 14 0 ++ [1] ++ List.replicate 11 0 ++ [7]

end PwdNow.Client
