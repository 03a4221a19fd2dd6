import PwdNow.Kit.Bytes

/-!
# Kit — UUIDs

Sixteen bytes, written as hexadecimal text with hyphens (`Uuid.text`). `Uuid.parseStr` reads the
four forms that the `uuid` crate accepts.
-/

namespace Kit

open List

abbrev Uuid := Block 16

namespace Uuid

/-- The groups of eight, four, four, four and twelve digits. -/
def hyphenate (hex : List Char) : List Char :=
  hex.take 8 ++ '-' :: ((hex.drop 8).take 4 ++ '-' :: ((hex.drop 12).take 4 ++ '-' ::
    ((hex.drop 16).take 4 ++ '-' :: hex.drop 20)))

/-- The canonical text. -/
def text (u : Uuid) : String := String.ofList (hyphenate (hexEncode u.bytes).toList)

def ofHex (hex : List Char) : Option Uuid := (hexDecodeChars hex).bind (Block.ofBytes 16)

def parseHyphenated (chars : List Char) : Option Uuid :=
  let hex := chars.filter (· ≠ '-')
  if hyphenate hex = chars then ofHex hex else none

/-- `Uuid::parse_str`. -/
def parseStr (s : String) : Option Uuid :=
  let chars := s.toList
  match chars.length with
  | 32 => ofHex chars
  | 36 => parseHyphenated chars
  | 38 =>
    if chars.head? = some '\x7b' ∧ chars.getLast? = some '\x7d' then
      parseHyphenated ((chars.drop 1).take 36)
    else none
  | 45 =>
    if chars.take 9 = "urn:uuid:".toList then parseHyphenated (chars.drop 9) else none
  | _ => none

theorem hyphen_not_mem_hexEncode (b : Bytes) : '-' ∉ (hexEncode b).toList := by
  intro h
  have hdigit := mem_hexDigits_of_mem_hexEncode h
  revert hdigit
  decide

variable {hex : List Char}

theorem filter_hyphenate (h : '-' ∉ hex) : (hyphenate hex).filter (· ≠ '-') = hex := by
  have hkeep : ∀ l : List Char, (∀ c ∈ l, c ∈ hex) → l.filter (· ≠ '-') = l := by
    intro l hl
    refine filter_eq_self.mpr fun c hc => ?_
    simpa using fun heq : c = '-' => h (heq ▸ hl c hc)
  have hdrop : ∀ k, (hex.drop k).filter (· ≠ '-') = hex.drop k :=
    fun k => hkeep _ fun c hc => mem_of_mem_drop hc
  have htake : ∀ k n, ((hex.drop k).take n).filter (· ≠ '-') = (hex.drop k).take n :=
    fun k n => hkeep _ fun c hc => mem_of_mem_drop (mem_of_mem_take hc)
  have hfirst : (hex.take 8).filter (· ≠ '-') = hex.take 8 :=
    hkeep _ fun c hc => mem_of_mem_take hc
  have hglue : ∀ k n, (hex.drop k).take n ++ hex.drop (k + n) = hex.drop k := by
    intro k n
    rw [← drop_drop, take_append_drop]
  have hskip : ∀ l : List Char, ('-' :: l).filter (· ≠ '-') = l.filter (· ≠ '-') :=
    fun l => filter_cons_of_neg (by simp)
  unfold hyphenate
  rw [filter_append, hskip, filter_append, hskip, filter_append, hskip,
    filter_append, hskip, hfirst, htake, htake, htake, hdrop, hglue 16 4, hglue 12 4,
    hglue 8 4, take_append_drop]

theorem length_hyphenate (h : hex.length = 32) : (hyphenate hex).length = 36 := by
  simp [hyphenate, h]

theorem length_text (u : Uuid) : u.text.toList.length = 36 := by
  rw [text, String.toList_ofList]
  exact length_hyphenate (by rw [length_hexEncode, Block.length_bytes])

theorem filter_text (u : Uuid) : u.text.toList.filter (· ≠ '-') = (hexEncode u.bytes).toList := by
  rw [text, String.toList_ofList]
  exact filter_hyphenate (hyphen_not_mem_hexEncode u.bytes)

theorem ofHex_hexEncode (u : Uuid) : ofHex (hexEncode u.bytes).toList = some u := by
  have hdecode : hexDecodeChars (hexEncode u.bytes).toList = some u.bytes :=
    hexDecode_hexEncode u.bytes
  rw [ofHex, hdecode, Option.bind_some, Block.ofBytes_bytes]

end Uuid

end Kit
