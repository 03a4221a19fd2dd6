import Mathlib.Data.Nat.Bitwise
import PwdNow.Daemon.Error
import PwdNow.Kit.Bytes
import PwdNow.Kit.Run

/-!
# Daemon — the offline breach filter

`hibp/build-filter.sh` puts fingerprints of breached passwords into a cuckoo filter, in Python;
`daemon/src/crypto/hibp.rs` loads and asks it, in Rust. A fingerprint stands in one of two buckets
of four slots, each computed from the other. A build loses no more than it skips
(`build_loses_skipped`).
-/

namespace PwdNow.Daemon.Hibp

open Kit Function List

/-! ## The builder -/

/-- `get_fp(bucket, slot)`; zero is an empty slot. -/
abbrev Table := Nat → Fin 4 → Nat

def setFp (table : Table) (bucket : Nat) (slot : Fin 4) (fp : Nat) : Table :=
  update table bucket (update (table bucket) slot fp)

def firstEmpty (table : Table) (bucket : Nat) : Option (Fin 4) :=
  (finRange 4).find? fun slot => table bucket slot = 0

section Builder

-- `fpHash` is the number in the first eight bytes of the SHA-1 of a fingerprint.
variable (fpHash : Nat → Nat) (numBuckets : Nat)

/-- The other bucket of a fingerprint that stands in `b`. -/
def altBucket (fp b : Nat) : Nat := (b ^^^ (fpHash fp % numBuckets)) % numBuckets

/-- The relocations; `slots` are the draws of `randrange`. `none` is `True`. Where the rounds are
used up the source returns `False`, and forgets the fingerprint in hand. -/
def relocate : Nat → (Nat → Fin 4) → Table → Nat → Nat → Option (Nat × Nat) × Table
  | 0, _, table, b, fp => (some (fp, b), table)
  | kicks + 1, slots, table, b, fp =>
    let evicted := table b (slots 0)
    let table := setFp table b (slots 0) fp
    let b := altBucket fpHash numBuckets evicted b
    match firstEmpty table b with
    | some slot => (none, setFp table b slot evicted)
    | none => relocate kicks (fun i => slots (i + 1)) table b evicted

/-- `first` tells whether `random.choice` picks `i1`. -/
def insert (first : Bool) (slots : Nat → Fin 4) (table : Table) (fp i1 i2 : Nat) :
    Option (Nat × Nat) × Table :=
  match firstEmpty table i1 with
  | some slot => (none, setFp table i1 slot fp)
  | none =>
    match firstEmpty table i2 with
    | some slot => (none, setFp table i2 slot fp)
    | none => relocate fpHash numBuckets 500 slots table (if first then i1 else i2) fp

/-- A fingerprint with one of its buckets is in the table. -/
def Found (table : Table) (item : Nat × Nat) : Prop :=
  (∃ slot, table item.2 slot = item.1) ∨
    ∃ slot, table (altBucket fpHash numBuckets item.1 item.2) slot = item.1

/-- The item is the one in hand, with either of its buckets. -/
def InHand (hand item : Nat × Nat) : Prop :=
  hand = item ∨ hand = (item.1, altBucket fpHash numBuckets item.1 item.2)

end Builder

variable {fpHash : Nat → Nat} {numBuckets k b fp : Nat} {table table' : Table}
  {item hand : Nat × Nat} {slots : Nat → Fin 4} {slot : Fin 4} {kicks : Nat}

theorem altBucket_altBucket (hb : b < 2 ^ k) :
    altBucket fpHash (2 ^ k) fp (altBucket fpHash (2 ^ k) fp b) = b := by
  have hmask : fpHash fp % 2 ^ k < 2 ^ k := Nat.mod_lt _ (Nat.two_pow_pos k)
  have hother : altBucket fpHash (2 ^ k) fp b = b ^^^ (fpHash fp % 2 ^ k) :=
    Nat.mod_eq_of_lt (Nat.xor_lt_two_pow hb hmask)
  rw [hother, altBucket, Nat.xor_assoc, Nat.xor_self, Nat.xor_zero, Nat.mod_eq_of_lt hb]

theorem exists_setFp {b' g : Nat} (h : ∃ slot', table b' slot' = g) (f : Nat) :
    (∃ slot', setFp table b slot f b' slot' = g) ∨ (b' = b ∧ table b slot = g) := by
  obtain ⟨slot', rfl⟩ := h
  by_cases hsame : b' = b ∧ slot' = slot
  · obtain ⟨rfl, rfl⟩ := hsame
    exact .inr ⟨rfl, rfl⟩
  · refine .inl ⟨slot', ?_⟩
    by_cases hb : b' = b
    · subst hb
      rw [setFp, update_self, update_of_ne fun hs => hsame ⟨rfl, hs⟩]
    · rw [setFp, update_of_ne hb]

/-- **One relocation**: what is in hand takes the place of another, which is then in hand. -/
theorem found_or_inHand_evict (hitem : item.2 < 2 ^ k)
    (h : Found fpHash (2 ^ k) table item ∨ InHand fpHash (2 ^ k) (fp, b) item) :
    Found fpHash (2 ^ k) (setFp table b slot fp) item ∨
      InHand fpHash (2 ^ k) (table b slot, altBucket fpHash (2 ^ k) (table b slot) b) item := by
  have hput : ∃ slot', setFp table b slot fp b slot' = fp :=
    ⟨slot, by rw [setFp, update_self, update_self]⟩
  rcases h with (hfirst | hsecond) | rfl | hother
  · rcases exists_setFp hfirst fp with hstill | ⟨hb, hevicted⟩
    · exact .inl (.inl hstill)
    · exact .inr (.inr (by rw [hevicted, hb]))
  · rcases exists_setFp hsecond fp with hstill | ⟨hb, hevicted⟩
    · exact .inl (.inr hstill)
    · refine .inr (.inl (Prod.ext hevicted ?_))
      rw [hevicted, ← hb]
      exact altBucket_altBucket hitem
  · exact .inl (.inl hput)
  · obtain ⟨rfl, rfl⟩ := Prod.mk.inj hother
    exact .inl (.inr hput)

/-- Induction on the rounds that are left. -/
theorem relocate_found_or_inHand (hb : b < 2 ^ k) (hitem : item.2 < 2 ^ k)
    (h : Found fpHash (2 ^ k) table item ∨ InHand fpHash (2 ^ k) (fp, b) item)
    (hrun : relocate fpHash (2 ^ k) kicks slots table b fp = (some hand, table')) :
    hand.2 < 2 ^ k ∧ (Found fpHash (2 ^ k) table' item ∨ InHand fpHash (2 ^ k) hand item) := by
  induction kicks generalizing slots table b fp with
  | zero =>
    cases hrun
    exact ⟨hb, h⟩
  | succ kicks ih =>
    rw [relocate] at hrun
    split at hrun
    · cases hrun
    · exact ih (Nat.mod_lt _ (Nat.two_pow_pos k)) (found_or_inHand_evict hitem h) hrun

theorem InHand.found_iff (hitem : item.2 < 2 ^ k) (h : InHand fpHash (2 ^ k) hand item) :
    Found fpHash (2 ^ k) table item ↔ Found fpHash (2 ^ k) table hand := by
  rcases h with rfl | rfl
  · rfl
  · unfold Found
    dsimp only
    rw [altBucket_altBucket hitem]
    exact or_comm

theorem relocate_back {m n : Nat} (s : Fin 4) (hfull : ∀ slot, table 0 slot ≠ 0) (hfp : fp ≠ 0)
    (h : kicks = 2 * n + m) :
    relocate (fun _ => 0) 1 kicks (fun _ => s) table 0 fp =
      relocate (fun _ => 0) 1 m (fun _ => s) table 0 fp := by
  have hnone : firstEmpty (setFp table 0 s fp) 0 = none := by
    refine find?_eq_none.mpr fun slot _ => ?_
    by_cases hs : slot = s
    · simp [setFp, hs, hfp]
    · simp [setFp, hs, hfull]
  have hnone' : firstEmpty table 0 = none :=
    find?_eq_none.mpr fun slot _ => by simp [hfull]
  have hback : setFp (setFp table 0 s fp) 0 s (table 0 s) = table := by simp [setFp]
  have hput : setFp table 0 s fp 0 s = fp := by simp [setFp]
  induction n generalizing kicks with
  | zero => rw [h, Nat.mul_zero, Nat.zero_add]
  | succ n ih =>
    rw [h, show 2 * (n + 1) + m = (2 * n + m) + 1 + 1 by omega, relocate]
    simp only [altBucket, Nat.mod_one, hnone]
    rw [relocate]
    simp only [altBucket, Nat.mod_one, hput, hback, hnone']
    exact ih rfl

def fullTable : Table := fun _ slot => slot + 1

/-- The draws of an insertion that loses the second of the four fingerprints. -/
def unluckySlots : Nat → Fin 4
  | 0 => 0
  | _ + 1 => 1

section Reader

variable (sha1 : Bytes → Block 20)

def leNat (bytes : Bytes) : Nat := bytes.foldr (fun b n => b.toNat + 256 * n) 0

def beNat (bytes : Bytes) : Nat := leNat bytes.reverse

structure CuckooFilter where
  buckets : UInt64
  data : Bytes

/-- `CuckooFilter::load`, once the digest is the one of the sidecar. Product and sum wrap in a release
build; a slice that ends before it starts panics. -/
def parseFilter (full : Bytes) : Result CuckooFilter :=
  if full.length < 24 then fail (.crypto "HIBP filter: truncated header")
  else if full.take 8 ≠ utf8 "HIBPCF01" then fail (.crypto "HIBP filter: invalid magic bytes")
  else
    let buckets := UInt64.ofNat (leNat ((full.drop 8).take 8))
    let slots := (full.getD 16 0).toNat
    let fpBits := (full.getD 17 0).toNat
    if slots ≠ 4 ∨ fpBits ≠ 16 then
      fail (.crypto ("HIBP filter: unsupported params slots=" ++ toString slots ++ " fp_bits=" ++
        toString fpBits))
    else
      let stop := (24 + buckets * 4 * 2).toNat
      if full.length < stop then fail (.crypto "HIBP filter: truncated data")
      else if stop < 24 then .error (.abort "full[24..]")
      else .ok ⟨buckets, (full.drop 24).take (stop - 24)⟩

/-- Dividing by no buckets at all panics. -/
def fingerprintAndIndices (filter : CuckooFilter) (item : Bytes) :
    Result (UInt16 × UInt64 × UInt64) :=
  let hash := (sha1 item).bytes
  let fp := max (UInt16.ofNat (beNat (hash.take 2))) 1
  if filter.buckets = 0 then .error (.abort "hibp")
  else
    let i1 := UInt64.ofNat (beNat ((hash.drop 2).take 8)) % filter.buckets
    let fpHash := UInt64.ofNat (beNat ((sha1 [(fp / 256).toUInt8, fp.toUInt8]).bytes.take 8))
    let i2 := (i1 ^^^ (fpHash % filter.buckets)) % filter.buckets
    .ok (fp, i1, i2)

/-- The slots from the first of the list on; an index beyond the data panics. -/
def bucketContains (filter : CuckooFilter) (bucket : UInt64) (fp : UInt16) :
    List UInt64 → Result Bool
  | [] => .ok false
  | slot :: rest =>
    let off := bucket * 4 * 2 + slot * 2
    match filter.data[off.toNat]?, filter.data[(off + 1).toNat]? with
    | some hi, some lo =>
      if UInt16.ofNat (beNat [hi, lo]) = fp then .ok true
      else bucketContains filter bucket fp rest
    | _, _ => .error (.abort "hibp")

def mightBePwned (filter : CuckooFilter) (password : Bytes) : Result Bool := do
  let (fp, i1, i2) ← fingerprintAndIndices sha1 filter password
  if ← bucketContains filter i1 fp [0, 1, 2, 3] then .ok true
  else bucketContains filter i2 fp [0, 1, 2, 3]

end Reader

variable {sha1 : Bytes → Block 20} {full : Bytes} {filter : CuckooFilter} {bucket : UInt64}

theorem length_data (hfew : filter.buckets.toNat < 2 ^ 61) (h : parseFilter full = .ok filter) :
    filter.data.length = filter.buckets.toNat * 8 := by
  unfold parseFilter at h
  split at h
  · cases h
  split at h
  · cases h
  dsimp only at h
  split at h
  · cases h
  split at h
  · cases h
  split at h
  · cases h
  · next hlong hstop =>
    cases h
    simp only [UInt64.toNat_add, UInt64.toNat_mul, UInt64.reduceToNat] at hlong hstop
    simp only [length_take, length_drop, UInt64.toNat_add, UInt64.toNat_mul, UInt64.reduceToNat]
    dsimp only at hfew
    omega

theorem bucketContains_returns (hfew : filter.buckets.toNat < 2 ^ 61)
    (hdata : filter.data.length = filter.buckets.toNat * 8) (hbucket : bucket < filter.buckets)
    (fp : UInt16) (slots : List UInt64) (hslots : ∀ slot ∈ slots, slot < 4) :
    ∃ b, bucketContains filter bucket fp slots = .ok b := by
  induction slots with
  | nil => exact ⟨false, rfl⟩
  | cons slot rest ih =>
    obtain ⟨hslot, hrest⟩ := forall_mem_cons.mp hslots
    have hoff : (bucket * 4 * 2 + slot * 2).toNat + 1 < filter.data.length ∧
        (bucket * 4 * 2 + slot * 2 + 1).toNat = (bucket * 4 * 2 + slot * 2).toNat + 1 := by
      rw [UInt64.lt_iff_toNat_lt] at hbucket hslot
      simp only [UInt64.reduceToNat] at hslot
      simp only [UInt64.toNat_add, UInt64.toNat_mul, UInt64.reduceToNat]
      omega
    rw [bucketContains, hoff.2, getElem?_eq_getElem hoff.1, getElem?_eq_getElem (by omega)]
    dsimp only
    split_ifs
    · exact ⟨true, rfl⟩
    · exact ih hrest

/-- A header with the given number of buckets. -/
def filterHeader (buckets : Bytes) : Bytes := utf8 "HIBPCF01" ++ buckets ++ [4, 16, 0, 0, 0, 0, 0, 0]

/-- A hash of the range files, with what `random` draws for it. -/
structure Entry where
  sha1 : Block 20
  first : Bool
  slots : Nat → Fin 4

/-- The fingerprint and the first bucket of `fp_and_buckets`. -/
def Entry.fpAndBucket (e : Entry) (numBuckets : Nat) : Nat × Nat :=
  (max (beNat (e.sha1.bytes.take 2)) 1, beNat ((e.sha1.bytes.drop 2).take 8) % numBuckets)

def insertEntry (fpHash : Nat → Nat) (numBuckets : Nat) (table : Table) (e : Entry) :
    Option (Nat × Nat) × Table :=
  let item := e.fpAndBucket numBuckets
  insert fpHash numBuckets e.first e.slots table item.1 item.2
    (altBucket fpHash numBuckets item.1 item.2)

/-- The table, and how many were skipped. -/
def buildStep (fpHash : Nat → Nat) (numBuckets : Nat) (b : Table × Nat) (e : Entry) : Table × Nat :=
  let r := insertEntry fpHash numBuckets b.1 e
  (r.2, if r.1.isNone then b.2 else b.2 + 1)

/-- An item is found in the table, or is one of those lost. -/
def FoundBut (fpHash : Nat → Nat) (numBuckets : Nat) (lost : List (Nat × Nat)) (table : Table)
    (item : Nat × Nat) : Prop :=
  Found fpHash numBuckets table item ∨ ∃ hand ∈ lost, InHand fpHash numBuckets hand item

theorem foundBut_evict (hitem : item.2 < 2 ^ k) (slot : Fin 4)
    (h : FoundBut fpHash (2 ^ k) [(fp, b)] table item) :
    FoundBut fpHash (2 ^ k) [(table b slot, altBucket fpHash (2 ^ k) (table b slot) b)]
      (setFp table b slot fp) item := by
  simpa [FoundBut] using found_or_inHand_evict hitem (by simpa [FoundBut] using h)

section

variable (hitem : item.2 < 2 ^ k) (hfp : item.1 ≠ 0)
  (h : FoundBut fpHash (2 ^ k) [(fp, b)] table item)
include hitem hfp h

/-- What is put into an empty slot evicts a zero. -/
theorem foundBut_put (hempty : firstEmpty table b = some slot) :
    FoundBut fpHash (2 ^ k) [] (setFp table b slot fp) item := by
  have hslot : table b slot = 0 := by simpa using find?_some hempty
  rcases foundBut_evict hitem slot h with hfound | ⟨hand, hmem, hin⟩
  · exact .inl hfound
  · have hzero : hand.1 = 0 := by rw [mem_singleton.mp hmem, ← hslot]
    refine absurd ?_ hfp
    rcases hin with rfl | rfl <;> exact hzero

theorem relocate_foundBut :
    let r := relocate fpHash (2 ^ k) kicks slots table b fp
    FoundBut fpHash (2 ^ k) r.1.toList r.2 item := by
  induction kicks generalizing slots table b fp with
  | zero => exact h
  | succ kicks ih =>
    have hevict := foundBut_evict hitem (slots 0) h
    rw [relocate]
    dsimp only
    split
    · next hempty => exact foundBut_put hitem hfp hevict hempty
    · exact ih hevict

end

theorem insertEntry_foundBut {e : Entry} (hitem : item.2 < 2 ^ k) (hfp : item.1 ≠ 0)
    (h : Found fpHash (2 ^ k) table item ∨ e.fpAndBucket (2 ^ k) = item) :
    let r := insertEntry fpHash (2 ^ k) table e
    FoundBut fpHash (2 ^ k) r.1.toList r.2 item := by
  unfold insertEntry
  generalize e.fpAndBucket (2 ^ k) = new at h
  have hfirst : FoundBut fpHash (2 ^ k) [(new.1, new.2)] table item :=
    h.imp_right fun heq => ⟨_, mem_singleton_self _, .inl heq⟩
  have hother : FoundBut fpHash (2 ^ k) [(new.1, altBucket fpHash (2 ^ k) new.1 new.2)] table item :=
    h.imp_right fun heq => ⟨_, mem_singleton_self _, .inr (by rw [heq])⟩
  simp only [insert]
  split
  · next hempty => exact foundBut_put hitem hfp hfirst hempty
  split
  · next hempty => exact foundBut_put hitem hfp hother hempty
  split
  · exact relocate_foundBut hitem hfp hfirst
  · exact relocate_foundBut hitem hfp hother

/-- **A build loses no more than it skips**: every hash is found in the table, but for one
fingerprint, with its two buckets, for each that was skipped. -/
theorem build_loses_skipped (fpHash : Nat → Nat) (k : Nat) (entries : List Entry) :
    let b := run (buildStep fpHash (2 ^ k)) (fun _ _ => 0, 0) entries
    ∃ lost : List (Nat × Nat), lost.length = b.2 ∧
      ∀ e ∈ entries, FoundBut fpHash (2 ^ k) lost b.1 (e.fpAndBucket (2 ^ k)) := by
  -- induction on the entries, from their end
  induction entries using reverseRecOn with
  | nil => exact ⟨[], rfl, nofun⟩
  | append_singleton entries e ih =>
    obtain ⟨lost, hlost, hall⟩ := ih
    rw [run_concat]
    generalize run (buildStep fpHash (2 ^ k)) (fun _ _ => 0, 0) entries = b at hlost hall
    refine ⟨lost ++ (insertEntry fpHash (2 ^ k) b.1 e).1.toList, ?_, fun e' he' => ?_⟩
    · rw [length_append, hlost, buildStep]
      cases (insertEntry fpHash (2 ^ k) b.1 e).1 <;> rfl
    · have hnow : (∃ hand ∈ lost, InHand fpHash (2 ^ k) hand (e'.fpAndBucket (2 ^ k))) ∨
          Found fpHash (2 ^ k) b.1 (e'.fpAndBucket (2 ^ k)) ∨
            e.fpAndBucket (2 ^ k) = e'.fpAndBucket (2 ^ k) := by
        rcases mem_append.mp he' with hold | hnew
        · exact (hall e' hold).symm.imp_right .inl
        · exact .inr (.inr (by rw [mem_singleton.mp hnew]))
      rcases hnow with ⟨hand, hmem, hin⟩ | hnow
      · exact .inr ⟨hand, mem_append_left _ hmem, hin⟩
      · refine (insertEntry_foundBut (Nat.mod_lt _ (Nat.two_pow_pos k)) ?_ hnow).imp_right ?_
        · simp [Entry.fpAndBucket]
        · exact fun ⟨hand, hmem, hin⟩ => ⟨hand, mem_append_right _ hmem, hin⟩

end PwdNow.Daemon.Hibp
