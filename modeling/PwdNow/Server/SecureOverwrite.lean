import PwdNow.Kit.Bytes

/-!
# Server — overwriting a directory

`secureOverwriteDir` of `web/routes/auth/utils.js`, on directories of regular files that can be read
and written. The third argument of `writeSync` is the offset in the buffer; the position in the file
is not given, so that each write begins where the one before has ended.
-/

namespace PwdNow.Server

open Kit List

/-- An open file. `writes` is recorded for the statements alone: where each write began, and how
many bytes it wrote. -/
structure Descriptor where
  content : Bytes
  position : Nat
  writes : List (Nat × Nat)

/-- `writeSync(fd, buffer, offset)`. -/
def Descriptor.writeSync (fd : Descriptor) (buffer : Bytes) (offset : Nat) : Descriptor :=
  let data := buffer.drop offset
  { content :=
      fd.content.take fd.position ++ data ++ fd.content.drop (fd.position + data.length)
    position := fd.position + data.length
    writes := fd.writes ++ [(fd.position, data.length)] }

/-- A file, and what `randomBytes` gives for each pass. -/
structure StoredFile where
  content : Bytes
  random : Nat → Block (max 512 content.length)

/-- The body of the walk for a file. -/
def StoredFile.overwrite (f : StoredFile) : Descriptor :=
  (range 3).foldl (fun fd i => fd.writeSync (f.random i).bytes 0) ⟨f.content, 0, []⟩

/-- What `readdirSync` lists. -/
inductive Dir (F : Type) where
  | empty
  | file (f : F) (rest : Dir F)
  | dir (sub rest : Dir F)

def Dir.files {F : Type} : Dir F → List F
  | empty => []
  | file f rest => f :: rest.files
  | dir sub rest => sub.files ++ rest.files

def secureOverwriteDir : Dir StoredFile → Dir (StoredFile × Descriptor)
  | .empty => .empty
  | .file f rest => .file (f, f.overwrite) (secureOverwriteDir rest)
  | .dir sub rest => .dir (secureOverwriteDir sub) (secureOverwriteDir rest)

/-- Every byte that the file had was written by three passes. -/
def OverwrittenThrice (f : StoredFile × Descriptor) : Prop :=
  ∀ k < f.1.content.length, (f.2.writes.countP fun w => w.1 ≤ k ∧ k < w.1 + w.2) = 3

theorem files_secureOverwriteDir (d : Dir StoredFile) :
    (secureOverwriteDir d).files = d.files.map fun f => (f, f.overwrite) := by
  induction d with
  | empty => rfl
  | file f rest ih => simp [secureOverwriteDir, Dir.files, ih]
  | dir sub rest ihsub ih => simp [secureOverwriteDir, Dir.files, ihsub, ih]

theorem writes_overwrite (f : StoredFile) :
    f.overwrite.writes = (range 3).map fun i =>
      (i * max 512 f.content.length, max 512 f.content.length) := by
  simp [StoredFile.overwrite, Descriptor.writeSync, range_succ, Nat.two_mul]

/-- The second pass begins behind the bytes that the file had. -/
theorem overwrittenThrice_iff (f : StoredFile) :
    OverwrittenThrice (f, f.overwrite) ↔ f.content = [] := by
  constructor
  · intro h
    by_contra hne
    have hpos := length_pos_iff.mpr hne
    have hfirst := h 0 hpos
    rw [writes_overwrite] at hfirst
    have hsize : 0 < max 512 f.content.length := by omega
    simp [range_succ, hsize, hsize.ne'] at hfirst
  · intro h k hk
    rw [h] at hk
    cases hk

/-- **The bytes of a file are overwritten three times** if there are none. -/
theorem secureOverwriteDir_thrice_iff (d : Dir StoredFile) :
    (∀ f ∈ (secureOverwriteDir d).files, OverwrittenThrice f) ↔ ∀ f ∈ d.files, f.content = [] := by
  rw [files_secureOverwriteDir, forall_mem_map]
  exact forall₂_congr fun f _ => overwrittenThrice_iff f

/-- **A file of one byte** is overwritten once. -/
theorem one_byte_overwritten_once :
    ¬ ∀ f ∈ (secureOverwriteDir (.file ⟨[7], fun _ => .replicate 512 0⟩ .empty)).files,
      OverwrittenThrice f := by
  intro h
  have hone := h _ mem_cons_self 0 (by decide)
  revert hone
  decide +kernel

end PwdNow.Server
