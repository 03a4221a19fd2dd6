import PwdNow.Kit.Renaming

/-!
# Client — the items of the vault and what edits do to a list

`web/src/types.ts`, and the list expressions of the mutators in
`web/src/context/VaultContext.tsx`. Of a credential only `id` and `folderId` are ever read by
them; `Rest` stands for the other fields.
-/

namespace PwdNow.Client

open Kit

/-- `Credential['id']`: `string | number`, compared with `===`. -/
inductive CredentialId where
  | string (s : String)
  | number (n : Int)
  deriving DecidableEq

structure Credential (Rest : Type) where
  id : CredentialId
  folderId : String
  rest : Rest
  deriving DecidableEq

structure Folder where
  id : String
  label : String
  description : Option String
  iconName : Option String
  customSvg : Option String
  deriving DecidableEq

structure AssetHolder where
  emails : List String
  phoneNumbers : List String
  u2fKeys : List String
  deriving DecidableEq

/-! ## Edits -/

/-- The calls that change the list of credentials. -/
inductive CredentialOp (Rest : Type) where
  | add (c : Credential Rest)
  | update (c : Credential Rest)
  | delete (id : CredentialId)
  | move (source target : String) (ids : Option (List CredentialId))

variable {Rest : Type} {l : List (Credential Rest)}

/-- The test of `moveCredentials`: the listed ids, or everything in the source folder. -/
def movesCredential (source : String) (ids : Option (List CredentialId)) (c : Credential Rest) :
    Bool :=
  match ids with
  | some ids => ids.contains c.id
  | none => c.folderId = source

namespace CredentialOp

def apply : CredentialOp Rest → List (Credential Rest) → List (Credential Rest)
  | .add c, l => l ++ [c]
  | .update c, l => l.map fun a => if a.id = c.id then c else a
  | .delete id, l => l.filter fun a => a.id ≠ id
  | .move source target ids, l =>
    l.map fun a => if movesCredential source ids a then { a with folderId := target } else a

/-- All of `ops`, in order. -/
def applyAll (ops : List (CredentialOp Rest)) (l : List (Credential Rest)) :
    List (Credential Rest) := ops.foldl (fun l op => op.apply l) l

/-- `l` and `l'` differ at most in what the edit overwrites: an `add` overwrites nothing, a
`delete` whatever has its id, an `update` the contents of what has its id, a `move` the folder
of what it moves. -/
def Covers : CredentialOp Rest → List (Credential Rest) → List (Credential Rest) → Prop
  | .add _, l, l' => l = l'
  | .update c, l, l' => List.Forall₂ (fun a b => a = b ∨ a.id = c.id ∧ b.id = c.id) l l'
  | .delete id, l, l' => (l.filter fun a => a.id ≠ id) = l'.filter fun a => a.id ≠ id
  | .move source target ids, l, l' =>
    let lands (a : Credential Rest) : Prop :=
      movesCredential source ids a = true ∨ a.folderId = target
    List.Forall₂ (fun a b => a = b ∨ a.id = b.id ∧ a.rest = b.rest ∧ lands a ∧ lands b) l l'

theorem applyAll_concat (ops : List (CredentialOp Rest)) (op : CredentialOp Rest) :
    applyAll (ops ++ [op]) l = op.apply (applyAll ops l) := by
  simp [applyAll]

theorem map_eq_map_iff_forall₂ {α β : Type} {f : α → β} {l l' : List α} :
    l.map f = l'.map f ↔ List.Forall₂ (fun a b => f a = f b) l l' := by
  rw [← List.forall₂_eq_eq_eq, List.forall₂_map_left_iff, List.forall₂_map_right_iff]

/-- **What an edit does not see.** Two lists give the same result exactly when the edit covers
their differences. -/
theorem apply_eq_apply_iff (op : CredentialOp Rest) (l' : List (Credential Rest)) :
    op.apply l = op.apply l' ↔ op.Covers l l' := by
  cases op with
  | add c => exact List.append_left_inj [c]
  | delete id => exact Iff.rfl
  | update c =>
    rw [apply, apply, map_eq_map_iff_forall₂]
    -- an entry with another id is never the new contents, so it can only equal itself
    have key : ∀ a b : Credential Rest,
        (if a.id = c.id then c else a) = (if b.id = c.id then c else b) ↔
          a = b ∨ a.id = c.id ∧ b.id = c.id := by
      intro a b
      split <;> split <;> grind
    simp only [key]
    rfl
  | move source target ids =>
    rw [apply, apply, map_eq_map_iff_forall₂]
    have key : ∀ a b : Credential Rest,
        (if movesCredential source ids a then { a with folderId := target } else a) =
            (if movesCredential source ids b then { b with folderId := target } else b) ↔
          a = b ∨ a.id = b.id ∧ a.rest = b.rest ∧
            (movesCredential source ids a = true ∨ a.folderId = target) ∧
            (movesCredential source ids b = true ∨ b.folderId = target) := by
      rintro ⟨id, folder, rest⟩ ⟨id', folder', rest'⟩
      split <;> split <;> grind
    simp only [key]
    rfl

end CredentialOp

/-! ## Repeated ids -/

/-- The template literal `${id}`. -/
def CredentialId.text : CredentialId → String
  | .string s => s
  | .number n => toString n

/-- A suffix of eight characters of the `k`-th UUID. -/
def uuidSuffix (uuid : Nat → String) (k : Nat) : String :=
  "-" ++ String.ofList ((uuid k).toList.take 8)

def credentialRenaming (uuid : Nat → String) : Renaming CredentialId where
  next k id := .string (id.text ++ uuidSuffix uuid k)
  size
    | .string s => s.length + 1
    | .number _ => 0
  size_next k id := by
    cases id with
    | number n => simp
    | string s =>
      simp only [CredentialId.text, uuidSuffix, String.length_append]
      simp only [show ("-" : String).length = 1 from rfl]
      omega

def folderRenaming (uuid : Nat → String) : Renaming String where
  next k id := id ++ uuidSuffix uuid k
  size := String.length
  size_next k id := by
    simp only [uuidSuffix, String.length_append, show ("-" : String).length = 1 from rfl]
    omega

def distinctCredentials (uuid : Nat → String) (l : List (Credential Rest)) :
    List (Credential Rest) :=
  (credentialRenaming uuid).distinct Credential.id (fun id c => { c with id := id }) [] 0 l

def distinctFolders (uuid : Nat → String) (l : List Folder) : List Folder :=
  (folderRenaming uuid).distinct Folder.id (fun id f => { f with id := id }) [] 0 l

section

variable (uuid : Nat → String)

theorem distinctCredentials_append (h : (l.map Credential.id).Nodup) (rest : List (Credential Rest))
    : ∃ rest', distinctCredentials uuid (l ++ rest) = l ++ rest' := by
  obtain ⟨seen, heq⟩ : ∃ seen, distinctCredentials uuid (l ++ rest) =
      l ++ (credentialRenaming uuid).distinct Credential.id (fun id c => { c with id := id }) seen 0
        rest :=
    (credentialRenaming uuid).distinct_append (fun _ => rfl) h (by simp) 0 rest
  exact ⟨_, heq⟩

theorem distinctCredentials_of_nodup (h : (l.map Credential.id).Nodup) :
    distinctCredentials uuid l = l :=
  (credentialRenaming uuid).distinct_of_nodup (fun _ => rfl) h (by simp) 0

theorem distinctFolders_of_nodup {l : List Folder} (h : (l.map Folder.id).Nodup) :
    distinctFolders uuid l = l :=
  (folderRenaming uuid).distinct_of_nodup (fun _ => rfl) h (by simp) 0

theorem forall₂_distinctCredentials (l : List (Credential Rest)) :
    List.Forall₂ (fun a b => ∃ id, b = { a with id := id }) l (distinctCredentials uuid l) :=
  (credentialRenaming uuid).forall₂_distinct [] 0 l

end

end PwdNow.Client
