import PwdNow.Server.UsersFile

/-!
# Server — what a stored ciphertext is bound to

`getResource` and `setResource` of the two repositories, with `userInfo` of `web/lib/fileCrypto.js`
and the per-user keys of `web/lib/envelope.js`, against whoever moves ciphertexts about. The file
backend derives a key for each user and name. In Postgres a user has one key for all names, and the
name is not authenticated.
-/

namespace PwdNow.Server

open Kit List Option

/-- A user and the name of a resource. -/
abbrev Resource := Uid × String

def userInfo (uid : Uid) (name : String) : String := "vault/" ++ uid ++ "/" ++ name

theorem append_cons_inj_of_notMem {α : Type} {c : α} {a a' b b' : List α} (ha : c ∉ a) (ha' : c ∉ a')
    (h : a ++ c :: b = a' ++ c :: b') : a = a' ∧ b = b' := by
  induction a generalizing a' with
  | nil =>
    cases a' with
    | nil => simpa using h
    | cons x a' =>
      simp only [nil_append, cons_append, cons.injEq] at h
      exact absurd (h.1 ▸ mem_cons_self) ha'
  | cons x a ih =>
    cases a' with
    | nil =>
      simp only [nil_append, cons_append, cons.injEq] at h
      exact absurd (h.1 ▸ mem_cons_self) ha
    | cons y a' =>
      simp only [cons_append, cons.injEq] at h
      obtain ⟨hxy, h⟩ := h
      obtain ⟨haa', hbb'⟩ := ih (fun hc => ha (mem_cons_of_mem _ hc))
        (fun hc => ha' (mem_cons_of_mem _ hc)) h
      exact ⟨by rw [hxy, haa'], hbb'⟩

variable {uid uid' : Uid} {name name' : String}

theorem userInfo_inj (hu : '/' ∉ uid.toList) (hu' : '/' ∉ uid'.toList)
    (h : userInfo uid name = userInfo uid' name') : uid = uid' ∧ name = name' := by
  have hlist := congrArg String.toList h
  simp only [userInfo, String.toList_append, append_assoc] at hlist
  have hrest := append_cancel_left hlist
  -- what is before the first slash, and what is behind it
  obtain ⟨huid, hname⟩ := append_cons_inj_of_notMem hu hu' hrest
  exact ⟨String.toList_inj.mp huid, String.toList_inj.mp hname⟩

/-! ## Stores -/

inductive StoreCall (α : Type) where
  | setResource (uid : Uid) (name : String) (value : α)
  | saveSessions (uid : Uid) (list : α)

namespace StoreCall

variable {α : Type}

/-- Where the call writes; the session list is the resource `sessions`. -/
def resource : StoreCall α → Resource
  | setResource uid name _ => (uid, name)
  | saveSessions uid _ => (uid, "sessions")

def value : StoreCall α → α
  | setResource _ _ value => value
  | saveSessions _ list => list

end StoreCall

/-- The files of the vault directories, or the rows of `vault_items`. -/
abbrev CiphertextStore := Resource → Option Bytes

/-- The store that these calls leave; a call for which there is no blob throws. -/
def storeOf {γ : Type} (resource : γ → Resource) (blob : γ → Option Bytes) (calls : List γ) :
    CiphertextStore :=
  calls.foldl (fun store c =>
    match blob c with
    | none => store
    | some bytes => Function.update store (resource c) (some bytes)) fun _ => none

theorem exists_call_of_storeOf {γ : Type} {resource : γ → Resource} {blob : γ → Option Bytes}
    {calls : List γ} {r : Resource} {bytes : Bytes}
    (h : storeOf resource blob calls r = some bytes) :
    ∃ c ∈ calls, resource c = r ∧ blob c = some bytes := by
  induction calls using reverseRecOn with
  | nil => simp [storeOf] at h
  | append_singleton calls c ih =>
    have hearlier : storeOf resource blob calls r = some bytes →
        ∃ d ∈ calls ++ [c], resource d = r ∧ blob d = some bytes := fun h => by
      obtain ⟨d, hd, hblob⟩ := ih h
      exact ⟨d, mem_append_left _ hd, hblob⟩
    simp only [storeOf, foldl_append, foldl_cons, foldl_nil] at h
    cases hblob : blob c with
    | none =>
      rw [hblob] at h
      exact hearlier h
    | some bytes' =>
      rw [hblob] at h
      dsimp only at h
      by_cases hr : r = resource c
      · rw [hr, Function.update_self] at h
        exact ⟨c, by simp, hr.symm, hblob.trans h⟩
      · rw [Function.update_of_ne hr] at h
        exact hearlier h

/-- Every ciphertext of `store'` was moved or copied there from `store`. -/
def Moved (store store' : CiphertextStore) : Prop :=
  ∀ r bytes, store' r = some bytes → ∃ r', store r' = some bytes

/-- … and none was put under another name of its own user. -/
def MovedBetweenUsers (store store' : CiphertextStore) : Prop :=
  ∀ uid name bytes, store' (uid, name) = some bytes →
    ∃ uid' name', store (uid', name') = some bytes ∧ (uid' = uid → name' = name)

section

variable {α : Type} (F : FileNode) (masterKey : Block 32) (C : Codec α)

/-- What `setResource` or `saveSessions` of the file backend writes, with the iv that is drawn. -/
def fileBlob (c : StoreCall α × Block 12) : Option Bytes :=
  some (writeEncryptedFile F masterKey C c.2 (userInfo c.1.resource.1 c.1.resource.2) c.1.value)

/-- `getResource` of the file backend: `null` is the fallback. -/
def fileGet (store : CiphertextStore) (uid : Uid) (name : String) : Option α :=
  (store (uid, name)).bind (openFile F masterKey C (userInfo uid name))

/-- `encryptResource(user, value)`, under the data key of the user. -/
def encryptResource (A : Aead 12) (dek : Block 32) (iv : Block 12) (value : α) : Bytes :=
  iv.bytes ++ A.encrypt dek iv [] (C.stringify value)

/-- `decryptResource(user, blob)` -/
def decryptResource (A : Aead 12) (dek : Block 32) (blob : Bytes) : Except RepoError α :=
  match Block.ofBytes 12 (blob.take 12) with
  | none => .error (.thrown "Invalid initialization vector")
  | some iv =>
    match (A.decrypt dek iv [] (blob.drop 12)).bind C.parse with
    | none => .error (.thrown "Unsupported state or unable to authenticate data")
    | some value => .ok value

/-- What `setResource` or `saveSessions` of the Postgres backend writes; `deks` are the unwrapped keys
of the users there are. -/
def postgresBlob (A : Aead 12) (deks : Uid → Option (Block 32)) (c : StoreCall α × Block 12) :
    Option Bytes :=
  (deks c.1.resource.1).map fun dek => encryptResource C A dek c.2 c.1.value

/-- `getResource` of the Postgres backend. -/
def postgresGet (A : Aead 12) (deks : Uid → Option (Block 32)) (store : CiphertextStore) (uid : Uid)
    (name : String) : Except RepoError (Option α) :=
  match deks uid with
  | none => .ok none
  | some dek =>
    match store (uid, name) with
    | none => .ok none
    | some blob => (decryptResource C A dek blob).map some

end

/-- The store that calls leave, with the ivs they drew. -/
def storeOfCalls {α : Type} (blob : StoreCall α × Block 12 → Option Bytes)
    (calls : List (StoreCall α × Block 12)) : CiphertextStore :=
  storeOf (fun c => c.1.resource) blob calls

/-! ## What is returned -/

variable {α : Type} {F : FileNode} {masterKey : Block 32} {C : Codec α} {A : Aead 12}
  {calls : List (StoreCall α × Block 12)} {store : CiphertextStore}

/-- The key of each of these calls belongs to its info alone. -/
def HkdfTells (F : FileNode) (masterKey : Block 32) (calls : List (StoreCall α × Block 12)) : Prop :=
  ∀ c ∈ calls, ∀ info, F.hkdf masterKey info =
    F.hkdf masterKey (userInfo c.1.resource.1 c.1.resource.2) →
      info = userInfo c.1.resource.1 c.1.resource.2

/-- **The file backend.** Under the info of another user or name a file does not open. -/
theorem fileGet_bound (hF : F.Ideal) (hC : C.Lawful) (hkdf : HkdfTells F masterKey calls)
    (huids : ∀ c ∈ calls, '/' ∉ c.1.resource.1.toList)
    (hmoved : Moved (storeOfCalls (fileBlob F masterKey C) calls) store) (huid : '/' ∉ uid.toList)
    {value : α} (h : fileGet F masterKey C store uid name = some value) :
    ∃ c ∈ calls, c.1.resource = (uid, name) ∧ c.1.value = value := by
  obtain ⟨bytes, hbytes, hopen⟩ := bind_eq_some_iff.mp h
  obtain ⟨r', hr'⟩ := hmoved _ _ hbytes
  obtain ⟨c, hc, -, hblob⟩ := exists_call_of_storeOf hr'
  cases hblob
  -- it opens under this info, so the key was derived from it
  have hinfo : userInfo uid name = userInfo c.1.resource.1 c.1.resource.2 := by
    rw [openFile, writeEncryptedFile, decryptBlob_encryptBlob hF] at hopen
    obtain ⟨pt, hpt, -⟩ := bind_eq_some_iff.mp hopen
    have hsealed := hF.aead.encrypt_of_decrypt _ _ _ _ _ hpt
    exact hkdf c hc _ (hF.aead.encrypt_inj _ _ _ _ _ _ _ _ hsealed).1.symm
  rw [hinfo, openFile_writeEncryptedFile hF hC] at hopen
  obtain ⟨hu, hn⟩ := userInfo_inj huid (huids c hc) hinfo
  exact ⟨c, hc, Prod.ext hu.symm hn.symm, some.inj hopen⟩

theorem decryptResource_encryptResource (hA : A.Ideal) (hC : C.Lawful) {dek dek' : Block 32}
    {iv : Block 12} {v v' : α} :
    decryptResource C A dek (encryptResource C A dek' iv v') = .ok v ↔ dek = dek' ∧ v = v' := by
  have htake : (encryptResource C A dek' iv v').take 12 = iv.bytes := by
    rw [encryptResource, take_left' iv.length_bytes]
  have hdrop : (encryptResource C A dek' iv v').drop 12 = A.encrypt dek' iv [] (C.stringify v') := by
    rw [encryptResource, drop_left' iv.length_bytes]
  rw [decryptResource, htake, Block.ofBytes_bytes, hdrop]
  dsimp only
  constructor
  · intro h
    split at h
    · cases h
    · rename_i value hvalue
      cases h
      obtain ⟨pt, hpt, hparse⟩ := bind_eq_some_iff.mp hvalue
      have hsealed := hA.encrypt_of_decrypt _ _ _ _ _ hpt
      obtain ⟨hdek, -, -, hpt'⟩ := hA.encrypt_inj _ _ _ _ _ _ _ _ hsealed
      rw [← hpt', hC.parse_stringify] at hparse
      exact ⟨hdek.symm, (some.inj hparse).symm⟩
  · rintro ⟨rfl, rfl⟩
    rw [hA.decrypt_encrypt, bind_some, hC.parse_stringify]

/-- **Postgres.** What comes back was set for this user, but perhaps under the name it was moved
from. -/
theorem postgresGet_bound (hA : A.Ideal) (hC : C.Lawful) {deks : Uid → Option (Block 32)}
    (hdeks : ∀ uid uid' dek, deks uid = some dek → deks uid' = some dek → uid = uid')
    {bytes : Bytes} {value : α}
    (hfrom : storeOfCalls (postgresBlob C A deks) calls (uid', name') = some bytes)
    (hrow : store (uid, name) = some bytes)
    (h : postgresGet C A deks store uid name = .ok (some value)) :
    uid' = uid ∧ ∃ c ∈ calls, c.1.resource = (uid, name') ∧ c.1.value = value := by
  obtain ⟨c, hc, hresource, hblob⟩ := exists_call_of_storeOf hfrom
  obtain ⟨dek', hdek', rfl⟩ := map_eq_some_iff.mp hblob
  unfold postgresGet at h
  cases hdek : deks uid with
  | none =>
    rw [hdek] at h
    cases h
  | some dek =>
    simp only [hdek, hrow] at h
    cases hdec : decryptResource C A dek (encryptResource C A dek' c.2 c.1.value) with
    | error e =>
      rw [hdec] at h
      cases h
    | ok v =>
      rw [hdec] at h
      cases h
      obtain ⟨rfl, hvalue⟩ := (decryptResource_encryptResource hA hC).mp hdec
      have huid : c.1.resource.1 = uid := hdeks _ _ dek hdek' hdek
      rw [hresource] at huid
      exact ⟨huid, c, hc, by rw [hresource, ← huid], hvalue.symm⟩

def textCodec : Codec String := .ofSpelling .string

theorem textCodec_lawful : textCodec.Lawful := Codec.ofSpelling_lawful _

/-- Files of which the credentials of the first user have a key of their own. -/
def separatingFile : FileNode :=
  { symbolicFile with
    hkdf := fun _ info => if info = userInfo "u1" "credentials" then oldKey else newKey }

theorem separatingFile_ideal : separatingFile.Ideal :=
  ⟨symbolicFile_ideal.aead, symbolicFile_ideal.tag⟩

def setCredentials : StoreCall String × Block 12 :=
  (.setResource "u1" "credentials" "passwords", someIv)

def setFolders : StoreCall String × Block 12 := (.setResource "u1" "folders" "names", someIv)

def twoDeks : Uid → Option (Block 32)
  | "u1" => some oldKey
  | "u2" => some newKey
  | _ => none

theorem oldKey_ne_newKey : oldKey ≠ newKey := by decide

theorem twoDeks_inj (uid uid' : Uid) (dek : Block 32) (h : twoDeks uid = some dek)
    (h' : twoDeks uid' = some dek) : uid = uid' := by
  have heq := h.trans h'.symm
  unfold twoDeks at heq h
  split at heq <;> split at heq
  · rfl
  · exact absurd (some.inj heq) oldKey_ne_newKey
  · cases heq
  · exact absurd (some.inj heq).symm oldKey_ne_newKey
  · rfl
  · cases heq
  · cases heq
  · cases heq
  · split at h <;> simp_all

theorem moved_refl (store : CiphertextStore) : Moved store store := fun r _ h => ⟨r, h⟩

theorem movedBetweenUsers_refl (store : CiphertextStore) : MovedBetweenUsers store store :=
  fun uid name _ h => ⟨uid, name, h, fun _ => rfl⟩

/-- The rows of the two resources, exchanged. -/
def swappedRows : CiphertextStore := fun r =>
  storeOfCalls (postgresBlob textCodec symbolicFile.aead twoDeks) [setCredentials, setFolders]
    (r.1, if r.2 = "credentials" then "folders" else if r.2 = "folders" then "credentials" else r.2)

end PwdNow.Server
