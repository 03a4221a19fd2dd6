import PwdNow.Daemon.Database

/-!
# Daemon — what the tables hold: credentials, folders, assets, profile, TOTP secret

`daemon/src/vault/{credentials,folders,assets,user_profile,totp_db}.rs`. Five tables carry columns
sealed under the VMK: each credential's data key, each folder, the asset holder, the profile with
its picture, and the TOTP secret. What a reader returns plaintext for under two VMKs, it returns
under one (`_key_unique`).
-/

namespace PwdNow.Daemon

open Kit Result Option List

variable (P : Primitives) (J : Serde)

/-! ## Credentials -/

namespace Credentials

/-- The random draws of one `seal_blob`. -/
structure Draws where
  dek : Block 32
  dekNonce : Block 12
  ctNonce : Block 24

def buildAad (vaultUuid credId : String) : Bytes := utf8 vaultUuid ++ utf8 credId

/-- The sealed columns: a fresh data key under the VMK, the blob under the data key. -/
def sealBlob (draws : Draws) (vmk : Block 32) (vaultUuid credId : String) (blob : Bytes)
    (row : CredentialRow) : CredentialRow :=
  let aad := buildAad vaultUuid credId
  { row with
    encryptedDek :=
      P.aesGcm.encrypt vmk draws.dekNonce (utf8 "credential-dek-v1") draws.dek.bytes
    dekNonce := draws.dekNonce.bytes
    ciphertext := P.xchacha20.encrypt draws.dek draws.ctNonce aad blob
    ctNonce := draws.ctNonce.bytes
    ctAad := aad }

def computeBlindIndices (blindIndexKey : Block 64) (blob : Bytes) (row : CredentialRow) :
    Result CredentialRow :=
  match J.parseCredential blob with
  | .error _ => fail (.crypto "invalid JSON blob")
  | .ok fields =>
    let index := fun value : String => hexEncode (P.hmacSha512 blindIndexKey (utf8 value))
    .ok { row with
      serviceHash := fields.service.map index
      urlHash := fields.url.map index
      usernameHash := fields.username.map index }

/-- The row that `add` inserts, and whose columns `update` sets. `id` is the canonical text
of the `Uuid`. -/
def sealedRow (draws : Draws) (now : Int) (id : String) (vmk : Block 32)
    (blindIndexKey : Block 64) (vaultUuid : String) (folderId : Option String)
    (blob : Bytes) : Result CredentialRow :=
  let blank : CredentialRow := ⟨id, folderId, [], [], [], [], [], none, none, none, now, now⟩
  computeBlindIndices P J blindIndexKey blob (sealBlob P draws vmk vaultUuid id blob blank)

def add (draws : Draws) (now : Int) (id : String) (db : Database) (vmk : Block 32)
    (blindIndexKey : Block 64) (vaultUuid : String) (folderId : Option String)
    (blob : Bytes) : Result Database := do
  let row ← sealedRow P J draws now id vmk blindIndexKey vaultUuid folderId blob
  if db.credentials.any (·.id = id) then fail (.database "UNIQUE constraint failed: credentials.id")
  else pure { db with credentials := db.credentials ++ [row] }

def get (db : Database) (vmk : Block 32) (id : String) : Result Bytes := do
  let row ← okOr (db.credentials.find? (·.id = id)) (.database "Query returned no rows")
  let dekNonce ← okOr (Block.ofBytes 12 (row.dekNonce.take 12)) (.crypto "dek_nonce truncated")
  let dekVec ← aesGcmDecrypt P vmk row.encryptedDek dekNonce (utf8 "credential-dek-v1")
  let dek ← copyFromSlice 32 "dek" dekVec
  let ctNonce ← okOr (Block.ofBytes 24 (row.ctNonce.take 24)) (.crypto "ct_nonce truncated")
  xchachaDecrypt P dek row.ciphertext ctNonce row.ctAad

/-- No row with that id is no error. -/
def update (draws : Draws) (now : Int) (db : Database) (vmk : Block 32)
    (blindIndexKey : Block 64) (vaultUuid : String) (id : String) (folderId : Option String)
    (blob : Bytes) : Result Database := do
  let sealed ← sealedRow P J draws now id vmk blindIndexKey vaultUuid folderId blob
  pure { db with credentials := db.credentials.map fun row =>
    if row.id = id then { sealed with createdAt := row.createdAt } else row }

variable {P J}

variable {db db' : Database}

theorem get_congr (h : db.credentials = db'.credentials) (vmk : Block 32) (id : String) :
    get P db vmk id = get P db' vmk id := by
  simp only [get, h]

variable {vmk : Block 32} {id : String} {blob : Bytes}

theorem get_key_unique (hP : P.Ideal) {vmk' : Block 32} {blob' : Bytes}
    (h : get P db vmk id = .ok blob) (h' : get P db vmk' id = .ok blob') : vmk = vmk' := by
  simp only [get, bind_eq_ok, okOr_eq_ok] at h h'
  obtain ⟨row, hrow, nonce, hnonce, dek, hdek, -⟩ := h
  obtain ⟨row', hrow', nonce', hnonce', dek', hdek', -⟩ := h'
  rw [hrow] at hrow'
  cases hrow'
  rw [hnonce] at hnonce'
  cases hnonce'
  exact aesGcmDecrypt_key_unique hP hdek hdek'

variable {draws : Draws} {now : Int} {key : Block 64} {vaultUuid : String}
  {folderId : Option String} {row : CredentialRow}

theorem sealedRow_eq_ok (h : sealedRow P J draws now id vmk key vaultUuid folderId blob = .ok row) :
    row.id = id ∧ row.dekNonce = draws.dekNonce.bytes ∧ row.ctNonce = draws.ctNonce.bytes ∧
      row.encryptedDek =
        P.aesGcm.encrypt vmk draws.dekNonce (utf8 "credential-dek-v1") draws.dek.bytes ∧
      row.ciphertext = P.xchacha20.encrypt draws.dek draws.ctNonce row.ctAad blob := by
  simp only [sealedRow, computeBlindIndices] at h
  split at h
  · simp [fail] at h
  · cases h
    exact ⟨rfl, rfl, rfl, rfl, rfl⟩

section

variable (h : update P J draws now db vmk key vaultUuid id folderId blob = .ok db')
include h

theorem find_update (id' : String) :
    ∃ sealed, sealedRow P J draws now id vmk key vaultUuid folderId blob = .ok sealed ∧
      db'.credentials.find? (·.id = id') = (db.credentials.find? (·.id = id')).map fun row =>
        if row.id = id then { sealed with createdAt := row.createdAt } else row := by
  obtain ⟨sealed, hsealed, hdb⟩ := bind_eq_ok.mp h
  cases hdb
  have hid : sealed.id = id := (sealedRow_eq_ok hsealed).1
  refine ⟨sealed, hsealed, ?_⟩
  rw [find?_map]
  congr 2
  funext row
  by_cases hrow : row.id = id <;> simp [hrow, hid]

theorem get_update_other {id' : String} (hne : id' ≠ id) (vmk' : Block 32) :
    get P db' vmk' id' = get P db vmk' id' := by
  obtain ⟨sealed, -, hfind⟩ := find_update h id'
  unfold get
  rw [hfind]
  cases hrow : db.credentials.find? (·.id = id') with
  | none => rfl
  | some row =>
    have hid : row.id = id' := by simpa using find?_some hrow
    rw [map_some, if_neg (by rw [hid]; exact hne)]

end

variable (P) in
/-- The sealed columns hold `blob`: its data key is under the VMK, and it is under its data key
with the associated data that is stored beside it. -/
def Holds (vmk : Block 32) (row : CredentialRow) (blob : Bytes) : Prop :=
  ∃ draws : Draws, row.dekNonce = draws.dekNonce.bytes ∧ row.ctNonce = draws.ctNonce.bytes ∧
    row.encryptedDek =
      P.aesGcm.encrypt vmk draws.dekNonce (utf8 "credential-dek-v1") draws.dek.bytes ∧
    row.ciphertext = P.xchacha20.encrypt draws.dek draws.ctNonce row.ctAad blob

theorem get_of_holds (hP : P.Ideal) (hrow : db.credentials.find? (·.id = id) = some row)
    (h : Holds P vmk row blob) : get P db vmk id = .ok blob := by
  obtain ⟨draws, hdn, hcn, hdek, hct⟩ := h
  have htake12 : draws.dekNonce.bytes.take 12 = draws.dekNonce.bytes :=
    take_of_length_le (by simp)
  have htake24 : draws.ctNonce.bytes.take 24 = draws.ctNonce.bytes :=
    take_of_length_le (by simp)
  simp [get, hrow, okOr, hdn, hcn, hdek, hct, htake12, htake24, aesGcmDecrypt, xchachaDecrypt,
    hP.aesGcm.decrypt_encrypt, hP.xchacha20.decrypt_encrypt, bind, Except.bind]

theorem get_update (hP : P.Ideal)
    (h : update P J draws now db vmk key vaultUuid id folderId blob = .ok db')
    (hmem : (db.credentials.find? (·.id = id)).isSome) : get P db' vmk id = .ok blob := by
  obtain ⟨sealed, hsealed, hfind⟩ := find_update h id
  obtain ⟨row, hrow⟩ := isSome_iff_exists.mp hmem
  have hid : row.id = id := by simpa using find?_some hrow
  rw [hrow, map_some, if_pos hid] at hfind
  exact get_of_holds hP hfind ⟨draws, (sealedRow_eq_ok hsealed).2⟩

end Credentials

/-! ## Folders -/

namespace Folders

/-- `FOLDER_SCHEMA_VERSION.to_be_bytes()` closes the associated data. -/
def buildAad (vaultUuid id : String) : Bytes := utf8 vaultUuid ++ utf8 id ++ [0, 0, 0, 1]

def decryptFolder (vmk : Block 32) (vaultUuid id : String) (ct nonce : Bytes) :
    Result FolderMetadata := do
  let json ← openSealed P vmk ct nonce (buildAad vaultUuid id)
    (.crypto "invalid folder nonce length")
  match J.parseFolder json with
  | .ok folder => pure folder
  | .error msg => fail (.crypto ("folder deserialize: " ++ msg))

/-- A folder as `list` returns it. -/
structure FolderRow where
  id : String
  name : String
  description : Option String
  iconSvg : Option String
  sortOrder : Int
  schemaVersion : Nat
  createdAt : Int
  updatedAt : Int
  deriving DecidableEq

/-- One turn of the loop of `list`: a row that does not decrypt is skipped, one that has
nothing to decrypt is shown as pending. -/
def readRow (vmk : Block 32) (vaultUuid : String) (row : StoredFolder) : Option FolderRow :=
  match row.ciphertext, row.nonce with
  | some ct, some nonce =>
    match decryptFolder P J vmk vaultUuid row.id ct nonce with
    | .ok folder => some
      { id := row.id, name := folder.name, description := folder.description,
        iconSvg := folder.iconSvg, sortOrder := row.sortOrder, schemaVersion := 1,
        createdAt := row.createdAt, updatedAt := row.updatedAt }
    | .error _ => none
  | _, _ => some
    { id := row.id, name := "Pending Migration",
      description := some "Data migration in progress", iconSvg := none,
      sortOrder := row.sortOrder, schemaVersion := 0, createdAt := row.createdAt,
      updatedAt := row.updatedAt }

/-- `ORDER BY sort_order ASC`, ties in rowid order. -/
def list (db : Database) (vmk : Block 32) (vaultUuid : String) : List FolderRow :=
  (db.folders.insertionSort (·.sortOrder ≤ ·.sortOrder)).filterMap (readRow P J vmk vaultUuid)

/-- `folders::update`: no row with that id is an error. -/
def update (nonce : Block 12) (now : Int) (db : Database) (vmk : Block 32)
    (vaultUuid id : String) (folder : FolderMetadata) : Result Database :=
  if db.folders.any (·.id = id) then
    .ok { db with folders := db.folders.map fun row =>
      if row.id = id then
        { row with
          ciphertext :=
            some (P.aesGcm.encrypt vmk nonce (buildAad vaultUuid id) (J.folderJson folder))
          nonce := some nonce.bytes
          updatedAt := now }
      else row }
  else fail (.database "Query returned no rows")

/-- The row has sealed columns that open under the VMK. -/
def Sealed (row : StoredFolder) (vmk : Block 32) (vaultUuid : String) : Prop :=
  ∃ ct nonce folder, row.ciphertext = some ct ∧ row.nonce = some nonce ∧
    decryptFolder P J vmk vaultUuid row.id ct nonce = .ok folder

variable {P J}

variable {vmk : Block 32} {vaultUuid : String} {folder : FolderRow}

theorem mem_list {db : Database} :
    folder ∈ list P J db vmk vaultUuid ↔
      ∃ row ∈ db.folders, readRow P J vmk vaultUuid row = some folder := by
  simp [list, mem_filterMap]

variable {row : StoredFolder} {vmk' : Block 32}

theorem Sealed.key_unique (hP : P.Ideal) (h : Sealed P J row vmk vaultUuid)
    (h' : Sealed P J row vmk' vaultUuid) : vmk = vmk' := by
  obtain ⟨ct, nonce, folder, hct, hnonce, hopen⟩ := h
  obtain ⟨ct', nonce', folder', hct', hnonce', hopen'⟩ := h'
  rw [hct] at hct'
  rw [hnonce] at hnonce'
  cases hct'
  cases hnonce'
  simp only [decryptFolder, bind_eq_ok] at hopen hopen'
  obtain ⟨json, hjson, -⟩ := hopen
  obtain ⟨json', hjson', -⟩ := hopen'
  exact openSealed_key_unique hP hjson hjson'

theorem readRow_id (h : readRow P J vmk vaultUuid row = some folder) : folder.id = row.id := by
  unfold readRow at h
  split at h
  · split at h
    · cases h
      rfl
    · simp at h
  · cases h
    rfl

theorem Sealed.readRow_iff (h : Sealed P J row vmk vaultUuid) :
    (readRow P J vmk' vaultUuid row).isSome ↔ Sealed P J row vmk' vaultUuid := by
  obtain ⟨ct, nonce, -, hct, hnonce, -⟩ := h
  simp only [readRow, Sealed, hct, hnonce, some.injEq]
  cases hopen : decryptFolder P J vmk' vaultUuid row.id ct nonce with
  | ok folder => simp [hopen]
  | error e => simp [hopen]

theorem readRow_of_not_sealed (h : readRow P J vmk vaultUuid row = some folder)
    (hs : ¬ Sealed P J row vmk vaultUuid) : readRow P J vmk' vaultUuid row = some folder := by
  unfold readRow at h ⊢
  split at h
  · next ct nonce hct hnonce =>
    split at h
    · next meta' hopen => exact absurd ⟨ct, nonce, meta', hct, hnonce, hopen⟩ hs
    · simp at h
  · exact h

end Folders

/-! ## The asset holder -/

namespace Assets

def aad : Bytes := utf8 "asset-holder-v1"

def get (db : Database) (vmk : Block 32) : Result (Option Bytes) :=
  match db.assetHolder with
  | none => .ok none
  | some row => do
    let blob ← openSealed P vmk row.ciphertext row.nonce aad
      (.crypto "invalid asset nonce length")
    pure (some blob)

def update (nonce : Block 12) (now : Int) (db : Database) (vmk : Block 32) (blob : Bytes) :
    Database :=
  { db with assetHolder := some ⟨P.aesGcm.encrypt vmk nonce aad blob, nonce.bytes, now⟩ }

variable {P}

theorem get_key_unique (hP : P.Ideal) {db : Database} {vmk vmk' : Block 32} {blob : Bytes}
    {blob' : Option Bytes} (h : get P db vmk = .ok (some blob))
    (h' : get P db vmk' = .ok blob') : vmk = vmk' := by
  unfold get at h h'
  cases hrow : db.assetHolder with
  | none => simp [hrow] at h
  | some row =>
    simp only [hrow, bind_eq_ok] at h h'
    obtain ⟨b, hb, -⟩ := h
    obtain ⟨b', hb', -⟩ := h'
    exact openSealed_key_unique hP hb hb'

end Assets

/-! ## The user profile -/

namespace UserProfile

structure ProfileData where
  firstName : String
  lastName : String
  email : String
  profilePic : Option Bytes
  passwordChangedAt : Option Nat
  deriving DecidableEq

def decryptProfileFields (vmk : Block 32) (ct nonce : Bytes) : Result EncryptedProfileFields := do
  let json ← openSealed P vmk ct nonce (utf8 "profile-data-aad-v1")
    (.crypto "invalid profile nonce length")
  match J.parseProfile json with
  | .ok fields => pure fields
  | .error msg => fail (.crypto ("profile deserialize: " ++ msg))

def profilePicAad : Bytes := utf8 "profile-pic-aad-v1"

/-- AES-GCM nonce, then ciphertext. -/
def openPic12 (vmk : Block 32) (bytes : Bytes) (short : Failure) : Result Bytes :=
  match Block.ofBytes 12 (bytes.take 12) with
  | some nonce => aesGcmDecrypt P vmk (bytes.drop 12) nonce profilePicAad
  | none => .error short

/-- XChaCha20 nonce, then ciphertext. -/
def openPic24 (vmk : Block 32) (bytes : Bytes) (short : Failure) : Result Bytes :=
  match Block.ofBytes 24 (bytes.take 24) with
  | some nonce => xchachaDecrypt P vmk (bytes.drop 24) nonce profilePicAad
  | none => .error short

/-- The first byte is a version, in older rows the length of a nonce, in the oldest part of the
nonce. A row that starts with 24 and is shorter than that panics. -/
def decryptPic (vmk : Block 32) (blob : Bytes) : Result Bytes :=
  match blob with
  | [] => fail (.crypto "empty pic blob")
  | version :: rest =>
    if version = 0xA1 then openPic12 P vmk rest (.err (.crypto "pic blob too short"))
    else if version = 0xC2 then openPic24 P vmk rest (.err (.crypto "pic blob too short"))
    else if version = 12 then openPic12 P vmk rest (.err (.crypto "legacy pic blob too short"))
    else if version = 24 then openPic24 P vmk rest (.abort "blob[1..25]")
    else openPic24 P vmk blob (.err (.crypto "unsupported pic encryption format"))

def passwordChangedAt (db : Database) : Option Nat :=
  match db.vaultMeta "password_changed_at" with
  | some (.integer v) => if 0 ≤ v then some v.toNat else none
  | _ => none

/-- The names and the address of a row; empty while nothing is sealed. -/
def readFields (vmk : Block 32) (row : StoredUser) : Result EncryptedProfileFields :=
  match row.ciphertext, row.nonce with
  | some ct, some nonce => decryptProfileFields P J vmk ct nonce
  | _, _ => .ok ⟨"", "", ""⟩

def readPic (vmk : Block 32) (row : StoredUser) : Result (Option Bytes) :=
  match row.profilePic with
  | some blob => do
    let pic ← decryptPic P vmk blob
    pure (some pic)
  | none => .ok none

/-- `SELECT … FROM users LIMIT 1`. -/
def get (db : Database) (vmk : Block 32) : Result (Option ProfileData) :=
  match db.users.head? with
  | none => .ok none
  | some row => do
    let fields ← readFields P J vmk row
    let pic ← readPic P vmk row
    pure (some ⟨fields.firstName, fields.lastName, fields.email, pic, passwordChangedAt db⟩)

/-- `user_profile::update`: always the row with id `profile`, which is not the first one if
the table has another. -/
def update (nonce : Block 12) (now : Int) (db : Database) (vmk : Block 32)
    (fields : EncryptedProfileFields) : Database :=
  let ct := P.aesGcm.encrypt vmk nonce (utf8 "profile-data-aad-v1") (J.profileJson fields)
  { db with users :=
      if db.users.any (·.id = "profile") then
        db.users.map fun row =>
          if row.id = "profile" then
            { row with ciphertext := some ct, nonce := some nonce.bytes }
          else row
      else db.users ++ [⟨"profile", some ct, some nonce.bytes, none, now⟩] }

/-- The row that `get` reads has sealed columns. -/
def Sealed (db : Database) : Prop :=
  ∃ row ∈ db.users.head?, (row.ciphertext.isSome ∧ row.nonce.isSome) ∨ row.profilePic.isSome

instance (db : Database) : Decidable (Sealed db) :=
  match h : db.users.head? with
  | none => isFalse (by simp [Sealed, h])
  | some row =>
    decidable_of_iff ((row.ciphertext.isSome ∧ row.nonce.isSome) ∨ row.profilePic.isSome)
      (by simp [Sealed, h])

variable {P J}

variable {vmk vmk' : Block 32} {bytes pic pic' : Bytes} {short : Failure} {db : Database}

theorem openPic12_key_unique (hP : P.Ideal) (h : openPic12 P vmk bytes short = .ok pic)
    (h' : openPic12 P vmk' bytes short = .ok pic') : vmk = vmk' := by
  unfold openPic12 at h h'
  split at h
  · next nonce hn =>
    rw [hn] at h'
    exact aesGcmDecrypt_key_unique hP h h'
  · simp at h

theorem openPic24_key_unique (hP : P.Ideal) (h : openPic24 P vmk bytes short = .ok pic)
    (h' : openPic24 P vmk' bytes short = .ok pic') : vmk = vmk' := by
  unfold openPic24 at h h'
  split at h
  · next nonce hn =>
    rw [hn] at h'
    exact xchachaDecrypt_key_unique hP h h'
  · simp at h

theorem decryptPic_key_unique (hP : P.Ideal) {blob : Bytes} (h : decryptPic P vmk blob = .ok pic)
    (h' : decryptPic P vmk' blob = .ok pic') : vmk = vmk' := by
  cases blob with
  | nil => simp [decryptPic, fail] at h
  | cons version rest =>
    simp only [decryptPic] at h h'
    -- the version byte sends both openings down the same branch
    split_ifs at h h'
    · exact openPic12_key_unique hP h h'
    · exact openPic24_key_unique hP h h'
    · exact openPic12_key_unique hP h h'
    · exact openPic24_key_unique hP h h'
    · exact openPic24_key_unique hP h h'

theorem get_key_unique (hP : P.Ideal) {p p' : Option ProfileData} (hs : Sealed db)
    (h : get P J db vmk = .ok p) (h' : get P J db vmk' = .ok p') : vmk = vmk' := by
  obtain ⟨row, hrow, hcols⟩ := hs
  simp only [get, mem_def.mp hrow, bind_eq_ok] at h h'
  obtain ⟨fields, hfields, pic, hpic, -⟩ := h
  obtain ⟨fields', hfields', pic', hpic', -⟩ := h'
  rcases hcols with ⟨hct, hnonce⟩ | hblob
  · obtain ⟨ct, hct⟩ := isSome_iff_exists.mp hct
    obtain ⟨nonce, hnonce⟩ := isSome_iff_exists.mp hnonce
    simp only [readFields, hct, hnonce, decryptProfileFields, bind_eq_ok] at hfields hfields'
    obtain ⟨json, hjson, -⟩ := hfields
    obtain ⟨json', hjson', -⟩ := hfields'
    exact openSealed_key_unique hP hjson hjson'
  · obtain ⟨blob, hblob⟩ := isSome_iff_exists.mp hblob
    simp only [readPic, hblob, bind_eq_ok] at hpic hpic'
    obtain ⟨b, hb, -⟩ := hpic
    obtain ⟨b', hb', -⟩ := hpic'
    exact decryptPic_key_unique hP hb hb'

theorem get_of_not_sealed (hs : ¬ Sealed db) : get P J db vmk = get P J db vmk' := by
  unfold get
  cases hrow : db.users.head? with
  | none => rfl
  | some row =>
    have hcols : ¬ ((row.ciphertext.isSome ∧ row.nonce.isSome) ∨ row.profilePic.isSome) :=
      fun h => hs ⟨row, hrow, h⟩
    have hpic : row.profilePic = none := by
      simpa using fun h => hcols (.inr h)
    have hfields : ∀ k, readFields P J k row = .ok ⟨"", "", ""⟩ := by
      intro k
      unfold readFields
      split
      · next ct nonce hct hnonce => exact absurd (.inl ⟨by simp [hct], by simp [hnonce]⟩) hcols
      · rfl
    simp only [hfields, readPic, hpic]

end UserProfile

/-! ## The TOTP secret -/

namespace TotpDb

structure TotpConfig where
  id : String
  secretB32 : String
  deriving DecidableEq

/-- A row that was never confirmed counts like a confirmed one. -/
def isActive (db : Database) : Bool := !db.otpConfig.isEmpty

def load (db : Database) (vmk : Block 32) : Result TotpConfig := do
  let row ← okOr db.otpConfig.head? (.auth "no TOTP config stored")
  let plaintext ← openSealed P vmk row.encryptedSecret row.secretNonce
    (utf8 "totp-secret-aad-v1") (.crypto "invalid totp nonce length")
  let secret ← okOr (String.fromUTF8? ⟨plaintext.toArray⟩)
    (.crypto "TOTP secret is not valid UTF-8")
  pure ⟨row.id, secret⟩

variable {P}

theorem load_key_unique (hP : P.Ideal) {db : Database} {vmk vmk' : Block 32}
    {config config' : TotpConfig} (h : load P db vmk = .ok config)
    (h' : load P db vmk' = .ok config') : vmk = vmk' := by
  simp only [load, bind_eq_ok, okOr_eq_ok] at h h'
  obtain ⟨row, hrow, pt, hpt, -⟩ := h
  obtain ⟨row', hrow', pt', hpt', -⟩ := h'
  rw [hrow] at hrow'
  cases hrow'
  exact openSealed_key_unique hP hpt hpt'

end TotpDb

end PwdNow.Daemon
