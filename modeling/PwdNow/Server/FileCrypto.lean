import PwdNow.Kit.Aead
import PwdNow.Kit.Codec
import PwdNow.Kit.Js

/-!
# Server — encrypted files

The first part of `web/lib/fileCrypto.js`. A file is the JSON text of a value, sealed with
AES-256-GCM under a key that HKDF derives from the master key and a text, the `info`. A file that
cannot be read is read as the fallback.
-/

namespace PwdNow.Server

open Kit

/-- What `fileCrypto.js` takes from Node. -/
structure FileNode where
  /-- `hkdfSync('sha384', masterKey, '', info, 32)` -/
  hkdf : Block 32 → String → Block 32
  /-- AES-256-GCM; the sealed text begins with the tag. -/
  aead : Aead 12

/-- Ideal encryption, with a tag of 16 bytes. -/
structure FileNode.Ideal (F : FileNode) : Prop where
  aead : F.aead.Ideal
  tag : ∀ key iv aad pt, 16 ≤ (F.aead.encrypt key iv aad pt).length

section

variable (F : FileNode) (masterKey : Block 32)

def derivedKey (info : String) : Block 32 := F.hkdf masterKey info

def encryptBlob (iv : Block 12) (info : String) (plaintext : Bytes) : Bytes :=
  iv.bytes ++ F.aead.encrypt (derivedKey F masterKey info) iv [] plaintext

/-- `none` where it throws. -/
def decryptBlob (info : String) (blob : Bytes) : Option Bytes :=
  if blob.length < 12 + 16 then none
  else
    match Block.ofBytes 12 (blob.take 12) with
    | none => none
    | some iv => F.aead.decrypt (derivedKey F masterKey info) iv [] (blob.drop 12)

variable {α : Type} (C : Codec α)

/-- The bytes that `writeEncryptedFile` leaves under the path; it renames, so nothing in between is
seen. -/
def writeEncryptedFile (iv : Block 12) (info : String) (jsonValue : α) : Bytes :=
  encryptBlob F masterKey iv info (C.stringify jsonValue)

/-- What the bytes of a file decrypt and parse to, if they do. -/
def openFile (info : String) (blob : Bytes) : Option α :=
  (decryptBlob F masterKey info blob).bind C.parse

def readEncryptedFile (info : String) (file : Option Bytes) (fallback : α) : α :=
  match file with
  | none => fallback
  | some blob => (openFile F masterKey C info blob).getD fallback

end

variable {F : FileNode} {masterKey : Block 32} {α : Type} {C : Codec α}

theorem decryptBlob_encryptBlob (hF : F.Ideal) (iv : Block 12) (info info' : String)
    (plaintext : Bytes) :
    decryptBlob F masterKey info' (encryptBlob F masterKey iv info plaintext) =
      F.aead.decrypt (derivedKey F masterKey info') iv []
        (F.aead.encrypt (derivedKey F masterKey info) iv [] plaintext) := by
  have hlen := hF.tag (derivedKey F masterKey info) iv [] plaintext
  have hlong : ¬ (encryptBlob F masterKey iv info plaintext).length < 12 + 16 := by
    rw [encryptBlob, List.length_append, iv.length_bytes]
    omega
  have htake : (encryptBlob F masterKey iv info plaintext).take 12 = iv.bytes := by
    rw [encryptBlob, List.take_left' iv.length_bytes]
  have hdrop : (encryptBlob F masterKey iv info plaintext).drop 12 =
      F.aead.encrypt (derivedKey F masterKey info) iv [] plaintext := by
    rw [encryptBlob, List.drop_left' iv.length_bytes]
  rw [decryptBlob, if_neg hlong, htake, Block.ofBytes_bytes, hdrop]

theorem openFile_writeEncryptedFile (hF : F.Ideal) (hC : C.Lawful) (iv : Block 12) (info : String)
    (v : α) : openFile F masterKey C info (writeEncryptedFile F masterKey C iv info v) = some v := by
  rw [openFile, writeEncryptedFile, decryptBlob_encryptBlob hF, hF.aead.decrypt_encrypt,
    Option.bind_some, hC.parse_stringify]

/-- Files that spell out their key. The derived key is the master key, whatever the info. -/
def symbolicFile : FileNode where
  hkdf masterKey _ := masterKey
  aead := Aead.symbolic 12

theorem symbolicFile_ideal : symbolicFile.Ideal where
  aead := Aead.symbolic_ideal 12
  tag key iv aad pt := by
    simp only [symbolicFile, Aead.symbolic, Aead.symbolicHead, List.length_append,
      Block.length_bytes]
    omega

end PwdNow.Server
