import PwdNow.Server.State

/-!
# Server — password hashes

`hashPassword`, `verifyPassword` and the two legacy schemes of `web/routes/auth/utils.js`. A stored
hash names its scheme by its first characters; what has no such tag is the hexadecimal output of
scrypt, and is checked with the salt stored beside it. The hash functions come from outside
(`Node`), idealised by `Node.Ideal`.
-/

namespace PwdNow.Server

open Kit Option

/-- What the server takes from Node and its packages. -/
structure Node where
  /-- `argon2.hash(password, { type: argon2id, … })`, with the salt it draws. -/
  argon2Hash : Bytes → Text → Text
  /-- `argon2.verify(hash, password)`; throws on a hash it cannot read. -/
  argon2Verify : Text → Text → Option Bool
  /-- password, salt -/
  pbkdf2Sha512 : Text → Bytes → Bytes
  /-- password, salt -/
  scrypt : Text → Bytes → Bytes
  /-- `Buffer.from(text, 'hex')` -/
  bufferFromHex : Text → Bytes
  /-- `buffer.toString('hex')` -/
  toHex : Bytes → Text
  /-- `Buffer.from(text)` -/
  utf8 : Text → Bytes
  /-- `createHash('sha256')`, in hexadecimal. -/
  sha256 : Bytes → Text
  /-- `TOTP.generate(secret, { timestamp })`; throws on a secret it cannot read. -/
  totpGenerate : Text → Int → Option Text
  /-- `getDummyArgon2Hash()` -/
  dummyArgon2Hash : Text

def argon2idTag : Text := "$argon2id$".toList

def argon2Tag : Text := "$argon2".toList

/-- `PBKDF2_HASH_PREFIX`. -/
def pbkdf2HashTag : Text := "$pbkdf2sha512$".toList

/-- Each scheme accepts exactly the string that was hashed. -/
structure Node.Ideal (N : Node) : Prop where
  argon2Hash_tag : ∀ salt p, argon2idTag.isPrefixOf (N.argon2Hash salt p) = true
  argon2Verify_hash : ∀ salt p q, N.argon2Verify (N.argon2Hash salt p) q = some (p == q)
  argon2Verify_inj : ∀ h p q, N.argon2Verify h p = some true → N.argon2Verify h q = some true →
    p = q
  pbkdf2_inj : ∀ p q salt, N.pbkdf2Sha512 p salt = N.pbkdf2Sha512 q salt → p = q
  scrypt_inj : ∀ p q salt, N.scrypt p salt = N.scrypt q salt → p = q
  bufferFromHex_toHex : ∀ b, N.bufferFromHex (N.toHex b) = b

namespace Node

variable (N : Node)

def scryptHash (password saltHex : Text) : Text := N.toHex (N.scrypt password (N.bufferFromHex saltHex))

/-- `constEq`: both texts are compared as hexadecimal. -/
def constEq (a b : Text) : Bool := N.bufferFromHex a == N.bufferFromHex b

def pbkdf2Sha512Verify (stored password : Text) : Bool :=
  if !pbkdf2HashTag.isPrefixOf stored then false
  else
    match (stored.drop pbkdf2HashTag.length).splitOn '$' with
    | [saltHex, expectedHex] =>
      N.pbkdf2Sha512 password (N.bufferFromHex saltHex) == N.bufferFromHex expectedHex
    | _ => false

/-- The body of `verifyPassword`; `none` if `argon2.verify` throws. -/
def accepts (hashOrLegacy password legacySaltHex : Text) : Option Bool :=
  if argon2idTag.isPrefixOf hashOrLegacy then N.argon2Verify hashOrLegacy password
  else if pbkdf2HashTag.isPrefixOf hashOrLegacy then
    some (N.pbkdf2Sha512Verify hashOrLegacy password)
  else if argon2Tag.isPrefixOf hashOrLegacy then N.argon2Verify hashOrLegacy password
  -- the source verifies a dummy hash here, and swallows what comes of it
  else if hashOrLegacy = [] ∨ legacySaltHex = [] then some false
  else some (N.constEq (N.scryptHash password legacySaltHex) hashOrLegacy)

end Node

def argon2MaxConcurrent : Nat := 3

/-- A computation off the shared state. -/
def compute {α : Type} (f : Input → Except Thrown α) : Handler α :=
  .section_ .crypto fun i => .lift (f i)

/-- The Argon2 gate around a computation. -/
def gated {α : Type} (body : Handler α) : Handler α := do
  let count ← incrExpire .argon2Active 120000
  if count > argon2MaxConcurrent then
    decr .argon2Active
    throw .tooManyRequests
  else
    body.finally_ (decr .argon2Active)

def hashPassword (N : Node) (password : Text) : Handler Text :=
  gated (compute fun i => .ok (N.argon2Hash i.random password))

def verifyPassword (N : Node) (hashOrLegacy password legacySaltHex : Text) : Handler Bool :=
  gated (compute fun _ =>
    match N.accepts hashOrLegacy password legacySaltHex with
    | some b => .ok b
    | none => .error .badArgon2Hash)

/-! ## What a hash accepts -/

namespace Node.Ideal

variable {N : Node}

variable {stored p q : Text} {salt : Text}

theorem pbkdf2Sha512Verify_inj (hN : N.Ideal) (hp : N.pbkdf2Sha512Verify stored p = true)
    (hq : N.pbkdf2Sha512Verify stored q = true) : p = q := by
  unfold pbkdf2Sha512Verify at hp hq
  split at hp
  · simp at hp
  · rename_i htag
    rw [if_neg htag] at hq
    split at hp
    · rename_i saltHex expectedHex hsplit
      simp only [hsplit, beq_iff_eq] at hp hq
      exact hN.pbkdf2_inj _ _ _ (hp.trans hq.symm)
    · simp at hp

theorem constEq_scryptHash_inj (hN : N.Ideal) (hp : N.constEq (N.scryptHash p salt) stored = true)
    (hq : N.constEq (N.scryptHash q salt) stored = true) : p = q := by
  simp only [constEq, scryptHash, hN.bufferFromHex_toHex, beq_iff_eq] at hp hq
  exact hN.scrypt_inj _ _ _ (hp.trans hq.symm)

theorem accepts_inj (hN : N.Ideal) (hp : N.accepts stored p salt = some true)
    (hq : N.accepts stored q salt = some true) : p = q := by
  unfold accepts at hp hq
  split_ifs at hp hq
  · exact hN.argon2Verify_inj _ _ _ hp hq
  · exact hN.pbkdf2Sha512Verify_inj (some.inj hp) (some.inj hq)
  · exact hN.argon2Verify_inj _ _ _ hp hq
  · simp at hp
  · exact hN.constEq_scryptHash_inj (some.inj hp) (some.inj hq)

theorem accepts_argon2Hash (hN : N.Ideal) (salt : Bytes) (saltHex : Text) :
    N.accepts (N.argon2Hash salt p) q saltHex = some (p == q) := by
  unfold accepts
  rw [if_pos (hN.argon2Hash_tag salt p), hN.argon2Verify_hash]

end Node.Ideal

/-! ## The gate, when nobody else is running -/

variable {m : StateStore} {now : Nat} {key : StoreKey} {e : StoreEntry}

/-- The gate lets the next call through. -/
def Room (m : StateStore) : Prop :=
  ∀ e, m .argon2Active = some e → e.value.toNumber < argon2MaxConcurrent

theorem live_eq_some (h : m.live now key = some e) : m key = some e :=
  (filter_eq_some_iff.mp h).1

theorem incrExpire_le_of_room (h : Room m) (now ttlMs : Nat) :
    (m.incrExpire now .argon2Active ttlMs).1 ≤ argon2MaxConcurrent := by
  unfold StateStore.incrExpire
  split
  · simp [argon2MaxConcurrent]
  · rename_i e he
    exact h e (live_eq_some he)

theorem toNumber_incrExpire {ttlMs : Nat} (h : (m.incrExpire now key ttlMs).2 key = some e) :
    e.value.toNumber = (m.incrExpire now key ttlMs).1 := by
  unfold StateStore.incrExpire at h ⊢
  split at h
  · simp only [StateStore.set, Function.update_self, some.injEq] at h
    subst h
    rfl
  · simp only [Function.update_self, some.injEq] at h
    subst h
    rfl

theorem room_decr (h : ∀ e, m .argon2Active = some e → e.value.toNumber ≤ argon2MaxConcurrent) :
    Room (m.decr now .argon2Active) := by
  intro e he
  unfold StateStore.decr at he
  cases hlive : m.live now .argon2Active with
  | none => simp [hlive, StateStore.del] at he
  | some e' =>
    simp only [hlive, Function.update_self, some.injEq] at he
    have hcount := h e' (live_eq_some hlive)
    subst he
    simp only [StoreValue.toNumber, argon2MaxConcurrent] at hcount ⊢
    omega

theorem gated_ends {α : Type} {f : Input → Except Thrown α} {V : Input → Prop}
    {Q : Except Thrown α → Backend → Prop} {s : Backend}
    (hfull : ¬ Room s.stateStore → ∀ m, Q (.error .tooManyRequests) { s with stateStore := m })
    (hrun : ∀ i m, V i → Room m → Q (f i) { s with stateStore := m }) :
    (gated (compute f)).Ends V Q s := by
  unfold gated
  refine Async.ends_bind.mpr (Async.ends_section.mpr fun i _ => ?_)
  dsimp only [Async.Then]
  split
  · rename_i hcount
    refine Async.ends_bind.mpr (Async.ends_section.mpr fun j _ => hfull (fun hroom => ?_) _)
    exact absurd (incrExpire_le_of_room hroom i.now 120000) (by omega)
  · rename_i hcount
    refine Async.ends_finally.mpr (Async.ends_section.mpr fun j hj => ?_)
    refine Async.ends_section.mpr fun k _ => hrun j _ hj (room_decr fun e he => ?_)
    rw [toNumber_incrExpire he]
    omega

end PwdNow.Server
