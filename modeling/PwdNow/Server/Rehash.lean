import PwdNow.Server.LoginSpec
import PwdNow.Server.Symbolic

/-!
# Server — which password opens the account after a login

A login that finds a legacy password hash stores a fresh Argon2id hash of the string that was
presented, whether that string was the password or the recovery key.
-/

namespace PwdNow.Server

open Kit Async

variable {N : Node} {me : Pid} {u : User} {s s' : Backend} {password : Text} {resp : Response}

/-- `verifyPassword` accepts `p` for the stored record of `uid`. -/
def Opens (N : Node) (s : Backend) (uid : Uid) (p : Text) : Prop :=
  ∃ u, s.findUserById uid = some u ∧ N.accepts u.passwordHash p u.salt = some true

/-- The record of `u` after a login with `password`. -/
def Rehashed (N : Node) (u : User) (password : Text) (u' : User) : Prop :=
  (Legacy u → ∃ salt, u'.passwordHash = N.argon2Hash salt password) ∧
    (¬ Legacy u → u'.passwordHash = u.passwordHash ∧ u'.salt = u.salt)

theorem grantUpdate_some (method : AuthMethod) (hash : Text) :
    (grantUpdate method (some hash) u u).passwordHash = hash := by
  unfold grantUpdate
  cases method <;> simp

theorem grantUpdate_none (method : AuthMethod) :
    (grantUpdate method none u u).passwordHash = u.passwordHash ∧
      (grantUpdate method none u u).salt = u.salt := by
  unfold grantUpdate
  cases method <;> exact ⟨rfl, rfl⟩

theorem rehashed_grantUpdate {hash : Option Text} (method : AuthMethod)
    (hlegacy : Legacy u → ∃ salt, hash = some (N.argon2Hash salt password))
    (hother : ¬ Legacy u → hash = none) : Rehashed N u password (grantUpdate method hash u u) := by
  refine ⟨fun h => ?_, fun h => ?_⟩
  · obtain ⟨salt, rfl⟩ := hlegacy h
    exact ⟨salt, grantUpdate_some method _⟩
  · rw [hother h]
    exact grantUpdate_none method

/-- **What a login leaves of the password hash.** -/
theorem login_rehashes {req : LoginRequest} {inputs : ℕ → Input}
    (hu : s.findUserByEmailHash req.emailHash = some u) (hid : s.findUserById u.id = some u)
    (hrun : (login N me req).run inputs s = (some (.ok resp), s')) (hok : resp.ok = some true) :
    ∃ u', s'.findUserById u.id = some u' ∧ Rehashed N u req.password u' := by
  -- only a login that has verified something is answered `ok`
  cases (login_ends (V := fun _ => True) hu hid).of_run (fun _ => trivial) hrun with
  | turnedAway hr _ => exact absurd hok (hr.refused resp rfl)
  | failed => cases hok
  | counted => cases hok
  | wiped => cases hok
  | @passed _ _ method hash _ _ hlegacy hother husers =>
    refine ⟨_, ?_, rehashed_grantUpdate method hlegacy hother⟩
    unfold Backend.findUserById
    rw [husers, find?_replaceUser (grantUpdate_frame method hash u).1 hid, if_pos rfl]

theorem opens_iff_accepts {uid : Uid} (hfind : s.findUserById uid = some u) (p : Text) :
    Opens N s uid p ↔ N.accepts u.passwordHash p u.salt = some true := by
  constructor
  · rintro ⟨u', hu', haccepts⟩
    rw [hfind] at hu'
    cases hu'
    exact haccepts
  · exact fun h => ⟨u, hfind, h⟩

theorem legacy_iff : ¬ Legacy u ↔
    u.passwordHash = [] ∨ argon2idTag.isPrefixOf u.passwordHash = true := by
  rw [Legacy, not_and_or, not_not, Bool.not_eq_false]

/-- **The accepted password.** A successful login leaves the set of accepted passwords as it was
exactly if the stored hash is not a legacy one, or the presented string is the password it accepts.
-/
theorem opens_after_login_iff (hN : N.Ideal) {req : LoginRequest} {inputs : ℕ → Input}
    {resp : Response} (hu : s.findUserByEmailHash req.emailHash = some u)
    (hid : s.findUserById u.id = some u)
    (hrun : (login N me req).run inputs s = (some (.ok resp), s')) (hok : resp.ok = some true) :
    (∀ p, Opens N s' u.id p ↔ Opens N s u.id p) ↔
      (u.passwordHash = [] ∨ argon2idTag.isPrefixOf u.passwordHash = true ∨
        N.accepts u.passwordHash req.password u.salt = some true) := by
  obtain ⟨u', hfind, hlegacy, hother⟩ := login_rehashes hu hid hrun hok
  simp only [opens_iff_accepts hfind, opens_iff_accepts hid]
  rw [← or_assoc, ← legacy_iff]
  by_cases h : Legacy u
  · -- the fresh hash accepts the presented string and nothing else
    obtain ⟨salt, hhash⟩ := hlegacy h
    have hafter : ∀ p, N.accepts u'.passwordHash p u'.salt = some true ↔ req.password = p := by
      intro p
      rw [hhash, hN.accepts_argon2Hash, Option.some.injEq, beq_iff_eq]
    simp only [hafter, h, not_true, false_or]
    constructor
    · exact fun hsame => (hsame req.password).mp rfl
    · intro hpassword p
      constructor
      · rintro rfl
        exact hpassword
      · exact hN.accepts_inj hpassword
  · obtain ⟨hhash, hsalt⟩ := hother h
    simp [hhash, hsalt, h]

/-! ## A recovery key on an old account -/

def oldPassword : Text := "battery staple".toList

def recoveryKey : Text := "0123456789ABCDEFGHJKMNPQRS".toList

/-- An account from the time of scrypt, with a recovery key. -/
def scryptUser : User where
  __ := symbolicUser []
  passwordHash := symbolicNode.scryptHash oldPassword ['0', '0']
  salt := ['0', '0']
  recoveryKeyHash := symbolicNode.argon2Hash [] recoveryKey

/-- The login with `password`, and the server after it. -/
def scryptLogin (password : Text) : Option (Except Thrown Response) × Backend :=
  (login symbolicNode 0 (symbolicLogin password)).run (fun _ => symbolicInput)
    (symbolicBackend scryptUser [])

/-- The answer to it. -/
def scryptAnswer (verified : Option Nat) : Response where
  ok := some true
  cookie := some ⟨"u1", ⟨symbolicHex [7], verified⟩, 87400⟩

set_option maxRecDepth 2000 in
theorem scryptLogin_recoveryKey : (scryptLogin recoveryKey).1 = some (.ok (scryptAnswer none)) := by
  rfl

theorem scryptUser_byEmailHash :
    (symbolicBackend scryptUser []).findUserByEmailHash (symbolicLogin password).emailHash =
      some scryptUser := rfl

theorem scryptUser_byId :
    (symbolicBackend scryptUser []).findUserById scryptUser.id = some scryptUser := rfl

theorem scryptLogin_run (h : (scryptLogin password).1 = some (.ok resp)) :
    (login symbolicNode 0 (symbolicLogin password)).run (fun _ => symbolicInput)
      (symbolicBackend scryptUser []) = (some (.ok resp), (scryptLogin password).2) :=
  Prod.ext h rfl

theorem opens_after_login_iff_scryptUser :
    (∀ p, Opens symbolicNode (scryptLogin oldPassword).2 "u1" p ↔
        Opens symbolicNode (symbolicBackend scryptUser []) "u1" p) ↔
      (scryptUser.passwordHash = [] ∨ argon2idTag.isPrefixOf scryptUser.passwordHash = true ∨
        symbolicNode.accepts scryptUser.passwordHash oldPassword scryptUser.salt = some true) :=
  opens_after_login_iff symbolicNode_ideal scryptUser_byEmailHash scryptUser_byId
    (scryptLogin_run rfl) rfl

/-- After a login with the recovery key the password is refused. -/
theorem recoveryKey_replaces_password :
    (scryptLogin recoveryKey).1 = some (.ok (scryptAnswer none)) ∧
      ¬ ∀ p, Opens symbolicNode (scryptLogin recoveryKey).2 "u1" p ↔
        Opens symbolicNode (symbolicBackend scryptUser []) "u1" p := by
  refine ⟨scryptLogin_recoveryKey, fun h => ?_⟩
  obtain ⟨u', hfind, hlegacy, -⟩ := login_rehashes scryptUser_byEmailHash
    scryptUser_byId (scryptLogin_run scryptLogin_recoveryKey) rfl
  obtain ⟨salt, hhash⟩ := hlegacy ⟨by decide, by decide⟩
  have hbefore : Opens symbolicNode (symbolicBackend scryptUser []) "u1" oldPassword :=
    ⟨scryptUser, rfl, by decide⟩
  have hafter := (opens_iff_accepts hfind oldPassword).mp ((h oldPassword).mpr hbefore)
  rw [hhash, symbolicNode_ideal.accepts_argon2Hash] at hafter
  exact absurd hafter (by decide)

end PwdNow.Server
