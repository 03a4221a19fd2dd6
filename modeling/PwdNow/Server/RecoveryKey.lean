import PwdNow.Kit.Serial
import PwdNow.Server.Rehash

/-!
# Server — the recovery key opens the account once

A login verifies the recovery key against the record it read, and takes the key out of the
record later, without asking whether it is still there.
-/

namespace PwdNow.Server

open Kit Function

variable {N : Node} {u v : User} {s s' : Backend} {key : Text}

/-- The requests that are being answered. -/
abbrev Logins := System Pid Await Input Backend Thrown Response

def logins (N : Node) (req : Pid → LoginRequest) (s : Backend) : Logins where
  shared := s
  procs p := login N p (req p)

abbrev Outcomes := Pid → Option (Except Thrown Response)

/-- No two requests were authenticated. -/
def OpenedOnce (o : Outcomes) : Prop :=
  ∀ p q r r', o p = some r → o q = some r' → verdict r = .passed → verdict r' = .passed → p = q

/-- The fields that the password is verified against. -/
structure SamePassword (u v : User) : Prop where
  id : v.id = u.id
  emailHash : v.emailHash = u.emailHash
  passwordHash : v.passwordHash = u.passwordHash
  salt : v.salt = u.salt

/-- The key has let nobody in so far, or it is no longer in the record. -/
def KeyPhase (v : User) (o : Outcomes) : Prop :=
  (∀ p r, o p = some r → verdict r ≠ .passed) ∨ v.recoveryKeyHash = [] ∧ OpenedOnce o

/-- Where the account stands between two logins. -/
inductive KeyState (u : User) (o : Outcomes) (s : Backend) : Prop
  | held (v : User) (haccount : s.account u.id u.emailHash = [v]) (hsame : SamePassword u v)
    (hphase : KeyPhase v o)
  | gone (haccount : s.account u.id u.emailHash = []) (honce : OpenedOnce o)

variable {o : Outcomes}

theorem KeyPhase.openedOnce (h : KeyPhase v o) : OpenedOnce o := by
  rcases h with hnone | ⟨-, honce⟩
  · exact fun p _ r _ hp _ hr _ => absurd hr (hnone p r hp)
  · exact honce

theorem KeyState.openedOnce (h : KeyState u o s) : OpenedOnce o := by
  cases h with
  | held _ _ _ hphase => exact hphase.openedOnce
  | gone _ honce => exact honce

section Update

variable {o : Outcomes} {p : Pid} {r : Except Thrown Response}

theorem passed_before (hr : verdict r ≠ .passed) {q : Pid} {r' : Except Thrown Response}
    (hq : update o p (some r) q = some r') (hpassed : verdict r' = .passed) : o q = some r' := by
  by_cases heq : q = p
  · subst heq
    rw [update_self] at hq
    cases hq
    exact absurd hpassed hr
  · rwa [update_of_ne heq] at hq

theorem OpenedOnce.update (h : OpenedOnce o) (hr : verdict r ≠ .passed) :
    OpenedOnce (update o p (some r)) := by
  intro q q' r₁ r₂ hq hq' h₁ h₂
  exact h q q' r₁ r₂ (passed_before hr hq h₁) (passed_before hr hq' h₂) h₁ h₂

theorem KeyPhase.update (h : KeyPhase v o) (hr : verdict r ≠ .passed) :
    KeyPhase v (update o p (some r)) := by
  rcases h with hnone | ⟨hspent, honce⟩
  · exact .inl fun q r' hq hpassed => hnone q r' (passed_before hr hq hpassed) hpassed
  · exact .inr ⟨hspent, honce.update hr⟩

theorem openedOnce_first (h : ∀ q r, o q = some r → verdict r ≠ .passed) :
    OpenedOnce (update o p (some r)) := by
  have hself : ∀ q r', update o p (some r) q = some r' → verdict r' = .passed → q = p := by
    intro q r' hq hpassed
    by_contra heq
    rw [update_of_ne heq] at hq
    exact h q r' hq hpassed
  intro q q' r₁ r₂ hq hq' h₁ h₂
  rw [hself q r₁ hq h₁, hself q' r₂ hq' h₂]

end Update

variable {V : Input → Prop} {p : Pid} {r : Except Thrown Response}

/-- A login with the key: the only way to pass takes it out of the record. -/
theorem LoginEnd.keyState (haccount : s.account u.id u.emailHash = [v]) (hsame : SamePassword u v)
    (hphase : KeyPhase v o) (hargon2id : ¬ Legacy u)
    (hpassword : N.accepts u.passwordHash key u.salt ≠ some true) (hend : LoginEnd N V v key s r s') :
    KeyState u (update o p (some r)) s' := by
  cases hend with
  | turnedAway hr hu =>
    refine .held v ((hu.account _ _).trans haccount) hsame (hphase.update ?_)
    rw [hr.verdict]
    decide
  | failed _ _ hu => exact .held v ((hu.account _ _).trans haccount) hsame (hphase.update (by decide))
  | counted _ _ _ _ husers =>
    refine .held _ (account_replaceUser haccount hsame.id husers hsame.id)
      ⟨hsame.id, hsame.emailHash, hsame.passwordHash, hsame.salt⟩ ?_
    exact hphase.update (by simp [verdict, invalidCredentials, Response.refuse])
  | wiped _ _ _ _ husers _ =>
    refine .gone (account_eraseP haccount hsame.id husers) (hphase.openedOnce.update ?_)
    simp [verdict, invalidCredentials, Response.refuse]
  | @passed _ _ method hash haccepted _ _ hother husers =>
    cases haccepted with
    | password h => exact absurd (hsame.passwordHash ▸ hsame.salt ▸ h) hpassword
    | recoveryKey _ henrolled =>
      have hlegacy : ¬ Legacy v := by
        unfold Legacy
        rwa [hsame.passwordHash]
      cases hother hlegacy
      have hnone := hphase.resolve_right fun hspent => henrolled hspent.1
      exact .held _ (account_replaceUser haccount hsame.id husers hsame.id)
        ⟨hsame.id, hsame.emailHash, hsame.passwordHash, hsame.salt⟩
        (.inr ⟨rfl, openedOnce_first hnone⟩)

variable {me : Pid} {req : LoginRequest}

theorem login_keyState (hemail : req.emailHash = u.emailHash) (hkey : req.password = key)
    (hargon2id : ¬ Legacy u) (hpassword : N.accepts u.passwordHash key u.salt ≠ some true)
    (h : KeyState u o s) :
    (login N me req).Ends V (fun r s' => KeyState u (update o p (some r)) s') s := by
  cases h with
  | held v haccount hsame hphase =>
    have hu : s.findUserByEmailHash req.emailHash = some v := by
      rw [hemail, findUserByEmailHash_of_account haccount]
      simp [hsame.emailHash]
    have hid : s.findUserById v.id = some v := by
      rw [hsame.id, findUserById_of_account haccount]
      simp [hsame.id]
    refine (login_ends hu hid).mono fun r s' hend => ?_
    rw [hkey] at hend
    exact hend.keyState haccount hsame hphase hargon2id hpassword
  | gone haccount honce =>
    have hu : s.findUserByEmailHash req.emailHash = none := by
      rw [hemail, findUserByEmailHash_of_account haccount]
      rfl
    refine (login_unknown_ends hu).mono ?_
    rintro r s' ⟨hsame, hr⟩
    refine .gone ((hsame.account _ _).trans haccount) (honce.update ?_)
    rcases hr with hr | rfl
    · rw [hr.verdict]
      decide
    · decide

theorem login_outcome (h : (login N me req).outcome = some r) : verdict r ≠ .passed := by
  unfold login authMiddleware at h
  cases hcookie : req.cookie with
  | some token =>
    rw [hcookie] at h
    cases h
  | none =>
    rw [hcookie] at h
    by_cases hinput : req.password = [] ∨ req.password.length > 128
    · replace h : Async.outcome (if _ then _ else _ : Handler Response) = some r := h
      rw [if_pos hinput] at h
      cases h
      decide
    · replace h : Async.outcome (if _ then _ else _ : Handler Response) = some r := h
      rw [if_neg hinput] at h
      cases h

/-- **A recovery key opens the account once**, if logins do not overlap, the password hash is
not a legacy one, and the key is not the password as well. -/
theorem recoveryKey_opens_once {req : Pid → LoginRequest} {es : List (Pid × Input)} {t : Logins}
    (hreq : ∀ p, (req p).emailHash = u.emailHash ∧ (req p).password = key)
    (haccount : s.account u.id u.emailHash = [u])
    (hargon2id : u.passwordHash = [] ∨ argon2idTag.isPrefixOf u.passwordHash = true)
    (hpassword : N.accepts u.passwordHash key u.salt ≠ some true)
    (hserial : System.Serial (fun _ _ => True) (logins N req s) [] es)
    (hvisit : Visits System.step (logins N req s) es t) : OpenedOnce t.outcomes := by
  have hlegacy : ¬ Legacy u := by
    rintro ⟨hne, htag⟩
    rcases hargon2id with h | h
    · exact hne h
    · rw [h] at htag
      cases htag
  have hhands : System.HandsOn (fun _ _ => True) (fun _ => True) (KeyState u)
      (fun o _ => OpenedOnce o) (logins N req s) := by
    refine ⟨fun o s h => h.openedOnce, fun p o s h _ _ => ?_⟩
    have hends : (login N p (req p)).Ends (fun _ => True)
        (fun r s' => KeyState u (update o p (some r)) s') s :=
      login_keyState (hreq p).1 (hreq p).2 hlegacy hpassword h
    exact hends.through fun _ => h.openedOnce
  have h0 : KeyState u (logins N req s).outcomes s :=
    .held u haccount ⟨rfl, rfl, rfl, rfl⟩ (.inl fun p r hr => login_outcome hr)
  exact hserial.invariant (fun _ _ => trivial) h0 hhands hvisit

/-! ## Two logins with one key -/

/-- An account with a recovery key. -/
def keyUser : User where
  __ := symbolicUser ownerPassword
  recoveryKeyHash := symbolicNode.argon2Hash [] recoveryKey

/-- Two requests that present the key, in the same words. -/
def keyLogins (u : User) : Logins :=
  logins symbolicNode (fun _ => symbolicLogin recoveryKey) (symbolicBackend u [])

/-- The first login up to its section `n`, then the second, then the rest of the first. -/
def keySchedule (n : Nat) : List (Pid × Input) :=
  List.replicate n (0, symbolicInput) ++ List.replicate 25 (1, symbolicInput) ++
    List.replicate (25 - n) (0, symbolicInput)

set_option maxRecDepth 4000 in
theorem recoveryKey_opens_once_inOrder :
    OpenedOnce (run System.step (keyLogins keyUser) (keySchedule 25)).outcomes :=
  recoveryKey_opens_once (u := keyUser) (fun _ => ⟨rfl, rfl⟩) rfl (.inr (by decide)) (by decide)
    (by decide) (.last _ _ _)

set_option maxRecDepth 4000 in
/-- The second login verifies the key before the first has taken it away. -/
theorem recoveryKey_opens_twice :
    ¬ OpenedOnce (run System.step (keyLogins keyUser) (keySchedule 11)).outcomes :=
  fun h => absurd (h 0 1 (.ok (scryptAnswer none)) (.ok (scryptAnswer none)) rfl rfl rfl rfl)
    (by decide)

end PwdNow.Server
