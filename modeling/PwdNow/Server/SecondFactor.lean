import PwdNow.Server.Frames
import PwdNow.Server.Symbolic

/-!
# Server — is the second factor asked for?

`finish` decides which code it wants from the flags *and* the stored secret, by a chain of `if`s
with no `else`. A user with TOTP enforced but no secret stored, and without e-mail codes, falls
through it. The `PUT` that sets the flags does not ask for a secret.
-/

namespace PwdNow.Server

open Kit Async

variable {N : Node} {me : Pid} {V : Input → Prop} {u : User} {s : Backend} {token : Text}
  {now : Nat}

/-- The code is the one generated for the secret, within a period of a clock reading that
meets `V`. -/
def TotpMatches (N : Node) (V : Input → Prop) (secret code : Text) : Prop :=
  ∃ i, V i ∧ ∃ drift ∈ totpDrifts, N.totpGenerate secret (i.now + drift) = some code

/-- The code is the one mailed for the partial token. -/
def OtpMatches (N : Node) (s : Backend) (partialToken code : Text) : Prop :=
  ∃ otp, s.mfaPending.emailOtps (otpKey N partialToken) = some otp ∧ trimmed code = otp.code

/-- The request presents a code that verifies. -/
def CodeVerified (N : Node) (V : Input → Prop) (s : Backend) (u : User) (partialToken : Text)
    (totpCode emailCode : JsonText) : Prop :=
  (∃ code, totpCode.orElse emailCode = .text code ∧ u.mfaTotpSecret ≠ [] ∧
    TotpMatches N V u.mfaTotpSecret code) ∨
  ∃ code, emailCode = .text code ∧ OtpMatches N s partialToken code

/-! ## The check -/

theorem totpRound_ok {secret code : Text} {ts : Int}
    (h : (totpRound N secret code ts s).1 = .ok (some true)) :
    N.totpGenerate secret ts = some code := by
  unfold totpRound at h
  split at h
  · cases h
  · rename_i otp hotp
    dsimp only at h
    split_ifs at h with hcode
    · cases h
    · rw [hotp, hcode]
    · cases h

theorem totpRounds_ends (secret code : Text) (now : Nat) (drifts : List Int) (s : Backend) :
    (totpRounds N secret code now drifts).Ends V (fun r _ => r = .ok true →
      ∃ drift ∈ drifts, N.totpGenerate secret (now + drift) = some code) s := by
  induction drifts generalizing s with
  | nil =>
    intro h
    cases h
  | cons drift rest ih =>
    refine ends_bind.mpr (ends_section.mpr fun i _ => ?_)
    cases hround : (totpRound N secret code (now + drift) s).1 with
    | error e =>
      intro h
      cases h
    | ok fresh =>
      cases fresh with
      | none =>
        refine (ih _).mono fun r _ hr htrue => ?_
        obtain ⟨d, hd, hgen⟩ := hr htrue
        exact ⟨d, List.mem_cons_of_mem _ hd, hgen⟩
      | some b =>
        intro h
        cases h
        exact ⟨drift, List.mem_cons_self, totpRound_ok hround⟩

theorem verifyTotpCode_ends (secret code : Text) :
    (verifyTotpCode N secret code).Ends V (fun r _ => r = .ok true → TotpMatches N V secret code)
      s := by
  unfold verifyTotpCode
  split
  · intro h
    cases h
  · refine ends_bind.mpr (ends_section.mpr fun i hi => ?_)
    exact (totpRounds_ends secret code i.now totpDrifts s).mono fun r _ hr htrue =>
      ⟨i, hi, hr htrue⟩

theorem mfaFailed_ends (uid : Uid) : (mfaFailed uid).Ends V (fun r _ => r ≠ .ok none) s := by
  have hyields : (mfaFailed uid).Yields (· ≠ none) := yields_bind fun _ => yields_pure (by simp)
  refine (hyields.ends V s).mono fun r _ hr h => ?_
  exact hr none h rfl

theorem verifyTotpCode_then_ends (secret code : Text) (uid : Uid) :
    (verifyTotpCode N secret code >>= fun b => if b then pure none else mfaFailed uid).Ends V
      (fun r _ => r = .ok none → TotpMatches N V secret code) s := by
  refine ends_bind.mpr ((verifyTotpCode_ends secret code).mono fun r s' hr => ?_)
  rcases r with e | _ | _
  · intro h
    cases h
  · exact (mfaFailed_ends uid).mono fun _ _ hne h => absurd h hne
  · exact fun _ => hr rfl

theorem consumeEmailOtp_ends {Q : Except Thrown (Option Text) → Backend → Prop}
    (h : ∀ i p, V i → Q (.ok (((s.mfaPending.purge i.now).emailOtps (otpKey N token)).map (·.code)))
      { s with mfaPending := p }) : (consumeEmailOtp N token).Ends V Q s :=
  ends_section.mpr fun i hi => h i _ hi

theorem emailOtps_of_purge {key : Text} {otp : PendingOtp} {p : MfaPending}
    (h : (p.purge now).emailOtps key = some otp) : p.emailOtps key = some otp :=
  (Option.filter_eq_some_iff.mp h).1

/-- **The check.** A request that passes the chain has presented a verified code, if there was
a factor that the server can check. -/
theorem checkSecondFactor_ends (totpCode emailCode : JsonText)
    (hfactor : (u.mfaEnforce.totp = true ∧ u.mfaTotpSecret ≠ []) ∨ u.mfaEnforce.email = true) :
    (checkSecondFactor N u token totpCode emailCode).Ends V
      (fun r _ => r = .ok none → CodeVerified N V s u token totpCode emailCode) s := by
  unfold checkSecondFactor
  split
  · rename_i htotp
    split
    · rename_i code hcode
      refine (verifyTotpCode_then_ends _ code u.id).mono fun r _ hr hnone => ?_
      exact .inl ⟨code, hcode, htotp.2, hr hnone⟩
    · intro h
      cases h
  · rename_i htotp
    rw [if_pos (hfactor.resolve_left htotp)]
    split
    · rename_i code
      refine ends_bind.mpr (consumeEmailOtp_ends fun i p _ => ?_)
      cases hotp : (s.mfaPending.purge i.now).emailOtps (otpKey N token) with
      | none => exact (mfaFailed_ends _).mono fun _ _ hne h => absurd h hne
      | some otp =>
        dsimp only [Option.map_some, Then]
        split_ifs with hlen hbytes hmatch
        · exact (mfaFailed_ends _).mono fun _ _ hne h => absurd h hne
        · intro h
          cases h
        · exact fun _ => .inr ⟨code, rfl, otp, emailOtps_of_purge hotp, hmatch⟩
        · exact (mfaFailed_ends _).mono fun _ _ hne h => absurd h hne
    · intro h
      cases h

/-! ## The handler -/

variable {P : Prop} {totpCode emailCode : JsonText} {req : FinishRequest} {e : PendingToken}

/-- The partial token is one that `login` issued for `u`. -/
structure IssuedFor (N : Node) (s : Backend) (token : Text) (u : User) (e : PendingToken) : Prop where
  pending : s.mfaPending.tokens (tokenKey N token) = some e
  user : e.userId = u.id
  record : s.findUserById u.id = some u

/-- A session is answered only with `P`. -/
def SessionOnlyIf (P : Prop) (r : Except Thrown Response) (_ : Backend) : Prop :=
  ∀ resp, r = .ok resp → resp.cookie.isSome → P

theorem sessionOnlyIf_error {e : Thrown} (s : Backend) : SessionOnlyIf P (.error e) s := by
  intro resp h
  cases h

theorem sessionOnlyIf_refusal {resp : Response} (s : Backend) (h : resp.cookie = none) :
    SessionOnlyIf P (.ok resp) s := by
  intro resp' heq hcookie
  cases heq
  simp [h] at hcookie

theorem CodeVerified.of_purge {s' : Backend} (h : CodeVerified N V s' u token totpCode emailCode)
    (hpurge : s'.mfaPending.emailOtps = (s.mfaPending.purge now).emailOtps) :
    CodeVerified N V s u token totpCode emailCode := by
  rcases h with htotp | ⟨code, hcode, otp, hotp, hmatch⟩
  · exact .inl htotp
  · rw [hpurge] at hotp
    exact .inr ⟨code, hcode, otp, emailOtps_of_purge hotp, hmatch⟩

/-- A refusal sets no cookie. -/
def SetsNoCookie (r : Option Response) : Prop := ∀ refusal, r = some refusal → refusal.cookie = none

theorem setsNoCookie_refuse (status : Nat) (error : String) :
    SetsNoCookie (some (.refuse status error)) := by
  intro refusal h
  cases h
  rfl

theorem setsNoCookie_none : SetsNoCookie none := by
  intro refusal h
  cases h

theorem mfaFailed_yields (uid : Uid) : (mfaFailed uid).Yields SetsNoCookie :=
  yields_bind fun _ => yields_pure (setsNoCookie_refuse _ _)

theorem checkSecondFactor_yields :
    (checkSecondFactor N u token totpCode emailCode).Yields SetsNoCookie := by
  refine iteInduction (fun _ => ?_) fun _ =>
    iteInduction (fun _ => ?_) fun _ => yields_pure setsNoCookie_none
  · split
    · exact yields_bind fun _ =>
        iteInduction (fun _ => yields_pure setsNoCookie_none) fun _ => mfaFailed_yields _
    · exact yields_pure (setsNoCookie_refuse _ _)
  · split
    · refine yields_bind fun stored => ?_
      cases stored with
      | none => exact mfaFailed_yields _
      | some stored =>
        refine iteInduction (fun _ => mfaFailed_yields _) fun _ => iteInduction (fun _ => trivial)
          fun _ => ?_
        exact iteInduction (fun _ => yields_pure setsNoCookie_none) fun _ => mfaFailed_yields _
    · exact yields_pure (setsNoCookie_refuse _ _)

theorem finishRedeemed_ends (huser : e.userId = u.id) (hrecord : s.findUserById u.id = some u)
    (hfactor : (u.mfaEnforce.totp = true ∧ u.mfaTotpSecret ≠ []) ∨ u.mfaEnforce.email = true) :
    (finishRedeemed N me req token e).Ends V
      (SessionOnlyIf (CodeVerified N V s u token req.totpCode req.emailCode)) s := by
  refine ends_bind.mpr (ends_section.mpr fun _ _ => ?_)
  simp only [Fallible.gets_run, huser, hrecord, Then]
  refine ends_bind.mpr (ends_bind.mpr (ends_section.mpr fun i _ => ?_))
  dsimp only [Then]
  refine ends_pure.mpr ?_
  dsimp only [Then]
  split
  · exact sessionOnlyIf_refusal _ rfl
  · refine ends_bind.mpr (((checkSecondFactor_ends _ _ hfactor).and
      (checkSecondFactor_yields.ends V s)).mono fun r s' hr => ?_)
    rcases r with e | _ | refusal
    · exact sessionOnlyIf_error s'
    · exact ends_of_forall (fun _ _ _ _ _ => hr.1 rfl) _ _
    · exact sessionOnlyIf_refusal s' (hr.2 _ rfl refusal rfl)

theorem finish_ends (hreq : req.partialToken = .text token) (hissued : IssuedFor N s token u e)
    (hfactor : (u.mfaEnforce.totp = true ∧ u.mfaTotpSecret ≠ []) ∨ u.mfaEnforce.email = true) :
    (finish N me req).Ends V
      (SessionOnlyIf (CodeVerified N V s u token req.totpCode req.emailCode)) s := by
  have hmiddleware : (authMiddleware req.cookie).Steps Eq := authMiddleware_steps Eq.refl _
  refine hmiddleware.ends_bind Eq.refl Eq.trans fun r s' hs' => ?_
  subst hs'
  cases r with
  | error _ => exact sessionOnlyIf_error s
  | ok _ =>
    simp only [Then, hreq]
    refine ends_bind.mpr (ends_section.mpr fun i _ => ?_)
    dsimp only [Then]
    cases htoken : (s.mfaPending.purge i.now).tokens (tokenKey N token) with
    | none => exact sessionOnlyIf_refusal _ rfl
    | some e' =>
      -- the entry is still the one that was issued
      have he' : s.mfaPending.tokens (tokenKey N token) = some e' :=
        (Option.filter_eq_some_iff.mp htoken).1
      rw [hissued.pending] at he'
      cases he'
      refine (finishRedeemed_ends hissued.user ?_ hfactor).mono fun r _ hr resp hresp hcookie => ?_
      · exact hissued.record
      · exact (hr resp hresp hcookie).of_purge rfl

/-! ## A request without a code -/

variable {i : Input} {uid : Uid} {d : VaultDir}

theorem appendSession_run (hdir : s.dirs uid = some d) (jti : Jti) (all : List Session) :
    ∃ d', (appendSession uid jti all).run (fun _ => i) s =
      (some (.ok ()), { s with dirs := Function.update s.dirs uid (some d') }) := by
  refine ⟨{ d with sessions := addSession all jti i.now }, ?_⟩
  have himport : moduleImport.run (fun _ => i) s = (some (.ok ()), s) := run_const_section rfl
  refine (run_const_bind_ok himport).trans (run_const_section ?_)
  unfold Backend.saveSessions
  rw [hdir]

theorem recordSession_run (hdir : s.dirs uid = some d) (hfree : s.dirLock uid = none) (jti : Jti) :
    ∃ s', (recordSession me uid jti).run (fun _ => i) s = (some (.ok ()), s') := by
  let s₁ : Backend := { s with dirLock := Function.update s.dirLock uid (some me) }
  have hexists : (unlockedSessions uid).run (fun _ => i) s = (some (.ok none), s) := by
    refine run_const_section ?_
    simp [Fallible.gets, hdir]
  have hlock : (lockDir me uid).run (fun _ => i) s = (some (.ok ()), s₁) := by
    refine run_const_waiting ?_ ?_ <;> simp [hfree, s₁]
  have hload : (loadSessions uid).run (fun _ => i) s₁ = (some (.ok (s₁.loadSessions uid)), s₁) :=
    run_const_section rfl
  obtain ⟨d', happend⟩ := appendSession_run (i := i) (s := s₁) hdir jti (s₁.loadSessions uid)
  exact ⟨_, (run_const_bind_ok hexists).trans ((run_const_bind_ok hlock).trans
    (run_const_finally ((run_const_bind_ok hload).trans happend) (run_const_section rfl)))⟩

theorem openSession_run (hdir : s.dirs u.id = some d) (hfree : s.dirLock u.id = none)
    (verified : Option Nat) :
    ∃ resp s', (openSession N me u verified).run (fun _ => i) s = (some (.ok resp), s') ∧
      resp.cookie.isSome = true := by
  have hissue : (issueJwt N u.id verified).run (fun _ => i) s =
      (some (.ok ⟨u.id, ⟨N.toHex i.random, verified⟩, i.now / 1000 + jweTtlSeconds⟩), s) :=
    run_const_section rfl
  obtain ⟨s', hrecord⟩ := recordSession_run (i := i) hdir hfree ⟨N.toHex i.random, verified⟩
  exact ⟨_, s', (run_const_bind_ok hissue).trans ((run_const_bind_ok hrecord).trans rfl), rfl⟩

/-- A partial token that can be redeemed at `now`, with nobody else at work on the account. -/
structure Redeemable (N : Node) (s : Backend) (token : Text) (u : User) (now : Nat) : Prop where
  issued : ∃ e, IssuedFor N s token u e ∧ now ≤ e.expiresAt
  unlocked : s.stateStore.live now (.mfaLock u.id) = none
  dir : ∃ d, s.dirs u.id = some d
  free : s.dirLock u.id = none

/-- No code at all. -/
def bareFinish (token : Text) : FinishRequest := ⟨none, .text token, .absent, .absent⟩

theorem checkSecondFactor_eq_pure (htotp : ¬ (u.mfaEnforce.totp = true ∧ u.mfaTotpSecret ≠ []))
    (hemail : u.mfaEnforce.email = false) :
    checkSecondFactor N u token totpCode emailCode = pure none := by
  unfold checkSecondFactor
  rw [if_neg htotp, hemail]
  rfl

theorem finishRedeemed_run (huser : e.userId = u.id) (hrecord : s.findUserById u.id = some u)
    (hlocked : s.stateStore.live i.now (.mfaLock u.id) = none) (hdir : s.dirs u.id = some d)
    (hfree : s.dirLock u.id = none) (htotp : ¬ (u.mfaEnforce.totp = true ∧ u.mfaTotpSecret ≠ []))
    (hemail : u.mfaEnforce.email = false) :
    ∃ resp s', (finishRedeemed N me req token e).run (fun _ => i) s = (some (.ok resp), s') ∧
      resp.cookie.isSome = true := by
  have hfind : (findUserById e.userId).run (fun _ => i) s = (some (.ok (some u)), s) := by
    refine run_const_section ?_
    rw [huser]
    exact congrArg (fun r => (Except.ok r, s)) hrecord
  have hget : (getState (.mfaLock u.id)).run (fun _ => i) s = (some (.ok none), s) :=
    run_const_section (congrArg (fun r => (Except.ok (Option.map StoreEntry.value r), s)) hlocked)
  have hunlocked : (isMfaLocked u.id).run (fun _ => i) s = (some (.ok false), s) :=
    run_const_bind_ok hget
  have hcheck : (checkSecondFactor N u token req.totpCode req.emailCode).run (fun _ => i) s =
      (some (.ok none), s) := by
    rw [checkSecondFactor_eq_pure htotp hemail]
    rfl
  let s₁ : Backend :=
    { s with stateStore := (s.stateStore.del (.mfaFail u.id)).del (.mfaLock u.id) }
  have hclear : (clearMfaFailure u.id).run (fun _ => i) s = (some (.ok ()), s₁) := rfl
  obtain ⟨resp, s', hopen, hcookie⟩ := openSession_run (N := N) (i := i) (s := s₁) hdir hfree
    e.verified
  exact ⟨resp, s', (run_const_bind_ok hfind).trans ((run_const_bind_ok hunlocked).trans
    ((run_const_bind_ok hcheck).trans ((run_const_bind_ok hclear).trans hopen))), hcookie⟩

theorem bareFinish_run (h : Redeemable N s token u now)
    (htotp : ¬ (u.mfaEnforce.totp = true ∧ u.mfaTotpSecret ≠ []))
    (hemail : u.mfaEnforce.email = false) (hi : i.now = now) :
    ∃ resp s', (finish N me (bareFinish token)).run (fun _ => i) s = (some (.ok resp), s') ∧
      resp.cookie.isSome = true := by
  obtain ⟨e, hissued, hexpiry⟩ := h.issued
  obtain ⟨d, hdir⟩ := h.dir
  subst hi
  have hpurged : (s.mfaPending.purge i.now).tokens (tokenKey N token) = some e := by
    simp [MfaPending.purge, hissued.pending, hexpiry]
  let rest : MfaPending :=
    { s.mfaPending.purge i.now with
      tokens := Function.update (s.mfaPending.purge i.now).tokens (tokenKey N token) none }
  have hconsume : (consumeMfaToken N token).run (fun _ => i) s =
      (some (.ok (some e)), { s with mfaPending := rest }) :=
    run_const_section (congrArg (fun r => (Except.ok r, { s with mfaPending := rest })) hpurged)
  obtain ⟨resp, s', hrun, hcookie⟩ := finishRedeemed_run (N := N) (s := { s with mfaPending := rest }) hissued.user hissued.record h.unlocked hdir h.free htotp hemail
  exact ⟨resp, s', (run_const_bind_ok hconsume).trans hrun, hcookie⟩

/-- **The second factor.** If one is enforced, a token opens sessions only for requests with a
verified code exactly if a TOTP secret is stored or e-mail codes are enforced. -/
theorem secondFactor_iff {now : Nat} (h : Redeemable N s token u now)
    (henforced : u.mfaEnforce.totp = true ∨ u.mfaEnforce.email = true) :
    (∀ me req inputs resp s', req.partialToken = .text token →
        (finish N me req).run inputs s = (some (.ok resp), s') → resp.cookie.isSome →
        CodeVerified N (fun i => ∃ n, i = inputs n) s u token req.totpCode req.emailCode) ↔
      (u.mfaTotpSecret ≠ [] ∨ u.mfaEnforce.email = true) := by
  constructor
  · intro hchecked
    by_contra hnone
    rw [not_or, Bool.not_eq_true] at hnone
    let i : Input := ⟨now, [], 0, false⟩
    obtain ⟨resp, s', hrun, hcookie⟩ := bareFinish_run h
      (fun ht => hnone.1 ht.2) hnone.2 (i := i) rfl
    -- the bare request has no code to verify
    rcases hchecked 0 (bareFinish token) _ resp s' rfl hrun hcookie with
      ⟨code, hcode, -⟩ | ⟨code, hcode, -⟩
    · cases hcode
    · cases hcode
  · intro hfactor me req inputs resp s' hreq hrun hcookie
    obtain ⟨e, hissued, -⟩ := h.issued
    have hfactor' : (u.mfaEnforce.totp = true ∧ u.mfaTotpSecret ≠ []) ∨ u.mfaEnforce.email =
      true := by
      rcases hfactor with hsecret | hemail
      · exact henforced.imp (⟨·, hsecret⟩) id
      · exact .inr hemail
    exact (finish_ends hreq hissued hfactor').of_run (fun n => ⟨n, rfl⟩) hrun resp rfl hcookie

/-! ## TOTP without a secret -/

/-- Flags that enforce TOTP, and the secret if there is one. -/
def totpBody (serverSecret : Option Text) : MfaBody where
  dataIsString := true
  config := ⟨none, none, none⟩
  enforce := some ⟨.true, .other⟩
  serverSecret := serverSecret

/-- The `PUT` of the owner, and the server after it. -/
def totpPut (serverSecret : Option Text) : Option (Except Thrown Response) × Backend :=
  (putMfa owner (totpBody serverSecret)).run (fun _ => symbolicInput)
    (symbolicBackend (symbolicUser ownerPassword) ownerSessions)

/-- The next login, and the server after it. -/
def totpLogin (serverSecret : Option Text) : Option (Except Thrown Response) × Backend :=
  (login symbolicNode 0 (symbolicLogin ownerPassword)).run (fun _ => symbolicInput)
    (totpPut serverSecret).2

/-- The record of the owner then. -/
def totpUser (serverSecret : Option Text) : User :=
  applyMfaBody (totpBody serverSecret) (symbolicUser ownerPassword)

def totpToken : Text := symbolicHex [7]

def totpAnswer : Response where
  ok := some true
  partialToken := some totpToken
  methods := [.totp]

theorem totpLogin_redeemable : Redeemable symbolicNode (totpLogin (some ['S'])).2 totpToken
    (totpUser (some ['S'])) 1000000 where
  issued := ⟨⟨"u1", 1300000, some 0⟩, ⟨rfl, rfl, rfl⟩, by decide⟩
  unlocked := rfl
  dir := ⟨_, rfl⟩
  free := rfl

theorem secondFactor_iff_totpUser :
    (∀ me req inputs resp s', req.partialToken = .text totpToken →
        (finish symbolicNode me req).run inputs (totpLogin (some ['S'])).2 = (some (.ok resp), s') →
        resp.cookie.isSome →
        CodeVerified symbolicNode (fun i => ∃ n, i = inputs n) (totpLogin (some ['S'])).2
          (totpUser (some ['S'])) totpToken req.totpCode req.emailCode) ↔
      ((totpUser (some ['S'])).mfaTotpSecret ≠ [] ∨
        (totpUser (some ['S'])).mfaEnforce.email = true) :=
  secondFactor_iff totpLogin_redeemable (.inl rfl)

/-- What the bare token gets from a server where TOTP is enforced without a secret. -/
def bareAnswer : Response where
  ok := some true
  cookie := some ⟨"u1", ⟨symbolicHex [7], some 0⟩, 87400⟩

/-- The `PUT` and the login are answered, the flag stands, and a session is opened without a
code. -/
theorem totp_without_secret_not_checked :
    (totpPut none).1 = some (.ok .okay) ∧ (totpLogin none).1 = some (.ok totpAnswer) ∧
      (totpLogin none).2.findUserById "u1" = some (totpUser none) ∧
      (totpUser none).mfaEnforce.totp = true ∧
      ¬ ∀ me req inputs resp s', req.partialToken = .text totpToken →
        (finish symbolicNode me req).run inputs (totpLogin none).2 = (some (.ok resp), s') →
        resp.cookie.isSome →
        CodeVerified symbolicNode (fun i => ∃ n, i = inputs n) (totpLogin none).2 (totpUser none)
          totpToken req.totpCode req.emailCode := by
  refine ⟨rfl, rfl, rfl, rfl, fun h => ?_⟩
  rcases h 0 (bareFinish totpToken) (fun _ => symbolicInput) bareAnswer _ rfl rfl rfl with
    ⟨code, hcode, -⟩ | ⟨code, hcode, -⟩
  · cases hcode
  · cases hcode

end PwdNow.Server
