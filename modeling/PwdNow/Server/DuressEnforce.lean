import PwdNow.Server.LoginSpec
import PwdNow.Server.Symbolic

/-!
# Server — the duress wipe and its threshold

`PUT` and `DELETE /api/vault/duress-enforce` of `web/routes/vaultRoutes.js`. The count of failures
is a field of the user record: both routes set it to zero, as does a login that passes the
verification, and one that fails it while duress is armed counts up, or wipes. A history is the list
of the requests answered so far, the last one first; what it says about duress mode is read off
requests and answers.
-/

namespace PwdNow.Server

open Kit Async

variable {N : Node} {me : Pid} {V : Input → Prop} {u v : User} {s s' s₀ : Backend}

/-! ## The routes -/

/-- `Math.max(1, Math.min(20, Number(maxAttempts) || 3))`; `none` where `Number` is `NaN`. -/
def clampAttempts (maxAttempts : Option Int) : Nat :=
  let attempts := maxAttempts.getD 0
  (max 1 (min 20 (if attempts = 0 then 3 else attempts))).toNat

/-- The callback of both routes. -/
def setDuress (duress : Option DuressEnforce) (u : User) : User :=
  { u with duressEnforce := duress, duressFailureCount := 0 }

/-- `PUT /api/vault/duress-enforce`; `none` for an `armed` that is not a boolean. -/
def putDuressEnforce (caller : Caller) (armed : Option Bool) (maxAttempts : Option Int) :
    Handler Response :=
  authenticated caller fun user =>
    match armed with
    | none => return .refuse 400 "invalid_input"
    | some armed => do
      let duress := if armed then some ⟨true, clampAttempts maxAttempts⟩ else none
      match ← updateUserById user.id fun _ u => .ok (.save (setDuress duress u) u.emailHash) with
      | none => return .refuse 401 "user_not_found"
      | some emailHash =>
        if emailHash ≠ "" then resetAccountFailures emailHash
        return .okay

/-- `DELETE /api/vault/duress-enforce`. -/
def deleteDuressEnforce (caller : Caller) : Handler Response :=
  authenticated caller fun user => do
    match ← updateUserById user.id fun _ u => .ok (.save (setDuress none u) ()) with
    | none => return .refuse 401 "user_not_found"
    | some _ => return .okay

inductive DuressRequest where
  | login (req : LoginRequest)
  | put (caller : Caller) (armed : Option Bool) (maxAttempts : Option Int)
  | delete (caller : Caller)

namespace DuressRequest

def handle (N : Node) (me : Pid) : DuressRequest → Handler Response
  | login req => Server.login N me req
  | put caller armed maxAttempts => putDuressEnforce caller armed maxAttempts
  | delete caller => deleteDuressEnforce caller

/-- The request is for the user `u`. -/
def For (u : User) : DuressRequest → Prop
  | login req => req.emailHash = u.emailHash
  | put caller _ _ => ∀ token, caller.cookie = some token → token.sub = u.id
  | delete caller => ∀ token, caller.cookie = some token → token.sub = u.id

/-- Duress is armed with a whole number of attempts from 1 to 20. -/
def InRange : DuressRequest → Prop
  | put _ (some true) maxAttempts => ∃ m : Nat, maxAttempts = some (m : Int) ∧ 1 ≤ m ∧ m ≤ 20
  | _ => True

end DuressRequest

/-! ## Histories -/

/-- A request with its answer. -/
structure Exchange where
  request : DuressRequest
  answer : Except Thrown Response

open Exchange

/-- What an exchange means for the user's duress mode. -/
inductive DuressEvent where
  | armed (m : Nat)
  | disarmed
  | passed
  | failed
  | wiped
  | none
  deriving DecidableEq

def Exchange.event (x : Exchange) : DuressEvent :=
  match x.request with
  | .login _ =>
    match verdict x.answer with
    | .turnedAway => .none
    | .passed => .passed
    | .failed => if x.answer.toOption.any (·.duressWipe) then .wiped else .failed
  | .put _ armed maxAttempts =>
    if x.answer.toOption.any (·.ok = some true) then
      if armed = some true then .armed (maxAttempts.getD 0).toNat else .disarmed
    else .none
  | .delete _ => if x.answer.toOption.any (·.ok = some true) then .disarmed else .none

/-- The number of attempts that duress is armed with. -/
def armedWith : List Exchange → Option Nat
  | [] => none
  | x :: h =>
    match x.event with
    | .armed m => some m
    | .disarmed => none
    | .wiped => none
    | _ => armedWith h

/-- How many logins have failed the verification since the last arming, or the last login that
passed it. -/
def failuresSince : List Exchange → Nat
  | [] => 0
  | x :: h =>
    match x.event with
    | .armed _ => 0
    | .passed => 0
    | .failed => failuresSince h + 1
    | _ => failuresSince h

/-- The requests of `h`, each complete before the next, lead from `s₀` to this state. -/
inductive Served (N : Node) (s₀ : Backend) : List Exchange → Backend → Prop
  | start : Served N s₀ [] s₀
  | next {h : List Exchange} {s s' : Backend} {me : Pid} {req : DuressRequest}
    {inputs : ℕ → Input} {r : Except Thrown Response} (hserved : Served N s₀ h s)
    (hrun : (req.handle N me).run inputs s = (some r, s')) : Served N s₀ (⟨req, r⟩ :: h) s'

/-- The record of `u` is there before, and gone after. -/
def Wipes (u : User) (s s' : Backend) : Prop :=
  (s.findUserById u.id).isSome ∧ s'.findUserById u.id = none

/-! ## The record follows the history -/

/-- What the record says of duress is what the history says. -/
def Follows (v : User) (h : List Exchange) : Prop :=
  match armedWith h with
  | none => v.duressArmed = false
  | some m => v.duressEnforce = some ⟨true, m⟩ ∧ v.duressFailureCount = failuresSince h ∧
      failuresSince h < m ∧ m ≤ 20

inductive Standing (u : User) (h : List Exchange) (s : Backend) : Prop
  | held (v : User) (haccount : s.account u.id u.emailHash = [v]) (hid : v.id = u.id)
    (hemail : v.emailHash = u.emailHash) (hfollows : Follows v h)
  | gone (haccount : s.account u.id u.emailHash = []) (harmed : armedWith h = none)

section Standing

variable {h : List Exchange} {x : Exchange}

theorem follows_none (harmed : armedWith h = none) : Follows v h ↔ v.duressArmed = false := by
  unfold Follows
  rw [harmed]

variable {m : Nat}

theorem follows_some (harmed : armedWith h = some m) :
    Follows v h ↔ v.duressEnforce = some ⟨true, m⟩ ∧ v.duressFailureCount = failuresSince h ∧
      failuresSince h < m ∧ m ≤ 20 := by
  unfold Follows
  rw [harmed]

theorem Follows.of_armed {duress : DuressEnforce} (hfollows : Follows v h)
    (hduress : v.duressEnforce = some duress) (harmed : duress.armed = true) :
    ∃ m, armedWith h = some m ∧ duress = ⟨true, m⟩ := by
  cases hm : armedWith h with
  | none =>
    have := (follows_none hm).mp hfollows
    simp [User.duressArmed, hduress, harmed] at this
  | some m =>
    have heq := ((follows_some hm).mp hfollows).1
    rw [hduress] at heq
    exact ⟨m, rfl, Option.some.inj heq⟩

theorem Follows.of_unarmed (hfollows : Follows v h) (hunarmed : v.duressArmed = false) :
    armedWith h = none := by
  cases hm : armedWith h with
  | none => rfl
  | some m =>
    rw [User.duressArmed, ((follows_some hm).mp hfollows).1] at hunarmed
    cases hunarmed

theorem limit_of_range (h0 : 0 < m) (h20 : m ≤ 20) : DuressEnforce.limit ⟨true, m⟩ = m := by
  unfold DuressEnforce.limit
  dsimp only
  rw [if_neg (by omega)]
  omega

theorem clampAttempts_of_range (h1 : 1 ≤ m) (h20 : m ≤ 20) :
    clampAttempts (some (m : Int)) = m := by
  simp only [clampAttempts, Option.getD_some]
  rw [if_neg (by omega)]
  omega

theorem armedWith_of_other (hx : x.event = .none ∨ x.event = .passed ∨ x.event = .failed) :
    armedWith (x :: h) = armedWith h := by
  conv_lhs => unfold armedWith
  rcases hx with hx | hx | hx <;> rw [hx]

theorem Follows.skip (hfollows : Follows v h) (hx : x.event = .none) : Follows v (x :: h) := by
  have hsince : failuresSince (x :: h) = failuresSince h := by
    conv_lhs => unfold failuresSince
    rw [hx]
  unfold Follows at *
  rwa [armedWith_of_other (.inl hx), hsince]

theorem Follows.counted (hfollows : Follows v h) (hm : armedWith h = some m)
    (hx : x.event = .failed) (hlimit : v.duressFailureCount + 1 < m) :
    Follows { v with duressFailureCount := v.duressFailureCount + 1 } (x :: h) := by
  obtain ⟨hduress, hcount, -, h20⟩ := (follows_some hm).mp hfollows
  have hsince : failuresSince (x :: h) = v.duressFailureCount + 1 := by
    rw [hcount]
    conv_lhs => unfold failuresSince
    rw [hx]
  rw [follows_some ((armedWith_of_other (.inr (.inr hx))).trans hm), hsince]
  exact ⟨hduress, rfl, hlimit, h20⟩

theorem Follows.passed {w : User} (hfollows : Follows v h) (hx : x.event = .passed)
    (hduress : w.duressEnforce = v.duressEnforce) (hcount : w.duressFailureCount = 0) :
    Follows w (x :: h) := by
  have harmed : armedWith (x :: h) = armedWith h := armedWith_of_other (.inr (.inl hx))
  have hsince : failuresSince (x :: h) = 0 := by
    unfold failuresSince
    rw [hx]
  cases hm : armedWith h with
  | none =>
    rw [follows_none (harmed.trans hm), User.duressArmed, hduress]
    exact (follows_none hm).mp hfollows
  | some m =>
    obtain ⟨hbefore, -, hlt, h20⟩ := (follows_some hm).mp hfollows
    rw [follows_some (harmed.trans hm), hduress, hcount, hsince]
    exact ⟨hbefore, rfl, by omega, h20⟩

end Standing

/-! ## One request -/

/-- What a request for `u` does after the history `h`. -/
structure Served.Post (u : User) (h : List Exchange) (s : Backend) (req : DuressRequest)
    (r : Except Thrown Response) (s' : Backend) : Prop where
  standing : Standing u (⟨req, r⟩ :: h) s'
  wipes_iff : Wipes u s s' ↔ (∃ l, req = .login l) ∧ verdict r = .failed ∧
    ∃ m, armedWith h = some m ∧ failuresSince h + 1 = m
  wiped : Wipes u s s' → s'.dirs u.id = none

section Request

variable {h : List Exchange} {req : DuressRequest} {r : Except Thrown Response} {l : LoginRequest}

theorem not_wipes_of_account (haccount : s'.account u.id u.emailHash = [v]) (hid : v.id = u.id) :
    ¬ Wipes u s s' := by
  rintro ⟨-, hgone⟩
  rw [findUserById_of_account haccount] at hgone
  simp [hid] at hgone

theorem not_wipes_of_gone (haccount : s.account u.id u.emailHash = []) : ¬ Wipes u s s' := by
  rintro ⟨hthere, -⟩
  rw [findUserById_of_account haccount] at hthere
  cases hthere

theorem Served.Post.of_not_wipes (hstanding : Standing u (⟨req, r⟩ :: h) s') (hnot : ¬ Wipes u s s')
    (hdue : ¬ ((∃ l, req = .login l) ∧ verdict r = .failed ∧
      ∃ m, armedWith h = some m ∧ failuresSince h + 1 = m)) : Served.Post u h s req r s' :=
  ⟨hstanding, iff_of_false hnot hdue, fun hw => absurd hw hnot⟩

theorem Served.Post.of_held (haccount : s'.account u.id u.emailHash = [v]) (hid : v.id = u.id)
    (hemail : v.emailHash = u.emailHash) (hfollows : Follows v (⟨req, r⟩ :: h))
    (hdue : ¬ ((∃ l, req = .login l) ∧ verdict r = .failed ∧
      ∃ m, armedWith h = some m ∧ failuresSince h + 1 = m)) : Served.Post u h s req r s' :=
  .of_not_wipes (.held v haccount hid hemail hfollows) (not_wipes_of_account haccount hid) hdue

theorem Served.Post.of_sameUsers (hstanding : Standing u h s) (hsame : SameUsers s s')
    (hevent : event ⟨req, r⟩ = .none) (hlogin : ∀ l, req = .login l → verdict r ≠ .failed) :
    Served.Post u h s req r s' := by
  have hdue : ¬ ((∃ l, req = .login l) ∧ verdict r = .failed ∧
      ∃ m, armedWith h = some m ∧ failuresSince h + 1 = m) := by
    rintro ⟨⟨l, hl⟩, hr, -⟩
    exact hlogin l hl hr
  cases hstanding with
  | held v haccount hid hemail hfollows =>
    exact .of_held ((hsame.account u.id u.emailHash).trans haccount) hid hemail
      (hfollows.skip hevent) hdue
  | gone haccount harmed =>
    refine .of_not_wipes (.gone ((hsame.account _ _).trans haccount) ?_)
      (not_wipes_of_gone haccount) hdue
    rw [armedWith_of_other (.inl hevent)]
    exact harmed

theorem LoginEnd.post (haccount : s.account u.id u.emailHash = [v]) (hid : v.id = u.id)
    (hemail : v.emailHash = u.emailHash) (hfollows : Follows v h)
    (hend : LoginEnd N V v l.password s r s') : Served.Post u h s (.login l) r s' := by
  cases hend with
  | turnedAway hr hsame =>
    refine .of_sameUsers (.held v haccount hid hemail hfollows) hsame ?_ fun _ _ => ?_
    · unfold event
      rw [hr.verdict]
    · rw [hr.verdict]
      decide
  | failed _ hunarmed hsame =>
    have hnone := hfollows.of_unarmed hunarmed
    have harmed : armedWith (⟨.login l, .ok invalidCredentials⟩ :: h) = none := by
      rw [armedWith_of_other (.inr (.inr rfl)), hnone]
    refine .of_held ((hsame.account u.id u.emailHash).trans haccount) hid hemail
      ((follows_none harmed).mpr hunarmed) ?_
    rintro ⟨-, -, m, hm, -⟩
    rw [hnone] at hm
    cases hm
  | @counted _ duress _ hduress hduressArmed hlimit husers =>
    obtain ⟨m, hm, rfl⟩ := hfollows.of_armed hduress hduressArmed
    obtain ⟨-, hcount, hlt, h20⟩ := (follows_some hm).mp hfollows
    rw [limit_of_range (by omega) h20] at hlimit
    refine .of_held (account_replaceUser haccount hid husers hid) hid hemail
      (hfollows.counted hm rfl hlimit) ?_
    rintro ⟨-, -, m', hm', hdue⟩
    rw [hm] at hm'
    cases hm'
    omega
  | @wiped _ duress _ hduress hduressArmed hlimit husers hdir =>
    obtain ⟨m, hm, rfl⟩ := hfollows.of_armed hduress hduressArmed
    obtain ⟨-, hcount, hlt, h20⟩ := (follows_some hm).mp hfollows
    rw [limit_of_range (by omega) h20] at hlimit
    have haccount' := account_eraseP haccount hid husers
    refine ⟨.gone haccount' rfl, iff_of_true ⟨?_, ?_⟩ ⟨⟨l, rfl⟩, rfl, m, hm, by omega⟩, fun _ => ?_⟩
    · rw [findUserById_of_account haccount]
      simp [hid]
    · rw [findUserById_of_account haccount']
      rfl
    · rw [← hid]
      exact hdir
  | @passed _ _ method hash _ hr _ _ husers =>
    obtain ⟨hgid, hgemail, hgduress, hgcount⟩ := grantUpdate_frame method hash v
    have hevent : event ⟨.login l, r⟩ = .passed := by
      unfold event
      rw [hr]
    refine .of_held (account_replaceUser haccount hid husers (hgid.trans hid)) (hgid.trans hid)
      (hgemail.trans hemail) (hfollows.passed hevent hgduress hgcount) ?_
    rintro ⟨-, hfailed, -⟩
    rw [hr] at hfailed
    cases hfailed

theorem login_post (hfor : l.emailHash = u.emailHash) (hstanding : Standing u h s) :
    (login N me l).Ends V (Served.Post u h s (.login l)) s := by
  cases hstanding with
  | held v haccount hid hemail hfollows =>
    have hu : s.findUserByEmailHash l.emailHash = some v := by
      rw [hfor, findUserByEmailHash_of_account haccount]
      simp [hemail]
    have hvid : s.findUserById v.id = some v := by
      rw [hid, findUserById_of_account haccount]
      simp [hid]
    exact (login_ends hu hvid).mono fun _ _ hend => hend.post haccount hid hemail hfollows
  | gone haccount harmed =>
    have hu : s.findUserByEmailHash l.emailHash = none := by
      rw [hfor, findUserByEmailHash_of_account haccount]
      rfl
    refine (login_unknown_ends hu).mono ?_
    rintro r s' ⟨hsame, hr⟩
    have hevent : event ⟨.login l, r⟩ = .none ∨ event ⟨.login l, r⟩ = .passed ∨
        event ⟨.login l, r⟩ = .failed := by
      rcases hr with hr | rfl
      · left
        unfold event
        rw [hr.verdict]
      · exact .inr (.inr rfl)
    refine .of_not_wipes (.gone ((hsame.account _ _).trans haccount) ?_)
      (not_wipes_of_gone haccount) ?_
    · rw [armedWith_of_other hevent, harmed]
    · rintro ⟨-, -, m, hm, -⟩
      rw [harmed] at hm
      cases hm

variable {caller : Caller}

theorem authenticated_ends {handler : Auth → Handler Response}
    {Q : Except Thrown Response → Backend → Prop}
    (hrefused : ∀ status error, Q (.ok (.error_ status error)) s)
    (hhandler : ∀ user token v, caller.cookie = some token → user.id = token.sub →
      s.findUserById token.sub = some v → (handler user).Ends V Q s) :
    (authenticated caller handler).Ends V Q s := by
  refine ends_bind.mpr ((authMiddleware_ends V caller.cookie s).mono ?_)
  rintro _ _ ⟨rfl, auth, rfl, hauth⟩
  cases auth with
  | none => exact hrefused 401 "unauthenticated"
  | some user =>
    obtain ⟨token, v, hcookie, hid, hfind, -⟩ := hauth user rfl
    dsimp only [Then]
    split
    · exact hhandler user token v hcookie hid hfind
    · exact hrefused 403 "csrf"

theorem setDuress_post {duress : Option DuressEnforce} (haccount : s.account u.id u.emailHash = [v])
    (hid : v.id = u.id) (hemail : v.emailHash = u.emailHash) (hreq : ∀ l, req ≠ .login l)
    (husers : s'.users = replaceUser v.id (setDuress duress v) s.users)
    (hfollows : Follows (setDuress duress v) (⟨req, r⟩ :: h)) : Served.Post u h s req r s' := by
  refine .of_held (account_replaceUser haccount hid husers hid) hid hemail hfollows ?_
  rintro ⟨⟨l, hl⟩, -⟩
  exact hreq l hl

theorem Standing.found (hstanding : Standing u h s) (hv : s.findUserById u.id = some v) :
    s.account u.id u.emailHash = [v] ∧ v.id = u.id ∧ v.emailHash = u.emailHash := by
  cases hstanding with
  | held w haccount hid hemail _ =>
    rw [findUserById_of_account haccount] at hv
    simp only [List.find?_cons, hid, decide_true, Option.some.injEq] at hv
    subst hv
    exact ⟨haccount, hid, hemail⟩
  | gone haccount _ =>
    rw [findUserById_of_account haccount] at hv
    cases hv

theorem putDuressEnforce_post {armed : Option Bool} {maxAttempts : Option Int}
    (hfor : DuressRequest.For u (.put caller armed maxAttempts))
    (hrange : DuressRequest.InRange (.put caller armed maxAttempts)) (hstanding : Standing u h s) :
    (putDuressEnforce caller armed maxAttempts).Ends V
      (Served.Post u h s (.put caller armed maxAttempts)) s := by
  refine authenticated_ends (fun _ _ => .of_sameUsers hstanding rfl rfl (by simp)) ?_
  intro user token v hcookie hid hfind
  rw [hfor token hcookie] at hid hfind
  obtain ⟨haccount, hvid, hvemail⟩ := hstanding.found hfind
  cases armed with
  | none => exact .of_sameUsers hstanding rfl rfl (by simp)
  | some armed =>
    refine ends_bind.mpr ?_
    rw [hid]
    refine updateUserById_ends hfind (fun _ => rfl) ?_
    have hpost : ∀ s', s'.users = replaceUser u.id (setDuress
        (if armed then some ⟨true, clampAttempts maxAttempts⟩ else none) v) s.users →
        Served.Post u h s (.put caller (some armed) maxAttempts) (.ok .okay) s' := by
      intro s' husers
      rw [← hvid] at husers
      refine setDuress_post haccount hvid hvemail (by simp) husers ?_
      cases armed with
      | false => exact (follows_none rfl).mpr rfl
      | true =>
        obtain ⟨m, rfl, h1, h20⟩ := hrange
        refine (follows_some (m := m) rfl).mpr ⟨?_, rfl, h1, h20⟩
        rw [clampAttempts_of_range h1 h20]
        rfl
    dsimp only [Then]
    split
    · exact ends_bind.mpr (ends_section.mpr fun _ _ => hpost _ rfl)
    · exact hpost _ rfl

theorem deleteDuressEnforce_post (hfor : DuressRequest.For u (.delete caller))
    (hstanding : Standing u h s) :
    (deleteDuressEnforce caller).Ends V (Served.Post u h s (.delete caller)) s := by
  refine authenticated_ends (fun _ _ => .of_sameUsers hstanding rfl rfl (by simp)) ?_
  intro user token v hcookie hid hfind
  rw [hfor token hcookie] at hid hfind
  obtain ⟨haccount, hvid, hvemail⟩ := hstanding.found hfind
  rw [hid]
  refine ends_bind.mpr (updateUserById_ends hfind (fun _ => rfl) ?_)
  have hfollows : Follows (setDuress none v) (⟨.delete caller, .ok .okay⟩ :: h) :=
    (follows_none rfl).mpr rfl
  refine setDuress_post haccount hvid hvemail (by simp) ?_ hfollows
  rw [hvid]

/-- **One request**, whatever it is. -/
theorem handle_post (hfor : req.For u) (hrange : req.InRange) (hstanding : Standing u h s) :
    (req.handle N me).Ends V (Served.Post u h s req) s := by
  cases req with
  | login l => exact login_post hfor hstanding
  | put caller armed maxAttempts => exact putDuressEnforce_post hfor hrange hstanding
  | delete caller => exact deleteDuressEnforce_post hfor hstanding

end Request

/-! ## A run of requests -/

theorem Served.standing {h : List Exchange} (hserved : Served N s₀ h s)
    (haccount : s₀.account u.id u.emailHash = [u]) (hunarmed : u.duressArmed = false)
    (hfor : ∀ x ∈ h, x.request.For u ∧ x.request.InRange) : Standing u h s := by
  induction hserved with
  | start => exact .held u haccount rfl rfl ((follows_none rfl).mpr hunarmed)
  | @next h s s' me req inputs r _ hrun ih =>
    have hstanding := ih fun x hx => hfor x (List.mem_cons_of_mem _ hx)
    obtain ⟨hreq, hrange⟩ := hfor _ List.mem_cons_self
    have hends : (req.handle N me).Ends (fun _ => True) (Served.Post u h s req) s :=
      handle_post hreq hrange hstanding
    exact (hends.of_run (fun _ => trivial) hrun).standing

def duressOwner : User := symbolicUser ownerPassword

def duressStart : Backend := symbolicBackend duressOwner ownerSessions

/-- What `req` is answered, and the server after it. -/
def duressServe (req : DuressRequest) (s : Backend) : Option (Except Thrown Response) × Backend :=
  (req.handle symbolicNode 0).run (fun _ => symbolicInput) s

def armTwo : DuressRequest := .put owner (some true) (some 2)

def wrongLogin : DuressRequest := .login (symbolicLogin "battery staple".toList)

/-- The answer to the first wrong password. -/
def firstFailure : Response := { invalidCredentials with duressRemaining := some 1 }

def afterArming : Backend := (duressServe armTwo duressStart).2

def afterFailure : Backend := (duressServe wrongLogin afterArming).2

theorem served_firstFailure :
    Served symbolicNode duressStart [⟨wrongLogin, .ok firstFailure⟩, ⟨armTwo, .ok .okay⟩]
      afterFailure := by
  have harmed : duressServe armTwo duressStart = (some (.ok .okay), afterArming) := Prod.ext rfl rfl
  have hfailed : duressServe wrongLogin afterArming = (some (.ok firstFailure), afterFailure) :=
    Prod.ext rfl rfl
  exact (Served.start.next harmed).next hfailed

end PwdNow.Server
