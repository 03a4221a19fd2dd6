import PwdNow.Kit.Keyed
import PwdNow.Server.LoginRoute

/-!
# Server — does a login tell who is registered?

A login that authenticates nobody looks at the record of the address, if there is one, and verifies
the string against it; where there is none it verifies a dummy hash. The answer is the same, and so
is what it leaves in the state store, except for the count of Argon2 calls under way. `unknownLogin`
computes that answer from the state store alone. The clock stands still while a request is served:
how long a verification takes is left out.
-/

namespace PwdNow.Server

open Kit Async Function List

/-! ## A login without records -/

namespace StateStore

/-- What `checkAccountRate` and `checkFingerprintRate` answer. -/
def admits (m : StateStore) (now : Nat) (key : StoreKey) : Bool :=
  match (m.live now key).map StoreEntry.value with
  | some (.lockout _ lockedUntil) => !(lockedUntil ≠ 0 && now < lockedUntil)
  | _ => true

/-- What `recordAccountFailure` and `recordFingerprintFailure` leave behind. -/
def recordFailure (m : StateStore) (now : Nat) (key : StoreKey) : StateStore :=
  update m key (some (lockoutEntry (nextFailure now (m key)) now))

end StateStore

/-- The answer of a throttle. -/
def throttledAnswer (accountBlocked fpBlocked : Bool) : Response :=
  let reason := if accountBlocked then "account" else if fpBlocked then "fingerprint" else "ip"
  let errorCode := if accountBlocked then "account_locked" else "too_many_requests"
  { Response.refuse 200 errorCode with rateLimited := some reason }

def unknownLogin (now : Nat) (req : LoginRequest) (m : StateStore) : Response × StateStore :=
  if req.password = [] ∨ req.password.length > 128 then
    (.error_ 400 "invalid_input", m)
  else
    let attempts := m.incrExpire now (.login req.ip) loginWindowMs
    let ipOk : Bool := attempts.1 ≤ loginMaxPerWindow
    let fpOk := attempts.2.admits now (.fingerprint req.clientIdentity)
    let accountOk := attempts.2.admits now (.account req.emailHash)
    if ipOk && fpOk && accountOk then
      let failed := attempts.2.recordFailure now (.fingerprint req.clientIdentity)
      (invalidCredentials, failed.recordFailure now (.account req.emailHash))
    else
      (throttledAnswer (!accountOk) (!fpOk), attempts.2)

/-! ## The stretches of a login -/

variable {N : Node} {me : Pid} {now : Nat} {users : List User} {m : StateStore} {s : Backend}
  {α β : Type} {Q : Except Thrown β → Backend → Prop} {key : StoreKey} {password : Text}
  {record : Option User} {req : LoginRequest}

/-- The users of `s`, and its counters: those of `m`, except for the gate, which has room. -/
structure Tracks (users : List User) (m : StateStore) (s : Backend) : Prop where
  users : s.users = users
  store : ∀ key, key ≠ .argon2Active → s.stateStore key = m key
  room : Room s.stateStore

/-- The clock stands at `now`. -/
def At (now : Nat) (i : Input) : Prop := i.now = now

/-- The program returns `a`, and leaves what `m` says. -/
def Gives (a : α) (users : List User) (m : StateStore) (r : Except Thrown α) (s : Backend) : Prop :=
  r = .ok a ∧ Tracks users m s

theorem returns_next {x : Handler α} {k : α → Handler β} {a : α}
    (hx : x.Returns (At now) (Gives a users m) s)
    (hk : ∀ s', Tracks users m s' → (k a).Returns (At now) Q s') :
    (x >>= k).Returns (At now) Q s := by
  refine returns_bind (hx.mono ?_)
  rintro _ s' ⟨rfl, hs'⟩
  exact hk s' hs'

theorem onStore_returns {f : Nat → StateStore → α × StateStore} (hkey : key ≠ .argon2Active)
    (hf : OnlyAt key f) (hcongr : ∀ m m', m key = m' key →
      (f now m).1 = (f now m').1 ∧ (f now m).2 key = (f now m').2 key) (hs : Tracks users m s) :
    (onStore f).Returns (At now) (Gives (f now m).1 users (f now m).2) s := by
  refine free_section.returns (ends_section.mpr fun i hi => ?_)
  obtain ⟨hvalue, hentry⟩ := hcongr s.stateStore m (hs.store key hkey)
  rw [show i.now = now from hi]
  refine ⟨congrArg Except.ok hvalue, hs.users, fun key' hkey' => ?_, fun e he => ?_⟩
  · by_cases heq : key' = key
    · rw [heq]
      exact hentry
    · rw [hf now m key' heq]
      exact (hf now s.stateStore key' heq).trans (hs.store key' hkey')
  · exact hs.room e ((hf now s.stateStore _ hkey.symm).symm.trans he)

theorem onStore_reads {f : Nat → StateStore → α} (hkey : key ≠ .argon2Active)
    (hcongr : ∀ m m', m key = m' key → f now m = f now m') (hs : Tracks users m s) :
    (onStore fun now m => (f now m, m)).Returns (At now) (Gives (f now m) users m) s :=
  onStore_returns (f := fun now m => (f now m, m)) hkey (fun _ _ _ _ => rfl)
    (fun m m' h => ⟨hcongr m m' h, h⟩) hs

theorem checkLoginRate_returns (ip : String) (hs : Tracks users m s) :
    (checkLoginRate ip).Returns (At now)
      (Gives (decide ((m.incrExpire now (.login ip) loginWindowMs).1 ≤ loginMaxPerWindow)) users
        (m.incrExpire now (.login ip) loginWindowMs).2) s := by
  refine returns_next (onStore_returns (by simp) (onlyAt_incrExpire _ _) (fun m m' h => ?_) hs)
    fun s' hs' => ⟨rfl, hs'⟩
  unfold StateStore.incrExpire
  rw [live_congr h]
  split <;> simp [StateStore.set]

theorem checkLockout_returns (hkey : key ≠ .argon2Active) (hs : Tracks users m s) :
    (checkLockout key).Returns (At now) (Gives (m.admits now key) users m) s := by
  have hlookup : checkLockout key = onStore fun now m => (m.admits now key, m) := by
    unfold checkLockout StateStore.admits
    congr 1
    funext now m
    rcases (m.live now key).map StoreEntry.value with _ | _ | _ <;> rfl
  rw [hlookup]
  refine onStore_reads (f := fun now m => m.admits now key) hkey (fun m m' h => ?_) hs
  unfold StateStore.admits
  rw [live_congr h]

theorem set_lockout (m : StateStore) (key : StoreKey) (count now : Nat) :
    m.set now key (.lockout count (if lockoutMs count > 0 then now + lockoutMs count else 0))
      (max (lockoutMs count) (60 * 60 * 1000)) =
      update m key (some (lockoutEntry count now)) := by
  have hentry := set_lockoutEntry m key count now
  unfold StateStore.set at hentry ⊢
  rw [update_self] at hentry
  rw [hentry]

theorem Tracks.update (hs : Tracks users m s) (hkey : key ≠ .argon2Active) (e : Option StoreEntry) :
    Tracks users (update m key e) { s with stateStore := update s.stateStore key e } := by
  refine ⟨hs.users, fun key' hkey' => ?_, fun e' he' => hs.room e' ?_⟩
  · by_cases heq : key' = key
    · rw [heq, update_self]
      exact update_self ..
    · rw [update_of_ne heq]
      exact (update_of_ne heq _ _).trans (hs.store key' hkey')
  · exact (update_of_ne hkey.symm _ _).symm.trans he'

theorem recordLockoutFailure_returns (hkey : key ≠ .argon2Active) (hs : Tracks users m s) :
    (recordLockoutFailure key).Returns (At now) (Gives () users (m.recordFailure now key)) s := by
  refine returns_next (onStore_reads hkey (fun m m' h => by rw [live_congr h]) hs) fun s' hs' => ?_
  refine free_section.returns (ends_section.mpr fun i hi => ⟨rfl, ?_⟩)
  rw [show i.now = now from hi]
  have hset := set_lockout s'.stateStore key (nextFailure now (m key)) now
  have hupdate := hs'.update hkey (some (lockoutEntry (nextFailure now (m key)) now))
  rw [← hset] at hupdate
  exact hupdate

theorem recordLoginFailure_returns (hs : Tracks users m s) :
    (recordLoginFailure req false).Returns (At now) (Gives () users
      ((m.recordFailure now (.fingerprint req.clientIdentity)).recordFailure now
        (.account req.emailHash))) s :=
  returns_next (recordLockoutFailure_returns (by simp) hs) fun _ hs' =>
    recordLockoutFailure_returns (by simp) hs'

/-! ## Verification -/

/-- The entries other than the gate's are the same. -/
def SameOffGate (s s' : Backend) : Prop :=
  ∀ key, key ≠ .argon2Active → s'.stateStore key = s.stateStore key

theorem sameOffGate_quiet : QuietOn (· ≠ .argon2Active) SameOffGate :=
  ⟨fun _ _ _ => rfl, fun _ _ h => h, fun _ _ _ _ => rfl, fun _ _ _ _ => rfl⟩

theorem verifyPassword_free (hash salt : Text) : (verifyPassword N hash password salt).Free :=
  free_bind free_section fun _ =>
    iteInduction (fun _ => free_bind free_section fun _ => free_throw) fun _ =>
      free_finally free_section free_section

theorem verifyPassword_ends (hash salt : Text) (hs : Tracks users m s) :
    (verifyPassword N hash password salt).Ends (At now) (fun r s' => Tracks users m s' ∧
      ∀ b, N.accepts hash password salt = some b → r = .ok b) s := by
  have hgate : (verifyPassword N hash password salt).Ends (At now) (fun r s' =>
      s'.users = s.users ∧ Room s'.stateStore ∧
        ∀ b, N.accepts hash password salt = some b → r = .ok b) s :=
    gated_ends (fun hfull => absurd hs.room hfull)
      fun i m' _ hroom => ⟨rfl, hroom, fun b hb => by rw [hb]⟩
  have hoff := (sameOffGate_quiet.verifyPassword (by simp) N hash password salt).ends
    sameOffGate_quiet.refl (fun h h' key hkey => (h' key hkey).trans (h key hkey)) (At now) s
  refine (hgate.and hoff).mono ?_
  rintro r s' ⟨⟨husers, hroom, hr⟩, hsame⟩
  refine ⟨⟨husers.trans hs.users, fun key hkey => ?_, hroom⟩, hr⟩
  exact (hsame key hkey).trans (hs.store key hkey)

theorem verifyPassword_returns {hash salt : Text} {b : Bool}
    (h : N.accepts hash password salt = some b) (hs : Tracks users m s) :
    (verifyPassword N hash password salt).Returns (At now) (Gives b users m) s :=
  (verifyPassword_free hash salt).returns
    ((verifyPassword_ends hash salt hs).mono fun _ _ h' => ⟨h'.2 b h, h'.1⟩)

/-- There is no record, or one out of duress mode that the string does not match. -/
inductive Unmatched (N : Node) (now : Nat) (password : Text) : Option User → Prop
  | unknown : Unmatched N now password none
  | known {u : User} (hduress : u.duressArmed = false)
    (hrejected : Rejected N (At now) u password) : Unmatched N now password (some u)

theorem Unmatched.duressArmed (h : Unmatched N now password record) :
    (record.bind (·.duressEnforce)).any (·.armed) = false := by
  cases h with
  | unknown => rfl
  | known hduress _ => exact hduress

theorem authenticate_returns (h : Unmatched N now password record) (hs : Tracks users m s) :
    (authenticate N password record).Returns (At now) (Gives none users m) s := by
  cases h with
  | unknown => exact returns_next (verifyPassword_returns rfl hs) fun s' hs' => ⟨rfl, hs'⟩
  | @known u hduress hrejected =>
    refine returns_next (verifyPassword_returns hrejected.byPassword hs) fun s₁ hs₁ => ?_
    refine returns_bind (free_section.returns (ends_section.mpr fun i hi => ?_))
    dsimp only [Fallible.lift_run]
    split
    · exact ⟨rfl, hs₁⟩
    · rename_i hvalid
      rw [Bool.not_eq_true, Bool.or_eq_false_iff] at hvalid
      have hkey : N.accepts u.recoveryKeyHash password u.recoveryKeySalt = some false := by
        rcases hrejected.byRecoveryKey with hnone | ⟨j, hj, hexpired⟩ | hkey
        · exact absurd hnone (of_decide_eq_false hvalid.1)
        · rw [show j.now = i.now from Eq.trans hj (Eq.symm hi)] at hexpired
          exact absurd (hexpired.symm.trans hvalid.2) Bool.noConfusion
        · exact hkey
      exact returns_next (verifyPassword_returns hkey hs₁) fun s₂ hs₂ => ⟨rfl, hs₂⟩

/-! ## The login -/

theorem loginFailed_returns (hs : Tracks users m s) :
    (loginFailed req record false).Returns (At now) (Gives invalidCredentials users
      ((m.recordFailure now (.fingerprint req.clientIdentity)).recordFailure now
        (.account req.emailHash))) s := by
  refine returns_next (recordLoginFailure_returns hs) fun s' hs' => ?_
  cases record <;> exact ⟨rfl, hs'⟩

theorem loginAdmitted_returns (h : Unmatched N now req.password record) (hs : Tracks users m s) :
    (loginAdmitted N me req record false).Returns (At now) (Gives invalidCredentials users
      ((m.recordFailure now (.fingerprint req.clientIdentity)).recordFailure now
        (.account req.emailHash))) s := by
  refine returns_next (authenticate_returns h hs) fun s' hs' => ?_
  cases record <;> exact loginFailed_returns hs'

theorem loginThrottled_returns (accountBlocked fpBlocked : Bool) (hs : Tracks users m s) :
    (loginThrottled N req accountBlocked fpBlocked).Returns (At now)
      (Gives (throttledAnswer accountBlocked fpBlocked) users m) s := by
  refine returns_next (a := ()) (m := m) (Free.returns ?_ (ends_tryCatch.mpr ?_)) fun s' hs' =>
    ⟨rfl, hs'⟩
  · exact free_tryCatch (free_bind (verifyPassword_free _ _) fun _ => free_pure)
      fun _ => free_pure
  · refine ends_bind.mpr ((verifyPassword_ends _ _ hs).mono fun r s' h => ?_)
    -- the answer of the dummy verification is thrown away, and so is its error
    cases r <;> exact ⟨rfl, h.1⟩

theorem authMiddleware_free (cookie : Option SessionToken) : (authMiddleware cookie).Free := by
  cases cookie with
  | none => exact free_pure
  | some token =>
    refine free_bind free_section fun payload => ?_
    cases payload with
    | none => exact free_pure
    | some payload =>
      refine free_bind free_section fun u => ?_
      cases u with
      | none => exact free_pure
      | some u => exact free_bind free_section fun _ => free_pure

theorem authMiddleware_returns {cookie : Option SessionToken} {k : Option Auth → Handler β}
    (hk : ∀ auth, (k auth).Returns (At now) Q s) :
    (authMiddleware cookie >>= k).Returns (At now) Q s := by
  have hsame := (authMiddleware_steps (K := fun s s' => s' = s) (fun _ => rfl) cookie).ends
    (fun _ => rfl) (fun h h' => Eq.trans h' h) (At now) s
  have hthrows := (authMiddleware_throws (P := fun _ => False) cookie).ends (At now) s
  refine returns_bind ((authMiddleware_free cookie).returns ((hsame.and hthrows).mono ?_))
  rintro (e | auth) s' ⟨rfl, herror⟩
  · exact (herror e rfl).elim
  · exact hk auth

/-- **A login that authenticates nobody** does what a login without records does. -/
theorem login_returns (hs : Tracks users m s)
    (h : Unmatched N now req.password (s.findUserByEmailHash req.emailHash)) :
    (login N me req).Returns (At now)
      (Gives (unknownLogin now req m).1 users (unknownLogin now req m).2) s := by
  refine authMiddleware_returns fun _ => ?_
  unfold unknownLogin
  split
  · exact ⟨rfl, hs⟩
  · refine returns_bind (free_section.returns (ends_section.mpr fun _ _ => ?_))
    dsimp only [Fallible.gets_run]
    rw [h.duressArmed]
    refine returns_next (checkLoginRate_returns req.ip hs) fun s₁ hs₁ => ?_
    refine returns_next (checkLockout_returns (by simp) hs₁) fun s₂ hs₂ => ?_
    refine returns_next (checkLockout_returns (by simp) hs₂) fun s₃ hs₃ => ?_
    split
    · exact loginAdmitted_returns h hs₃
    · exact loginThrottled_returns _ _ hs₃

/-! ## One login after the other -/

/-- A login that is served at `now`; what else its sections get from outside may vary. -/
structure Arrival where
  req : RouteLogin
  now : Nat
  inputs : ℕ → Input
  clock : ∀ n, At now (inputs n)

/-- The answers to logins that are served one after the other. -/
def responses (N : Node) (me : Pid) :
    Backend × FingerprintLogs → List Arrival → List (Option (Except Thrown Response))
  | _, [] => []
  | st, a :: rest =>
    let served := (loginRoute N me a.req).run a.inputs st
    served.1 :: responses N me served.2 rest

/-- The same, without records. -/
def unknownResponses (N : Node) : StateStore → List Arrival → List Response
  | _, [] => []
  | m, a :: rest =>
    let served := unknownLogin a.now (a.req.parse N) m
    served.1 :: unknownResponses N served.2 rest

theorem responses_eq {st : Backend × FingerprintLogs} {arrivals : List Arrival}
    (hst : Tracks users m st.1) (h : ∀ a ∈ arrivals,
      Unmatched N a.now a.req.password (users.find? (·.emailHash = a.req.emailHash))) :
    responses N me st arrivals =
      (unknownResponses N m arrivals).map fun resp => some (.ok resp) := by
  induction arrivals generalizing st m with
  | nil => rfl
  | cons a rest ih =>
    have hrecord : Unmatched N a.now (a.req.parse N).password
        (st.1.findUserByEmailHash (a.req.parse N).emailHash) := by
      rw [Backend.findUserByEmailHash, hst.users]
      exact h a mem_cons_self
    have hroute := (loginRoute_shadows N me a.req).returns (login_returns hst hrecord)
    obtain ⟨r, st', hrun, rfl, hst'⟩ := hroute.run_ends a.clock
    rw [responses, unknownResponses, map_cons, hrun]
    exact congrArg _ (ih hst' fun b hb => h b (mem_cons_of_mem a hb))

/-- The same request at the same time. -/
def Arrival.SameLogin (a b : Arrival) : Prop := a.req = b.req ∧ a.now = b.now

theorem unknownResponses_congr {as bs : List Arrival} (h : Forall₂ Arrival.SameLogin as bs) :
    unknownResponses N m as = unknownResponses N m bs := by
  induction h generalizing m with
  | nil => rfl
  | cons hab _ ih =>
    obtain ⟨hreq, hnow⟩ := hab
    simp only [unknownResponses, hreq, hnow, ih]

/-- **A login does not tell who is registered.** Two servers with the same counters, of which one
has the address registered, answer any logins for it alike, with strings that the account does not
accept. -/
theorem login_tells_nothing (N : Node) (me : Pid) (emailHash : String) (u : User)
    (known unknown : Backend × FingerprintLogs)
    (hknown : known.1.findUserByEmailHash emailHash = some u)
    (hunknown : unknown.1.findUserByEmailHash emailHash = none) (hduress : u.duressArmed = false)
    (hstore : known.1.stateStore = unknown.1.stateStore)
    (hidle : ∀ e, known.1.stateStore .argon2Active = some e → e.value.toNumber = 0)
    (arrivals arrivals' : List Arrival)
    (hsame : Forall₂ Arrival.SameLogin arrivals arrivals')
    (hlogins : ∀ a ∈ arrivals, a.req.emailHash = emailHash ∧
      Rejected N (At a.now) u a.req.password) :
    responses N me known arrivals = responses N me unknown arrivals' ∧
      ∀ r ∈ responses N me known arrivals, ∃ resp, r = some (.ok resp) := by
  have hroom : Room known.1.stateStore := fun e he => by
    rw [hidle e he]
    decide
  have hleft : responses N me known arrivals =
      (unknownResponses N known.1.stateStore arrivals).map fun resp => some (.ok resp) := by
    have htracks : Tracks known.1.users known.1.stateStore known.1 := ⟨rfl, fun _ _ => rfl, hroom⟩
    refine responses_eq htracks fun a ha => ?_
    obtain ⟨hemail, hrejected⟩ := hlogins a ha
    rw [hemail, show known.1.users.find? (·.emailHash = emailHash) = some u from hknown]
    exact .known hduress hrejected
  have hright : responses N me unknown arrivals' =
      (unknownResponses N known.1.stateStore arrivals').map fun resp => some (.ok resp) := by
    have htracks : Tracks unknown.1.users known.1.stateStore unknown.1 :=
      ⟨rfl, fun _ _ => by rw [hstore], hstore ▸ hroom⟩
    refine responses_eq htracks fun b hb => ?_
    obtain ⟨a, ha, hab⟩ := exists_right_of_forall₂ hsame hb
    rw [← hab.1, (hlogins a ha).1,
      show unknown.1.users.find? (·.emailHash = emailHash) = none from hunknown]
    exact .unknown
  refine ⟨?_, fun r hr => ?_⟩
  · rw [hleft, hright, unknownResponses_congr hsame]
  · rw [hleft] at hr
    obtain ⟨resp, -, rfl⟩ := mem_map.mp hr
    exact ⟨resp, rfl⟩

/-- The owner's address is registered here, and there is nobody else. -/
def ownerServer : Backend := symbolicBackend (symbolicUser ownerPassword) []

/-- Nobody is registered here. -/
def emptyServer : Backend := { ownerServer with users := [], dirs := fun _ => none }

/-- A wrong password for the owner's address. -/
def wrongArrival : Arrival where
  req := ⟨⟨none, "e1", "battery staple".toList, "10.0.0.1", [], none⟩, .absent, .absent⟩
  now := symbolicInput.now
  inputs _ := symbolicInput
  clock _ := rfl

def wrongArrivals : List Arrival := replicate 6 wrongArrival

theorem wrongArrivals_rejected : ∀ a ∈ wrongArrivals, a.req.emailHash = "e1" ∧
    Rejected symbolicNode (At a.now) (symbolicUser ownerPassword) a.req.password := by
  intro a ha
  rw [eq_of_mem_replicate ha]
  exact ⟨rfl, by decide, .inl rfl⟩

theorem wrongArrivals_tell_nothing :
    responses symbolicNode 0 (ownerServer, fun _ => []) wrongArrivals =
        responses symbolicNode 0 (emptyServer, fun _ => []) wrongArrivals ∧
      ∀ r ∈ responses symbolicNode 0 (ownerServer, fun _ => []) wrongArrivals,
        ∃ resp, r = some (.ok resp) :=
  login_tells_nothing symbolicNode 0 "e1" (symbolicUser ownerPassword) (ownerServer, fun _ => [])
    (emptyServer, fun _ => []) rfl rfl rfl rfl (fun e he => by cases he) wrongArrivals
    wrongArrivals (forall₂_same.mpr fun _ _ => ⟨rfl, rfl⟩) wrongArrivals_rejected

example : (unknownResponses symbolicNode (fun _ => none) wrongArrivals).map (·.error) =
    replicate 5 (some "invalid_credentials") ++ [some "account_locked"] := by
  decide +kernel

end PwdNow.Server
