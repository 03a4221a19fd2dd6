import PwdNow.Kit.Tally
import PwdNow.Server.RecoveryKey

/-!
# Server — the account lockout counts failures

`recordAccountFailure` reads the lockout entry of the account and writes it back with the next
number, across an await. `accountTally` is that counter, and a login keeps to it.
-/

namespace PwdNow.Server

open Kit Async System Tally List StateStore

variable {N : Node} {me : Pid} {e : String} {s : Backend}

def lockoutMs (count : Nat) : Nat :=
  lockoutScheduleMs.getD (min count (lockoutScheduleMs.length - 1)) 0

/-- The entry for the failure number `count`, recorded at `now`. -/
def lockoutEntry (count now : Nat) : StoreEntry where
  value := .lockout count (if lockoutMs count > 0 then now + lockoutMs count else 0)
  expiresAt := now + max (lockoutMs count) (60 * 60 * 1000)

theorem set_lockoutEntry (m : StateStore) (key : StoreKey) (count now : Nat) :
    m.set now key (.lockout count (if lockoutMs count > 0 then now + lockoutMs count else 0))
      (max (lockoutMs count) (60 * 60 * 1000)) key = some (lockoutEntry count now) := by
  unfold StateStore.set lockoutEntry
  have httl : max (lockoutMs count) (60 * 60 * 1000) > 0 := by omega
  rw [Function.update_self, if_pos httl]

/-- The number of the failure that is recorded after `c` was read. -/
def nextFailure (now : Nat) (c : Option StoreEntry) : Nat :=
  (((c.filter fun x => !x.expired now).map (·.value)).map (·.toNumber)).getD 0 + 1

/-- No user with the address is in duress mode. -/
def Unarmed (e : String) (s : Backend) : Prop :=
  ∀ u ∈ s.users, u.emailHash = e → u.duressArmed = false

/-- The failures of the logins for one address. -/
def accountTally (e : String) : Tally Input Backend (Option StoreEntry) Thrown Response where
  cell s := s.stateStore (.account e)
  clear := none
  next i c := nextFailure i.now c
  entry n i := some (lockoutEntry n i.now)
  counted r := verdict r = .failed
  inv := Unarmed e
  entry_ne_clear _ _ := Option.some_ne_none _
  cleared := ⟨⟨[], fun _ => none, fun _ => none, ⟨fun _ => none, fun _ => none⟩, fun _ => none,
    fun _ => [], fun _ => 0⟩, rfl⟩

instance (e : String) (t : Logins) (ev : Pid × Input) : Decidable ((accountTally e).Spares t ev) :=
  inferInstanceAs (Decidable (t.shared.stateStore (.account e) ≠ none →
    (step t ev).shared.stateStore (.account e) ≠ none))

/-! ## A login keeps to the tally -/

variable {req : LoginRequest}

theorem accountTally_aside (e : String) : AsideOn (· = .account e) (accountTally e).Keeps where
  refl _ := ⟨rfl, id⟩
  stateStore _ _ h := ⟨h _ rfl, id⟩
  mfaPending _ _ := ⟨rfl, id⟩
  usedTotpPeriods _ _ := ⟨rfl, id⟩
  dirs _ _ := ⟨rfl, id⟩
  dirLock _ _ := ⟨rfl, id⟩

theorem error_not_counted (e : String) (x : Thrown) : ¬ (accountTally e).counted (.error x) :=
  verdict_error x

theorem not_counted {resp : Response} (h : verdict (.ok resp) ≠ .failed) :
    ¬ (accountTally e).counted (.ok resp) := h

theorem mem_replaceUser {id : Uid} {u x : User} {xs : List User} (h : x ∈ replaceUser id u xs) :
    x = u ∨ x ∈ xs := by
  induction xs with
  | nil => cases h
  | cons y ys ih =>
    unfold replaceUser at h
    split at h
    · exact (mem_cons.mp h).imp_right (mem_cons_of_mem y)
    · rcases mem_cons.mp h with rfl | h
      · exact .inr mem_cons_self
      · exact (ih h).imp_right (mem_cons_of_mem y)

theorem accountTally_update (uid : Uid) (method : AuthMethod) (hash : Option Text) (u : User) :
    (updateUserById uid fun _ fu =>
      .ok (.save (grantUpdate method hash u fu) (grantUpdate method hash u fu))).Steps
      (accountTally e).Keeps := by
  refine steps_section fun i s => ?_
  dsimp only
  split
  · exact ⟨rfl, id⟩
  · rename_i fu hfu
    refine ⟨rfl, fun hinv x hx he => ?_⟩
    rcases mem_replaceUser hx with rfl | hx
    · obtain ⟨-, hemail, hduress, -⟩ := grantUpdate_frame method hash fu
      unfold User.duressArmed
      rw [hduress]
      exact hinv fu (mem_of_find?_eq_some hfu) (hemail.symm.trans he)
    · exact hinv x hx he

theorem loginThrottled_idle (accountBlocked fpBlocked : Bool) :
    (accountTally e).Idle (loginThrottled N req accountBlocked fpBlocked) := by
  refine idle_of_steps ((accountTally_aside e).loginThrottled (by simp) N req _ _)
    (error_not_counted e) (yields_bind fun _ => yields_pure (not_counted ?_))
  cases accountBlocked <;> cases fpBlocked <;> decide

theorem grant_idle (u : User) (verified : Option Nat) :
    (accountTally e).Idle (grant N me u verified) := by
  refine idle_of_steps ((accountTally_aside e).grant N me u verified) (error_not_counted e) ?_
  refine Yields.mono (grant_yields N me u verified) fun resp hresp hcounted => ?_
  rw [show verdict (.ok resp) = .failed from hcounted] at hresp
  cases hresp

section

variable (uSnapshot : Option User) (hemail : req.emailHash = e)
include hemail

theorem accountFailure_idle :
    (accountTally e).Idle (recordAccountFailure req.emailHash >>= fun _ => (match uSnapshot with
        | none => pure invalidCredentials
        | some _ => pure invalidCredentials : Handler Response)) := by
  subst hemail
  unfold recordAccountFailure recordLockoutFailure
  rw [bind_assoc]
  refine idle_section_bind (fun _ _ => .inl rfl) fun i s hinv => ⟨hinv, _, rfl, .inr ?_⟩
  intro j s'
  refine ⟨rfl, ?_, id, .ok invalidCredentials, ?_, rfl⟩
  · exact set_lockoutEntry s'.stateStore (.account req.emailHash) _ j.now
  · cases uSnapshot <;> rfl

theorem loginFailed_idle : (accountTally e).Idle (loginFailed req uSnapshot false) := by
  have haside := accountTally_aside e
  unfold loginFailed recordLoginFailure
  rw [bind_assoc]
  refine idle_bind (haside.recordLockoutFailure (by simp)) (error_not_counted e) fun _ => ?_
  exact accountFailure_idle uSnapshot hemail

theorem loginAdmitted_idle : (accountTally e).Idle (loginAdmitted N me req uSnapshot false) := by
  have haside := accountTally_aside e
  have herror := error_not_counted e
  refine idle_bind (haside.authenticate (by simp) N _ _) herror fun method => ?_
  rcases uSnapshot with _ | u
  · exact loginFailed_idle none hemail
  · rcases method with _ | method
    · exact loginFailed_idle (some u) hemail
    · refine idle_bind (haside.rehash (by simp) N _ _) herror fun hash => ?_
      -- a success clears the entry
      refine idle_section_bind (fun i s => .inr ?_) fun i s hinv => ⟨hinv, _, rfl, .inl ?_⟩
      · dsimp only [accountTally, del]
        rw [hemail]
        exact Function.update_self ..
      · refine idle_bind (haside.delState (by simp)) herror fun _ => ?_
        refine idle_bind (accountTally_update _ method hash u) herror fun finalU => ?_
        cases finalU with
        | none => exact idle_pure (not_counted (by decide))
        | some fu => exact grant_idle fu _

end

theorem login_idle (hemail : req.emailHash = e) : (accountTally e).Idle (login N me req) := by
  have haside := accountTally_aside e
  have herror := error_not_counted e
  refine idle_bind (authMiddleware_steps haside.refl _) herror fun _ => ?_
  refine iteInduction (fun _ => idle_pure (not_counted (by decide))) fun _ => ?_
  refine idle_section_bind (fun _ _ => .inl rfl) fun i s hinv => ⟨hinv, _, rfl, .inl ?_⟩
  have hunarmed : ((s.findUserByEmailHash req.emailHash).bind (·.duressEnforce)).any (·.armed) =
      false := by
    cases hu : s.findUserByEmailHash req.emailHash with
    | none => rfl
    | some u =>
      have hue : u.emailHash = req.emailHash := by simpa using find?_some hu
      exact hinv u (mem_of_find?_eq_some hu) (hue.trans hemail)
  dsimp only
  rw [hunarmed]
  refine idle_bind (haside.checkLoginRate (by simp)) herror fun ipOk => ?_
  refine idle_bind (haside.checkLockout _) herror fun fpOk => ?_
  refine idle_bind (haside.checkAccountUnlessArmed _ _) herror fun accountOk => ?_
  exact iteInduction (fun _ => loginAdmitted_idle _ hemail) fun _ => loginThrottled_idle _ _

/-! ## The count, and the lock -/

variable {n now : Nat}

/-- In the hour that begins at `start`. -/
def WithinHour (start : Nat) (i : Input) : Prop := start ≤ i.now ∧ i.now ≤ start + 60 * 60 * 1000

theorem lockoutEntry_live {now' : Nat} (h : now' ≤ now + max (lockoutMs n) (60 * 60 * 1000)) :
    (lockoutEntry n now).expired now' = false := by
  have hlate : decide (now' > (lockoutEntry n now).expiresAt) = false := by
    simpa [lockoutEntry] using h
  unfold StoreEntry.expired
  rw [hlate, Bool.and_false]

theorem nextFailure_entry {start : Nat} (i j : Input) (n : Nat) (hi : WithinHour start i)
    (hj : WithinHour start j) : nextFailure j.now (some (lockoutEntry n i.now)) = n + 1 := by
  have hlive : (lockoutEntry n i.now).expired j.now = false := by
    obtain ⟨hi, -⟩ := hi
    obtain ⟨-, hj⟩ := hj
    exact lockoutEntry_live (by omega)
  simp only [nextFailure, Option.filter_some, hlive, Bool.not_false, if_true, Option.map_some,
    Option.getD_some]
  rfl

theorem lockoutMs_pos (h : 5 ≤ n) : 0 < lockoutMs n := by
  have hpos : ∀ k, 5 ≤ k → k ≤ 9 → 0 < lockoutScheduleMs.getD k 0 := by decide
  exact hpos _ (by simp only [lockoutScheduleMs, length]; omega)
    (by simp only [lockoutScheduleMs, length]; omega)

theorem checkLockout_locked {key : StoreKey} (hn : 5 ≤ n)
    (hentry : s.stateStore key = some (lockoutEntry n now)) {i : Input}
    (hi : i.now < now + lockoutMs n) :
    (checkLockout key).run (fun _ => i) s = (some (.ok false), s) := by
  have hpos := lockoutMs_pos hn
  have hlive : s.stateStore.live i.now key = some (lockoutEntry n now) := by
    have hfresh : (lockoutEntry n now).expired i.now = false := lockoutEntry_live (by omega)
    rw [live, hentry]
    simp [hfresh]
  refine run_const_section ?_
  dsimp only
  rw [hlive]
  have hlocked : (now + lockoutMs n ≠ 0 && decide (i.now < now + lockoutMs n)) = true := by
    simp only [ne_eq, Bool.and_eq_true, decide_eq_true_eq]
    omega
  simp only [lockoutEntry, Option.map_some, gt_iff_lt, hpos, if_true, hlocked, Bool.not_true]

/-- **The account lockout counts every failure**, if no two requests record theirs at once. The
step `ev` is the last one that records a failure, and `F` are the requests that have failed. -/
theorem account_failures_counted {req : Pid → LoginRequest} {start : Nat}
    {pre post : List (Pid × Input)} {ev : Pid × Input} {F : Finset Pid} {t : Logins}
    (hemail : ∀ p, (req p).emailHash = e) (hduress : Unarmed e s)
    (hfresh : ∀ i, WithinHour start i → s.stateStore.live i.now (.account e) = none)
    (hsuccess : Along step (logins N req s) (pre ++ ev :: post) (accountTally e).Spares)
    (halone : Along step (logins N req s) (pre ++ ev :: post) fun t _ => (accountTally e).Alone t)
    (hhour : Along step (logins N req s) (pre ++ ev :: post)
      ((accountTally e).InTime (WithinHour start)))
    (hev : (accountTally e).AboutToWrite ((run step (logins N req s) pre).procs ev.1))
    (hlast : Along step (run step (logins N req s) (pre ++ [ev])) post (accountTally e).Quiet)
    (ht : run step (logins N req s) (pre ++ ev :: post) = t)
    (hF : ∀ p, p ∈ F ↔ ∃ r, t.outcomes p = some r ∧ verdict r = .failed) (hn : 5 ≤ F.card) :
    (∃ lockedUntil expiresAt, t.shared.stateStore (.account e) =
        some ⟨.lockout F.card lockedUntil, expiresAt⟩) ∧
      ∀ i, i.now < ev.2.now + lockoutScheduleMs.getD (min F.card 9) 0 →
        (checkAccountRate e).run (fun _ => i) t.shared = (some (.ok false), t.shared) := by
  have : Nonempty Input := ⟨ev.2⟩
  have hbegin : (accountTally e).Tallied (WithinHour start) (logins N req s) ∅ none := by
    refine ⟨hduress, fun p => ?_, ⟨rfl, fun j hj => ?_⟩, fun p => .inl (login_idle (hemail p))⟩
    · have hidle : (accountTally e).Idle (login N p (req p)) := login_idle (hemail p)
      simp only [Finset.notMem_empty, false_iff, not_exists, not_and]
      exact fun r hr => hidle.not_counted hr
    · have hnone := hfresh j hj
      unfold live at hnone
      simp only [accountTally, nextFailure, logins, hnone, Option.map_none, Option.getD_none]
  have horderly : Along step (logins N req s) (pre ++ ev :: post)
      ((accountTally e).Orderly (WithinHour start)) := halone.and (hsuccess.and hhour)
  obtain ⟨F', htallied⟩ := tallied_last nextFailure_entry hbegin horderly hev hlast
  rw [ht] at htallied
  have hFF' : F' = F := Finset.ext fun p => (htallied.counted p).trans (hF p).symm
  subst hFF'
  obtain ⟨-, hentry⟩ := htallied.cell
  exact ⟨⟨_, _, hentry⟩, fun i hi => checkLockout_locked hn hentry hi⟩

/-! ## Five wrong passwords -/

/-- Requests that guess, all in the same words. -/
def guesses : Logins :=
  logins symbolicNode (fun _ => symbolicLogin "battery staple".toList)
    (symbolicBackend (symbolicUser ownerPassword) [])

/-- The next `n` sections of each of five requests. -/
def rounds (n : Nat) : List (Pid × Input) :=
  [0, 1, 2, 3, 4].flatMap fun p => replicate n (p, symbolicInput)

theorem mem_rounds {ev : Pid × Input} (h : ev ∈ rounds n) :
    ev.1 ∈ [0, 1, 2, 3, 4] ∧ ev.2 = symbolicInput := by
  obtain ⟨p, hp, hev⟩ := mem_flatMap.mp h
  rw [eq_of_mem_replicate hev]
  exact ⟨hp, rfl⟩

theorem failed_iff {es : List (Pid × Input)} (hes : ∀ ev ∈ es, ev.1 ∈ [0, 1, 2, 3, 4])
    (hfive : ∀ p ∈ [0, 1, 2, 3, 4],
      (run step guesses es).outcomes p = some (.ok invalidCredentials)) (p : Pid) :
    p ∈ ({0, 1, 2, 3, 4} : Finset Pid) ↔
      ∃ r, (run step guesses es).outcomes p = some r ∧ verdict r = .failed := by
  constructor
  · intro hp
    exact ⟨_, hfive p (by simpa using hp), rfl⟩
  · rintro ⟨r, hr, -⟩
    by_contra hp
    have hnot : p ∉ es.map Prod.fst := by
      intro hmem
      obtain ⟨ev, hev, rfl⟩ := mem_map.mp hmem
      exact hp (by simpa using hes ev hev)
    rw [outcomes, run_procs_of_notMem hnot] at hr
    cases hr

/-- The last section of the five. -/
def lastRound : Pid × Input := (4, symbolicInput)

theorem rounds_split : rounds 12 = (rounds 12).dropLast ++ lastRound :: [] := rfl

theorem guesses_serial : Serial (fun _ _ => True) guesses [] (rounds 12) := by
  decide +kernel

theorem guesses_spare : Along step guesses (rounds 12) (accountTally "e1").Spares := by
  decide +kernel

theorem guesses_fail : ∀ p ∈ [0, 1, 2, 3, 4],
    (run step guesses (rounds 12)).outcomes p = some (.ok invalidCredentials) := by
  decide +kernel

set_option maxRecDepth 8000 in
theorem guesses_last : (accountTally "e1").AboutToWrite
    ((run step guesses (rounds 12).dropLast).procs lastRound.1) :=
  .await symbolicInput (symbolicBackend (symbolicUser ownerPassword) []) (by decide) (by decide)

/-- One guess after the other locks the account. -/
theorem account_failures_counted_inOrder :
    (∃ lockedUntil expiresAt, (run step guesses (rounds 12)).shared.stateStore (.account "e1") =
        some ⟨.lockout 5 lockedUntil, expiresAt⟩) ∧
      ∀ i : Input, i.now < 1000000 + 30000 →
        (checkAccountRate "e1").run (fun _ => i) (run step guesses (rounds 12)).shared =
          (some (.ok false), (run step guesses (rounds 12)).shared) := by
  have hidle : ∀ p, (accountTally "e1").Idle (guesses.procs p) := fun p => login_idle rfl
  have halone : Along step guesses (rounds 12) fun t _ => (accountTally "e1").Alone t :=
    guesses_serial.alone (fun _ _ hr => not_aboutToWrite_of_outcome hr)
      fun p _ => (hidle p).not_aboutToWrite
  have hhour : Along step guesses (rounds 12)
      ((accountTally "e1").InTime (WithinHour 1000000)) := by
    intro pre ev post hsplit _
    have hmem : ev ∈ rounds 12 := by
      rw [hsplit]
      simp
    rw [(mem_rounds hmem).2]
    exact ⟨by decide, by decide⟩
  have hduress : Unarmed "e1" (symbolicBackend (symbolicUser ownerPassword) []) := by
    unfold Unarmed
    decide
  have hF := failed_iff (fun ev hev => (mem_rounds hev).1) guesses_fail
  generalize ht : run step guesses (rounds 12) = t at hF ⊢
  have hspare := guesses_spare
  have hlast := guesses_last
  rw [rounds_split] at ht halone hhour hspare
  unfold guesses at ht halone hhour hspare hlast
  exact account_failures_counted (e := "e1") (fun _ => rfl) hduress (fun _ _ => rfl) hspare halone
    hhour hlast (along_nil _) ht hF (by decide)

/-- Five guesses that all read the entry before any of them writes it: each is answered as a
failure, the count is one, and the account is open. -/
theorem overlapping_failures_lost :
    (∀ p, p ∈ ({0, 1, 2, 3, 4} : Finset Pid) ↔
        ∃ r, (run step guesses (rounds 10 ++ rounds 1 ++ rounds 1)).outcomes p = some r ∧
          verdict r = .failed) ∧
      (run step guesses (rounds 10 ++ rounds 1 ++ rounds 1)).shared.stateStore (.account "e1") =
        some ⟨.lockout 1 0, 4600000⟩ ∧
      ((checkAccountRate "e1").run (fun _ => symbolicInput)
        (run step guesses (rounds 10 ++ rounds 1 ++ rounds 1)).shared).1 = some (.ok true) := by
  refine ⟨failed_iff (fun ev hev => ?_) (by decide +kernel), by decide +kernel, by decide +kernel⟩
  simp only [mem_append] at hev
  rcases hev with (hev | hev) | hev <;> exact (mem_rounds hev).1

end PwdNow.Server
