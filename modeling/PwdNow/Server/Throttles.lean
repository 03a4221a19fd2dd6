import PwdNow.Server.Symbolic

/-!
# Server — throttles over time

`checkLoginRate` (`web/lib/rateLimiter.js`) counts the logins from an address with a counter that
expires five minutes after it was begun, whenever the logins came. The codes that confirm an address
(`web/routes/auth/mfa.js`) are throttled by an entry of `_setupOtps` that a verification may delete.
-/

namespace PwdNow.Server

open Kit List

/-! ## Logins from one address -/

/-- What a call of `checkLoginRate` from an address leaves. -/
def rateStep (s : Backend) (call : String × Input) : Backend :=
  ((checkLoginRate call.1).run (fun _ => call.2) s).2

def rateAnswer (s : Backend) (call : String × Input) : Bool :=
  match ((checkLoginRate call.1).run (fun _ => call.2) s).1 with
  | some (.ok passed) => passed
  | _ => false

/-- The call is from the address, in the five minutes from `start` on. -/
def InWindow (ip : String) (start : Nat) (call : String × Input) : Prop :=
  call.1 = ip ∧ start ≤ call.2.now ∧ call.2.now ≤ start + loginWindowMs

instance (ip : String) (start : Nat) (call : String × Input) : Decidable (InWindow ip start call) :=
  inferInstanceAs (Decidable (_ ∧ _))

/-- How many calls in the window returned `true`. -/
def passedIn (ip : String) (start : Nat) : Backend → List (String × Input) → Nat
  | _, [] => 0
  | s, call :: rest =>
    (if InWindow ip start call ∧ rateAnswer s call then 1 else 0) +
      passedIn ip start (rateStep s call) rest

/-- A call in the window finds the counter of an earlier one. -/
def GoesOn (ip : String) (start : Nat) (s : Backend) (call : String × Input) : Prop :=
  InWindow ip start call → (s.stateStore.live call.2.now (.login ip)).isSome

/-- No counter is begun in the window, except by its first call. -/
def OneCounter (ip : String) (start : Nat) : Backend → List (String × Input) → Prop
  | _, [] => True
  | s, call :: rest =>
    if InWindow ip start call then Along rateStep (rateStep s call) rest (GoesOn ip start)
    else OneCounter ip start (rateStep s call) rest

variable {ip : String} {start : Nat} {s : Backend} {calls : List (String × Input)}

/-- The calls counted under the entry of the address. -/
def counted (ip : String) (s : Backend) : Nat :=
  ((s.stateStore (.login ip)).map (·.value.toNumber)).getD 0

theorem counted_rateStep_other {call : String × Input} (h : call.1 ≠ ip) :
    counted ip (rateStep s call) = counted ip s := by
  have hkey : StoreKey.login ip ≠ .login call.1 := fun heq => h (StoreKey.login.inj heq).symm
  have hentry : (rateStep s call).stateStore (.login ip) = s.stateStore (.login ip) := by
    show (s.stateStore.incrExpire call.2.now (.login call.1) loginWindowMs).2 (.login ip) = _
    unfold StateStore.incrExpire
    split <;> exact Function.update_of_ne hkey _ _
  rw [counted, hentry, counted]

/-- **A call** counts one, and passes if that is within the limit. -/
theorem rateStep_counts (i : Input) :
    ∃ n, counted ip (rateStep s (ip, i)) = n + 1 ∧
      rateAnswer s (ip, i) = decide (n + 1 ≤ loginMaxPerWindow) ∧
      ((s.stateStore.live i.now (.login ip)).isSome → n = counted ip s) := by
  have hanswer : rateAnswer s (ip, i) =
      decide ((s.stateStore.incrExpire i.now (.login ip) loginWindowMs).1 ≤ loginMaxPerWindow) := rfl
  have hcount : counted ip (rateStep s (ip, i)) =
      (((s.stateStore.incrExpire i.now (.login ip) loginWindowMs).2 (.login ip)).map
        (·.value.toNumber)).getD 0 := rfl
  rw [hanswer, hcount, StateStore.incrExpire]
  cases hlive : s.stateStore.live i.now (.login ip) with
  | none => exact ⟨0, by simp [StateStore.set, StoreValue.toNumber], rfl, by simp⟩
  | some e =>
    have hentry : s.stateStore (.login ip) = some e := (Option.filter_eq_some_iff.mp hlive).1
    exact ⟨e.value.toNumber, by simp [StoreValue.toNumber], rfl, fun _ => by simp [counted, hentry]⟩

theorem passedIn_of_late (h : ∀ call ∈ calls, start + loginWindowMs < call.2.now) :
    passedIn ip start s calls = 0 := by
  induction calls generalizing s with
  | nil => rfl
  | cons call rest ih =>
    obtain ⟨hcall, hrest⟩ := forall_mem_cons.mp h
    have hout : ¬ InWindow ip start call := fun hin => absurd hin.2.2 (Nat.not_le_of_lt hcall)
    simp [passedIn, hout, ih hrest]

/-- **While one counter lasts**, no more pass than it leaves room for. -/
theorem passedIn_of_goesOn (hsorted : calls.Pairwise fun a b => a.2.now ≤ b.2.now)
    (hlater : ∀ call ∈ calls, start ≤ call.2.now) (h : Along rateStep s calls (GoesOn ip start)) :
    passedIn ip start s calls ≤ loginMaxPerWindow - counted ip s := by
  induction calls generalizing s with
  | nil => exact Nat.zero_le _
  | cons call rest ih =>
    obtain ⟨hgoesOn, hrest⟩ := along_cons_iff.mp h
    obtain ⟨hfirst, hsorted⟩ := pairwise_cons.mp hsorted
    obtain ⟨hstart, hlater⟩ := forall_mem_cons.mp hlater
    by_cases hlate : start + loginWindowMs < call.2.now
    · -- the window is over
      rw [passedIn_of_late (forall_mem_cons.mpr ⟨hlate, fun b hb => hlate.trans_le (hfirst b hb)⟩)]
      exact Nat.zero_le _
    · have hrest := ih hsorted hlater hrest
      rw [passedIn]
      by_cases hip : call.1 = ip
      · have hin : InWindow ip start call := ⟨hip, hstart, Nat.le_of_not_lt hlate⟩
        obtain ⟨i, rfl⟩ : ∃ i, call = (ip, i) := ⟨call.2, Prod.ext hip rfl⟩
        obtain ⟨n, hcount, hanswer, hn⟩ := rateStep_counts i
        obtain rfl := hn (hgoesOn hin)
        rw [hcount] at hrest
        simp only [hin, hanswer, true_and, decide_eq_true_eq]
        split_ifs <;> omega
      · rw [counted_rateStep_other hip] at hrest
        have hout : ¬ InWindow ip start call := fun hin => hip hin.1
        simp only [hout, false_and, if_false]
        omega

/-- **A limit over one counter.** At most ten logins from an address pass in five minutes in which
only the first may begin a counter. -/
theorem loginRate_of_oneCounter (hsorted : calls.Pairwise fun a b => a.2.now ≤ b.2.now)
    (h : OneCounter ip start s calls) : passedIn ip start s calls ≤ loginMaxPerWindow := by
  induction calls generalizing s with
  | nil => exact Nat.zero_le _
  | cons call rest ih =>
    obtain ⟨hfirst, hsorted⟩ := pairwise_cons.mp hsorted
    rw [OneCounter] at h
    rw [passedIn]
    by_cases hin : InWindow ip start call
    · rw [if_pos hin] at h
      have hrest := passedIn_of_goesOn hsorted (fun b hb => hin.2.1.trans (hfirst b hb)) h
      obtain ⟨i, rfl⟩ : ∃ i, call = (ip, i) := ⟨call.2, Prod.ext hin.1 rfl⟩
      obtain ⟨n, hcount, hanswer, -⟩ := rateStep_counts i
      rw [hcount] at hrest
      simp only [hin, hanswer, true_and, decide_eq_true_eq]
      split_ifs <;> omega
    · rw [if_neg hin] at h
      simp only [hin, false_and, if_false]
      have hrest := ih hsorted h
      omega

/-- `n` logins from one address at a time. -/
def loginsAt (now n : Nat) : List (String × Input) :=
  replicate n ("10.0.0.1", { symbolicInput with now := now })

theorem loginRate_of_oneCounter_two :
    passedIn "10.0.0.1" 0 (symbolicBackend (symbolicUser []) []) (loginsAt 0 2) ≤ 10 := by
  refine loginRate_of_oneCounter (by decide) ((if_pos (by decide)).mpr ?_)
  exact along_cons (fun _ => rfl) (along_nil _)

/-- **Nineteen logins within a millisecond**: nine under a counter that expires, ten under the
next. -/
theorem loginRate_exceeded :
    (loginsAt 0 1 ++ loginsAt 300000 9 ++ loginsAt 300001 10).Pairwise
        (fun a b => a.2.now ≤ b.2.now) ∧
      passedIn "10.0.0.1" 300000 (symbolicBackend (symbolicUser []) [])
        (loginsAt 0 1 ++ loginsAt 300000 9 ++ loginsAt 300001 10) = 19 := by
  decide +kernel

/-! ## Codes that confirm an address -/

/-- The entry of a user in `_setupOtps`. -/
structure SetupOtp where
  code : Text
  email : Text
  expires : Nat
  attempts : Nat
  sendCount : Nat
  windowStart : Nat
  lastSentAt : Nat

def setupOtpMaxAttempts : Nat := 3

inductive SetupRequest where
  /-- `send-setup-otp`, with the number that is drawn. -/
  | send (toEmail : Text) (draw now : Nat)
  /-- `verify-setup-otp` -/
  | verify (code : Text) (now : Nat)

/-- What an attacker counts. -/
inductive SetupEvent where
  | sent (now : Nat)
  | compared

/-- `send-setup-otp`, behind the checks of its caller: the entry, and whether a code goes out. -/
def sendSetupOtp (toEmail : Text) (draw now : Nat) (prev : Option SetupOtp) :
    Option SetupOtp × List SetupEvent :=
  if !toEmail.contains '@' || toEmail.length > 320 then (prev, [])
  -- `lastSentAt` is a time, and so truthy
  else if prev.any fun e => now < e.lastSentAt + 30000 then (prev, [])
  else
    let current := prev.filter fun e => now ≤ e.windowStart + 600000
    let sendCount := (current.map (·.sendCount)).getD 0
    if sendCount ≥ 5 then (prev, [])
    else
      (some ⟨otpCode draw, toEmail, now + 300000, 0, sendCount + 1,
        (current.map (·.windowStart)).getD now, now⟩, [.sent now])

/-- `text.padEnd(6, ' ')`. -/
def padEnd (t : Text) : Text := t ++ replicate (6 - t.length) ' '

def verifySetupOtp (code : Text) (now : Nat) : Option SetupOtp → Option SetupOtp × List SetupEvent
  | none => (none, [])
  | some e =>
    if now > e.expires then (none, [])
    else if padEnd (code.filter fun c => !isSpace c) = padEnd e.code then (none, [.compared])
    else if e.attempts + 1 ≥ setupOtpMaxAttempts then (none, [.compared])
    else (some { e with attempts := e.attempts + 1 }, [.compared])

def SetupRequest.serve (entry : Option SetupOtp) : SetupRequest → Option SetupOtp × List SetupEvent
  | send toEmail draw now => sendSetupOtp toEmail draw now entry
  | verify code now => verifySetupOtp code now entry

/-- All that happens in a run of requests. -/
def setupTrace : Option SetupOtp → List SetupRequest → List SetupEvent
  | _, [] => []
  | entry, req :: rest => (req.serve entry).2 ++ setupTrace (req.serve entry).1 rest

/-- When codes were sent. -/
def sendTimes (trace : List SetupEvent) : List Nat :=
  trace.filterMap fun
    | .sent now => some now
    | .compared => none

/-- At most five in the ten minutes from a first one on; a later one is the first of the next ten.
The argument is when the current ten minutes began, and how many there were since. -/
def WithinBudget : Option (Nat × Nat) → List Nat → Prop
  | _, [] => True
  | none, t :: rest => WithinBudget (some (t, 1)) rest
  | some (start, n), t :: rest =>
    if start + 600000 < t then WithinBudget (some (t, 1)) rest
    else n < 5 ∧ WithinBudget (some (start, n + 1)) rest

/-- How many submissions were compared before the first code, and with each code. -/
def submissions : List SetupEvent → Nat × List Nat
  | [] => (0, [])
  | .sent _ :: rest => (0, (submissions rest).1 :: (submissions rest).2)
  | .compared :: rest => ((submissions rest).1 + 1, (submissions rest).2)

variable {entry : Option SetupOtp} {requests : List SetupRequest}

/-- What `WithinBudget` has to know of an entry. -/
def SetupOtp.window (e : SetupOtp) : Nat × Nat := (e.windowStart, e.sendCount)

/-- **A request for a code** is refused, or keeps to both limits. -/
theorem sendSetupOtp_cases (toEmail : Text) (draw now : Nat) (prev : Option SetupOtp) :
    sendSetupOtp toEmail draw now prev = (prev, []) ∨
      ∃ e, sendSetupOtp toEmail draw now prev = (some e, [.sent now]) ∧ e.attempts = 0 ∧
        e.lastSentAt = now ∧ (∀ p ∈ prev, p.lastSentAt + 30000 ≤ now) ∧
        ∀ rest, WithinBudget (some e.window) rest →
          WithinBudget (prev.map (·.window)) (now :: rest) := by
  unfold sendSetupOtp
  split
  · exact .inl rfl
  split
  · exact .inl rfl
  dsimp only
  split
  · exact .inl rfl
  · next hsoon hspent =>
    refine .inr ⟨_, rfl, rfl, rfl, by rintro p rfl; simpa using hsoon, fun rest hrest => ?_⟩
    cases prev with
    | none => exact hrest
    | some p =>
      rw [Option.map_some, SetupOtp.window, WithinBudget]
      by_cases hold : now ≤ p.windowStart + 600000
      · rw [if_neg (Nat.not_lt.mpr hold)]
        simpa [Option.filter, hold, SetupOtp.window] using And.intro hspent hrest
      · rw [if_pos (Nat.lt_of_not_le hold)]
        simpa [Option.filter, hold, SetupOtp.window] using hrest

/-- The submissions that an entry leaves. -/
def submissionsLeft : Option SetupOtp → Nat
  | none => 0
  | some e => max 1 (setupOtpMaxAttempts - e.attempts)

/-- **A verification** takes a guess, and the entry goes or counts it. -/
theorem verifySetupOtp_cases (code : Text) (now : Nat) (entry : Option SetupOtp) :
    verifySetupOtp code now entry = (none, []) ∨
      ∃ e ∈ entry, verifySetupOtp code now entry = (none, [.compared]) ∨
        (e.attempts + 1 < setupOtpMaxAttempts ∧ verifySetupOtp code now entry =
          (some { e with attempts := e.attempts + 1 }, [.compared])) := by
  cases entry with
  | none => exact .inl rfl
  | some e =>
    unfold verifySetupOtp
    dsimp only
    split_ifs with _ _ hspent
    · exact .inl rfl
    · exact .inr ⟨e, rfl, .inl rfl⟩
    · exact .inr ⟨e, rfl, .inl rfl⟩
    · exact .inr ⟨e, rfl, .inr ⟨Nat.lt_of_not_le hspent, rfl⟩⟩

/-- **Guesses** are counted whatever deletes the entry. -/
theorem submissions_le (entry : Option SetupOtp) (requests : List SetupRequest) :
    (submissions (setupTrace entry requests)).1 ≤ submissionsLeft entry ∧
      ∀ n ∈ (submissions (setupTrace entry requests)).2, n ≤ setupOtpMaxAttempts := by
  induction requests generalizing entry with
  | nil => simp [setupTrace, submissions]
  | cons req rest ih =>
    rw [setupTrace]
    have hnone : (submissions (setupTrace none rest)).1 = 0 := Nat.le_zero.mp (ih none).1
    cases req with
    | send toEmail draw now =>
      rcases sendSetupOtp_cases toEmail draw now entry with hrun | ⟨e, hrun, hattempts, -⟩ <;>
        rw [SetupRequest.serve, hrun]
      · exact ih entry
      · have hle := (ih (some e)).1
        rw [submissionsLeft, hattempts] at hle
        exact ⟨Nat.zero_le _, forall_mem_cons.mpr ⟨hle, (ih _).2⟩⟩
    | verify code now =>
      rcases verifySetupOtp_cases code now entry with
        hrun | ⟨e, rfl, hrun | ⟨hleft, hrun⟩⟩ <;> rw [SetupRequest.serve, hrun]
      · exact ⟨hnone.trans_le (Nat.zero_le _), (ih none).2⟩
      · refine ⟨?_, (ih none).2⟩
        simp [submissions, hnone, submissionsLeft]
      · refine ⟨(Nat.succ_le_succ (ih _).1).trans ?_, (ih _).2⟩
        simp only [submissionsLeft]
        omega

/-- The request does not delete the entry. -/
def KeepsEntry (entry : Option SetupOtp) (req : SetupRequest) : Prop :=
  entry.isSome → (req.serve entry).1.isSome

/-- **Sends** are throttled by an entry that stays. -/
theorem sends_throttled (h : Along (fun entry req => (req.serve entry).1) entry requests KeepsEntry) :
    (∀ t ∈ sendTimes (setupTrace entry requests), ∀ e ∈ entry, e.lastSentAt + 30000 ≤ t) ∧
      (sendTimes (setupTrace entry requests)).Pairwise (fun a b => a + 30000 ≤ b) ∧
      WithinBudget (entry.map (·.window)) (sendTimes (setupTrace entry requests)) := by
  induction requests generalizing entry with
  | nil => simp [setupTrace, sendTimes, WithinBudget]
  | cons req rest ih =>
    obtain ⟨hkeeps, hrest⟩ := along_cons_iff.mp h
    specialize ih hrest
    rw [setupTrace]
    cases req with
    | send toEmail draw now =>
      rcases sendSetupOtp_cases toEmail draw now entry with
        hrun | ⟨e, hrun, -, rfl, hwaited, hbudget⟩ <;> rw [SetupRequest.serve, hrun] at ih ⊢
      · exact ih
      · obtain ⟨hafter, hspaced, hwithin⟩ := ih
        refine ⟨forall_mem_cons.mpr ⟨hwaited, fun t ht p hp => ?_⟩,
          pairwise_cons.mpr ⟨fun t ht => hafter t ht e rfl, hspaced⟩, hbudget _ hwithin⟩
        have := hwaited p hp
        have := hafter t ht e rfl
        omega
    | verify code now =>
      rcases verifySetupOtp_cases code now entry with hrun | ⟨e, rfl, hrun | ⟨-, hrun⟩⟩ <;>
        rw [KeepsEntry, SetupRequest.serve, hrun] at hkeeps <;>
        rw [SetupRequest.serve, hrun] at ih ⊢
      · cases entry with
        | none => exact ih
        | some e => cases hkeeps rfl
      · cases hkeeps rfl
      · refine ⟨fun t ht p hp => ?_, ih.2⟩
        cases hp
        exact ih.1 t ht { e with attempts := e.attempts + 1 } rfl

/-- **Codes are throttled.** Each is compared with three submissions at most, and none was compared
before the first; and as long as no verification deletes the entry, any two are half a minute apart
and there are at most five in ten minutes. -/
theorem setupCodes_throttled (requests : List SetupRequest) :
    (submissions (setupTrace none requests)).1 = 0 ∧
      (∀ n ∈ (submissions (setupTrace none requests)).2, n ≤ setupOtpMaxAttempts) ∧
      (Along (fun entry req => (req.serve entry).1) none requests KeepsEntry →
        (sendTimes (setupTrace none requests)).Pairwise (fun a b => a + 30000 ≤ b) ∧
          WithinBudget none (sendTimes (setupTrace none requests))) :=
  ⟨Nat.le_zero.mp (submissions_le none requests).1, (submissions_le none requests).2,
    fun h => (sends_throttled h).2⟩

/-- A code is sent, guessed wrong until the entry is gone, and sent again, six times. -/
def guessAndResend : List SetupRequest :=
  (range 6).flatMap fun k =>
    .send "a@b".toList 7 (1000 * k) :: replicate 3 (.verify "1".toList (1000 * k))

/-- **Six codes in six seconds.** -/
theorem setupCodes_unthrottled :
    sendTimes (setupTrace none guessAndResend) = [0, 1000, 2000, 3000, 4000, 5000] ∧
      ¬ (sendTimes (setupTrace none guessAndResend)).Pairwise (fun a b => a + 30000 ≤ b) ∧
      ¬ WithinBudget none (sendTimes (setupTrace none guessAndResend)) := by
  have htimes : sendTimes (setupTrace none guessAndResend) = [0, 1000, 2000, 3000, 4000, 5000] := by
    decide +kernel
  rw [htimes]
  refine ⟨rfl, by decide, ?_⟩
  simp [WithinBudget]

end PwdNow.Server
