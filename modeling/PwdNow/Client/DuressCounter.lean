import PwdNow.Kit.Run

/-!
# Client — the duress counter

The duress configuration of `web/src/utils/securityModes.ts`: plain JSON in `localStorage`, which
has no dots and so is no token for `readDecryptedLocal`, and a mirror on the server. The mirror is
written after the local copy, and read before it. The sentinel, the lockout configuration and the
policies of daemon and server, which these calls write as well, are not read by them.
-/

namespace PwdNow.Client

open Kit

structure DuressModeConfig where
  armed : Bool
  passwordHash : Option String
  maxAttempts : Nat
  attemptsRemaining : Nat
  salt : String

/-- What the requests of a call come to. One that is not made, for want of a session, fails. -/
structure DuressInput where
  /-- the GET is answered -/
  answered : Bool
  /-- the server stores what is PUT -/
  mirrored : Bool
  uuid : String

/-- The item in `localStorage`, and the mirror. -/
structure DuressCopies where
  item : Option DuressModeConfig
  mirror : Option DuressModeConfig

open DuressCopies

namespace DuressCopies

def getDuressModeConfigFull (i : DuressInput) (s : DuressCopies) :
    DuressModeConfig × DuressCopies :=
  -- an answer replaces the item, and removes it if there is no mirror
  let s := if i.answered then { s with item := s.mirror } else s
  (s.item.getD ⟨false, none, 5, 5, i.uuid⟩, s)

def saveDuressModeConfig (i : DuressInput) (cfg : DuressModeConfig) (s : DuressCopies) :
    DuressCopies :=
  ⟨some cfg, if i.mirrored then some cfg else s.mirror⟩

def armDuressMode (i : DuressInput) (phc salt : String) (maxAttempts : Nat) (s : DuressCopies) :
    DuressCopies :=
  s.saveDuressModeConfig i ⟨true, some phc, maxAttempts, maxAttempts, salt⟩

/-- Returns whether a wipe is triggered. -/
def recordFailedLoginAttempt (i : DuressInput) (s : DuressCopies) : Bool × DuressCopies :=
  let (cfg, s) := s.getDuressModeConfigFull i
  if !cfg.armed then (false, s)
  else
    let cfg := { cfg with attemptsRemaining := cfg.attemptsRemaining - 1 }
    (cfg.attemptsRemaining = 0, s.saveDuressModeConfig i cfg)

def resetLoginAttempts (i : DuressInput) (s : DuressCopies) : DuressCopies :=
  let (cfg, s) := s.getDuressModeConfigFull i
  if cfg.armed then s.saveDuressModeConfig i { cfg with attemptsRemaining := cfg.maxAttempts } else s

end DuressCopies

inductive DuressCall where
  | arm (phc salt : String) (maxAttempts : Nat)
  | fail
  | reset

/-- The copies; and since the last arming or reset, the threshold and the failures so far. -/
def duressStep (x : DuressCopies × Option (Nat × Nat)) :
    DuressInput × DuressCall → DuressCopies × Option (Nat × Nat)
  | (i, .arm phc salt m) => (x.1.armDuressMode i phc salt m, some (m, 0))
  | (i, .fail) => ((x.1.recordFailedLoginAttempt i).2, x.2.map fun t => (t.1, t.2 + 1))
  | (i, .reset) => (x.1.resetLoginAttempts i, x.2.map fun t => (t.1, 0))

/-- Where the server answers, its copy is the local one. -/
def MirrorCurrent (x : DuressCopies × Option (Nat × Nat)) : DuressInput × DuressCall → Prop
  | (_, .arm ..) => True
  | (i, _) => i.answered → x.1.mirror = x.1.item

/-- The item counts down. -/
def CountsDown (x : DuressCopies × Option (Nat × Nat)) : Prop :=
  ∀ t ∈ x.2, ∃ cfg, x.1.item = some cfg ∧ cfg.armed = true ∧ cfg.maxAttempts = t.1 ∧
    cfg.attemptsRemaining = t.1 - t.2

variable {s : DuressCopies} {i : DuressInput} {cfg : DuressModeConfig}

theorem getDuressModeConfigFull_of_current (h : i.answered → s.mirror = s.item)
    (hs : s.item = some cfg) : s.getDuressModeConfigFull i = (cfg, s) := by
  have hs' : (if i.answered then { s with item := s.mirror } else s) = s := by
    split_ifs with hi
    · exact congrArg (mk · s.mirror) (h hi)
    · rfl
  simp [getDuressModeConfigFull, hs', hs]

theorem countsDown_step {x : DuressCopies × Option (Nat × Nat)} {call : DuressInput × DuressCall}
    (hcurrent : MirrorCurrent x call) (h : CountsDown x) : CountsDown (duressStep x call) := by
  obtain ⟨i, arm | fail | reset⟩ := call
  · rintro t ⟨⟩
    exact ⟨_, rfl, rfl, rfl, rfl⟩
  all_goals
    intro t ht
    obtain ⟨t, hx, rfl⟩ := Option.map_eq_some_iff.mp ht
    obtain ⟨cfg, hitem, harmed, hmax, hleft⟩ := h t hx
    have hget := getDuressModeConfigFull_of_current hcurrent hitem
  · refine ⟨{ cfg with attemptsRemaining := cfg.attemptsRemaining - 1 }, ?_, harmed, hmax, ?_⟩
    · simp [duressStep, recordFailedLoginAttempt, hget, harmed, saveDuressModeConfig]
    · simp only [hleft]
      omega
  · refine ⟨{ cfg with attemptsRemaining := cfg.maxAttempts }, ?_, harmed, hmax, hmax⟩
    simp [duressStep, resetLoginAttempts, hget, harmed, saveDuressModeConfig]

/-- **A wipe is triggered at the threshold**, and at no failure before it, in every run in which an
answer of the server finds the mirror current. -/
theorem duress_fires_at_threshold {calls before after : List (DuressInput × DuressCall)}
    (hcurrent : Along duressStep (s, none) calls MirrorCurrent)
    (hcalls : calls = before ++ (i, .fail) :: after) {m f : Nat}
    (hsince : (run duressStep (s, none) before).2 = some (m, f)) :
    ((run duressStep (s, none) before).1.recordFailedLoginAttempt i).1 = decide (m ≤ f + 1) := by
  have hcounts : CountsDown (run duressStep (s, none) before) :=
    Visits.invariant (fun t ht => by cases ht) hcurrent (fun _ _ _ => countsDown_step)
      ⟨before, ⟨_, hcalls.symm⟩, rfl⟩
  obtain ⟨cfg, hitem, harmed, -, hleft⟩ := hcounts (m, f) hsince
  have hget := getDuressModeConfigFull_of_current (hcurrent _ _ _ hcalls) hitem
  simp only [recordFailedLoginAttempt, hget, harmed, hleft, Bool.not_true,
    Bool.false_eq_true, if_false]
  exact decide_eq_decide.mpr (by omega)

/-- Armed for two failures, of which the server misses the first if it is not `mirrored`. -/
def twoFailures (mirrored : Bool) : List (DuressInput × DuressCall) :=
  [(⟨true, true, ""⟩, .arm "phc" "salt" 2), (⟨true, mirrored, ""⟩, .fail)]

theorem duress_fires_at_threshold_two :
    ((run duressStep (⟨none, none⟩, none) (twoFailures true)).1.recordFailedLoginAttempt
      ⟨true, true, ""⟩).1 = true := by
  have hcurrent : Along duressStep (⟨none, none⟩, none)
      (twoFailures true ++ [(⟨true, true, ""⟩, .fail)]) MirrorCurrent :=
    along_cons trivial (along_cons (fun _ => rfl) (along_cons (fun _ => rfl) (along_nil _)))
  exact duress_fires_at_threshold hcurrent rfl rfl

/-- **A failure is forgotten** if the server misses it: the mirror brings back the older count. -/
theorem duress_mirror_outlives_count :
    (run duressStep (⟨none, none⟩, none) (twoFailures false)).2 = some (2, 1) ∧
      ((run duressStep (⟨none, none⟩, none) (twoFailures false)).1.recordFailedLoginAttempt
        ⟨true, true, ""⟩).1 = false := by
  decide

end PwdNow.Client
