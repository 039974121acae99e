import GracefulDrain.Drain.Settings

namespace GracefulDrain

inductive Outcome
  /-- Nothing is in flight and no load balancer may send anything more. -/
  | quiet
  | timedOut (inflight : UInt32) (lbActive : Bool)
  deriving DecidableEq, Repr

def Outcome.error? : Outcome → Option DrainError
  | quiet => none
  | timedOut inflight lbActive => some (.timeout inflight lbActive)

/-- What a look at the service shows. -/
structure Observation where
  inflight : UInt32
  lbActive : Bool
  deriving DecidableEq, Repr

def Observation.isQuiet (o : Observation) : Bool := o.inflight = 0 && !o.lbActive

inductive Stop
  /-- Begun at an instant and at a clock reading, with this many looks taken so far. -/
  | waiting (begun reading looks : Nat)
  | ended (instant : Nat) (outcome : Outcome)
  deriving DecidableEq, Repr

namespace Stop

def nextLook (settings : DrainSettings) (begun looks : Nat) : Nat :=
  begun + looks * settings.pollInterval

def deadline (settings : DrainSettings) (begun : Nat) : Nat := begun + settings.shutdownTimeout

def wake? (settings : DrainSettings) : Stop → Option Nat
  | waiting begun _ looks => some (min (nextLook settings begun looks) (deadline settings begun))
  | ended _ _ => none

def expires (settings : DrainSettings) (now : Nat) : Stop → Bool
  | waiting begun _ _ => deadline settings begun ≤ now
  | ended _ _ => false

/-- A look is due and the time limit not yet reached. -/
def looks (settings : DrainSettings) (now : Nat) : Stop → Bool
  | waiting begun _ looks => nextLook settings begun looks ≤ now && now < deadline settings begun
  | ended _ _ => false

/-- What an instant makes of a stop, given what a look shows. The time limit comes first. -/
def settle (settings : DrainSettings) (now : Nat) (seen : Observation) : Stop → Stop
  | waiting begun reading looks =>
    if deadline settings begun ≤ now then ended now (.timedOut seen.inflight seen.lbActive)
    else if nextLook settings begun looks ≤ now then
      if seen.isQuiet then ended now .quiet else waiting begun reading (looks + 1)
    else waiting begun reading looks
  | ended instant outcome => ended instant outcome

/-- How long the stop has taken at a clock reading; a clock that went back counts as no time. -/
def elapsed (now : Nat) : Stop → Nat
  | waiting _ reading _ => now - reading
  | ended _ _ => 0

def isEnded : Stop → Bool
  | waiting _ _ _ => false
  | ended _ _ => true

/-- After it has settled at an instant, a stop has nothing due up to then. -/
theorem lt_wake?_settle {settings : DrainSettings} (valid : settings.Valid) {now w : Nat}
    {seen : Observation} {s : Stop} (hs : ∀ w₀, s.wake? settings = some w₀ → w ≤ w₀) (hw : w ≤ now)
    {w' : Nat} (h : (s.settle settings now seen).wake? settings = some w') : w < w' := by
  have hp := valid.pollInterval_pos
  cases s with
  | ended => simp [settle, wake?] at h
  | waiting begun reading looks =>
    have h₀ := hs _ rfl
    have hmul : (looks + 1) * settings.pollInterval =
      looks * settings.pollInterval + settings.pollInterval := Nat.succ_mul _ _
    simp only [nextLook, deadline] at h₀
    by_cases hd : begun + settings.shutdownTimeout ≤ now
    · simp [settle, deadline, hd, wake?] at h
    · by_cases hl : begun + looks * settings.pollInterval ≤ now
      · by_cases hq : seen.isQuiet = true
        · simp [settle, deadline, nextLook, hd, hl, hq, wake?] at h
        · simp only [settle, deadline, nextLook, hd, hl, hq, wake?, if_true, if_false,
            Option.some.injEq, Bool.false_eq_true] at h
          omega
      · simp only [settle, deadline, nextLook, hd, hl, wake?, if_false, Option.some.injEq] at h
        omega

end Stop

end GracefulDrain
