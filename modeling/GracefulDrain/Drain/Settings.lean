import GracefulDrain.Drain.Error
import GracefulDrain.Text.Quoted
import GracefulDrain.Time.Clock

/-! The path of the health endpoint and three durations in nanoseconds. `fault?` names the first
rule that the settings break; settings without a fault are `Valid`, and only those make a
coordinator. -/
namespace GracefulDrain

structure DrainSettings where
  path : String
  /-- Hard limit on a stop. -/
  shutdownTimeout : Nat
  /-- Delay between two looks at whether the service is quiet. -/
  pollInterval : Nat
  /-- How long every load balancer must have been told "not ready". -/
  quiescenceWindow : Nat
  deriving DecidableEq, Repr

/-- The durations, in the order in which they are checked. -/
inductive DurationName
  | shutdownTimeout
  | pollInterval
  | quiescenceWindow
  deriving DecidableEq, Repr

def DurationName.text : DurationName → String
  | shutdownTimeout => "shutdown_timeout"
  | pollInterval => "poll_interval"
  | quiescenceWindow => "quiescence_window"

/-- A rule that settings break. -/
inductive SettingsFault
  | relativePath (path : String)
  | notPositive (name : DurationName)
  | pollNotShorter
  deriving DecidableEq, Repr

namespace SettingsFault

def message : SettingsFault → String
  | relativePath path => "path must start with '/': " ++ Text.quoted path
  | notPositive name => name.text ++ " must be positive"
  | pollNotShorter => "poll_interval must be shorter than shutdown_timeout"

def error (f : SettingsFault) : DrainError := .invalidConfig f.message

end SettingsFault

namespace DrainSettings

def default : DrainSettings where
  path := "/status.txt"
  shutdownTimeout := Nanos.ofMillis 180000
  pollInterval := Nanos.ofMillis 1000
  quiescenceWindow := Nanos.ofMillis 15000

/-- The path is absolute, no duration is zero, and there is time to look again before the limit. -/
structure Valid (s : DrainSettings) : Prop where
  absolute : s.path.toList.head? = some '/'
  shutdownTimeout_pos : 0 < s.shutdownTimeout
  pollInterval_pos : 0 < s.pollInterval
  quiescenceWindow_pos : 0 < s.quiescenceWindow
  pollInterval_lt : s.pollInterval < s.shutdownTimeout

def fault? (s : DrainSettings) : Option SettingsFault :=
  if s.path.toList.head? ≠ some '/' then some (.relativePath s.path)
  else if s.shutdownTimeout = 0 then some (.notPositive .shutdownTimeout)
  else if s.pollInterval = 0 then some (.notPositive .pollInterval)
  else if s.quiescenceWindow = 0 then some (.notPositive .quiescenceWindow)
  else if s.shutdownTimeout ≤ s.pollInterval then some .pollNotShorter
  else none

theorem fault?_eq_none_iff {s : DrainSettings} : s.fault? = none ↔ s.Valid := by
  unfold fault?
  constructor
  · intro h
    split at h
    · cases h
    · split at h
      · cases h
      · split at h
        · cases h
        · split at h
          · cases h
          · split at h
            · cases h
            · constructor <;> first | omega | simp_all
  · intro h
    have := h.shutdownTimeout_pos
    have := h.pollInterval_pos
    have := h.quiescenceWindow_pos
    have := h.pollInterval_lt
    rw [if_neg (by simp [h.absolute]), if_neg (by omega), if_neg (by omega), if_neg (by omega),
      if_neg (by omega)]

instance (s : DrainSettings) : Decidable s.Valid :=
  decidable_of_iff (s.fault? = none) fault?_eq_none_iff

end DrainSettings

end GracefulDrain
