import GracefulDrain.Config.AppConfig
import GracefulDrain.Drain.Coordinator

namespace GracefulDrain

/-- Always ready, for services that are not behind a load balancer. -/
structure SimpleHealth where
  path : String
  phase : Phase
  deriving DecidableEq, Repr

namespace SimpleHealth

def create (path : String) : SimpleHealth := ⟨path, .init⟩

def start (h : SimpleHealth) : SimpleHealth :=
  { h with phase := if h.phase = .init then .ready else h.phase }

def stop (h : SimpleHealth) : SimpleHealth := { h with phase := .done }

end SimpleHealth

inductive Policy
  | drain (c : Coordinator)
  | simple (h : SimpleHealth)
  deriving DecidableEq, Repr

namespace Policy

def ofHealth (config : HealthConfig) (clock : ClockSource) : Except SettingsFault Policy := do
  let coordinator ← Coordinator.create config.drainSettings clock
  match config.mode with
  | .drain => return .drain coordinator
  | .simple => return .simple (.create config.path)

def name : Policy → String
  | drain _ => "drain"
  | simple _ => "simple"

def path : Policy → String
  | drain c => c.settings.path
  | simple h => h.path

def phase : Policy → Phase
  | drain c => c.phase
  | simple h => h.phase

def coordinator? : Policy → Option Coordinator
  | drain c => some c
  | simple _ => none

end Policy

end GracefulDrain
