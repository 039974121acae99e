import GracefulDrain.Drain.Settings
import GracefulDrain.Net.Address

namespace GracefulDrain

inductive HealthMode
  | drain
  | simple
  deriving DecidableEq, Repr

def HealthMode.name : HealthMode → String
  | drain => "drain"
  | simple => "simple"

def HealthMode.ofName? : String → Option HealthMode
  | "drain" => some drain
  | "simple" => some simple
  | _ => none

theorem HealthMode.ofName?_name (m : HealthMode) : ofName? m.name = some m := by
  cases m <;> rfl

structure ServerConfig where
  host : Net.Address
  port : UInt16
  deriving DecidableEq, Repr

structure HealthConfig where
  mode : HealthMode
  path : String
  shutdownTimeoutMs : UInt64
  pollIntervalMs : UInt64
  quiescenceWindowMs : UInt64
  deriving DecidableEq, Repr

structure ObservabilityConfig where
  logLevel : String
  logFormat : String
  metricsEnabled : Bool
  metricsPath : String
  deriving DecidableEq, Repr

structure AppConfig where
  server : ServerConfig
  health : HealthConfig
  observability : ObservabilityConfig
  deriving DecidableEq, Repr

def ServerConfig.default : ServerConfig := ⟨.v4 ⟨0, 0, 0, 0⟩, 8080⟩

def HealthConfig.default : HealthConfig := ⟨.drain, "/status.txt", 180000, 1000, 15000⟩

def ObservabilityConfig.default : ObservabilityConfig := ⟨"info", "text", true, "/metrics"⟩

def AppConfig.default : AppConfig := ⟨.default, .default, .default⟩

/-- The section's times in milliseconds as durations. -/
def HealthConfig.drainSettings (c : HealthConfig) : DrainSettings where
  path := c.path
  shutdownTimeout := Nanos.ofMillis c.shutdownTimeoutMs.toNat
  pollInterval := Nanos.ofMillis c.pollIntervalMs.toNat
  quiescenceWindow := Nanos.ofMillis c.quiescenceWindowMs.toNat

theorem HealthConfig.drainSettings_default : HealthConfig.default.drainSettings = .default := rfl

/-- A rule that a configuration breaks as a whole. -/
inductive ConfigFault
  | portZero
  | health (f : SettingsFault)
  | metricsPathTaken
  deriving DecidableEq, Repr

def ConfigFault.message : ConfigFault → String
  | portZero => "server.port cannot be 0"
  | health f => "health: " ++ f.error.message
  | metricsPathTaken => "observability.metrics_path collides with health.path"

def AppConfig.fault? (c : AppConfig) : Option ConfigFault :=
  if c.server.port = 0 then some .portZero
  else
    match c.health.drainSettings.fault? with
    | some f => some (.health f)
    | none =>
      if c.observability.metricsEnabled ∧ c.observability.metricsPath = c.health.path then
        some .metricsPathTaken
      else none

theorem AppConfig.fault?_eq_none_iff {c : AppConfig} :
    c.fault? = none ↔ c.server.port ≠ 0 ∧ c.health.drainSettings.Valid ∧
      ¬ (c.observability.metricsEnabled ∧ c.observability.metricsPath = c.health.path) := by
  rw [← DrainSettings.fault?_eq_none_iff]
  unfold fault?
  by_cases hport : c.server.port = 0
  · simp [hport]
  · cases hsettings : c.health.drainSettings.fault? with
    | some f => simp [hport]
    | none => simp [hport]

end GracefulDrain
