import GracefulDrain.Config.AppConfig

namespace GracefulDrain

/-- A key of the configuration. -/
inductive Setting
  | host
  | port
  | mode
  | path
  | shutdownTimeout
  | pollInterval
  | quiescenceWindow
  | logLevel
  | logFormat
  | metricsEnabled
  | metricsPath
  deriving DecidableEq, Repr

namespace Setting

def all : List Setting :=
  [host, port, mode, path, shutdownTimeout, pollInterval, quiescenceWindow, logLevel, logFormat,
    metricsEnabled, metricsPath]

def sectionName : Setting → String
  | host | port => "server"
  | mode | path | shutdownTimeout | pollInterval | quiescenceWindow => "health"
  | logLevel | logFormat | metricsEnabled | metricsPath => "observability"

def fieldName : Setting → String
  | host => "host"
  | port => "port"
  | mode => "mode"
  | path => "path"
  | shutdownTimeout => "shutdown_timeout_ms"
  | pollInterval => "poll_interval_ms"
  | quiescenceWindow => "quiescence_window_ms"
  | logLevel => "log_level"
  | logFormat => "log_format"
  | metricsEnabled => "metrics_enabled"
  | metricsPath => "metrics_path"

def sectionNames : List String := ["server", "health", "observability"]

/-- The keys of a section, in the order of its fields. -/
def ofSection (name : String) : List Setting := all.filter (·.sectionName = name)

theorem flatMap_ofSection : sectionNames.flatMap ofSection = all := by decide

def name (k : Setting) : String := k.sectionName ++ "." ++ k.fieldName

/-- What the key's field holds. -/
abbrev Field : Setting → Type
  | host => Net.Address
  | port => UInt16
  | mode => HealthMode
  | path | logLevel | logFormat | metricsPath => String
  | shutdownTimeout | pollInterval | quiescenceWindow => UInt64
  | metricsEnabled => Bool

end Setting

def HealthConfig.ofFields (f : (k : Setting) → k.Field) : HealthConfig :=
  ⟨f .mode, f .path, f .shutdownTimeout, f .pollInterval, f .quiescenceWindow⟩

namespace AppConfig

def ofFields (f : (k : Setting) → k.Field) : AppConfig where
  server := ⟨f .host, f .port⟩
  health := .ofFields f
  observability := ⟨f .logLevel, f .logFormat, f .metricsEnabled, f .metricsPath⟩

def field (c : AppConfig) : (k : Setting) → k.Field
  | .host => c.server.host
  | .port => c.server.port
  | .mode => c.health.mode
  | .path => c.health.path
  | .shutdownTimeout => c.health.shutdownTimeoutMs
  | .pollInterval => c.health.pollIntervalMs
  | .quiescenceWindow => c.health.quiescenceWindowMs
  | .logLevel => c.observability.logLevel
  | .logFormat => c.observability.logFormat
  | .metricsEnabled => c.observability.metricsEnabled
  | .metricsPath => c.observability.metricsPath

theorem field_ofFields (f : (k : Setting) → k.Field) (k : Setting) : (ofFields f).field k = f k := by
  cases k <;> rfl

end AppConfig

end GracefulDrain
