import GracefulDrain.Config.Load
import GracefulDrain.Launch.LogFilter
import GracefulDrain.Service.Basic

namespace GracefulDrain

inductive LogFormat
  | text
  | json
  deriving DecidableEq, Repr

def LogFormat.name : LogFormat → String
  | text => "text"
  | json => "json"

structure LogEntry where
  level : LogLevel
  target : String
  message : String
  deriving DecidableEq, Repr

/-- What the machine says when the address cannot be taken. -/
inductive BindFault
  | addressInUse
  | addressNotAvailable
  deriving DecidableEq, Repr

def BindFault.message : BindFault → String
  | addressInUse => "Address already in use (os error 98)"
  | addressNotAvailable => "Cannot assign requested address (os error 99)"

/-- Why start-up ends. -/
inductive StartupFailure
  | config (e : LoadError)
  | address (f : BindFault)
  /-- A route path of the configuration was refused. -/
  | routes
  deriving DecidableEq, Repr

def LoadError.message : LoadError → String
  | malformedFile => "malformed configuration file"
  | unreadableValue => "unreadable configuration value"
  | rejected f => f.message

namespace StartupFailure

def error? : StartupFailure → Option AppError
  | config e => some (.config e.message)
  | address f => some (.io f.message)
  | routes => none

def exitCode : StartupFailure → Nat
  | config _ | address _ => 1
  | routes => 101

end StartupFailure

/-- What a start-up leaves behind. -/
structure Startup where
  format : LogFormat
  logs : List LogEntry
  remarks : List String
  failure : Option StartupFailure
  deriving DecidableEq, Repr

namespace Startup

def rootTarget : String := "lbdrain"

def starting : LogEntry := ⟨.info, rootTarget, "Starting LBDrain"⟩

def policyInitialized : LogEntry := ⟨.info, rootTarget, "Health policy initialized"⟩

def listening : LogEntry := ⟨.info, rootTarget, "HTTP server listening"⟩

def policyReady : HealthMode → LogEntry
  | .drain => ⟨.info, "lbdrain::drain::coordinator", "Drain coordinator ready"⟩
  | .simple => ⟨.info, "lbdrain::drain::simple", "Simple health check ready"⟩

/-- The variable that overrides the configured log level. -/
def filterVariable : String := "RUST_LOG"

/-- The filter of the variable if it is set and well formed, else that of the configuration. -/
def filterOf (environment : Environment) (config : AppConfig) : LogFilter × List String :=
  match (environment.get? filterVariable).bind LogFilter.ofText? with
  | some f => (f, [])
  | none => LogFilter.ofTextLossy config.observability.logLevel

def formatOf (config : AppConfig) : LogFormat :=
  if config.observability.logFormat = "json" then .json else .text

/-- Only the unspecified and the loopback addresses are sure to be the machine's own. -/
def isLocal : Net.Address → Bool
  | .v4 ip => ip = ⟨0, 0, 0, 0⟩ || ip.a = 127
  | .v6 ip => String.ofList ip.render = "::" || String.ofList ip.render = "::1"

/-- Whether the configured address can be taken, given whether its port is in use. -/
def bindFault? (config : AppConfig) (portInUse : Bool) : Option BindFault :=
  if !isLocal config.server.host then some .addressNotAvailable
  else if portInUse then some .addressInUse
  else none

/-- What goes wrong after the configuration is accepted. -/
def failure? (config : AppConfig) (portInUse : Bool) : Option StartupFailure :=
  match bindFault? config portInUse with
  | some f => some (.address f)
  | none =>
    match Service.mainRoutes? config.health.path config.observability with
    | some _ => none
    | none => some .routes

/-- The messages of a start-up: the policy starts once the address is taken. -/
def messages (config : AppConfig) (portInUse : Bool) : List LogEntry :=
  [starting, policyInitialized] ++
    if (bindFault? config portInUse).isSome then []
    else [listening, policyReady config.health.mode]

/-- The start-up of an accepted configuration. -/
def ofConfig (environment : Environment) (config : AppConfig) (portInUse : Bool) : Startup :=
  let (filter, remarks) := filterOf environment config
  { format := formatOf config
    logs := (messages config portInUse).filter fun e => filter.allows e.target e.level
    remarks
    failure := failure? config portInUse }

/-- The start-up from files, environment and a file of assignments. -/
def run (files : FileTree) (environment : Environment) (assignments : String) (portInUse : Bool) :
    Startup :=
  match Load.standard files environment assignments with
  | .error e => ⟨.text, [], [], some (.config e)⟩
  | .ok config => ofConfig (Dotenv.extend environment assignments) config portInUse

/-- The report of a failure and of what caused it. -/
def report (e : AppError) : String :=
  "Error: " ++ e.message ++ "\n" ++
    match e.cause? with
    | some cause => "\nCaused by:\n    " ++ cause ++ "\n"
    | none => ""

/-- What is written besides the logs. -/
def errorText (s : Startup) : String :=
  String.join (s.remarks.map (· ++ "\n")) ++
    ((s.failure.bind StartupFailure.error?).map report).getD ""

end Startup

end GracefulDrain
