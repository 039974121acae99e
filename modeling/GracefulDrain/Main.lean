import GracefulDrain.Launch.Startup

namespace GracefulDrain.Main

/-- The variables that the program looks at. -/
def variableNames : List String :=
  ["LBDRAIN_PROFILE", "RUST_LOG", "LBDRAIN__SERVER__HOST", "LBDRAIN__SERVER__PORT",
    "LBDRAIN__HEALTH__MODE", "LBDRAIN__HEALTH__PATH", "LBDRAIN__HEALTH__SHUTDOWN_TIMEOUT_MS",
    "LBDRAIN__HEALTH__POLL_INTERVAL_MS", "LBDRAIN__HEALTH__QUIESCENCE_WINDOW_MS",
    "LBDRAIN__OBSERVABILITY__LOG_LEVEL", "LBDRAIN__OBSERVABILITY__LOG_FORMAT",
    "LBDRAIN__OBSERVABILITY__METRICS_ENABLED", "LBDRAIN__OBSERVABILITY__METRICS_PATH"]

def readVariables : IO Environment := do
  let found ← variableNames.filterMapM fun name => do
    return (← IO.getEnv name).map fun value => (name, value)
  return ⟨found⟩

/-- A file's text, if it can be read. -/
def readFile? (path : String) : IO (Option String) := do
  try
    return some (← IO.FS.readFile path)
  catch _ =>
    return none

def readFiles (here : List String) (paths : List String) : IO FileTree := do
  let found ← paths.filterMapM fun path => do
    return (← readFile? path).map fun text => (path, text)
  return .below here found

/-- The paths of a configuration file from the root on. -/
def places (here : List String) (name : String) : List String :=
  let names := FileTree.namesFrom here (FileTree.join Load.defaultDirectory name)
  (names :: (FileTree.extended? names FileFormat.toml.extension).toList).map fun names =>
    "/" ++ "/".intercalate names

def logLine (e : LogEntry) : String := e.level.name ++ " " ++ e.target ++ ": " ++ e.message

def run : IO UInt32 := do
  let environment ← readVariables
  let assignments := (← readFile? ".env").getD ""
  let extended := Dotenv.extend environment assignments
  let profile := (extended.get? Load.profileVariable).getD Load.defaultProfile
  let here := FileTree.namesOf (← IO.currentDir).toString
  let files ← readFiles here (places here "default" ++ places here profile)
  let s := Startup.run files environment assignments false
  for e in s.logs do
    IO.println (logLine e)
  IO.eprint s.errorText
  return UInt32.ofNat ((s.failure.map StartupFailure.exitCode).getD 0)

end GracefulDrain.Main

def main : IO UInt32 := GracefulDrain.Main.run
