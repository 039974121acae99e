import GracefulDrain.Config.Dotenv
import GracefulDrain.Config.FileTree
import GracefulDrain.Config.Layers
import GracefulDrain.Config.Reading

/-! The sources are a file of defaults, the file of a profile, and the environment, each overriding
the ones before it. Only what remains after that is converted and checked, but every file that
exists has to be well formed. -/
namespace GracefulDrain

inductive LoadError
  | malformedFile
  /-- The keys that cannot be converted; a message names one of them. -/
  | unreadableValue {keys : List String}
  | rejected (f : ConfigFault)
  deriving DecidableEq, Repr

namespace Load

def profileVariable : String := "LBDRAIN_PROFILE"

def defaultProfile : String := "development"

def defaultDirectory : String := "config"

/-- The entries of a configuration file; a missing file has none. -/
def fileEntries (files : FileTree) (path : String) :
    Except LoadError (List (String × Value)) :=
  match files.configFile? path with
  | none => .ok []
  | some (format, text) =>
    match format.read text.toList with
    | some entries => .ok entries
    | none => .error .malformedFile

/-- What comes of a configuration that was read: it is checked as a whole. -/
def conclude : Except (List String) AppConfig → Except LoadError AppConfig
  | .error keys => .error (@LoadError.unreadableValue keys)
  | .ok config =>
    match config.fault? with
    | some fault => .error (.rejected fault)
    | none => .ok config

/-- Converts the merged sources and checks the result. -/
def accept (merged : Value) : Except LoadError AppConfig := conclude (Conversions.lenient.app merged)

/-- Loads from the files in a directory and the environment. -/
def fromDirectory (files : FileTree) (environment : Environment) (dir : String) :
    Except LoadError AppConfig := do
  let profile := (environment.get? profileVariable).getD defaultProfile
  let defaults ← fileEntries files (FileTree.join dir "default")
  let profiled ← fileEntries files (FileTree.join dir profile)
  accept (Layers.combine [defaults, profiled, environment.settings])

/-- Loads from the usual directory, after a file of assignments has extended the environment. -/
def standard (files : FileTree) (environment : Environment) (assignments : String) :
    Except LoadError AppConfig :=
  fromDirectory files (Dotenv.extend environment assignments) defaultDirectory

end Load

end GracefulDrain
