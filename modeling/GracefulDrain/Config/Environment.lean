import GracefulDrain.Config.Value
import GracefulDrain.Number.Reading
import GracefulDrain.Text.Split

/-! A variable whose name, in lower case, starts with `lbdrain__` sets the key that the rest of its
name spells, double underscores parting sections from fields. Its value is taken for a boolean, an
integer, a fraction or a text, whichever fits first. -/
namespace GracefulDrain

structure Environment where
  bindings : List (String × String)
  deriving DecidableEq, Repr

namespace Environment

def get? (e : Environment) (name : String) : Option String := e.bindings.lookup name

def setAbsent (e : Environment) (name value : String) : Environment :=
  match e.get? name with
  | some _ => e
  | none => ⟨e.bindings ++ [(name, value)]⟩

def variablePrefix : List Char := "lbdrain__".toList

/-- Replaces double underscores by points, from the left. -/
def pointed : List Char → List Char
  | '_' :: '_' :: rest => '.' :: pointed rest
  | c :: rest => c :: pointed rest
  | [] => []

def key? (name : String) : Option String :=
  (Text.readChars variablePrefix (name.toList.map Char.toLower)).map fun rest =>
    String.ofList (pointed rest)

def guess (s : String) : Value :=
  match String.ofList (s.toList.map Char.toLower) with
  | "true" => .boolean true
  | "false" => .boolean false
  | _ =>
    match Number.signed64? s.toList with
    | some i => .integer i
    | none =>
      match Number.binary64? s.toList with
      | some x => .real x
      | none => .text s

def settings (e : Environment) : List (String × Value) :=
  e.bindings.filterMap fun (name, value) => (key? name).map fun key => (key, guess value)

end Environment

end GracefulDrain
