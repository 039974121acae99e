import GracefulDrain.Config.Value
import GracefulDrain.Number.Reading
import GracefulDrain.Text.Split

/-! A later source overrides an earlier one key by key: tables are merged, anything else is
replaced. At the top a key may be a path to a field or an item; a key that is no path is taken
literally. -/
namespace GracefulDrain

namespace Value

def entriesOf : Value → List (String × Value)
  | table es => es
  | _ => []

def itemsOf : Value → List Value
  | list items => items
  | _ => []

def entryOf (key : String) (es : List (String × Value)) : Value := (lookup key es).getD nil

mutual

/-- `over` laid over `base`. -/
def merge (base : Value) : Value → Value
  | table es => table (mergeEntries base.entriesOf es)
  | v => v

def mergeEntries (base : List (String × Value)) : List (String × Value) → List (String × Value)
  | [] => base
  | e :: rest => mergeEntries (mergeEntry base e) rest

def mergeEntry (base : List (String × Value)) : String × Value → List (String × Value)
  | (k, v) => insert k (merge (entryOf k base) v) base

end

/-- The place of an item and the list with room for it. A negative index counts from the end; a list
that is too short grows at the end, or at its front for a negative index. -/
def makeRoom (items : List Value) : Int → Nat × List Value
  | .ofNat n => (n, items ++ List.replicate (n + 1 - items.length) nil)
  | .negSucc n => (items.length - (n + 1), List.replicate (n + 1 - items.length) nil ++ items)

/-- A step of a path: to a field of a table, or to an item of a list. -/
inductive Step
  | key (name : String)
  | item (index : Int)
  deriving DecidableEq, Repr

/-- Lays a value over what is at the end of a path. -/
def mergeAt (v : Value) : List Step → Value → Value
  | [], base => merge base v
  | .key k :: path, base =>
    table (insert k (mergeAt v path (entryOf k base.entriesOf)) base.entriesOf)
  | .item i :: path, base =>
    let (place, items) := makeRoom base.itemsOf i
    list (items.modify place (mergeAt v path))

end Value

namespace Layers
open Value (Step)

def isNameChar (c : Char) : Bool := c.isAlphanum || c = '_' || c = '-'

def isBlank (c : Char) : Bool := c = ' ' || c = '\t'

/-- The index that stands before a closing bracket, with blanks around it. -/
def index? (cs : List Char) : Option Int :=
  match cs.reverse with
  | ']' :: rest =>
    let digits := (rest.dropWhile isBlank).reverse.dropWhile isBlank
    if digits.head? = some '+' then none else Number.signed64? digits
  | _ => none

/-- The steps that a part of a key spells: a name, and items in brackets. -/
def steps? (part : List Char) : Option (List Step) :=
  match Text.splitOn '[' part with
  | name :: indices =>
    if !name.isEmpty && name.all isNameChar then
      (indices.mapM index?).map fun is => .key (String.ofList name) :: is.map .item
    else none
  | [] => none

/-- The path that a key spells: parts joined by points. -/
def pathOf (key : String) : List Step :=
  match (Text.splitOn '.' key.toList).mapM steps? with
  | some parts => parts.flatten
  | none => [.key key]

/-- A source laid over what the earlier ones gave. -/
def addSource (base : Value) (source : List (String × Value)) : Value :=
  source.foldl (fun acc e => Value.mergeAt e.2 (pathOf e.1) acc) base

def combine (sources : List (List (String × Value))) : Value :=
  sources.foldl addSource Value.emptyTable

end Layers

end GracefulDrain
