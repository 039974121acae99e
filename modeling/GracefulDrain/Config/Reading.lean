import GracefulDrain.Config.Setting
import GracefulDrain.Config.Value
import GracefulDrain.Number.Reading
import GracefulDrain.Number.Shortest

/-! A section is a table of its fields, or a list of them in order; a field that is missing takes
its default, and an unknown one is ignored. -/
namespace GracefulDrain

/-- Which values are accepted for each kind of field: `exact` wants the right kind of value,
`lenient` also converts between kinds. -/
structure Conversions where
  /-- Whether a list that stands for a section may have further items. -/
  surplus : Bool
  natural? : Nat → Value → Option Nat
  boolean? : Value → Option Bool
  text? : Value → Option String
  choice? : Value → Option String

namespace Conversions

def naturalUpTo (limit n : Nat) : Option Nat := if n ≤ limit then some n else none

/-- Every field has to hold a value of its own kind. -/
def exact : Conversions where
  surplus := false
  natural? limit
    | .integer (.ofNat n) => naturalUpTo limit n
    | _ => none
  boolean?
    | .boolean b => some b
    | _ => none
  text?
    | .text s => some s
    | _ => none
  choice?
    | .text s => some s
    | .table [(name, .nil)] => some name
    | _ => none

/-- The truth value that a word names, in any case. -/
def wordBoolean? (s : String) : Option Bool :=
  match String.ofList (s.toList.map Char.toLower) with
  | "true" | "on" | "yes" => some true
  | "false" | "off" | "no" => some false
  | _ => none

def wordNatural? (s : String) : Option Nat :=
  match wordBoolean? s with
  | some b => some b.toNat
  | none => Number.unsigned64? s.toList

/-- Numbers, booleans and texts are converted into each other where one names the other. -/
def lenient : Conversions where
  surplus := true
  natural? limit
    | .integer (.ofNat n) => naturalUpTo limit n
    | .boolean b => naturalUpTo limit b.toNat
    | .real x => naturalUpTo limit (x.toNatWithin (UInt64.size - 1))
    | .text s => (wordNatural? s).bind (naturalUpTo limit)
    | _ => none
  boolean?
    | .boolean b => some b
    | .integer i => some (i ≠ 0)
    | .real x => some (!x.isZero)
    | .text "1" => some true
    | .text "0" => some false
    | .text s => wordBoolean? s
    | _ => none
  text?
    | .text s => some s
    | .boolean b => some (if b then "true" else "false")
    | .integer i => some (toString i)
    | .real x => some x.text
    | _ => none
  choice?
    | .text s => some s
    | .table [(name, _)] => some name
    | _ => none

/-- Whether the value can stand for a section of `size` fields. -/
def isSection (c : Conversions) (size : Nat) : Value → Bool
  | .table _ => true
  | .list items => c.surplus || items.length ≤ size
  | _ => false

end Conversions

namespace Value

/-- The field of a section, by its key or its place. -/
def field (place : Nat) (key : String) : Value → Option Value
  | .table entries => Value.lookup key entries
  | .list items => items[place]?
  | _ => none

/-- What a section holds for the key. -/
def fieldOf (k : Setting) (v : Value) : Option Value :=
  v.field ((Setting.ofSection k.sectionName).idxOf k) k.fieldName

def sectionOf (name : String) (root : Value) : Option Value :=
  root.field (Setting.sectionNames.idxOf name) name

/-- What the whole holds for the key. -/
def settingOf (k : Setting) (root : Value) : Option Value :=
  (root.sectionOf k.sectionName).bind (·.fieldOf k)

/-- How a message names the key where this is its section. -/
def nameOf (k : Setting) : Value → String
  | .list _ => k.sectionName ++ "[" ++ toString ((Setting.ofSection k.sectionName).idxOf k) ++ "]"
  | _ => k.name

end Value

namespace Conversions

def address? (c : Conversions) (v : Value) : Option Net.Address :=
  (c.text? v).bind Net.Address.ofText

def mode? (c : Conversions) (v : Value) : Option HealthMode := (c.choice? v).bind HealthMode.ofName?

def word16? (c : Conversions) (v : Value) : Option UInt16 := (c.natural? 0xFFFF v).map UInt16.ofNat

def word64? (c : Conversions) (v : Value) : Option UInt64 :=
  (c.natural? 0xFFFFFFFFFFFFFFFF v).map UInt64.ofNat

def convert? (c : Conversions) : (k : Setting) → Value → Option k.Field
  | .host => c.address?
  | .port => c.word16?
  | .mode => c.mode?
  | .path | .logLevel | .logFormat | .metricsPath => c.text?
  | .shutdownTimeout | .pollInterval | .quiescenceWindow => c.word64?
  | .metricsEnabled => c.boolean?

/-- What the key's field holds: the default when it is missing, and nothing when it cannot be
converted. -/
def read? (c : Conversions) (k : Setting) : Option Value → Option k.Field
  | none => some (AppConfig.default.field k)
  | some v => c.convert? k v

/-- The field where it can be converted. -/
def readD (c : Conversions) (k : Setting) (v? : Option Value) : k.Field :=
  (c.read? k v?).getD (AppConfig.default.field k)

/-- The keys of a section that cannot be converted, or the section itself if it is none. -/
def sectionFaults (c : Conversions) (name : String) (v : Value) : List String :=
  if c.isSection (Setting.ofSection name).length v then
    ((Setting.ofSection name).filter fun k => (c.read? k (v.fieldOf k)).isNone).map (v.nameOf ·)
  else [name]

/-- All that cannot be converted; the whole has no name. -/
def faults (c : Conversions) (root : Value) : List String :=
  if c.isSection Setting.sectionNames.length root then
    Setting.sectionNames.flatMap fun name =>
      ((root.sectionOf name).map (c.sectionFaults name)).getD []
  else [""]

/-- The configuration, or the names of what cannot be converted. -/
def app (c : Conversions) (root : Value) : Except (List String) AppConfig :=
  if (c.faults root).isEmpty then
    .ok (.ofFields fun k => c.readD k (root.settingOf k))
  else .error (c.faults root)

def app? (c : Conversions) (root : Value) : Option AppConfig := (c.app root).toOption

def health? (c : Conversions) (v : Value) : Option HealthConfig :=
  if (c.sectionFaults "health" v).isEmpty then some (.ofFields fun k => c.readD k (v.fieldOf k))
  else none

end Conversions

end GracefulDrain
