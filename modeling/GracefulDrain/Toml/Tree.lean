import GracefulDrain.Config.Value

/-! How a table came about decides what may still be added to it. A table named by a header is
closed to other headers and to dotted keys; one that exists only because something lies below it may
still get its header, once; one made by a dotted key may grow by further dotted keys. -/
namespace GracefulDrain.Toml

inductive TableKind
  /-- Named by its own header. -/
  | defined
  /-- On the way to another header. -/
  | passed
  /-- On the way of a dotted key. -/
  | dotted
  deriving DecidableEq, Repr

inductive Node
  | leaf (v : Value)
  | table (kind : TableKind) (entries : List (String × Node))
  /-- The elements of a list of tables, the last one first. -/
  | tables (last : List (String × Node)) (earlier : List (List (String × Node)))

abbrev Entries := List (String × Node)

namespace Entries

/-- Replaces what is under `key`, or adds it at the end. -/
def put (key : String) (n : Node) : Entries → Entries
  | [] => [(key, n)]
  | (k, old) :: rest => if k = key then (k, n) :: rest else (k, old) :: put key n rest

/-- Adds a value under a dotted key; the table that receives it must be made by a dotted key, or be
the current one. -/
def assign (key : String) (v : Value) : List String → Entries → Option Entries
  | [], es =>
    match es.lookup key with
    | none => some (put key (.leaf v) es)
    | some _ => none
  | k :: ks, es =>
    match es.lookup k with
    | none => (assign key v ks []).map fun inner => put k (.table .dotted inner) es
    | some (.table .dotted inner) =>
      (assign key v ks inner).map fun inner => put k (.table .dotted inner) es
    | some (.table .passed inner) =>
      if ks = [] then none
      else (assign key v ks inner).map fun inner => put k (.table .passed inner) es
    | some (.tables last earlier) =>
      if ks = [] then none
      else (assign key v ks last).map fun last => put k (.tables last earlier) es
    | some (.table .defined _) | some (.leaf _) => none

/-- Goes down a header's path to the table that holds its last key and changes that table; tables on
the way are made as needed, and of a list of tables the last element is meant. -/
def below (change : Entries → Option Entries) : List String → Entries → Option Entries
  | [], es => change es
  | k :: ks, es =>
    match es.lookup k with
    | none => (below change ks []).map fun inner => put k (.table .passed inner) es
    | some (.table kind inner) => (below change ks inner).map fun inner => put k (.table kind inner) es
    | some (.tables last earlier) =>
      (below change ks last).map fun last => put k (.tables last earlier) es
    | some (.leaf _) => none

/-- Opens the table of a header and fills it. -/
def openTable (key : String) (fill : Entries → Option Entries) (es : Entries) : Option Entries :=
  match es.lookup key with
  | none => (fill []).map fun inner => put key (.table .defined inner) es
  | some (.table .passed inner) => (fill inner).map fun inner => put key (.table .defined inner) es
  | some _ => none

/-- Adds an element to the list of tables of a header and fills it. -/
def openElement (key : String) (fill : Entries → Option Entries) (es : Entries) : Option Entries :=
  match es.lookup key with
  | none => (fill []).map fun inner => put key (.tables inner []) es
  | some (.tables last earlier) =>
    (fill []).map fun inner => put key (.tables inner (last :: earlier)) es
  | some _ => none

end Entries

mutual

def Node.value : Node → Value
  | .leaf v => v
  | .table _ es => .table (entryValues es)
  | .tables last earlier => .list ((tableValues earlier).reverse ++ [.table (entryValues last)])

def entryValues : List (String × Node) → List (String × Value)
  | [] => []
  | e :: rest => entryValue e :: entryValues rest

def entryValue : String × Node → String × Value
  | (k, n) => (k, n.value)

def tableValues : List (List (String × Node)) → List Value
  | [] => []
  | es :: rest => .table (entryValues es) :: tableValues rest

end

end GracefulDrain.Toml
