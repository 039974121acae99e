import GracefulDrain.Toml.Scalar
import GracefulDrain.Toml.Tree

namespace GracefulDrain.Toml

def isBareKeyChar (c : Char) : Bool := c.isAlphanum || c = '_' || c = '-'

def readKey (cs : List Char) : Option (String × List Char) :=
  match cs with
  | '"' :: _ | '\'' :: _ => (readQuoted cs).map fun (text, rest) => (String.ofList text, rest)
  | _ =>
    let key := cs.takeWhile isBareKeyChar
    if key.isEmpty then none else some (String.ofList key, cs.dropWhile isBareKeyChar)

structure KeyPath where
  parents : List String
  key : String
  deriving DecidableEq, Repr

/-- Keys joined by points, with the blanks around them; `fuel` bounds their number. -/
def readKeyPath : Nat → List Char → Option (KeyPath × List Char)
  | 0, _ => none
  | fuel + 1, cs => do
    let (key, cs) ← readKey (skipBlanks cs)
    match skipBlanks cs with
    | '.' :: rest =>
      let (path, rest) ← readKeyPath fuel rest
      some ({ path with parents := key :: path.parents }, rest)
    | rest => some (⟨[], key⟩, rest)

/-- Items parted by commas up to the closing character; a comma may follow the last one. -/
def readSeparated (item : List Char → Option (α × List Char)) (close : Char) :
    Nat → List Char → Option (List α × List Char)
  | 0, _ => none
  | fuel + 1, cs => do
    let cs ← skipLayout false cs
    if cs.head? = some close then some ([], cs.drop 1)
    else
      let (a, cs) ← item cs
      let cs ← skipLayout false cs
      match cs with
      | ',' :: rest =>
        let (as, rest) ← readSeparated item close fuel rest
        some (a :: as, rest)
      | c :: rest => if c = close then some ([a], rest) else none
      | [] => none

def readAssignment (value : List Char → Option (Value × List Char)) (cs : List Char) :
    Option ((KeyPath × Value) × List Char) := do
  let (path, cs) ← readKeyPath (cs.length + 1) cs
  let (v, cs) ← value (skipBlanks (← Text.readChar '=' cs))
  some ((path, v), cs)

def assignAll (assignments : List (KeyPath × Value)) (es : Entries) : Option Entries :=
  assignments.foldlM (fun es a => es.assign a.1.key a.2 a.1.parents) es

def maxDepth : Nat := 80

def readValue : Nat → List Char → Option (Value × List Char)
  | depth, cs =>
    match depth, cs with
    | depth + 1, '[' :: rest =>
      (readSeparated (readValue depth) ']' (rest.length + 1) rest).map fun (vs, rest) =>
        (.list vs, rest)
    | depth + 1, '\x7b' :: rest => do
      let (assignments, rest) ←
        readSeparated (readAssignment (readValue depth)) '\x7d' (rest.length + 1) rest
      some (.table (entryValues (← assignAll assignments [])), rest)
    | _, cs => readScalar cs

inductive Header
  | table (path : KeyPath)
  | element (path : KeyPath)
  deriving DecidableEq, Repr

inductive Statement
  | header (h : Header)
  | assignment (path : KeyPath) (v : Value)

/-- The statement of a line, and the next lines. -/
def readStatement (cs : List Char) : Option (Statement × List Char) := do
  let (statement, cs) ← match cs with
    | '[' :: '[' :: rest => do
      let (path, rest) ← readKeyPath (rest.length + 1) rest
      some (Statement.header (.element path), ← Text.readChar ']' (← Text.readChar ']' rest))
    | '[' :: rest => do
      let (path, rest) ← readKeyPath (rest.length + 1) rest
      some (Statement.header (.table path), ← Text.readChar ']' rest)
    | _ => do
      let ((path, v), rest) ← readAssignment (readValue maxDepth) cs
      some (Statement.assignment path v, rest)
  some (statement, ← endLine cs)

def readStatements : Nat → List Char → Option (List Statement)
  | 0, _ => none
  | fuel + 1, cs => do
    match ← skipLayout false cs with
    | [] => some []
    | cs =>
      let (statement, rest) ← readStatement cs
      some (statement :: (← readStatements fuel rest))

structure Section where
  header : Header
  assignments : List (KeyPath × Value)

/-- The assignments before the first header, and the sections. -/
def group : List Statement → List (KeyPath × Value) × List Section
  | [] => ([], [])
  | .assignment path v :: rest =>
    let (assignments, sections) := group rest
    ((path, v) :: assignments, sections)
  | .header h :: rest =>
    let (assignments, sections) := group rest
    ([], ⟨h, assignments⟩ :: sections)

def Section.addTo (es : Entries) (s : Section) : Option Entries :=
  match s.header with
  | .table path => es.below (Entries.openTable path.key (assignAll s.assignments)) path.parents
  | .element path => es.below (Entries.openElement path.key (assignAll s.assignments)) path.parents

/-- The entries of the document's table, or nothing when it is malformed. -/
def parse (cs : List Char) : Option (List (String × Value)) := do
  let cs := match cs with
    | '\uFEFF' :: rest => rest
    | _ => cs
  let (assignments, sections) := group (← readStatements (cs.length + 1) cs)
  some (entryValues (← sections.foldlM Section.addTo (← assignAll assignments [])))

end GracefulDrain.Toml
