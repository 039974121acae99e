import GracefulDrain.Config.Environment
import GracefulDrain.Text.Alphanumeric
import GracefulDrain.Text.Blank

/-! Each line assigns a value to a name, `NAME=value`. A value may be quoted, and then run over
several lines; a dollar sign brings in the value of another variable, except between single quotes.
-/
namespace GracefulDrain.Dotenv

/-- Where in a line, or across lines, the reader is. -/
inductive LineState
  | complete
  | blank
  | escaped
  | weak
  | weakEscaped
  | strong
  | strongEscaped
  | comment
  deriving DecidableEq, Repr

namespace LineState

def openBy (c : Char) : LineState :=
  if c = '\\' then escaped
  else if c = '"' then weak
  else if c = '\'' then strong
  else complete

def next (c : Char) : LineState → LineState
  | blank => if c = '#' then comment else openBy c
  | complete => if Text.blank c && c ≠ '\n' && c ≠ '\r' then blank else openBy c
  | escaped => complete
  | weak => if c = '\\' then weakEscaped else if c = '"' then complete else weak
  | weakEscaped => weak
  | strong => if c = '\\' then strongEscaped else if c = '\'' then complete else strong
  | strongEscaped => strong
  | comment => comment

/-- The state after the characters and what they are without a comment. -/
def scan (s : LineState) : List Char → LineState × List Char
  | [] => (s, [])
  | c :: rest =>
    match s.next c with
    | comment => (comment, [])
    | s' => ((scan s' rest).1, c :: (scan s' rest).2)

end LineState

def physicalLines : List Char → List (List Char)
  | [] => []
  | c :: rest =>
    if c = '\n' then [c] :: physicalLines rest
    else
      match physicalLines rest with
      | [] => [[c]]
      | line :: lines => (c :: line) :: lines

def dropLineEnd (line : List Char) : List Char :=
  match line.reverse with
  | '\n' :: '\r' :: rest => rest.reverse
  | '\n' :: rest => rest.reverse
  | _ => line

/-- The lines to read, joined where a quote is still open, and without comments; nothing stands for
a line that the end of the text leaves open. -/
def logicalLines (state : LineState) (before : List Char) :
    List (List Char) → List (Option (List Char))
  | [] => if state = .complete then [] else [none]
  | line :: lines =>
    if (Text.trimStart (before ++ line)).head? = some '#' then
      some [] :: logicalLines .complete [] lines
    else
      match state.scan line with
      | (.comment, kept) => some (before ++ kept) :: logicalLines .complete [] lines
      | (.complete, _) => some (dropLineEnd (before ++ line)) :: logicalLines .complete [] lines
      | (state, _) => logicalLines state (before ++ line) lines

inductive ValueMode
  | plain
  | strong
  | escaped
  /-- In the name of a variable after a dollar sign. -/
  | variable
  /-- In the name of a variable between braces. -/
  | braced
  /-- After the value: only blanks and a comment may follow. -/
  | ending
  | comment
  deriving DecidableEq, Repr

structure ValueState where
  mode : ValueMode
  /-- Between double quotes. -/
  weak : Bool
  output : List Char
  name : List Char
  deriving DecidableEq, Repr

namespace ValueState

def initial : ValueState := ⟨.plain, false, [], []⟩

def push (s : ValueState) (c : Char) : ValueState := { s with output := s.output ++ [c] }

/-- Puts the named variable's value into the output. -/
def substitute (lookup : String → String) (s : ValueState) : ValueState :=
  { s with
    output := s.output ++ (lookup (String.ofList s.name)).toList
    name := [] }

def unescape? (c : Char) : Option Char :=
  if c = 'n' then some '\n'
  else if c = '\\' ∨ c = '\'' ∨ c = '"' ∨ c = '$' ∨ c = ' ' then some c
  else none

def plainStep (s : ValueState) (c : Char) : ValueState :=
  if c = '$' then { s with mode := .variable }
  else if s.weak then
    if c = '"' then { s with weak := false }
    else if c = '\\' then { s with mode := .escaped }
    else s.push c
  else if c = '\'' then { s with mode := .strong }
  else if c = '"' then { s with weak := true }
  else if c = '\\' then { s with mode := .escaped }
  else if c = ' ' ∨ c = '\t' then { s with mode := .ending }
  else s.push c

def variableStep (lookup : String → String) (s : ValueState) (c : Char) : ValueState :=
  if Text.alphanumeric c then { s with name := s.name ++ [c] }
  else if c = '\x7b' ∧ s.name = [] then { s with mode := .braced }
  else if c = '$' then s.substitute lookup
  else { (s.substitute lookup).push c with mode := .plain }

def bracedStep (lookup : String → String) (s : ValueState) (c : Char) : ValueState :=
  if c = '\x7d' then { s.substitute lookup with mode := .plain }
  else { s with name := s.name ++ [c] }

/-- One character further, or nothing when it cannot stand there. -/
def step? (lookup : String → String) (s : ValueState) (c : Char) : Option ValueState :=
  match s.mode with
  | .plain => some (s.plainStep c)
  | .strong => some (if c = '\'' then { s with mode := .plain } else s.push c)
  | .escaped => (unescape? c).map fun d => { s.push d with mode := .plain }
  | .variable => some (s.variableStep lookup c)
  | .braced => some (s.bracedStep lookup c)
  | .ending =>
    if c = ' ' ∨ c = '\t' then some s
    else if c = '#' then some { s with mode := .comment }
    else none
  | .comment => some s

/-- The value, unless a quote or a brace is still open. -/
def finish? (lookup : String → String) (s : ValueState) : Option (List Char) :=
  if s.mode = .braced ∨ s.mode = .strong ∨ s.weak then none
  else some (s.substitute lookup).output

end ValueState

def value? (lookup : String → String) (cs : List Char) : Option (List Char) :=
  (cs.foldlM (ValueState.step? lookup) .initial).bind (ValueState.finish? lookup)

def isNameStart (c : Char) : Bool := c.isAlpha || c = '_'

def isNameChar (c : Char) : Bool := c.isAlphanum || c = '_' || c = '.'

/-- A variable's name, and what follows with its leading blanks dropped. -/
def readName (cs : List Char) : Option (List Char × List Char) :=
  if cs.head?.any isNameStart then
    some (cs.takeWhile isNameChar, Text.trimStart (cs.dropWhile isNameChar))
  else none

/-- The name before the equals sign and what follows it; the word `export` may stand in front. -/
def readTarget (cs : List Char) : Option (List Char × List Char) := do
  match ← readName cs with
  | (name, '=' :: rest) => some (name, rest)
  | (name, rest) =>
    guard (name = "export".toList)
    match ← readName rest with
    | (name, '=' :: rest) => some (name, rest)
    | _ => none

structure Assignment where
  name : String
  value : String
  deriving DecidableEq, Repr

inductive Line
  | empty
  | assignment (a : Assignment)
  deriving DecidableEq, Repr

/-- What a line says, or nothing when it is malformed. -/
def readLine (lookup : String → String) (line : List Char) : Option Line :=
  let cs := Text.trimStart (Text.trimEnd line)
  if cs.isEmpty ∨ cs.head? = some '#' then some .empty
  else do
    let (name, rest) ← readTarget cs
    let rest := Text.trimStart rest
    let value ← if rest.isEmpty ∨ rest.head? = some '#' then some [] else value? lookup rest
    some (.assignment ⟨String.ofList name, String.ofList value⟩)

/-- The environment, and the last value that the file gave to each name. -/
structure Progress where
  environment : Environment
  assigned : List (String × String)
  deriving DecidableEq, Repr

/-- The environment comes first, then the file itself, and an unknown name has no value. -/
def Progress.lookup (p : Progress) (name : String) : String :=
  ((p.environment.get? name).or (p.assigned.lookup name)).getD ""

def Progress.assign (p : Progress) (a : Assignment) : Progress :=
  ⟨p.environment.setAbsent a.name a.value, (a.name, a.value) :: p.assigned⟩

/-- Reads lines up to the first malformed one. -/
def Progress.run (p : Progress) : List (Option (List Char)) → Progress
  | [] => p
  | none :: _ => p
  | some line :: rest =>
    match readLine p.lookup line with
    | none => p
    | some .empty => p.run rest
    | some (.assignment a) => (p.assign a).run rest

/-- The environment extended by the file's assignments. -/
def extend (e : Environment) (text : String) : Environment :=
  let cs := match text.toList with
    | '\uFEFF' :: rest => rest
    | cs => cs
  (Progress.run ⟨e, []⟩ (logicalLines .complete [] (physicalLines cs))).environment

end GracefulDrain.Dotenv
