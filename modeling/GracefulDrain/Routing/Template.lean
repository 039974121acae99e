import GracefulDrain.Text.Percent
import GracefulDrain.Text.Split

/-! A template is literal text with parameters: `{x}` takes the text up to the next slash, `{*x}` at
the end takes all that remains, `{{` and `}}` are literal braces. Every segment holds at most one
parameter, at its end. -/
namespace GracefulDrain.Routing

inductive Piece
  | char (c : Char)
  | param (name : String)
  | rest (name : String)
  deriving DecidableEq, Repr

abbrev Template := List Piece

structure Mark where
  char : Char
  doubled : Bool
  deriving DecidableEq, Repr

/-- Takes doubled braces together, from the left. -/
def marks : List Char → List Mark
  | '\x7b' :: '\x7b' :: rest => ⟨'\x7b', true⟩ :: marks rest
  | '\x7d' :: '\x7d' :: rest => ⟨'\x7d', true⟩ :: marks rest
  | c :: rest => ⟨c, false⟩ :: marks rest
  | [] => []

def opens (m : Mark) : Bool := m = ⟨'\x7b', false⟩

def closes (m : Mark) : Bool := m = ⟨'\x7d', false⟩

/-- The rest of a parameter's name up to its closing brace, and what follows. -/
def readName : List Mark → Option (List Char × List Mark)
  | [] => none
  | m :: rest =>
    if closes m then some ([], rest)
    else if m.char = '*' ∨ m.char = '/' then none
    else (readName rest).map fun (name, rest) => (m.char :: name, rest)

/-- A parameter after its opening brace, and what follows. -/
def readParam : List Mark → Option (Piece × List Mark)
  | [] => none
  | m :: rest =>
    if m.char = '\x7d' then none
    else do
      let (name, rest) ← readName rest
      if m.char = '*' then
        if name = [] ∨ rest ≠ [] then none else some (.rest (String.ofList name), rest)
      else if rest.head?.all fun next => next.char = '/' then
        some (.param (String.ofList (m.char :: name)), rest)
      else none

/-- Reads a template's characters; `fuel` bounds their number. -/
def readPieces : Nat → List Mark → Option Template
  | 0, _ => none
  | _ + 1, [] => some []
  | fuel + 1, m :: rest =>
    if closes m then none
    else if opens m then do
      let (piece, rest) ← readParam rest
      some (piece :: (← readPieces fuel rest))
    else (readPieces fuel rest).map (.char m.char :: ·)

def isParam : Piece → Bool
  | .param _ => true
  | _ => false

def maxParams : Nat := 25

/-- Starts with a slash, and no segment starts with a colon or a star. -/
def isRoutePath (cs : List Char) : Bool :=
  cs.head? = some '/' &&
    (Text.splitOn '/' cs).all fun segment => segment.head? ≠ some ':' && segment.head? ≠ some '*'

namespace Template

def parse? (path : String) : Option Template :=
  let cs := path.toList
  if isRoutePath cs then
    (readPieces (cs.length + 1) (marks cs)).filter fun t => (t.filter isParam).length ≤ maxParams
  else none

/-- The parameters' texts when the template fits the whole path. A parameter at the end of the path
is not empty. -/
def match? : Template → List Char → Option (List (String × List Char))
  | [], [] => some []
  | [], _ :: _ => none
  | .char _ :: _, [] => none
  | .char c :: ps, d :: cs => if c = d then match? ps cs else none
  | .param _ :: _, [] => none
  | .param name :: ps, d :: cs =>
    (match? ps ((d :: cs).dropWhile (· ≠ '/'))).map fun captures =>
      (name, (d :: cs).takeWhile (· ≠ '/')) :: captures
  | .rest _ :: _, [] => none
  | .rest name :: _, d :: cs => some [(name, d :: cs)]

/-- Which of two templates that fit the same path is taken: at the first place where they differ,
the one that is literal. -/
def precedes : Template → Template → Bool
  | .char c :: ps, .char d :: qs => c = d && precedes ps qs
  | .char _ :: _, _ => true
  | .param _ :: ps, .param _ :: qs => precedes ps qs
  | _, _ => false

/-- Whether two templates cannot stand in one table: parameters' names apart they are equal, or one
takes all that remains where the other has a parameter. -/
def conflicts : Template → Template → Bool
  | [], [] => true
  | .char c :: ps, .char d :: qs => c = d && conflicts ps qs
  | .param _ :: ps, .param _ :: qs => conflicts ps qs
  | .rest _ :: _, .rest _ :: _ | .rest _ :: _, .param _ :: _ | .param _ :: _, .rest _ :: _ => true
  | _, _ => false

end Template

/-- The parameters with their percent escapes decoded, unless one is no UTF-8. -/
def decodeCaptures? (captures : List (String × List Char)) : Option (List (String × String)) :=
  captures.mapM fun (name, cs) =>
    (Text.percentDecodeText? (String.ofList cs)).map fun text => (name, text)

end GracefulDrain.Routing
