import GracefulDrain.Number.Radix
import GracefulDrain.Toml.Layout

/-! Three quotes of either kind open a text of several lines, which drops a line end right after the
opening and may itself end in up to two quotes of its kind. A text is first cut out and then
decoded. -/
namespace GracefulDrain.Toml

/-- The character with the code point that the hexadecimal digits write, if there is one. -/
def codePoint? (ds : List Char) : Option Char :=
  let n := Number.valueOf 16 ds
  if ds.all (Number.isDigitOf 16) ∧ n.isValidChar then some (Char.ofNat n) else none

def shortEscape? : Char → Option Char
  | 'b' => some '\x08'
  | 't' => some '\t'
  | 'n' => some '\n'
  | 'f' => some '\x0c'
  | 'r' => some '\r'
  | 'e' => some '\x1b'
  | '"' => some '"'
  | '\\' => some '\\'
  | _ => none

/-- Replaces the escapes by what they stand for. -/
def unescape : List Char → Option (List Char)
  | [] => some []
  | '\\' :: 'x' :: a :: b :: rest => do some ((← codePoint? [a, b]) :: (← unescape rest))
  | '\\' :: 'u' :: a :: b :: c :: d :: rest => do
    some ((← codePoint? [a, b, c, d]) :: (← unescape rest))
  | '\\' :: 'U' :: a :: b :: c :: d :: e :: f :: g :: h :: rest => do
    some ((← codePoint? [a, b, c, d, e, f, g, h]) :: (← unescape rest))
  | '\\' :: c :: rest => do some ((← shortEscape? c) :: (← unescape rest))
  | c :: rest => if c = '\\' then none else (unescape rest).map (c :: ·)

/-- The raw text up to the closing double quote, and what follows. -/
def spanBasic : List Char → Option (List Char × List Char)
  | [] => none
  | '"' :: rest => some ([], rest)
  | '\\' :: c :: rest =>
    if isPlain c then (spanBasic rest).map fun (raw, rest) => ('\\' :: c :: raw, rest) else none
  | c :: rest =>
    if isPlain c then (spanBasic rest).map fun (raw, rest) => (c :: raw, rest) else none

def spanLiteral : List Char → Option (List Char × List Char)
  | [] => none
  | '\'' :: rest => some ([], rest)
  | c :: rest =>
    if isPlain c then (spanLiteral rest).map fun (raw, rest) => (c :: raw, rest) else none

/-- The quotes that the text keeps and what follows the closing ones, at the end of a text of
several lines. -/
def closing? (quote : Char) (cs : List Char) : Option (List Char × List Char) :=
  let quotes := (cs.takeWhile (· = quote)).length
  if quotes < 3 then none
  else
    let kept := min (quotes - 3) 2
    some (List.replicate kept quote, cs.drop (kept + 3))

/-- The raw text up to the closing quotes, with its line ends as line feeds. -/
def spanLines (quote : Char) (escapes : Bool) : List Char → Option (List Char × List Char)
  | [] => none
  | '\r' :: '\n' :: rest =>
    (spanLines quote escapes rest).map fun (raw, rest) => ('\n' :: raw, rest)
  | '\\' :: c :: rest =>
    if escapes && isPlain c then
      (spanLines quote escapes rest).map fun (raw, rest) => ('\\' :: c :: raw, rest)
    else (spanLines quote escapes (c :: rest)).map fun (raw, rest) => ('\\' :: raw, rest)
  | c :: rest =>
    match closing? quote (c :: rest) with
    | some ends => some ends
    | none =>
      if isPlain c || c = '\n' then
        (spanLines quote escapes rest).map fun (raw, rest) => (c :: raw, rest)
      else none

/-- Whether only blanks separate this place from the end of its line. -/
def atLineEnd (cs : List Char) : Bool := (skipBlanks cs).head? = some '\n'

/-- Drops each backslash at the end of a line with all blanks and line ends after it; `skipping`
tells whether the text begins after one. -/
def joinLines (skipping : Bool) : List Char → List Char
  | [] => []
  | '\\' :: '\\' :: rest => '\\' :: '\\' :: joinLines false rest
  | c :: rest =>
    if skipping && (isBlank c || c = '\n') then joinLines true rest
    else if c = '\\' && atLineEnd rest then joinLines true rest
    else c :: joinLines false rest

def dropLineEnd : List Char → List Char
  | '\n' :: rest => rest
  | '\r' :: '\n' :: rest => rest
  | cs => cs

def readQuoted : List Char → Option (List Char × List Char)
  | '"' :: rest => do
    let (raw, rest) ← spanBasic rest
    some (← unescape raw, rest)
  | '\'' :: rest => spanLiteral rest
  | _ => none

def readText : List Char → Option (List Char × List Char)
  | '"' :: '"' :: '"' :: rest => do
    let (raw, rest) ← spanLines '"' true (dropLineEnd rest)
    some (← unescape (joinLines false raw), rest)
  | '\'' :: '\'' :: '\'' :: rest => spanLines '\'' false (dropLineEnd rest)
  | cs => readQuoted cs

end GracefulDrain.Toml
