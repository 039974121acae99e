import GracefulDrain.Config.Value
import GracefulDrain.Number.Radix
import GracefulDrain.Text.Split
import GracefulDrain.Toml.Date
import GracefulDrain.Toml.Quoted

/-! Booleans, integers in four bases, fractions, dates and quoted text. Underscores may stand
between digits; an integer has to fit a signed 64-bit word. -/
namespace GracefulDrain.Toml

/-- The digits without the underscores between them. -/
def ungroup? (isDigit : Char → Bool) (cs : List Char) : Option (List Char) :=
  let groups := Text.splitOn '_' cs
  if groups.all fun g => !g.isEmpty && g.all isDigit then some groups.flatten else none

/-- Digits in base ten, without leading zeros. -/
def wholeDigits? (cs : List Char) : Option (List Char) :=
  (ungroup? Char.isDigit cs).filter fun ds => ds = ['0'] || ds.head? ≠ some '0'

/-- An integer that a signed 64-bit word holds. -/
def inSigned64? (i : Int) : Option Value :=
  if -Int.pow 2 63 ≤ i ∧ i < Int.pow 2 63 then some (.integer i) else none

def basedInteger? (radix : Nat) (cs : List Char) : Option Value := do
  inSigned64? (Number.valueOf radix (← ungroup? (Number.isDigitOf radix) cs))

def integer? : List Char → Option Value
  | '0' :: 'x' :: ds => basedInteger? 16 ds
  | '0' :: 'o' :: ds => basedInteger? 8 ds
  | '0' :: 'b' :: ds => basedInteger? 2 ds
  | cs => do
    let (negative, body) := Number.splitSign cs
    let n : Int := Number.valueOf 10 (← wholeDigits? body)
    inSigned64? (if negative then -n else n)

def isDigitOrUnderscore (c : Char) : Bool := c.isDigit || c = '_'

def exponent? (cs : List Char) : Option Int := do
  let (negative, body) := Number.splitSign cs
  let n : Int := Number.valueOf 10 (← ungroup? Char.isDigit body)
  some (if negative then -n else n)

/-- What follows the whole part: digits of a fraction, an exponent, or one after the other. -/
def fractionAndExponent? (cs : List Char) : Option (List Char × Int) :=
  match cs with
  | '.' :: rest => do
    let ds ← ungroup? Char.isDigit (rest.takeWhile isDigitOrUnderscore)
    match rest.dropWhile isDigitOrUnderscore with
    | [] => some (ds, 0)
    | c :: tail => if c = 'e' ∨ c = 'E' then some (ds, ← exponent? tail) else none
  | c :: tail => if c = 'e' ∨ c = 'E' then do some ([], ← exponent? tail) else none
  | [] => none

/-- A finite fraction, or a word for infinity or for no number. -/
def real? (cs : List Char) : Option Value := do
  let (negative, body) := Number.splitSign cs
  if body = ['i', 'n', 'f'] then some (.real (.infinite negative))
  else if body = ['n', 'a', 'n'] then some (.real .nan)
  else
    let whole ← wholeDigits? (body.takeWhile isDigitOrUnderscore)
    let (part, e) ← fractionAndExponent? (body.dropWhile isDigitOrUnderscore)
    match Binary64.ofDecimal negative (Number.valueOf 10 (whole ++ part)) (e - part.length) with
    | .infinite _ => none
    | x => some (.real x)

def wordValue? (cs : List Char) : Option Value :=
  if cs = ['t', 'r', 'u', 'e'] then some (.boolean true)
  else if cs = ['f', 'a', 'l', 's', 'e'] then some (.boolean false)
  else
    match integer? cs with
    | some v => some v
    | none =>
      match real? cs with
      | some v => some v
      | none => (dateText? cs).map fun text => .text (String.ofList text)

def isWordChar (c : Char) : Bool :=
  c.isAlphanum || c = '_' || c = '+' || c = '-' || c = '.' || c = ':'

/-- An unquoted word, and what follows; a date and a time may be parted by a space. -/
def spanWord (cs : List Char) : List Char × List Char :=
  let word := cs.takeWhile isWordChar
  match cs.dropWhile isWordChar with
  | ' ' :: c :: rest =>
    if c.isDigit && (readDate word).any (·.2.isEmpty) then
      (word ++ ' ' :: (c :: rest).takeWhile isWordChar, rest.dropWhile isWordChar)
    else (word, ' ' :: c :: rest)
  | rest => (word, rest)

def readScalar (cs : List Char) : Option (Value × List Char) :=
  match cs with
  | '"' :: _ | '\'' :: _ => (readText cs).map fun (text, rest) => (.text (String.ofList text), rest)
  | _ =>
    let (word, rest) := spanWord cs
    (wordValue? word).map fun v => (v, rest)

end GracefulDrain.Toml
