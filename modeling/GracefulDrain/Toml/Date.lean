import GracefulDrain.Number.Reading

/-! The canonical text has a capital `T` between date and time, seconds always written, at most nine
digits of a fraction and none of its trailing zeros, and a `Z` or a signed offset. -/
namespace GracefulDrain.Toml

/-- The number that the two digits write, if both are digits. -/
def twoDigits? (a b : Char) : Option Nat := Number.natural? [a, b]

def isLeapYear (y : Nat) : Bool := y % 4 = 0 && (y % 100 ≠ 0 || y % 400 = 0)

def daysIn (y month : Nat) : Nat :=
  if month = 2 then if isLeapYear y then 29 else 28
  else if month = 4 ∨ month = 6 ∨ month = 9 ∨ month = 11 then 30
  else 31

/-- A date's canonical text, and what follows. -/
def readDate : List Char → Option (List Char × List Char)
  | a :: b :: c :: d :: '-' :: m :: n :: '-' :: e :: f :: rest => do
    let year ← Number.natural? [a, b, c, d]
    let month ← twoDigits? m n
    let day ← twoDigits? e f
    if 1 ≤ month ∧ month ≤ 12 ∧ 1 ≤ day ∧ day ≤ daysIn year month then
      some ([a, b, c, d, '-', m, n, '-', e, f], rest)
    else none
  | _ => none

/-- The digits of a fraction of a second after its point, as they are written. -/
def readFraction : List Char → Option (List Char × List Char)
  | '.' :: rest =>
    let ds := rest.takeWhile Char.isDigit
    if ds.isEmpty then none
    else
      match (ds.take 9).reverse.dropWhile (· == '0') with
      | [] => some ([], rest.dropWhile Char.isDigit)
      | kept => some ('.' :: kept.reverse, rest.dropWhile Char.isDigit)
  | cs => some ([], cs)

/-- A time's canonical text, and what follows. -/
def readTime : List Char → Option (List Char × List Char)
  | a :: b :: ':' :: c :: d :: rest => do
    let hour ← twoDigits? a b
    let minute ← twoDigits? c d
    guard (hour ≤ 23 && minute ≤ 59)
    match rest with
    | ':' :: e :: f :: rest =>
      guard ((← twoDigits? e f) ≤ 60)
      let (fraction, rest) ← readFraction rest
      some ([a, b, ':', c, d, ':', e, f] ++ fraction, rest)
    | _ => some ([a, b, ':', c, d, ':', '0', '0'], rest)
  | _ => none

/-- The canonical text of all that remains after date and time. -/
def offsetText? : List Char → Option (List Char)
  | [] => some []
  | ['Z'] | ['z'] => some ['Z']
  | [sign, a, b, ':', c, d] => do
    guard (sign = '+' || sign = '-')
    guard ((← twoDigits? a b) ≤ 23 && (← twoDigits? c d) ≤ 59)
    let sign := if [a, b, c, d].all (· = '0') then '+' else sign
    some [sign, a, b, ':', c, d]
  | _ => none

/-- The canonical text of a date, a time or both. -/
def dateText? (cs : List Char) : Option (List Char) :=
  match readDate cs with
  | some (date, []) => some date
  | some (date, c :: rest) => do
    guard (c = 'T' || c = 't' || c = ' ')
    let (time, rest) ← readTime rest
    some (date ++ 'T' :: time ++ (← offsetText? rest))
  | none =>
    match readTime cs with
    | some (time, []) => some time
    | _ => none

end GracefulDrain.Toml
