import GracefulDrain.Number.Binary64
import GracefulDrain.Number.Radix

namespace GracefulDrain.Number

/-- A natural number, written with digits alone. -/
def natural? (ds : List Char) : Option Nat :=
  if ds.isEmpty || !ds.all Char.isDigit then none else some (valueOf 10 ds)

/-- A leading sign, and what follows it. -/
def splitSign : List Char → Bool × List Char
  | '-' :: rest => (true, rest)
  | '+' :: rest => (false, rest)
  | cs => (false, cs)

def integer? (cs : List Char) : Option Int :=
  let (negative, rest) := splitSign cs
  (natural? rest).map fun n => if negative then -(n : Int) else n

/-- An integer that a signed 64-bit word holds. -/
def signed64? (cs : List Char) : Option Int :=
  (integer? cs).filter fun i => decide (-Int.pow 2 63 ≤ i ∧ i < Int.pow 2 63)

/-- An integer that an unsigned 64-bit word holds; a minus sign is refused. -/
def unsigned64? (cs : List Char) : Option Nat :=
  let rest := match cs with
    | '+' :: rest => rest
    | _ => cs
  (natural? rest).filter fun n => decide (n < UInt64.size)

/-- The part of a number after its mantissa: nothing, or an exponent mark and an integer. -/
def exponent? : List Char → Option Int
  | [] => some 0
  | c :: rest => if c = 'e' ∨ c = 'E' then integer? rest else none

def fraction? (negative : Bool) (cs : List Char) : Option Binary64 :=
  let whole := cs.takeWhile Char.isDigit
  let (part, rest) := match cs.dropWhile Char.isDigit with
    | '.' :: tail => (tail.takeWhile Char.isDigit, tail.dropWhile Char.isDigit)
    | tail => ([], tail)
  if whole.isEmpty && part.isEmpty then none
  else (exponent? rest).map fun e =>
    Binary64.ofDecimal negative (valueOf 10 (whole ++ part)) (e - part.length)

/-- A decimal fraction, or `inf`, `infinity` or `nan` in any case. -/
def binary64? (cs : List Char) : Option Binary64 :=
  let (negative, rest) := splitSign cs
  let word := String.ofList (rest.map Char.toLower)
  if word = "nan" then some .nan
  else if word = "inf" ∨ word = "infinity" then some (.infinite negative)
  else fraction? negative rest

end GracefulDrain.Number
