import GracefulDrain.Number.Binary64

/-! A finite value is written with the fewest digits that still round to it, the nearest to it of
those and the larger one of two that are equally near, without an exponent however large or small it
is. -/
namespace GracefulDrain.Binary64

/-- A positive value as `0.digits * 10 ^ point`. -/
structure Decimal where
  digits : List Char
  point : Int
  deriving DecidableEq, Repr

/-- The power of ten just above `num / den`. -/
def decimalPoint (num den : Nat) : Int :=
  if den ≤ num then (Nat.toDigits 10 (num / den)).length
  else
    match (List.range 400).find? fun j => den ≤ num * Nat.pow 10 (j + 1) with
    | some j => -(j : Int)
    | none => -400

/-- Whether `n * 10 ^ k` rounds to the value of mantissa `m` and exponent `e`: it lies between the
midpoints to the two neighbours, an end counting when the mantissa is even. -/
def roundsTo (m : Nat) (e : Int) (n : Nat) (k : Int) : Bool :=
  let (a, b) := if 0 ≤ k then (n * Nat.pow 10 k.toNat, 1) else (n, Nat.pow 10 (-k).toNat)
  let low := if m = Nat.pow 2 52 ∧ minExponent < e then 4 * m - 1 else 4 * m - 2
  let (lowA, lowB) := magnitude low (e - 2)
  let (highA, highB) := magnitude (4 * m + 2) (e - 2)
  if m % 2 = 0 then lowA * b ≤ a * lowB && a * highB ≤ highA * b
  else lowA * b < a * lowB && a * highB < highA * b

/-- The nearer of the two neighbours of the value on the grid of multiples of `10 ^ k` that round
to the value, if one does; of two that are equally near the larger one. -/
def onGrid? (m : Nat) (e : Int) (k : Int) : Option Nat :=
  let (num, den) := magnitude m e
  let (a, b) := if 0 ≤ k then (num, den * Nat.pow 10 k.toNat) else (num * Nat.pow 10 (-k).toNat, den)
  let below := a / b
  match roundsTo m e below k && 0 < below, roundsTo m e (below + 1) k with
  | true, true => some (if 2 * (a % b) < b then below else below + 1)
  | true, false => some below
  | false, true => some (below + 1)
  | false, false => none

def shortest (m : Nat) (e : Int) : Decimal :=
  let (num, den) := magnitude m e
  let point := decimalPoint num den
  let written? := (List.range 17).findSome? fun (i : Nat) =>
    (onGrid? m e (point - (i + 1))).map fun n => (i + 1, n)
  match written? with
  | some (places, n) =>
    let digits := Nat.toDigits 10 n
    ⟨(digits.reverse.dropWhile (· == '0')).reverse, point + digits.length - places⟩
  | none => ⟨Nat.toDigits 10 num, (Nat.toDigits 10 num).length⟩

def Decimal.positional (d : Decimal) : List Char :=
  if d.point ≤ 0 then ['0', '.'] ++ List.replicate (-d.point).toNat '0' ++ d.digits
  else if (d.digits.length : Int) ≤ d.point then
    d.digits ++ List.replicate (d.point.toNat - d.digits.length) '0'
  else d.digits.take d.point.toNat ++ '.' :: d.digits.drop d.point.toNat

def text : Binary64 → String
  | nan => "NaN"
  | infinite false => "inf"
  | infinite true => "-inf"
  | finite negative m e =>
    let body := if m = 0 then ['0'] else (shortest m e).positional
    String.ofList (if negative then '-' :: body else body)

end GracefulDrain.Binary64
