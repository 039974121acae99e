/-! A finite value is a mantissa times a power of two. Every result is the exact value rounded to
the nearest representable one, ties to the even mantissa, in exact integer arithmetic. -/
namespace GracefulDrain

inductive Binary64
  | nan
  | infinite (negative : Bool)
  /-- The value `± mantissa * 2 ^ exponent`. -/
  | finite (negative : Bool) (mantissa : Nat) (exponent : Int)
  deriving DecidableEq, Repr

namespace Binary64

def minExponent : Int := -1074

def maxExponent : Int := 971

def zero : Binary64 := finite false 0 minExponent

/-- `num / (den * 2 ^ e)` as a quotient of two natural numbers. -/
def scaled (num den : Nat) (e : Int) : Nat × Nat :=
  if 0 ≤ e then (num, den * Nat.pow 2 e.toNat) else (num * Nat.pow 2 (-e).toNat, den)

/-- The quotient to the nearest whole number, a half to the even neighbour. -/
def roundHalfEven (num den : Nat) : Nat :=
  let n := num / den
  let r := num % den
  if 2 * r < den then n
  else if den < 2 * r then n + 1
  else if n % 2 = 0 then n else n + 1

/-- The exponent at which the quotient's mantissa has 53 bits, or the least one. -/
def exponentOf (num den : Nat) : Int :=
  let guess := max ((num.log2 : Int) - den.log2 - 53) minExponent
  let (n, d) := scaled num den guess
  if Nat.pow 2 53 ≤ n / d then guess + 1 else guess

/-- The representable value nearest to `± num / den`. -/
def ofRatio (negative : Bool) (num den : Nat) : Binary64 :=
  if num = 0 then finite negative 0 minExponent
  else
    let e := exponentOf num den
    let (n, d) := scaled num den e
    let m := roundHalfEven n d
    let (m, e) := if m = Nat.pow 2 53 then (Nat.pow 2 52, e + 1) else (m, e)
    if maxExponent < e then infinite negative else finite negative m e

def ofNat (n : Nat) : Binary64 := ofRatio false n 1

/-- The value nearest to `± digits * 10 ^ exponent`. -/
def ofDecimal (negative : Bool) (digits : Nat) (exponent : Int) : Binary64 :=
  let places : Int := (Nat.toDigits 10 digits).length
  if digits = 0 then finite negative 0 minExponent
  else if 400 < places + exponent then infinite negative
  else if places + exponent < -400 then finite negative 0 minExponent
  else if 0 ≤ exponent then ofRatio negative (digits * Nat.pow 10 exponent.toNat) 1
  else ofRatio negative digits (Nat.pow 10 (-exponent).toNat)

/-- The magnitude of a finite value as a quotient. -/
def magnitude (m : Nat) (e : Int) : Nat × Nat :=
  if 0 ≤ e then (m * Nat.pow 2 e.toNat, 1) else (m, Nat.pow 2 (-e).toNat)

/-- The rounded sum of two values that are not negative. -/
def addNonneg : Binary64 → Binary64 → Binary64
  | finite _ m e, finite _ m' e' =>
    let (a, b) := magnitude m e
    let (a', b') := magnitude m' e'
    ofRatio false (a * b' + a' * b) (b * b')
  | infinite _, finite _ _ _ | finite _ _ _, infinite _ | infinite _, infinite _ => infinite false
  | _, _ => nan

/-- Nanoseconds as seconds: whole seconds and fraction are rounded on their own, then added. -/
def ofNanos (seconds subsecond : Nat) : Binary64 :=
  addNonneg (ofNat seconds) (ofRatio false subsecond 1000000000)

def isZero : Binary64 → Bool
  | finite _ 0 _ => true
  | _ => false

/-- The nearest natural number, a half away from zero, held within `0` and `limit`; no number
counts as zero. -/
def toNatWithin (limit : Nat) : Binary64 → Nat
  | nan | infinite true | finite true _ _ => 0
  | infinite false => limit
  | finite false m e =>
    let (a, b) := magnitude m e
    min ((2 * a + b) / (2 * b)) limit

end Binary64

end GracefulDrain
