import GracefulDrain.Time.Clock

/-! A duration is written in the largest of `s`, `ms`, `µs` and `ns` that it reaches, with its
fraction and without the fraction's trailing zeros: `180s`, `1.5s`, `100ms`. -/
namespace GracefulDrain.Nanos

/-- Decimal digits of `n`, filled up with zeros on the left to `width` places. -/
def paddedDigits (width n : Nat) : List Char :=
  let digits := Nat.toDigits 10 n
  List.replicate (width - digits.length) '0' ++ digits

/-- The fraction `n / 10 ^ width` with its point, or nothing when it is zero. -/
def fractionText (width n : Nat) : List Char :=
  match (paddedDigits width n).reverse.dropWhile (· == '0') with
  | [] => []
  | digits => '.' :: digits.reverse

def inUnit (d : Nat) (places : Nat) (unit : String) : String :=
  String.ofList (Nat.toDigits 10 (d / Nat.pow 10 places) ++
    fractionText places (d % Nat.pow 10 places)) ++ unit

def text (d : Nat) : String :=
  if Nat.pow 10 9 ≤ d then inUnit d 9 "s"
  else if Nat.pow 10 6 ≤ d then inUnit d 6 "ms"
  else if Nat.pow 10 3 ≤ d then inUnit d 3 "µs"
  else inUnit d 0 "ns"

end GracefulDrain.Nanos
