namespace GracefulDrain.Number

/-- The value of a digit in base `radix`; letters count in either case. -/
def digitValue? (radix : Nat) (c : Char) : Option Nat :=
  let v? :=
    if c.isDigit then some (c.toNat - '0'.toNat)
    else if 'a' ≤ c ∧ c ≤ 'f' then some (c.toNat - 'a'.toNat + 10)
    else if 'A' ≤ c ∧ c ≤ 'F' then some (c.toNat - 'A'.toNat + 10)
    else none
  v?.filter fun v => decide (v < radix)

def isDigitOf (radix : Nat) (c : Char) : Bool := (digitValue? radix c).isSome

/-- The number that the digits write. -/
def valueOf (radix : Nat) (ds : List Char) : Nat :=
  ds.foldl (fun n d => n * radix + (digitValue? radix d).getD 0) 0

/-- All the digits in front, as a number; refused when there are none, when there are more than
`maxDigits`, and when the number is above `limit`. -/
def readNumber (radix maxDigits limit : Nat) (cs : List Char) : Option (Nat × List Char) :=
  let ds := cs.takeWhile (isDigitOf radix)
  if ds = [] ∨ maxDigits < ds.length ∨ limit < valueOf radix ds then none
  else some (valueOf radix ds, cs.dropWhile (isDigitOf radix))

/-- A number in base ten of any length up to `limit`. -/
def readDecimal (limit : Nat) (cs : List Char) : Option (Nat × List Char) :=
  readNumber 10 cs.length limit cs

end GracefulDrain.Number
