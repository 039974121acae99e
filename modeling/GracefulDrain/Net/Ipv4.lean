import GracefulDrain.Number.Radix
import GracefulDrain.Text.Split

namespace GracefulDrain.Net
open Number Text

structure Ipv4 where
  a : UInt8
  b : UInt8
  c : UInt8
  d : UInt8
  deriving DecidableEq, Repr

namespace Ipv4

/-- An octet; a zero stands only alone. -/
def readOctet (cs : List Char) : Option (UInt8 × List Char) := do
  let (n, rest) ← readNumber 10 3 255 cs
  if cs.head? = some '0' ∧ cs.takeWhile (isDigitOf 10) ≠ ['0'] then none
  else some (UInt8.ofNat n, rest)

def read (cs : List Char) : Option (Ipv4 × List Char) := do
  let (a, cs) ← readOctet cs
  let (b, cs) ← readOctet (← readChar '.' cs)
  let (c, cs) ← readOctet (← readChar '.' cs)
  let (d, cs) ← readOctet (← readChar '.' cs)
  some (⟨a, b, c, d⟩, cs)

def octetText (o : UInt8) : List Char := Nat.toDigits 10 o.toNat

def render (ip : Ipv4) : List Char :=
  octetText ip.a ++ '.' :: octetText ip.b ++ '.' :: octetText ip.c ++ '.' :: octetText ip.d

end Ipv4

end GracefulDrain.Net
