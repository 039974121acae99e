import GracefulDrain.Net.Ipv4

/-! Eight groups of up to four hexadecimal digits. One `::` may stand for one or more zero groups,
and the last two groups may be written as an IPv4 address. The canonical text compresses the longest
run of at least two zero groups, the first of equals. -/
namespace GracefulDrain.Net
open Number Text

structure Ipv6 where
  groups : List UInt16
  length_eq : groups.length = 8
  deriving DecidableEq

namespace Ipv6

instance : Repr Ipv6 := ⟨fun ip n => reprPrec ip.groups n⟩

/-- Eight groups: `head`, enough zeros, `tail`. -/
def ofParts (head tail : List UInt16) (h : head.length + tail.length ≤ 8) : Ipv6 :=
  ⟨head ++ List.replicate (8 - head.length - tail.length) 0 ++ tail, by
    simp only [List.length_append, List.length_replicate]; omega⟩

def ofParts? (head tail : List UInt16) : Option Ipv6 :=
  if h : head.length + tail.length ≤ 8 then some (ofParts head tail h) else none

/-- The colon that stands in front of every group but the first. -/
def readSeparator (first : Bool) (cs : List Char) : Option (List Char) :=
  if first then some cs else readChar ':' cs

def readGroup (cs : List Char) : Option (UInt16 × List Char) :=
  (readNumber 16 4 0xFFFF cs).map fun (n, rest) => (UInt16.ofNat n, rest)

/-- The two groups that an IPv4 address fills. -/
def groupsOf (ip : Ipv4) : List UInt16 :=
  [ip.a.toUInt16 * 256 + ip.b.toUInt16, ip.c.toUInt16 * 256 + ip.d.toUInt16]

/-- At most `n` groups; whether they ended in an IPv4 address; and what follows. -/
def readGroups : (n : Nat) → (first : Bool) → List Char → List UInt16 × Bool × List Char
  | 0, _, cs => ([], false, cs)
  | n + 1, first, cs =>
    let dotted? := if n = 0 then none else (readSeparator first cs).bind Ipv4.read
    match dotted? with
    | some (ip, rest) => (groupsOf ip, true, rest)
    | none =>
      match (readSeparator first cs).bind readGroup with
      | none => ([], false, cs)
      | some (g, rest) =>
        let (gs, dotted, rest) := readGroups n false rest
        (g :: gs, dotted, rest)

def read (cs : List Char) : Option (Ipv6 × List Char) :=
  let (head, dotted, rest) := readGroups 8 true cs
  if head.length = 8 then (ofParts? head []).map (·, rest)
  else if dotted then none
  else do
    let rest ← readChar ':' (← readChar ':' rest)
    let (tail, _, rest) := readGroups (7 - head.length) true rest
    (ofParts? head tail).map (·, rest)

def groupText (g : UInt16) : List Char := Nat.toDigits 16 g.toNat

/-- Groups joined by colons. -/
def joinGroups (gs : List UInt16) : List Char := [':'].intercalate (gs.map groupText)

/-- How many zero groups stand in front. -/
def zeroRun (gs : List UInt16) : Nat := (gs.takeWhile (· == 0)).length

/-- Start and length of the first of the longest runs of zero groups. -/
def longestRun (gs : List UInt16) : Nat × Nat :=
  (List.range gs.length).foldl
    (fun best i => if best.2 < zeroRun (gs.drop i) then (i, zeroRun (gs.drop i)) else best) (0, 0)

/-- The IPv4 address inside `::ffff:0:0/96`. -/
def mapped? (ip : Ipv6) : Option Ipv4 :=
  match ip.groups with
  | [0, 0, 0, 0, 0, 0xFFFF, g, h] =>
    some ⟨(g / 256).toUInt8, (g % 256).toUInt8, (h / 256).toUInt8, (h % 256).toUInt8⟩
  | _ => none

def render (ip : Ipv6) : List Char :=
  match ip.mapped? with
  | some v4 => "::ffff:".toList ++ v4.render
  | none =>
    let (start, length) := longestRun ip.groups
    if length < 2 then joinGroups ip.groups
    else
      joinGroups (ip.groups.take start) ++ ':' :: ':' :: joinGroups (ip.groups.drop (start + length))

end Ipv6

end GracefulDrain.Net
