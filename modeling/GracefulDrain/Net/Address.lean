import GracefulDrain.Net.Ipv6

namespace GracefulDrain.Net
open Number Text

inductive Address
  | v4 (ip : Ipv4)
  | v6 (ip : Ipv6)
  deriving DecidableEq, Repr

namespace Address

/-- A text that is one address and nothing else. -/
def parse (cs : List Char) : Option Address :=
  match Ipv4.read cs with
  | some (ip, []) => some (v4 ip)
  | _ =>
    match Ipv6.read cs with
    | some (ip, []) => some (v6 ip)
    | _ => none

def render : Address → List Char
  | v4 ip => ip.render
  | v6 ip => ip.render

def ofText (s : String) : Option Address := parse s.toList

/-- The canonical text. -/
def text (a : Address) : String := String.ofList a.render

end Address

inductive SocketAddress
  | v4 (ip : Ipv4) (port : UInt16)
  | v6 (ip : Ipv6) (port : UInt16) (scope : UInt32)
  deriving DecidableEq, Repr

namespace SocketAddress

def address : SocketAddress → Address
  | v4 ip _ => .v4 ip
  | v6 ip _ _ => .v6 ip

def readPort (cs : List Char) : Option (UInt16 × List Char) := do
  let (n, rest) ← readDecimal 0xFFFF (← readChar ':' cs)
  some (UInt16.ofNat n, rest)

/-- A percent sign and a number, or nothing for scope zero. -/
def readScope (cs : List Char) : UInt32 × List Char :=
  match (readChar '%' cs).bind (readDecimal 0xFFFFFFFF) with
  | some (n, rest) => (UInt32.ofNat n, rest)
  | none => (0, cs)

def readV4 (cs : List Char) : Option (SocketAddress × List Char) := do
  let (ip, cs) ← Ipv4.read cs
  let (port, cs) ← readPort cs
  some (v4 ip port, cs)

def readV6 (cs : List Char) : Option (SocketAddress × List Char) := do
  let (ip, cs) ← Ipv6.read (← readChar '[' cs)
  let (scope, cs) := readScope cs
  let (port, cs) ← readPort (← readChar ']' cs)
  some (v6 ip port scope, cs)

def parse (cs : List Char) : Option SocketAddress :=
  match readV4 cs with
  | some (s, []) => some s
  | _ =>
    match readV6 cs with
    | some (s, []) => some s
    | _ => none

def ofText (s : String) : Option SocketAddress := parse s.toList

def portText (port : UInt16) : List Char := ':' :: Nat.toDigits 10 port.toNat

def render : SocketAddress → List Char
  | v4 ip port => ip.render ++ portText port
  | v6 ip port scope =>
    let scopeText := if scope = 0 then [] else '%' :: Nat.toDigits 10 scope.toNat
    '[' :: ip.render ++ scopeText ++ ']' :: portText port

def text (s : SocketAddress) : String := String.ofList s.render

end SocketAddress

/-- The address in the text of a socket address or of a bare address. -/
def hostOf (remote : String) : Option Address :=
  match SocketAddress.ofText remote with
  | some s => some s.address
  | none => Address.ofText remote

end GracefulDrain.Net
