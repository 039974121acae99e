import GracefulDrain.Drain.Probe
import GracefulDrain.Http.Query
import GracefulDrain.Http.Uri
import GracefulDrain.Net.Address

namespace GracefulDrain.Http

structure Request where
  uri : Uri
  method : String
  /-- Names in lower case, in order of appearance. -/
  headers : List (String × String)
  /-- A remote address given as text; it hides the peer. -/
  remote : Option String
  /-- The other end of the connection. -/
  peer : Option Net.SocketAddress
  deriving DecidableEq, Repr

inductive RequestFault
  | uri
  | method
  | header
  | peer
  deriving DecidableEq, Repr

def isTokenChar (c : Char) : Bool :=
  c.isAlphanum || "!#$%&'*+-.^_|~".contains c || c.toNat = 0x60

/-- Not empty, and made of letters, digits and a few marks. -/
def isToken (s : String) : Bool := !s.isEmpty && s.toList.all isTokenChar

/-- No control character but the tab. -/
def isHeaderValueChar (c : Char) : Bool := c = '\t' || (0x20 ≤ c.toNat && c.toNat ≠ 0x7F)

def isHeaderValue (s : String) : Bool := s.toList.all isHeaderValueChar

def lowercase (s : String) : String := String.ofList (s.toList.map Char.toLower)

def readHeader? (header : String × String) : Option (String × String) :=
  if isToken header.1 && isHeaderValue header.2 then some (lowercase header.1, header.2) else none

def readPeer? : Option String → Option (Option Net.SocketAddress)
  | none => some none
  | some s => (Net.SocketAddress.ofText s).map some

def orFault (fault : RequestFault) : Option α → Except RequestFault α
  | some a => .ok a
  | none => .error fault

def Request.ofTexts (uri method : String) (headers : List (String × String))
    (remote peer : Option String) : Except RequestFault Request := do
  let uri ← orFault .uri (Uri.parse? uri)
  let method ← orFault .method (if isToken method then some method else none)
  let headers ← orFault .header (headers.mapM readHeader?)
  let peer ← orFault .peer (readPeer? peer)
  return ⟨uri, method, headers, remote, peer⟩

/-- The identity, given what each source says; an empty text says nothing. -/
def resolveIdentity (routeIp realIp remote : Option String) : Option String :=
  match routeIp.filter (· ≠ "") with
  | some ip => some ip
  | none =>
    match realIp.filter (· ≠ "") with
    | some ip => some ip
    | none => (remote.bind Net.hostOf).map Net.Address.text

/-- The header in which reverse proxies pass on the client's address. -/
def realIpHeader : String := "x-real-ip"

/-- Visible ASCII, the space and the tab. -/
def isPlainText (s : String) : Bool :=
  s.toList.all fun c => c = '\t' || (0x20 ≤ c.toNat && c.toNat < 0x7F)

namespace Request

/-- The first header of that name, if it is plain text. -/
def realIp (r : Request) : Option String := (r.headers.lookup realIpHeader).filter isPlainText

def remoteText (r : Request) : Option String :=
  match r.remote with
  | some s => some s
  | none => r.peer.map Net.SocketAddress.text

def isDeployer (r : Request) : Bool := (r.uri.query.map Query.marksDeployer).getD false

/-- The origin of a probe whose route names the client `routeIp`. -/
def origin (r : Request) (routeIp : Option String) : Origin :=
  ⟨resolveIdentity routeIp r.realIp r.remoteText, r.isDeployer⟩

end Request

end GracefulDrain.Http
