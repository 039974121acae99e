/-! A target is a path with an optional query (`/a?b`), the lone star, an authority (`host:80`), or
a scheme with an authority and an optional path and query. A fragment is dropped. Only the path and
the query are kept; a target that is an authority alone has the empty path. -/
namespace GracefulDrain.Http

structure Uri where
  path : String
  query : Option String
  deriving DecidableEq, Repr

namespace Uri

/-- The longest target in bytes. -/
def maxLength : Nat := 65534

def maxSchemeLength : Nat := 64

/-- A control character, a blank, or one of the marks that must not stand bare. -/
def isPathChar (c : Char) : Bool :=
  '!' ≤ c && c ≠ '#' && c ≠ '<' && c ≠ '>' && c ≠ '?' && c.toNat ≠ 0x60

def isQueryChar (c : Char) : Bool :=
  '!' ≤ c && c ≠ '"' && c ≠ '#' && c ≠ '<' && c ≠ '>'

def isSchemeChar (c : Char) : Bool := c.isAlphanum || "+-.~".contains c

def isAuthorityChar (c : Char) : Bool := c.isAlphanum || "!$&'()*+,-.;=_~".contains c

def endsAuthority (c : Char) : Bool := c = '/' || c = '?' || c = '#'

/-- What has been seen of an authority. -/
structure AuthorityState where
  /-- Colons that could introduce a port. -/
  colons : Nat
  opened : Bool
  closed : Bool
  percent : Bool
  /-- The last character was the at sign. -/
  atSign : Bool

namespace AuthorityState

def initial : AuthorityState := ⟨0, false, false, false, false⟩

/-- Colons and percent signs count anew after a bracketed host and after user information. -/
def step? (s : AuthorityState) (c : Char) : Option AuthorityState :=
  let s' := { s with atSign := false }
  if c = ':' then if 8 ≤ s.colons then none else some { s' with colons := s.colons + 1 }
  else if c = '[' then if s.percent || s.opened then none else some { s' with opened := true }
  else if c = ']' then
    if !s.opened || s.closed then none
    else some { s' with closed := true, colons := 0, percent := false }
  else if c = '@' then some { s with colons := 0, percent := false, atSign := true }
  else if c = '%' then some { s' with percent := true }
  else if isAuthorityChar c then some s'
  else none

def accepts (s : AuthorityState) : Bool :=
  s.opened == s.closed && s.colons ≤ 1 && !s.percent && !s.atSign

end AuthorityState

def isAuthority (cs : List Char) : Bool :=
  ((cs.foldlM AuthorityState.step? .initial).map AuthorityState.accepts).getD false

/-- Path and optional query up to a fragment. -/
def parsePathAndQuery (cs : List Char) : Option (List Char × Option (List Char)) :=
  let path := cs.takeWhile isPathChar
  match cs.dropWhile isPathChar with
  | [] => some (path, none)
  | '#' :: _ => some (path, none)
  | '?' :: rest =>
    let query := rest.takeWhile isQueryChar
    match rest.dropWhile isQueryChar with
    | [] => some (path, some query)
    | '#' :: _ => some (path, some query)
    | _ => none
  | _ => none

def ofParts (path : List Char) (query : Option (List Char)) : Uri :=
  ⟨String.ofList path, query.map String.ofList⟩

/-- What follows `scheme://`: an authority, then path and query, an empty path meaning the root. -/
def parseAbsolute (cs : List Char) : Option Uri := do
  let authority := cs.takeWhile fun c => !endsAuthority c
  guard (!authority.isEmpty && isAuthority authority)
  let (path, query) ← parsePathAndQuery (cs.dropWhile fun c => !endsAuthority c)
  some (ofParts (if path.isEmpty then ['/'] else path) query)

/-- The scheme in front of `://`, and what follows. -/
def splitScheme (cs : List Char) : Option (List Char × List Char) :=
  match cs.dropWhile isSchemeChar with
  | ':' :: '/' :: '/' :: rest => some (cs.takeWhile isSchemeChar, rest)
  | _ => none

def parse (cs : List Char) : Option Uri :=
  match cs with
  | [] => none
  | ['*'] => some ⟨"*", none⟩
  | '/' :: _ => (parsePathAndQuery cs).map fun (path, query) => ofParts path query
  | _ =>
    match splitScheme cs with
    | some (scheme, rest) =>
      if maxSchemeLength < scheme.length then none else parseAbsolute rest
    | none => if isAuthority cs then some ⟨"", none⟩ else none

def parse? (s : String) : Option Uri := if maxLength < s.utf8ByteSize then none else parse s.toList

end Uri

end GracefulDrain.Http
