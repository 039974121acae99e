namespace GracefulDrain.Http

inductive Body
  | text (s : String)
  /-- The sample lines of a metrics document. -/
  | samples (lines : List String)
  deriving DecidableEq, Repr

structure Response where
  status : Nat
  headers : List (String × String)
  body : Body
  deriving DecidableEq, Repr

namespace Response

def bare (status : Nat) (body : String) : Response := ⟨status, [], .text body⟩

def plainText (status : Nat) (body : Body) : Response :=
  ⟨status, [("content-type", "text/plain; charset=utf-8")], body⟩

def json (body : String) : Response := ⟨200, [("content-type", "application/json")], .text body⟩

def notFound : Response := bare 404 ""

/-- For a route that answers only GET and HEAD. -/
def methodNotAllowed : Response := ⟨405, [("allow", "GET,HEAD")], .text ""⟩

def isSuccess (r : Response) : Bool := 200 ≤ r.status && r.status < 300

/-- A response to HEAD, and a successful one to CONNECT, has no body. -/
def forMethod (method : String) (r : Response) : Response :=
  if method = "HEAD" ∨ (method = "CONNECT" ∧ r.isSuccess) then { r with body := .text "" } else r

end Response

end GracefulDrain.Http
