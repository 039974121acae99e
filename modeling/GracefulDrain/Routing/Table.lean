import GracefulDrain.Routing.Template

/-! A template may have one handler for GET and HEAD and one for every method; the first goes before
the second. Templates that cannot be told apart are refused. -/
namespace GracefulDrain.Routing

inductive Slot
  | get
  | any
  deriving DecidableEq, Repr

structure Route (H : Type) where
  path : String
  template : Template
  onGet : Option H
  onAny : Option H
  deriving DecidableEq, Repr

abbrev Table (H : Type) := List (Route H)

variable {H : Type}

namespace Route

def single (path : String) (template : Template) (slot : Slot) (h : H) : Route H :=
  match slot with
  | .get => ⟨path, template, some h, none⟩
  | .any => ⟨path, template, none, some h⟩

/-- A further handler, unless there is one for these requests. -/
def add? (r : Route H) (slot : Slot) (h : H) : Option (Route H) :=
  match slot, r.onGet, r.onAny with
  | .get, none, _ => some { r with onGet := some h }
  | .any, _, none => some { r with onAny := some h }
  | _, _, _ => none

end Route

inductive Target (H : Type)
  | handler (h : H) (captures : List (String × List Char))
  | methodNotAllowed
  | notFound

namespace Table

/-- Adds to the route of the same path, if there is one. -/
def extend? (path : String) (slot : Slot) (h : H) : Table H → Option (Option (Table H))
  | [] => none
  | r :: rest =>
    if r.path = path then some ((r.add? slot h).map (· :: rest))
    else (extend? path slot h rest).map fun rest? => rest?.map (r :: ·)

/-- The table with a further handler, or nothing when the path is refused. -/
def add? (t : Table H) (path : String) (slot : Slot) (h : H) : Option (Table H) := do
  let template ← Template.parse? path
  match extend? path slot h t with
  | some extended => extended
  | none =>
    if t.any fun r => r.template.conflicts template then none
    else some (t ++ [.single path template slot h])

/-- The route that a path leads to, with the parameters' texts. -/
def find? (t : Table H) (path : List Char) : Option (Route H × List (String × List Char)) :=
  t.foldl (fun best r =>
    match r.template.match? path with
    | none => best
    | some captures =>
      match best with
      | none => some (r, captures)
      | some (b, _) => if r.template.precedes b.template then some (r, captures) else best) none

def isGetMethod (method : String) : Bool := method = "GET" || method = "HEAD"

def handlerFor (r : Route H) (method : String) : Option H :=
  if isGetMethod method then r.onGet.or r.onAny else r.onAny

def dispatch (t : Table H) (method path : String) : Target H :=
  match t.find? path.toList with
  | none => .notFound
  | some (r, captures) =>
    match handlerFor r method with
    | some h => .handler h captures
    | none => .methodNotAllowed

end Table

end GracefulDrain.Routing
