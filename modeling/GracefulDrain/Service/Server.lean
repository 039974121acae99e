import GracefulDrain.Service.Basic

namespace GracefulDrain

inductive ServerStage
  | serving
  /-- The stop of that number is under way. -/
  | draining (stop : Nat)
  | closed
  deriving DecidableEq, Repr

structure Server where
  service : Service
  stage : ServerStage
  deriving DecidableEq, Repr

namespace Server

def launch (s : Service) : Server := ⟨(s.step .start).2, .serving⟩

/-- Closes once the stop has ended. -/
def settle (s : Server) : Server :=
  match s.stage with
  | .draining id =>
    if (s.service.lifecycle.stops[id]?).all Stop.isEnded then { s with stage := .closed } else s
  | _ => s

/-- Asks for shutdown; asking again changes nothing. -/
def shutdown (s : Server) : Server :=
  match s.stage with
  | .serving =>
    settle ⟨(s.service.step .stop).2, .draining s.service.lifecycle.stops.length⟩
  | _ => s

/-- Answers a request, unless the server is closed. -/
def request (s : Server) (r : Http.Request) : Option Http.Response × Server :=
  match s.stage with
  | .closed => (none, s)
  | _ =>
    let (response, service) := s.service.serve r
    (some response, { s with service })

def elapseTo (s : Server) (instant : Nat) : Server :=
  settle { s with service := s.service.elapseTo (some instant) }

inductive Event
  | request (r : Http.Request)
  | shutdown
  | elapseTo (instant : Nat)
  deriving DecidableEq, Repr

/-- The answer to an event that is a request, and the server after it. -/
def step (s : Server) : Event → Option Http.Response × Server
  | .request r => s.request r
  | .shutdown => (none, s.shutdown)
  | .elapseTo instant => (none, s.elapseTo instant)

def run (s : Server) (events : List Event) : Server := events.foldl (fun s e => (s.step e).2) s

end Server

end GracefulDrain
