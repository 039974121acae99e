import GracefulDrain.Drain.Tracker
import GracefulDrain.Time.Clock

namespace GracefulDrain

structure ClockedTracker where
  tracker : Tracker
  clock : ManualClock
  deriving DecidableEq, Repr

namespace ClockedTracker

inductive Action
  | noteReady (id : String) (deployer : Bool)
  | noteNotReady (id : String) (deployer : Bool)
  | advance (d : Nat)
  | set (instant : Nat)
  deriving DecidableEq, Repr

def initial : ClockedTracker := ⟨.empty, ⟨0⟩⟩

/-- The state after an action, or nothing when the clock cannot move that far. -/
def act? (s : ClockedTracker) : Action → Option ClockedTracker
  | .noteReady id deployer => some { s with tracker := s.tracker.noteReady id deployer }
  | .noteNotReady id deployer =>
    some { s with tracker := s.tracker.noteNotReady s.clock.now id deployer }
  | .advance d => (s.clock.advance? d).map fun clock => { s with clock }
  | .set instant => some { s with clock := s.clock.set instant }

/-- A refused action changes nothing. -/
def act (s : ClockedTracker) (a : Action) : ClockedTracker := (s.act? a).getD s

end ClockedTracker

end GracefulDrain
