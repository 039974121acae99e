namespace GracefulDrain

structure Origin where
  /-- The client, where it could be determined. -/
  identity : Option String
  /-- Sent by deployment tooling and not by a load balancer. -/
  deployer : Bool
  deriving DecidableEq, Repr

inductive Verdict
  | ready
  | unavailable
  deriving DecidableEq, Repr

namespace Verdict

def ofBool (isReady : Bool) : Verdict := if isReady then ready else unavailable

def isReady : Verdict → Bool
  | ready => true
  | unavailable => false

def status : Verdict → Nat
  | ready => 200
  | unavailable => 503

def body : Verdict → String
  | ready => "ok"
  | unavailable => "service unavailable"

def label : Verdict → String
  | ready => "ok"
  | unavailable => "unavailable"

end Verdict

end GracefulDrain
