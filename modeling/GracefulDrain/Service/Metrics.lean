import GracefulDrain.Drain.Lifecycle
import GracefulDrain.Number.Shortest

/-! A metric has no line before it is first touched. -/
namespace GracefulDrain

structure ProbeCounts where
  ready : Nat
  readyDeployer : Nat
  unavailable : Nat
  unavailableDeployer : Nat
  deriving DecidableEq, Repr

namespace ProbeCounts

def zero : ProbeCounts := ⟨0, 0, 0, 0⟩

def get (c : ProbeCounts) : Verdict → Bool → Nat
  | .ready, false => c.ready
  | .ready, true => c.readyDeployer
  | .unavailable, false => c.unavailable
  | .unavailable, true => c.unavailableDeployer

def note (c : ProbeCounts) : Verdict → Bool → ProbeCounts
  | .ready, false => { c with ready := c.ready + 1 }
  | .ready, true => { c with readyDeployer := c.readyDeployer + 1 }
  | .unavailable, false => { c with unavailable := c.unavailable + 1 }
  | .unavailable, true => { c with unavailableDeployer := c.unavailableDeployer + 1 }

theorem get_note (c : ProbeCounts) (v w : Verdict) (d e : Bool) :
    (c.note v d).get w e = c.get w e + if w = v ∧ e = d then 1 else 0 := by
  cases v <;> cases w <;> cases d <;> cases e <;> rfl

end ProbeCounts

structure Metrics where
  probes : ProbeCounts
  /-- Requests in flight, once there was one. -/
  inflight : Option Nat
  deriving DecidableEq, Repr

namespace Metrics

def initial : Metrics := ⟨.zero, none⟩

def beginRequest (m : Metrics) : Metrics := { m with inflight := some (m.inflight.getD 0 + 1) }

def endRequest (m : Metrics) : Metrics := { m with inflight := m.inflight.map (· - 1) }

def sample (name : String) (value : String) : String := name ++ " " ++ value

def durationSum (durations : List Nat) : Binary64 :=
  durations.foldl (fun sum d =>
    sum.addNonneg (Binary64.ofNanos (Nanos.seconds d) (Nanos.subsecond d))) .zero

def durationLines (durations : List Nat) : List String :=
  if durations.isEmpty then []
  else
    [sample "lbdrain_drain_duration_seconds_count" (toString durations.length),
      sample "lbdrain_drain_duration_seconds_sum" (durationSum durations).text]

def probeLine (counts : ProbeCounts) (v : Verdict) (deployer : Bool) : List String :=
  let n := counts.get v deployer
  if n = 0 then []
  else
    [sample ("lbdrain_health_probes_total\x7bstatus=\"" ++ v.label ++ "\",deployer=\"" ++
      (if deployer then "true" else "false") ++ "\"\x7d") (toString n)]

def lines (m : Metrics) (record : DrainRecord) : List String :=
  durationLines record.durations ++
    (record.phase.map fun p => sample "lbdrain_drain_phase" (toString p.code)).toList ++
    probeLine m.probes .ready false ++ probeLine m.probes .ready true ++
    probeLine m.probes .unavailable false ++ probeLine m.probes .unavailable true ++
    (m.inflight.map fun n => sample "lbdrain_inflight_requests" (toString n)).toList

end Metrics

end GracefulDrain
