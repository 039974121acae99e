import GracefulDrain.Drain.Monitor
import GracefulDrain.Drain.Policy
import GracefulDrain.Drain.Stop

/-! Time is the offset from the start in nanoseconds and moves from one due instant to the next; a
clock moved by hand is independent of it. -/
namespace GracefulDrain

structure DrainRecord where
  phase : Option Phase
  /-- How long each ended stop took, in the order of their ends. -/
  durations : List Nat
  deriving DecidableEq, Repr

structure Lifecycle where
  policy : Policy
  /-- The first one is the service's own. -/
  monitors : List Monitor
  now : Nat
  manual : Option ManualClock
  stops : List Stop
  record : DrainRecord
  deriving DecidableEq, Repr

namespace Lifecycle

def initial (policy : Policy) (manual : Option ManualClock) : Lifecycle :=
  ⟨policy, [Monitor.idle], 0, manual, [], ⟨none, []⟩⟩

def ownMonitor : Nat := 0

def monitor (s : Lifecycle) (i : Nat) : Monitor := s.monitors.getD i .idle

/-- What the coordinator's clock shows. -/
def reading (s : Lifecycle) (source : ClockSource) : Nat :=
  match source, s.manual with
  | .manual, some clock => clock.now
  | _, _ => s.now

def observe (s : Lifecycle) (c : Coordinator) : Observation where
  inflight := (c.attached.map fun i => (s.monitor i).count).getD 0
  lbActive := c.lbActive (s.reading c.clock)

/-- The phase after an instant at which stops ended: a success is noted last. -/
def phaseAfter (p : Phase) (expired succeeded : List Stop) : Phase :=
  if !succeeded.isEmpty then .done else if !expired.isEmpty then .timedOut else p

/-- Everything that is due now happens. -/
def settle (s : Lifecycle) : Lifecycle :=
  match s.policy with
  | .simple _ => s
  | .drain c =>
    let seen := s.observe c
    let expired := s.stops.filter (·.expires c.settings s.now)
    let succeeded := if seen.isQuiet then s.stops.filter (·.looks c.settings s.now) else []
    let ended := expired ++ succeeded
    let phase := phaseAfter c.phase expired succeeded
    { s with
      policy := .drain { c with phase }
      stops := s.stops.map (·.settle c.settings s.now seen)
      record :=
        { phase := if ended.isEmpty then s.record.phase else some phase
          durations := s.record.durations ++ ended.map (·.elapsed (s.reading c.clock)) } }

def nextWake? (s : Lifecycle) : Option Nat :=
  match s.policy with
  | .simple _ => none
  | .drain c => (s.stops.filterMap (·.wake? c.settings)).min?

/-- Time moves on to an instant, and everything due there happens. -/
def arrive (s : Lifecycle) (instant : Nat) : Lifecycle := { s with now := max s.now instant }.settle

theorem lt_nextWake?_arrive {s : Lifecycle} {w w' : Nat} (h : s.nextWake? = some w)
    (h' : (s.arrive w).nextWake? = some w') : w < w' := by
  cases hp : s.policy with
  | simple => simp [nextWake?, hp] at h
  | drain c =>
    simp only [nextWake?, hp] at h
    simp only [arrive, settle, hp, nextWake?] at h'
    have hmem := List.min?_mem h'
    obtain ⟨stop', hstop', hw'⟩ := List.mem_filterMap.1 hmem
    obtain ⟨stop, hstop, rfl⟩ := List.mem_map.1 hstop'
    refine Stop.lt_wake?_settle c.valid (fun w₀ hw₀ => ?_) (Nat.le_max_right s.now w) hw'
    exact (List.min?_eq_some_iff.1 h).2 w₀ (List.mem_filterMap.2 ⟨stop, hstop, hw₀⟩)

/-- Runs through the due instants up to `target`, until `enough`. -/
def runUntil (target : Nat) (enough : Lifecycle → Bool) (s : Lifecycle) : Lifecycle :=
  if enough s then s
  else
    match _ : s.nextWake? with
    | none => s
    | some w => if w ≤ target then runUntil target enough (s.arrive w) else s
termination_by (s.nextWake?.map fun w => target + 1 - w).getD 0
decreasing_by
  rename_i hwake hw
  cases h' : (s.arrive w).nextWake? with
  | none => simp [hwake]; omega
  | some w' =>
    have := lt_nextWake?_arrive hwake h'
    simp [hwake]; omega

/-- What every arrival keeps, a run keeps. -/
theorem runUntil_preserves {P : Lifecycle → Prop} (harrive : ∀ s w, P s → P (s.arrive w))
    (target : Nat) (enough : Lifecycle → Bool) (s : Lifecycle) (h : P s) :
    P (s.runUntil target enough) := by
  fun_induction runUntil target enough s with
  | case1 => exact h
  | case2 => exact h
  | case3 s _ w _ _ ih => exact ih (harrive s w h)
  | case4 => exact h

/-- Runs to an instant; one in the past changes nothing. -/
def elapseTo (s : Lifecycle) (target : Nat) : Lifecycle :=
  let s := s.runUntil target fun _ => false
  { s with now := max s.now target }

/-- The last instant at which a stop can end. -/
def lastInstant (s : Lifecycle) (id : Nat) : Nat :=
  match s.policy, s.stops[id]? with
  | .drain c, some (.waiting begun _ _) => Stop.deadline c.settings begun
  | _, _ => s.now

def join (s : Lifecycle) (id : Nat) : Lifecycle :=
  s.runUntil (s.lastInstant id) fun s => (s.stops[id]?).all Stop.isEnded

def start (s : Lifecycle) (monitor : Nat) : Lifecycle :=
  match s.policy with
  | .simple h => { s with policy := .simple h.start }
  | .drain c =>
    { s with
      policy := .drain (c.start monitor)
      record := if c.phase = .init then { s.record with phase := some .ready } else s.record }

/-- Begins a stop; the other policy's ends at once and is not recorded. -/
def stop (s : Lifecycle) : Lifecycle :=
  match s.policy with
  | .simple h => { s with policy := .simple h.stop, stops := s.stops ++ [Stop.ended s.now .quiet] }
  | .drain c =>
    { s with
      policy := .drain c.beginStop
      stops := s.stops ++ [Stop.waiting s.now (s.reading c.clock) 0]
      record := { s.record with phase := some .draining } }.settle

def verdict (s : Lifecycle) : Verdict :=
  match s.policy with
  | .simple _ => .ready
  | .drain c => c.verdict

def probe (s : Lifecycle) (origin : Origin) : Lifecycle :=
  match s.policy with
  | .simple _ => s
  | .drain c => { s with policy := .drain (c.handle (s.reading c.clock) origin).2 }

def onMonitor (s : Lifecycle) (i : Nat) (f : Monitor → Monitor) : Lifecycle :=
  { s with monitors := s.monitors.modify i f }

def addMonitor (s : Lifecycle) (m : Monitor) : Lifecycle := { s with monitors := s.monitors ++ [m] }

/-- Moves the clock that is moved by hand, if there is one. -/
def onClock (s : Lifecycle) (f : ManualClock → Option ManualClock) : Option Lifecycle :=
  (s.manual.bind f).map fun clock => { s with manual := some clock }

inductive Event
  | start (monitor : Nat)
  | stop
  | probe (origin : Origin)
  | enter (monitor times : Nat)
  | leave (monitor times : Nat)
  | addMonitor (m : Monitor)
  | advanceClock (d : Nat)
  | setClock (instant : Nat)
  | elapseTo (instant : Nat)
  | join (id : Nat)
  deriving DecidableEq, Repr

def step (s : Lifecycle) : Event → Lifecycle
  | .start monitor => s.start monitor
  | .stop => s.stop
  | .probe origin => s.probe origin
  | .enter monitor times => s.onMonitor monitor (·.enterTimes times)
  | .leave monitor times => s.onMonitor monitor (·.leaveTimes times)
  | .addMonitor m => s.addMonitor m
  | .advanceClock d => (s.onClock (·.advance? d)).getD s
  | .setClock instant => (s.onClock fun clock => some (clock.set instant)).getD s
  | .elapseTo instant => s.elapseTo instant
  | .join id => s.join id

def run (s : Lifecycle) (events : List Event) : Lifecycle := events.foldl step s

end Lifecycle

end GracefulDrain
