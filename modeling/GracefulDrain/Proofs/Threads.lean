import GracefulDrain.Drain.Lifecycle
import GracefulDrain.Proofs.History

/-! Probes and the watchers of stops share a coordinator, a monitor and a clock, and take turns
after every access to them. -/
namespace GracefulDrain

/-- How far a probe has got. -/
inductive Stage
  | entered
  | sampled (v : Verdict)
  | noted (v : Verdict)
  | answered (v : Verdict)
  | left (answer : Option Verdict)
  deriving DecidableEq, Repr

namespace Stage

def isOpen : Stage → Bool
  | left _ => false
  | _ => true

@[simp] theorem isOpen_left (answer : Option Verdict) : (left answer).isOpen = false := rfl

/-- What the client was told. -/
def answer? : Stage → Option Verdict
  | answered v => some v
  | left answer => answer
  | _ => none

/-- What the coordinator remembers the client to have been told. -/
def noted? : Stage → Option Verdict
  | noted v => some v
  | s => s.answer?

def verdict? : Stage → Option Verdict
  | sampled v => some v
  | s => s.noted?

/-- A probe's own steps, and its end at any point; `now` is the coordinator's verdict. -/
inductive Next (now : Verdict) : Stage → Stage → Prop
  | sample : Next now entered (sampled now)
  | note (v : Verdict) : Next now (sampled v) (noted v)
  | answer (v : Verdict) : Next now (noted v) (answered v)
  | leave {s : Stage} (h : s.isOpen = true) : Next now s (left s.answer?)

theorem noted?_of_answer? {s : Stage} {v : Verdict} (h : s.answer? = some v) :
    s.noted? = some v := by
  cases s <;> simp_all [answer?, noted?]

theorem verdict?_of_noted? {s : Stage} {v : Verdict} (h : s.noted? = some v) :
    s.verdict? = some v := by
  cases s <;> simp_all [verdict?, noted?, answer?]

variable {now v : Verdict} {s s' : Stage}

theorem Next.isOpen (h : Next now s s') : s.isOpen = true := by
  cases h with
  | leave h => exact h
  | _ => rfl

theorem Next.verdict? (h : Next now s s') (hv : s'.verdict? = some v) :
    s.verdict? = some v ∨ now = v := by
  cases h with
  | sample => exact .inr (Option.some.inj hv)
  | note | answer => exact .inl hv
  | leave _ => exact .inl (verdict?_of_noted? (noted?_of_answer? hv))

theorem Next.noted? (h : Next now s s') (hv : s'.noted? = some v) :
    s.noted? = some v ∨ s = sampled v ∧ s' = noted v := by
  cases h with
  | sample => simp [Stage.noted?, answer?] at hv
  | note => exact .inr (by simpa [Stage.noted?] using hv)
  | answer => exact .inl hv
  | leave _ => exact .inl (noted?_of_answer? hv)

end Stage

structure Probe where
  origin : Origin
  stage : Stage
  deriving DecidableEq, Repr

/-- How far the watcher of a stop has got in its round. -/
inductive Watcher
  | looking
  /-- The monitor was not active. -/
  | inactive
  /-- The monitor counted no request. -/
  | idle
  | timed (reading : Nat)
  | signalled (reading : Nat)
  /-- The stop is over. -/
  | ended
  deriving DecidableEq, Repr

/-- A probe's access to what load balancers were told. -/
structure Write where
  probe : Nat
  told : Told
  deriving DecidableEq, Repr

/-- The shared state, the threads, and all writes so far. -/
structure Threads where
  coordinator : Coordinator
  monitor : Monitor
  clock : Nat
  probes : List Probe
  watchers : List Watcher
  writes : List Write
  deriving DecidableEq, Repr

namespace Threads

def initial (c : Coordinator) (clock : Nat) : Threads := ⟨c, .idle, clock, [], [], []⟩

inductive Move
  | enter (origin : Origin)
  | probe (i : Nat)
  /-- A probe ends without its further steps. -/
  | drop (i : Nat)
  | stop
  | watch (i : Nat)
  /-- A stop ends, signalled by its watcher. -/
  | finish (i : Nat)
  | giveUp (i : Nat)
  | elapse (d : Nat)
  deriving DecidableEq, Repr

def setStage (w : Threads) (i : Nat) (p : Probe) (stage : Stage) : Threads :=
  { w with probes := w.probes.set i { p with stage } }

def leave (w : Threads) (i : Nat) (p : Probe) : Threads :=
  { w.setStage i p (.left p.stage.answer?) with monitor := w.monitor.leave }

/-- Deployment tools and unknown clients are not written down. -/
def writesOf (i : Nat) (origin : Origin) (v : Verdict) (reading : Nat) : List Write :=
  match origin with
  | ⟨some id, false⟩ => [⟨i, ⟨id, v, reading⟩⟩]
  | _ => []

def stepProbe (w : Threads) (i : Nat) (p : Probe) : Threads :=
  match p.stage with
  | .entered => w.setStage i p (.sampled w.coordinator.verdict)
  | .sampled v =>
    { w.setStage i p (.noted v) with
      coordinator := w.coordinator.note w.clock v p.origin
      writes := w.writes ++ writesOf i p.origin v w.clock }
  | .noted v => w.setStage i p (.answered v)
  | .answered _ => w.leave i p
  | .left _ => w

/-- A watcher's next step; without a monitor it has no count to read. -/
def nextWatcher (w : Threads) : Watcher → Watcher
  | .looking =>
    if w.coordinator.attached = none then .idle
    else if w.monitor.active then .looking else .inactive
  | .inactive => if w.monitor.count = 0 then .idle else .looking
  | .idle => .timed w.clock
  | .timed reading => if w.coordinator.lbActive reading then .looking else .signalled reading
  | .signalled reading => .signalled reading
  | .ended => .ended

def endStop (w : Threads) (i : Nat) (phase : Phase) : Threads :=
  { w with coordinator := { w.coordinator with phase }, watchers := w.watchers.set i .ended }

def move (w : Threads) : Move → Threads
  | .enter origin =>
    { w with monitor := w.monitor.enter, probes := w.probes ++ [⟨origin, .entered⟩] }
  | .probe i =>
    match w.probes[i]? with
    | some p => w.stepProbe i p
    | none => w
  | .drop i =>
    match w.probes[i]? with
    | some p => if p.stage.isOpen then w.leave i p else w
    | none => w
  | .stop => { w with coordinator := w.coordinator.beginStop, watchers := w.watchers ++ [.looking] }
  | .watch i => { w with watchers := w.watchers.modify i w.nextWatcher }
  | .finish i =>
    match w.watchers[i]? with
    | some (.signalled _) => w.endStop i .done
    | _ => w
  | .giveUp i =>
    match w.watchers[i]? with
    | none | some .ended => w
    | some _ => w.endStop i .timedOut
  | .elapse d => { w with clock := w.clock + d }

def follow (w : Threads) (moves : List Move) : Threads := moves.foldl move w

@[simp] theorem follow_nil (w : Threads) : w.follow [] = w := rfl

@[simp] theorem follow_cons (w : Threads) (m : Move) (rest : List Move) :
    w.follow (m :: rest) = (w.move m).follow rest := rfl

theorem follow_append (w : Threads) (moves rest : List Move) :
    w.follow (moves ++ rest) = (w.follow moves).follow rest := by
  simp [follow]

def openCount (w : Threads) : Nat := w.probes.countP (·.stage.isOpen)

/-- A probe that nothing comes between is answered and noted at once, while it is in flight. -/
theorem follow_probe (w : Threads) (origin : Origin) :
    w.follow (.enter origin :: List.replicate 4 (.probe w.probes.length)) =
      let (v, coordinator) := w.coordinator.handle w.clock origin
      { w with
        coordinator
        monitor := w.monitor.enter.leave
        probes := w.probes ++ [⟨origin, .left (some v)⟩]
        writes := w.writes ++ writesOf w.probes.length origin v w.clock } := by
  simp [List.replicate, move, stepProbe, setStage, leave, Coordinator.handle, Stage.answer?]

/-- A watcher's round that nothing comes between signals if and only if a look finds quiet. -/
theorem follow_watch {w : Threads} {i : Nat} (h : w.watchers[i]? = some .looking)
    (ha : w.coordinator.attached.isSome) :
    ((w.follow (List.replicate 4 (.watch i))).watchers[i]? = some (.signalled w.clock) ↔
      Observation.isQuiet ⟨w.monitor.count, w.coordinator.lbActive w.clock⟩ = true) := by
  have hne : w.coordinator.attached ≠ none := Option.isSome_iff_ne_none.1 ha
  by_cases hcount : w.monitor.count = 0 <;>
    cases hactive : w.coordinator.lbActive w.clock <;>
      simp [List.replicate, move, nextWatcher, h, hne, hcount, hactive, Monitor.active,
        Observation.isQuiet]

end Threads

end GracefulDrain
