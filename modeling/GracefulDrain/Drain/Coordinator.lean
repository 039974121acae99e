import GracefulDrain.Drain.Phase
import GracefulDrain.Drain.Probe
import GracefulDrain.Drain.Settings
import GracefulDrain.Drain.Tracker
import GracefulDrain.Time.Text

/-! A coordinator reads a clock of its own, which stamps the load balancers and measures the window.
The attached monitor is named by its place among the monitors in use. -/
namespace GracefulDrain

inductive ClockSource
  /-- The time in which the service runs. -/
  | steady
  /-- A clock moved by hand. -/
  | manual
  deriving DecidableEq, Repr

structure Coordinator where
  settings : DrainSettings
  valid : settings.Valid
  clock : ClockSource
  phase : Phase
  attached : Option Nat
  tracker : Tracker
  deriving DecidableEq, Repr

namespace Coordinator

def create (settings : DrainSettings) (clock : ClockSource) : Except SettingsFault Coordinator :=
  match h : settings.fault? with
  | some fault => .error fault
  | none => .ok ⟨settings, DrainSettings.fault?_eq_none_iff.1 h, clock, .init, none, .empty⟩

def isReady (c : Coordinator) : Bool := c.phase = .ready

/-- Attaches the monitor unless there is one, and leaves the initial phase. -/
def start (c : Coordinator) (monitor : Nat) : Coordinator :=
  { c with
    attached := c.attached.or (some monitor)
    phase := if c.phase = .init then .ready else c.phase }

/-- Stops advertising the service. -/
def beginStop (c : Coordinator) : Coordinator := { c with phase := .draining }

/-- The probe's client, told `verdict` at clock reading `reading`, is remembered. -/
def note (c : Coordinator) (reading : Nat) (verdict : Verdict) (origin : Origin) : Coordinator :=
  match origin.identity with
  | none => c
  | some id =>
    match verdict with
    | .ready => { c with tracker := c.tracker.noteReady id origin.deployer }
    | .unavailable => { c with tracker := c.tracker.noteNotReady reading id origin.deployer }

def verdict (c : Coordinator) : Verdict := .ofBool c.isReady

def handle (c : Coordinator) (reading : Nat) (origin : Origin) : Verdict × Coordinator :=
  (c.verdict, c.note reading c.verdict origin)

def lbActive (c : Coordinator) (reading : Nat) : Bool :=
  c.tracker.anyActive reading c.settings.quiescenceWindow

@[simp] theorem settings_start (c : Coordinator) (m : Nat) : (c.start m).settings = c.settings := rfl

@[simp] theorem settings_note (c : Coordinator) (r : Nat) (v : Verdict) (o : Origin) :
    (c.note r v o).settings = c.settings := by
  unfold note
  split
  · rfl
  · split <;> rfl

@[simp] theorem phase_note (c : Coordinator) (r : Nat) (v : Verdict) (o : Origin) :
    (c.note r v o).phase = c.phase := by
  unfold note
  split
  · rfl
  · split <;> rfl

@[simp] theorem attached_note (c : Coordinator) (r : Nat) (v : Verdict) (o : Origin) :
    (c.note r v o).attached = c.attached := by
  unfold note
  split
  · rfl
  · split <;> rfl

end Coordinator

/-- An acknowledgement in diagnostic texts; the time of a "not ready" is left out. -/
def Ack.label : Ack → String
  | ready => "None"
  | notReady _ => "Some(..)"

def Tracker.label (t : Tracker) : String :=
  "LbAckTracker \x7b entries: \x7b" ++
    ", ".intercalate (t.entries.map fun e => Text.quoted e.1 ++ ": " ++ e.2.label) ++
    "\x7d, .. \x7d"

def DrainSettings.label (s : DrainSettings) : String :=
  "DrainConfig \x7b path: " ++ Text.quoted s.path ++
    ", shutdown_timeout: " ++ Nanos.text s.shutdownTimeout ++
    ", poll_interval: " ++ Nanos.text s.pollInterval ++
    ", quiescence_window: " ++ Nanos.text s.quiescenceWindow ++ " \x7d"

def Coordinator.label (c : Coordinator) : String :=
  "DrainCoordinator \x7b config: " ++ c.settings.label ++ ", phase: " ++ c.phase.label ++
    ", tracker: " ++ c.tracker.label ++ ", .. \x7d"

end GracefulDrain
