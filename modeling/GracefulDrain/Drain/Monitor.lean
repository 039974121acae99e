/-! A monitor counts requests in a 32-bit word: a begin wraps around, an end stops at zero, so an
unmatched end never hides a later begin. -/
namespace GracefulDrain

structure Monitor where
  count : UInt32
  deriving DecidableEq, Repr

namespace Monitor

def idle : Monitor := ⟨0⟩

def enter (m : Monitor) : Monitor := ⟨m.count + 1⟩

/-- One request fewer, never below none. -/
def leave (m : Monitor) : Monitor := if m.count = 0 then m else ⟨m.count - 1⟩

def active (m : Monitor) : Bool := m.count ≠ 0

def enterTimes (m : Monitor) (n : Nat) : Monitor := ⟨m.count + UInt32.ofNat n⟩

def leaveTimes (m : Monitor) (n : Nat) : Monitor :=
  if m.count.toNat ≤ n then idle else ⟨m.count - UInt32.ofNat n⟩

theorem leave_enter {m : Monitor} (h : m.count ≠ -1) : m.enter.leave = m := by
  cases m with
  | mk c =>
    have : c + 1 ≠ 0 := fun hc => h (by
      have := congrArg (· - 1) hc
      simpa using this)
    simp [enter, leave, this]

theorem enterTimes_zero (m : Monitor) : m.enterTimes 0 = m := by
  simp [enterTimes]

theorem enterTimes_succ (m : Monitor) (n : Nat) : m.enterTimes (n + 1) = (m.enterTimes n).enter := by
  simp [enterTimes, enter, UInt32.add_assoc]

theorem toNat_enterTimes (m : Monitor) {n : Nat} (h : m.count.toNat + n < UInt32.size) :
    (m.enterTimes n).count.toNat = m.count.toNat + n := by
  rw [UInt32.size] at h
  simp only [enterTimes, UInt32.toNat_add, UInt32.toNat_ofNat']
  omega

theorem toNat_enter {m : Monitor} (h : m.count.toNat + 1 < UInt32.size) :
    m.enter.count.toNat = m.count.toNat + 1 := by
  have henter := toNat_enterTimes m h
  rwa [enterTimes_succ, enterTimes_zero] at henter

theorem toNat_leave (m : Monitor) : m.leave.count.toNat = m.count.toNat - 1 := by
  unfold leave
  split
  · rename_i h; simp [h]
  · rename_i h
    have : 1 ≤ m.count.toNat := by
      rcases Nat.eq_zero_or_pos m.count.toNat with h0 | h0
      · exact absurd (UInt32.toNat_inj.1 (by simpa using h0)) h
      · exact h0
    rw [UInt32.toNat_sub_of_le _ _ (UInt32.le_iff_toNat_le.2 (by simpa using this))]
    rfl

theorem toNat_leaveTimes (m : Monitor) (n : Nat) :
    (m.leaveTimes n).count.toNat = m.count.toNat - n := by
  unfold leaveTimes
  have hlt := m.count.toNat_lt
  split
  · rename_i h; simp [idle]; omega
  · rename_i h
    have hn : (UInt32.ofNat n).toNat = n := by
      simp only [UInt32.toNat_ofNat']; omega
    rw [UInt32.toNat_sub_of_le _ _ (UInt32.le_iff_toNat_le.2 (by omega)), hn]

theorem leaveTimes_zero (m : Monitor) : m.leaveTimes 0 = m := by
  have := toNat_leaveTimes m 0
  cases m with
  | mk c =>
    have hc : (Monitor.leaveTimes ⟨c⟩ 0).count = c := UInt32.toNat_inj.1 (by simpa using this)
    cases h : Monitor.leaveTimes ⟨c⟩ 0
    simp_all

theorem leaveTimes_succ (m : Monitor) (n : Nat) : m.leaveTimes (n + 1) = (m.leaveTimes n).leave := by
  have h : (m.leaveTimes (n + 1)).count = (m.leaveTimes n).leave.count := UInt32.toNat_inj.1 (by
    rw [toNat_leaveTimes, toNat_leave, toNat_leaveTimes]; omega)
  cases h1 : m.leaveTimes (n + 1)
  cases h2 : (m.leaveTimes n).leave
  simp_all

end Monitor

/-- Independent counters with the handles and guards that refer to them. -/
structure MonitorPool where
  counters : List Monitor
  handles : List Nat
  /-- The counter of each guard, until the guard is dropped. -/
  guards : List (Option Nat)
  deriving DecidableEq, Repr

namespace MonitorPool

/-- What is done through handle `on` of a pool. -/
inductive Action
  | enter (times : Nat)
  | leave (times : Nat)
  | track
  | drop (guard : Nat)
  | clone
  | fresh
  | threads (times begins ends : Nat)
  deriving DecidableEq, Repr

def initial : MonitorPool := ⟨[Monitor.idle], [0], []⟩

def onCounter (pool : MonitorPool) (c : Nat) (f : Monitor → Monitor) : MonitorPool :=
  { pool with counters := pool.counters.modify c f }

/-- Threads that each begin `begins` requests and end at most as many leave the difference behind,
in whatever order their steps interleave. -/
def act (pool : MonitorPool) (counter : Nat) : Action → MonitorPool
  | .enter times => pool.onCounter counter (·.enterTimes times)
  | .leave times => pool.onCounter counter (·.leaveTimes times)
  | .track =>
    { pool.onCounter counter (·.enter) with guards := pool.guards ++ [some counter] }
  | .drop guard =>
    match pool.guards[guard]? with
    | some (some c) =>
      { pool.onCounter c (·.leave) with guards := pool.guards.set guard none }
    | _ => pool
  | .clone => { pool with handles := pool.handles ++ [counter] }
  | .fresh =>
    { pool with
      counters := pool.counters ++ [Monitor.idle]
      handles := pool.handles ++ [pool.counters.length] }
  | .threads times begins ends =>
    (pool.onCounter counter (·.enterTimes (times * begins))).onCounter counter
      (·.leaveTimes (times * min ends begins))

/-- One action through handle `on`, refused when there is no such handle. -/
def step? (pool : MonitorPool) (on : Nat) (action : Action) : Option MonitorPool :=
  (pool.handles[on]?).map fun counter => pool.act counter action

def view (pool : MonitorPool) : List Monitor :=
  pool.handles.map fun c => pool.counters.getD c Monitor.idle

end MonitorPool

end GracefulDrain
