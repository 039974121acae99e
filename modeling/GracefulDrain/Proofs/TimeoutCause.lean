import GracefulDrain.Proofs.StopOutcome
import GracefulDrain.Proofs.TrackerHistory

/-! A stop that times out reports what is seen at its limit, and not what kept it waiting at its
last look before. -/
namespace GracefulDrain

/-- A request is in flight, or a load balancer is active. -/
def Observation.NamesCause (o : Observation) : Prop := 0 < o.inflight ∨ o.lbActive = true

theorem Observation.namesCause_iff (o : Observation) : o.NamesCause ↔ o.isQuiet = false := by
  obtain ⟨inflight, lbActive⟩ := o
  have hpos : 0 < inflight ↔ inflight ≠ 0 := UInt32.pos_iff_ne_zero
  cases lbActive <;> simp [NamesCause, isQuiet, hpos]

namespace Lifecycle
open Told

/-- No request is in flight, and whoever ever probed has been refused for the whole window. -/
structure Quiesced (s : Lifecycle) (c : Coordinator) (history : List Told) : Prop where
  idle : ∀ i, c.attached = some i → (s.monitor i).count = 0
  refused : AllRefused history c.settings.quiescenceWindow (s.reading c.clock)

variable {s : Lifecycle} {c : Coordinator} {id : Nat}

theorem isQuiet_observe_iff {history : List Told}
    (h : c.tracker = history.foldl Tracker.tell .empty) :
    (s.observe c).isQuiet = true ↔ s.Quiesced c history := by
  have hactive : c.tracker.anyActive (s.reading c.clock) c.settings.quiescenceWindow = false ↔
      AllRefused history c.settings.quiescenceWindow (s.reading c.clock) := by
    rw [h]
    exact Tracker.anyActive_foldl_tell_eq_false_iff c.valid.quiescenceWindow_pos
  simp only [Observation.isQuiet, observe, Coordinator.lbActive, Bool.and_eq_true,
    Bool.not_eq_true', hactive]
  constructor
  · rintro ⟨hidle, hall⟩
    exact ⟨fun i hi => by simpa [hi] using hidle, hall⟩
  · rintro ⟨hidle, hall⟩
    refine ⟨decide_eq_true ?_, hall⟩
    cases hi : c.attached with
    | none => rfl
    | some i => exact hidle i hi

/-- A look finds the service quiet exactly if it has quiesced. -/
theorem exists_quiesced_iff {settings : DrainSettings} {clock : ClockSource}
    (hc : Coordinator.create settings clock = .ok c) (manual : Option ManualClock)
    (moves : List Move) :
    ∃ c', ((initial (.drain c) manual).follow moves).policy = .drain c' ∧ c'.settings = settings ∧
      c'.clock = clock ∧ (((initial (.drain c) manual).follow moves).sight.isQuiet = true ↔
        ((initial (.drain c) manual).follow moves).Quiesced c'
          ((initial (.drain c) manual).told moves)) := by
  obtain ⟨hcs, hck, hct⟩ := Coordinator.create_eq_ok hc
  obtain ⟨c', hp, hsettings, hclock, htracker⟩ :=
    exists_drain_follow (s := initial (.drain c) manual) rfl moves
  refine ⟨c', hp, hsettings.trans hcs, hclock.trans hck, ?_⟩
  rw [sight_eq hp]
  exact isQuiet_observe_iff (hct ▸ htracker)

/-- Before a time-out came looks that all found the service busy. -/
theorem Course.exists_limit {settings : DrainSettings} {begun reading looks instant : Nat}
    {ticks : List Lifecycle} {final : Lifecycle} {inflight : UInt32} {lbActive : Bool}
    (h : Course settings begun reading id looks ticks final)
    (hs : final.stops[id]? = some (.ended instant (.timedOut inflight lbActive))) :
    ∃ k, settings.shutdownTimeout ≤ (looks + k) * settings.pollInterval ∧
      (∃ tick, ticks[k]? = some tick ∧ tick.now = instant ∧ tick.sight = ⟨inflight, lbActive⟩) ∧
      ∀ j < k, (looks + j) * settings.pollInterval < settings.shutdownTimeout ∧
        ∃ tick, ticks[j]? = some tick ∧ tick.sight.isQuiet = false := by
  induction h with
  | waiting stop => simp [stop] at hs
  | @again looks tick final later now early busy rest ih =>
    obtain ⟨k, hlate, htick, hbefore⟩ := ih hs
    have hshift (k : Nat) : looks + 1 + k = looks + (k + 1) := by omega
    refine ⟨k + 1, hshift k ▸ hlate, htick, fun j hj => ?_⟩
    cases j with
    | zero => exact ⟨early, tick, rfl, busy⟩
    | succ j => exact hshift j ▸ hbefore j (Nat.lt_of_succ_lt_succ hj)
  | quiet _ _ _ _ stop => simp [stop] at hs
  | @limit looks tick final now late ends stop =>
    rw [stop, Option.some.injEq, Stop.ended.injEq, Outcome.timedOut.injEq] at hs
    obtain ⟨hnow, hinflight, hactive⟩ := hs
    refine ⟨0, late, ⟨tick, rfl, hnow, ?_⟩, fun j hj => absurd hj (Nat.not_lt_zero j)⟩
    rw [← hinflight, ← hactive]

/-- A stop that began at the outset has looked so many times; `own` counts the requests. -/
def stopping (c : Coordinator) (manual : Option ManualClock) (own : Monitor) (looks now : Nat) :
    Lifecycle :=
  ⟨.drain { c with phase := .draining, attached := some ownMonitor }, [own], now, manual,
    [.waiting 0 ((initial (.drain c) manual).reading c.clock) looks], ⟨some .draining, []⟩⟩

/-- Time passes from look to look. -/
def rounds (settings : DrainSettings) (n : Nat) : List Move :=
  (List.range n).flatMap fun k => [.pass (k * settings.pollInterval), .wake 0]

theorem now_stopping (c : Coordinator) (manual : Option ManualClock) (own : Monitor)
    (looks now : Nat) : (stopping c manual own looks now).now = now := rfl

theorem waiting_stopping (c : Coordinator) (manual : Option ManualClock) (own : Monitor)
    (looks now : Nat) : (stopping c manual own looks now).stops[0]? =
      some (.waiting 0 ((initial (.drain c) manual).reading c.clock) looks) := rfl

/-- Time moves on to the instant at which the stop looks next, and not further. -/
theorem pass_stopping (c : Coordinator) (manual : Option ManualClock) (own : Monitor)
    {looks now due : Nat} (hnow : now ≤ due)
    (hdue : min (looks * c.settings.pollInterval) c.settings.shutdownTimeout = due) :
    (stopping c manual own looks now).pass due = stopping c manual own looks due := by
  simp only [pass, nextWake?, stopping, List.filterMap_cons, List.filterMap_nil, Stop.wake?,
    Stop.nextLook, Stop.deadline, Nat.zero_add, List.min?_singleton, Option.map_some,
    Option.getD_some, hdue, min_self, max_eq_right hnow]

theorem round_stopping (c : Coordinator) (manual : Option ManualClock) {looks now : Nat}
    (hnow : now ≤ looks * c.settings.pollInterval)
    (hearly : looks * c.settings.pollInterval < c.settings.shutdownTimeout) :
    (stopping c manual ⟨1⟩ looks now).follow [.pass (looks * c.settings.pollInterval), .wake 0] =
      stopping c manual ⟨1⟩ (looks + 1) (looks * c.settings.pollInterval) := by
  have hbusy : ((stopping c manual ⟨1⟩ looks (looks * c.settings.pollInterval)).observe
      { c with phase := .draining, attached := some ownMonitor }).isQuiet = false := rfl
  have hwake := wake_waiting rfl
    (waiting_stopping c manual ⟨1⟩ looks (looks * c.settings.pollInterval))
    (.waiting 0 ((initial (.drain c) manual).reading c.clock) (looks + 1))
    (by simp [Stop.settle, Stop.deadline, Stop.nextLook, now_stopping, hearly, hbusy])
  rw [follow_cons, follow_cons, follow_nil, move,
    pass_stopping c manual ⟨1⟩ hnow (min_eq_left hearly.le), move, hwake]
  rfl

theorem rounds_stopping (c : Coordinator) (manual : Option ManualClock) {n : Nat}
    (h : n * c.settings.pollInterval < c.settings.shutdownTimeout) :
    (stopping c manual ⟨1⟩ 0 0).follow (rounds c.settings (n + 1)) =
      stopping c manual ⟨1⟩ (n + 1) (n * c.settings.pollInterval) := by
  induction n with
  | zero =>
    have hround := round_stopping c manual (Nat.zero_le _) h
    simpa [rounds] using hround
  | succ n ih =>
    have hle : n * c.settings.pollInterval ≤ (n + 1) * c.settings.pollInterval :=
      Nat.mul_le_mul_right _ (Nat.le_succ n)
    have hsplit : rounds c.settings (n + 2) = rounds c.settings (n + 1) ++
        [.pass ((n + 1) * c.settings.pollInterval), .wake 0] := by
      rw [rounds, List.range_succ, List.flatMap_append, List.flatMap_singleton]
      rfl
    rw [hsplit, follow_append, ih (hle.trans_lt h)]
    exact round_stopping c manual hle h

/-- At the limit the stop reports that there is nothing to wait for. -/
theorem stops_wake_stopping (manual : Option ManualClock) (ht : c.tracker = .empty) (looks : Nat) :
    ((stopping c manual .idle looks c.settings.shutdownTimeout).wake 0).stops =
      [.ended c.settings.shutdownTimeout (.timedOut 0 false)] := by
  have hseen : (stopping c manual .idle looks c.settings.shutdownTimeout).observe
      { c with phase := .draining, attached := some ownMonitor } = ⟨0, false⟩ := by
    simp only [observe, Coordinator.lbActive, ht]
    rfl
  have hwake := wake_waiting rfl
    (waiting_stopping c manual .idle looks c.settings.shutdownTimeout)
    (.ended c.settings.shutdownTimeout (.timedOut 0 false))
    (by simp [Stop.settle, Stop.deadline, now_stopping, hseen])
  exact congrArg Lifecycle.stops hwake

theorem begin_stopping {settings : DrainSettings} {clock : ClockSource}
    (hc : Coordinator.create settings clock = .ok c) (manual : Option ManualClock) :
    (initial (.drain c) manual).follow [.start ownMonitor, .enter ownMonitor 1, .beginStop] =
      stopping c manual ⟨1⟩ 0 0 := by
  unfold Coordinator.create at hc
  split at hc
  · cases hc
  · cases hc
    rfl

/-- A request ends between the last look and the limit. -/
theorem exists_timeout_of_nothing {settings : DrainSettings} {clock : ClockSource}
    (hc : Coordinator.create settings clock = .ok c) (manual : Option ManualClock) :
    ∃ moves, ((initial (.drain c) manual).follow moves).stops =
      [.ended settings.shutdownTimeout (.timedOut 0 false)] := by
  have hbegun := begin_stopping hc manual
  obtain ⟨rfl, -, ht⟩ := Coordinator.create_eq_ok hc
  set n := (c.settings.shutdownTimeout - 1) / c.settings.pollInterval with hn
  have hlimit := c.valid.shutdownTimeout_pos
  have hearly : n * c.settings.pollInterval < c.settings.shutdownTimeout := by
    have hle := Nat.div_mul_le_self (c.settings.shutdownTimeout - 1) c.settings.pollInterval
    rw [← hn] at hle
    omega
  have hlate : c.settings.shutdownTimeout ≤ (n + 1) * c.settings.pollInterval := by
    have hlt := Nat.lt_mul_of_div_lt n.lt_add_one c.valid.pollInterval_pos
    omega
  have hleft : (stopping c manual ⟨1⟩ (n + 1) (n * c.settings.pollInterval)).onMonitor ownMonitor
      (·.leaveTimes 1) = stopping c manual .idle (n + 1) (n * c.settings.pollInterval) := rfl
  refine ⟨[.start ownMonitor, .enter ownMonitor 1, .beginStop] ++ rounds c.settings (n + 1) ++
    [.leave ownMonitor 1, .pass c.settings.shutdownTimeout, .wake 0], ?_⟩
  rw [follow_append, follow_append, hbegun, rounds_stopping c manual hearly, follow_cons, move,
    hleft, follow_cons, move, pass_stopping c manual .idle hearly.le (min_eq_right hlate)]
  exact stops_wake_stopping manual ht (n + 1)

/-- However a stop interleaves with anything else, at its last look before a time-out there was a
cause to wait, and the report shows what is seen at the limit, at most one poll interval later. It
names no cause exactly if the service has quiesced by then. Whatever the settings, some sequence of
moves ends in a time-out that reports nothing. -/
theorem timeout_cause_iff {settings : DrainSettings} {clock : ClockSource}
    (hc : Coordinator.create settings clock = .ok c) (manual : Option ManualClock) :
    let initially := initial (.drain c) manual
    let poll := settings.pollInterval
    let limit := settings.shutdownTimeout
    (∀ events, ∃ moves, initially.run events = initially.follow moves ∧
      moves.filterMap Move.event? = events.filter Event.isOutward) ∧
    (∀ past more instant inflight lbActive,
      let s := initially.follow past
      let id := s.stops.length
      let looks := s.beginStop.ticks id more
      (s.beginStop.follow more).stops[id]? = some (.ended instant (.timedOut inflight lbActive)) →
        instant = s.now + limit ∧ ∃ k, k * poll < limit ∧ limit ≤ (k + 1) * poll ∧
          (∃ last ∈ looks[k]?, last.now = s.now + k * poll ∧ last.sight.NamesCause) ∧
          ∃ final ∈ looks[k + 1]?, final.now = instant ∧ final.sight = ⟨inflight, lbActive⟩ ∧
            ∃ before rest c', more = before ++ .wake id :: rest ∧
              s.beginStop.follow before = final ∧ final.policy = .drain c' ∧
              (¬ (Observation.mk inflight lbActive).NamesCause ↔
                final.Quiesced c' (initially.told (past ++ .beginStop :: before)))) ∧
    ∃ moves, (initially.follow moves).stops = [.ended limit (.timedOut 0 false)] := by
  intro initially poll limit
  refine ⟨exists_follow_eq_run initially, ?_, ?_⟩
  · intro past more instant inflight lbActive s id looks hended
    obtain ⟨c₁, hp, hsettings, -⟩ := exists_drain_follow (s := initially) (c := c) rfl past
    rw [(Coordinator.create_eq_ok hc).1] at hsettings
    obtain ⟨hbegun, hnow, hstop⟩ := beginStop_waiting hp
    have hcourse : Course settings s.now (s.reading c₁.clock) id 0 looks
        (s.beginStop.follow more) :=
      hsettings ▸ course_follow hbegun hstop (by rw [hnow]; exact Nat.le_add_right _ _) more
    obtain ⟨n, hlate, ⟨final, hfinal, hinstant, hsight⟩, hbefore⟩ := hcourse.exists_limit hended
    have hlimit : final.now = s.now + limit := by
      rw [hcourse.now_eq hfinal, min_eq_right hlate]
    rw [Nat.zero_add] at hlate
    -- the first look is before the limit, so that one came before the last
    obtain ⟨k, rfl⟩ : ∃ k, n = k + 1 := by
      refine Nat.exists_eq_succ_of_ne_zero fun hzero => ?_
      have hpos := c₁.valid.shutdownTimeout_pos
      rw [hsettings] at hpos
      rw [hzero, Nat.zero_mul] at hlate
      omega
    obtain ⟨hearly, last, hlast, hbusy⟩ := hbefore k (Nat.lt_succ_self k)
    have hlooked : last.now = s.now + k * poll := by
      rw [hcourse.now_eq hlast, min_eq_left hearly.le, Nat.zero_add]
    rw [Nat.zero_add] at hearly
    have hcause := last.sight.namesCause_iff.2 hbusy
    refine ⟨hinstant ▸ hlimit, k, hearly, hlate, ⟨last, hlast, hlooked, hcause⟩, final, hfinal,
      hinstant, hsight, ?_⟩
    obtain ⟨before, rest, hsplit, hreached⟩ := exists_of_mem_ticks (List.mem_of_getElem? hfinal)
    have hall : initially.follow (past ++ .beginStop :: before) = final := by
      rw [follow_append, follow_cons, ← hreached]
      rfl
    obtain ⟨c', hp', -, -, hquiet⟩ := exists_quiesced_iff hc manual (past ++ .beginStop :: before)
    rw [hall] at hp' hquiet
    refine ⟨before, rest, c', hsplit, hreached, hp', ?_⟩
    rw [← hquiet, hsight, Observation.namesCause_iff, Bool.not_eq_false]
  · exact exists_timeout_of_nothing hc manual

/-- A load balancer that was told "ready" does not come back. -/
theorem timeout_cause_iff_unheard :
    ∃ c, Coordinator.create ⟨"/", 10, 6, 1⟩ .steady = .ok c ∧
      let s := (initial (.drain c) none).follow [.start 0, .probe ⟨some "lb", false⟩]
      let more : List Move := [.wake 0, .pass 6, .wake 0, .pass 10, .wake 0]
      (s.beginStop.follow more).stops[0]? = some (.ended 10 (.timedOut 0 true)) ∧
      ∃ k, k * 6 < 10 ∧ 10 ≤ (k + 1) * 6 ∧
        ∃ last ∈ (s.beginStop.ticks 0 more)[k]?, last.now = k * 6 ∧ last.sight.NamesCause := by
  have hc : Coordinator.create ⟨"/", 10, 6, 1⟩ .steady =
      .ok ⟨⟨"/", 10, 6, 1⟩, by decide, .steady, .init, none, .empty⟩ := by decide
  refine ⟨_, hc, ?_⟩
  intro s more
  have hended : (s.beginStop.follow more).stops[0]? = some (.ended 10 (.timedOut 0 true)) := by
    decide
  obtain ⟨-, k, hearly, hlate, ⟨last, hlast, hnow, hcause⟩, -⟩ :=
    (timeout_cause_iff hc none).2.1 [.start 0, .probe ⟨some "lb", false⟩] more 10 0 true hended
  exact ⟨hended, k, hearly, hlate, last, hlast, hnow.trans (Nat.zero_add _), hcause⟩

/-- The looks are due at 0 and 6, the limit is at 10, and the only request ends at 8. -/
theorem not_namesCause_between_looks :
    ∃ c, Coordinator.create ⟨"/", 10, 6, 1⟩ .steady = .ok c ∧
      ((initial (.drain c) none).run
        [.start 0, .enter 0 1, .stop, .elapseTo 8, .leave 0 1, .join 0]).stops =
          [.ended 10 (.timedOut 0 false)] ∧
      ¬ (Observation.mk 0 false).NamesCause := by
  have hc : Coordinator.create ⟨"/", 10, 6, 1⟩ .steady =
      .ok ⟨⟨"/", 10, 6, 1⟩, by decide, .steady, .init, none, .empty⟩ := by decide
  refine ⟨_, hc, ?_, by simp [Observation.NamesCause]⟩
  have hrun (s : Lifecycle) :
      s.run [.start 0, .enter 0 1, .stop, .elapseTo 8, .leave 0 1, .join 0] =
        ((((s.start 0).onMonitor 0 (·.enterTimes 1)).stop.elapseTo 8).onMonitor 0
          (·.leaveTimes 1)).join 0 := rfl
  rw [hrun, elapseTo, runUntil_of_le (w := 6) rfl (by decide) (by decide),
    runUntil_of_lt (by decide), join, runUntil_of_le (w := 10) (by decide) (by decide) (by decide),
    runUntil_of_enough (by decide)]
  decide

end Lifecycle

end GracefulDrain
