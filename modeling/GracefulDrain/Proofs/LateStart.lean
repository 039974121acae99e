import GracefulDrain.Proofs.Readiness
import GracefulDrain.Proofs.StopOutcome

namespace GracefulDrain

theorem Monitor.leaveTimes_all (m : Monitor) : m.leaveTimes (2 ^ 32) = idle := by
  have hlt : m.count.toNat < 2 ^ 32 := m.count.toNat_lt
  rw [leaveTimes, if_pos hlt.le]

namespace Lifecycle

variable {s : Lifecycle} {c : Coordinator}

/-- Time alone changes neither the monitors nor which one is attached. -/
theorem inflight_move_of_silent (hp : s.policy = .drain c) {m : Move} (hm : m.event? = none) :
    ∃ c', (s.move m).policy = .drain c' ∧
      ((s.move m).observe c').inflight = (s.observe c).inflight := by
  cases m with
  | pass instant => exact ⟨c, hp, rfl⟩
  | wake id =>
    simp only [move, wake, hp]
    split
    · next heq _ =>
      cases heq
      exact ⟨_, rfl, rfl⟩
    · exact ⟨c, hp, rfl⟩
  | start | beginStop | probe | enter | leave | addMonitor | advanceClock | setClock => cases hm

theorem inflight_follow_of_silent (hp : s.policy = .drain c) {moves : List Move}
    (h : Silent moves) :
    ∃ c', (s.follow moves).policy = .drain c' ∧
      ((s.follow moves).observe c').inflight = (s.observe c).inflight := by
  induction moves generalizing s c with
  | nil => exact ⟨c, hp, rfl⟩
  | cons m rest ih =>
    have hm : m.event? = none := by
      cases hm : m.event? with
      | none => rfl
      | some e => simp [Silent, hm] at h
    have hrest : Silent rest := by simpa [Silent, hm] using h
    obtain ⟨c₁, hp₁, h₁⟩ := inflight_move_of_silent hp hm
    obtain ⟨c₂, hp₂, h₂⟩ := ih hp₁ hrest
    exact ⟨c₂, hp₂, h₂.trans h₁⟩

theorem exists_silent_join_stop (s : Lifecycle) :
    ∃ moves, Silent moves ∧ s.stop.join s.stops.length = s.beginStop.follow moves := by
  obtain ⟨ids, hids⟩ := exists_settle s.beginStop
  obtain ⟨moves, hsilent, hjoin⟩ := exists_runUntil s.stop (s.stop.lastInstant s.stops.length)
    fun t => (t.stops[s.stops.length]?).all Stop.isEnded
  refine ⟨ids.map .wake ++ moves, (silent_wakes ids).append hsilent, ?_⟩
  rw [join, hjoin, follow_append, ← hids, ← stop_eq]

/-- Whatever has happened since a stop began, who waits for it to end gets there. -/
theorem exists_ended_join_follow (hp : s.policy = .drain c) (moves : List Move) :
    ∃ instant outcome, ((s.beginStop.follow moves).join s.stops.length).stops[s.stops.length]? =
      some (.ended instant outcome) := by
  obtain ⟨hbegun, hnow, hstop⟩ := beginStop_waiting hp
  obtain ⟨c', hp', hsettings, -⟩ := exists_drain_follow hbegun moves
  have hcourse := course_follow hbegun hstop (by rw [hnow]; exact Nat.le_add_right _ _) moves
  rcases hcourse.waiting_or_ended with ⟨looks, hwaiting, hle⟩ | ⟨instant, outcome, hended⟩
  · exact exists_ended_join hp' hwaiting (hsettings ▸ hle)
  · obtain ⟨later, -, hjoin⟩ := exists_runUntil (s.beginStop.follow moves)
      ((s.beginStop.follow moves).lastInstant s.stops.length)
      fun t => (t.stops[s.stops.length]?).all Stop.isEnded
    rw [join, hjoin]
    exact ⟨instant, outcome, (follow_of_ended hp' hended later).1⟩

theorem exists_ended_join_stop (hp : s.policy = .drain c) :
    ∃ instant outcome,
      (s.stop.join s.stops.length).stops[s.stops.length]? = some (.ended instant outcome) := by
  obtain ⟨ids, hids⟩ := exists_settle s.beginStop
  rw [stop_eq, hids]
  exact exists_ended_join_follow hp (ids.map .wake)

/-- A stop that is waited for, with nothing else happening, reports the requests that were in flight
when it began. -/
theorem outcome_join_stop (hp : s.policy = .drain c) :
    ∃ instant outcome,
      (s.stop.join s.stops.length).stops[s.stops.length]? = some (.ended instant outcome) ∧
      (outcome = .quiet ∧ (s.observe c).inflight = 0 ∨
        ∃ lbActive, outcome = .timedOut (s.observe c).inflight lbActive) := by
  obtain ⟨instant, outcome, hended⟩ := exists_ended_join_stop hp
  refine ⟨instant, outcome, hended, ?_⟩
  obtain ⟨hbegun, -, hstop⟩ := beginStop_waiting hp
  obtain ⟨moves, hsilent, hjoin⟩ := exists_silent_join_stop s
  rw [hjoin] at hended
  obtain ⟨past, rest, rfl, c₁, begun, reading, looks, hp₁, -, -, hsettle⟩ :=
    exists_wake_of_ended hbegun (by simp [hstop]) hended
  obtain ⟨c₂, hp₂, hinflight⟩ := inflight_follow_of_silent hbegun hsilent.of_append
  obtain rfl : c₁ = c₂ := by
    rw [hp₁] at hp₂
    cases hp₂
    rfl
  have hsame : (s.beginStop.observe c.beginStop).inflight = (s.observe c).inflight := by
    simp [observe, beginStop, hp, monitor, Coordinator.beginStop]
  rw [hsame] at hinflight
  rcases (settle_eq_ended hsettle).2 with ⟨hquiet, hq⟩ | hlate
  · refine .inl ⟨hquiet, ?_⟩
    simp only [Observation.isQuiet, Bool.and_eq_true, decide_eq_true_eq] at hq
    rw [← hinflight, hq.1]
  · exact .inr ⟨_, by rw [hlate, hinflight]⟩

theorem start_of_phase_ne (hp : s.policy = .drain c) (hphase : c.phase ≠ .init) (monitor : Nat) :
    s.start monitor =
      { s with policy := .drain { c with attached := c.attached.or (some monitor) } } := by
  simp [start, hp, Coordinator.start, hphase]

theorem monitor_onMonitor {i : Nat} (hi : i < s.monitors.length) (f : Monitor → Monitor) :
    (s.onMonitor i f).monitor i = f (s.monitor i) := by
  simp [onMonitor, monitor, List.getD_eq_getElem?_getD, hi]

/-- One request in flight on a monitor, and then a stop that is waited for. -/
def crowdedStop (s : Lifecycle) (monitor : Nat) : List Event :=
  [.leave monitor (2 ^ 32), .enter monitor 1, .stop, .join s.stops.length]

/-- What the stop reports of the request depends on which monitor is attached. -/
theorem outcome_crowdedStop (hp : s.policy = .drain c) {monitor : Nat}
    (hi : monitor < s.monitors.length) {inflight : UInt32}
    (hinflight : c.attached = none ∧ inflight = 0 ∨ c.attached = some monitor ∧ inflight = 1) :
    ∃ instant outcome, (s.run (s.crowdedStop monitor)).stops[s.stops.length]? =
        some (.ended instant outcome) ∧
      (outcome = .quiet ∧ inflight = 0 ∨ ∃ lbActive, outcome = .timedOut inflight lbActive) := by
  set t := (s.onMonitor monitor (·.leaveTimes (2 ^ 32))).onMonitor monitor (·.enterTimes 1) with ht
  have hrun : s.run (s.crowdedStop monitor) = t.stop.join t.stops.length := rfl
  have hmonitor : (t.monitor monitor).count = 1 := by
    rw [ht, monitor_onMonitor (by simpa [onMonitor] using hi), monitor_onMonitor hi]
    rw [Monitor.leaveTimes_all]
    rfl
  have hseen : (t.observe c).inflight = inflight := by
    rcases hinflight with ⟨hnone, rfl⟩ | ⟨hsome, rfl⟩
    · simp [observe, hnone]
    · simp [observe, hsome, hmonitor]
  have houtcome := outcome_join_stop (s := t) (c := c) hp
  rwa [hseen, ← hrun] at houtcome

/-- A late start is noticed by a later stop unless some monitor was attached before. -/
theorem stops_run_start_ne (hp : s.policy = .drain c) (hphase : c.phase ≠ .init)
    (hnone : c.attached = none) {monitor : Nat} (hi : monitor < s.monitors.length) :
    ((s.start monitor).run (s.crowdedStop monitor)).stops ≠
      (s.run (s.crowdedStop monitor)).stops := by
  intro hsame
  have hstart := start_of_phase_ne hp hphase monitor
  obtain ⟨_, outcome, hwithout, hzero⟩ := outcome_crowdedStop hp hi (.inl ⟨hnone, rfl⟩)
  obtain ⟨_, outcome', hwith, hone⟩ := outcome_crowdedStop (s := s.start monitor) (by rw [hstart])
    (by rw [hstart]; exact hi) (.inr ⟨by rw [hnone]; rfl, rfl⟩)
  have hid : (s.start monitor).crowdedStop monitor = s.crowdedStop monitor := by rw [hstart]; rfl
  have hlength : (s.start monitor).stops.length = s.stops.length := by rw [hstart]
  rw [hid, hlength, hsame, hwithout, Option.some.injEq, Stop.ended.injEq] at hwith
  obtain ⟨-, rfl⟩ := hwith
  rcases hone with ⟨-, hcontra⟩ | ⟨lbActive, rfl⟩
  · exact absurd hcontra (by decide)
  · rcases hzero with ⟨hcontra, -⟩ | ⟨_, hcontra⟩
    · cases hcontra
    · exact absurd (Outcome.timedOut.inj hcontra).1 (by decide)

/-- After the initial phase a start can do no more than attach its monitor where there is none. It
leaves everything as it was, now and in every later stop, exactly if it is not the first start. -/
theorem start_ignored_iff {settings : DrainSettings} {clock : ClockSource}
    (hc : Coordinator.create settings clock = .ok c) (manual : Option ManualClock) :
    let initially := initial (.drain c) manual
    (∀ events, ∃ moves, initially.run events = initially.follow moves) ∧
    ∀ past, let s := initially.follow past
      ∃ c', s.policy = .drain c' ∧ (c'.phase ≠ .init → ∀ monitor < s.monitors.length,
        s.start monitor =
          { s with policy := .drain { c' with attached := c'.attached.or (some monitor) } } ∧
        (s.start monitor = s ↔ ∃ earlier, .start earlier ∈ past) ∧
        ((∀ later, ((s.start monitor).run later).stops = (s.run later).stops) ↔
          ∃ earlier, .start earlier ∈ past)) := by
  intro initially
  refine ⟨fun events => ?_, fun past => ?_⟩
  · obtain ⟨moves, hrun, -⟩ := exists_follow_eq_run initially events
    exact ⟨moves, hrun⟩
  · intro s
    obtain ⟨c', hp, h⟩ := exists_recalls_follow hc manual past
    refine ⟨c', hp, fun hphase monitor hi => ?_⟩
    have hstart : s.start monitor = _ := start_of_phase_ne hp hphase monitor
    have hearlier : c'.attached.isSome = true ↔ ∃ earlier, Move.start earlier ∈ past := by
      rw [h.attached, isSome_findSome?_started?]
      refine exists_congr fun earlier => ?_
      rw [List.mem_filterMap]
      constructor
      · rintro ⟨m, hm, hevent⟩
        cases m <;> cases hevent
        exact hm
      · intro hm
        exact ⟨_, hm, rfl⟩
    rw [← hearlier]
    cases hattached : c'.attached with
    | none =>
      have hchanged : ((s.start monitor).run (s.crowdedStop monitor)).stops ≠
          (s.run (s.crowdedStop monitor)).stops := stops_run_start_ne hp hphase hattached hi
      have hmoved : s.start monitor ≠ s := fun hsame => hchanged (by rw [hsame])
      exact ⟨by rw [hstart, hattached], by simpa using hmoved,
        by simpa using ⟨s.crowdedStop monitor, hchanged⟩⟩
    | some first =>
      have hsame : s.start monitor = s := by
        rw [hstart, hattached, Option.some_or, ← hattached]
        exact congrArg (fun policy => { s with policy }) hp.symm
      exact ⟨by rw [hstart, hattached], by simp [hsame], by simp [hsame]⟩

/-- A second start during a stop, with requests in flight on the other monitor. -/
theorem start_ignored_iff_second_monitor :
    ∃ c, Coordinator.create ⟨"/", 10, 1, 2⟩ .steady = .ok c ∧
      let past : List Move := [.addMonitor ⟨7⟩, .start 0, .beginStop, .wake 0]
      let s := (initial (.drain c) none).follow past
      s.policy.phase ≠ .init ∧ 1 < s.monitors.length ∧ s.start 1 = s ∧
        ∀ later, ((s.start 1).run later).stops = (s.run later).stops := by
  have hc : Coordinator.create ⟨"/", 10, 1, 2⟩ .steady =
      .ok ⟨⟨"/", 10, 1, 2⟩, by decide, .steady, .init, none, .empty⟩ := by decide
  refine ⟨_, hc, ?_⟩
  intro past s
  obtain ⟨c', hp, hlate⟩ := (start_ignored_iff hc none).2 past
  have hphase : c'.phase ≠ .init := by
    have hs : s.policy.phase ≠ .init := by decide
    rwa [show s.policy = .drain c' from hp] at hs
  have hi : 1 < s.monitors.length := by decide
  obtain ⟨-, hsame, hstops⟩ := hlate hphase 1 hi
  exact ⟨by decide, hi, hsame.2 ⟨0, by decide⟩, hstops.2 ⟨0, by decide⟩⟩

/-- A first start after a stop had begun: the stop, which would have ended in quiet two nanoseconds
after its begin, times out with the request in flight. -/
theorem not_start_ignored_during_first_stop :
    ∃ c, Coordinator.create ⟨"/", 10, 1, 2⟩ .steady = .ok c ∧
      let s := (initial (.drain c) none).follow
        [.enter 0 1, .probe ⟨some "lb", false⟩, .beginStop, .wake 0]
      let later : List Move := (List.range 10).flatMap fun i => [.pass (i + 1), .wake 0]
      s.policy.phase = .draining ∧ s.start 0 ≠ s ∧
        (s.follow later).stops = [.ended 2 .quiet] ∧
        ((s.start 0).follow later).stops = [.ended 10 (.timedOut 1 false)] := by
  refine ⟨⟨⟨"/", 10, 1, 2⟩, by decide, .steady, .init, none, .empty⟩, by decide, ?_⟩
  decide

end Lifecycle

end GracefulDrain
