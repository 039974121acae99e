import GracefulDrain.Proofs.History

namespace GracefulDrain.Lifecycle
open Told

variable {s : Lifecycle} {c : Coordinator}

/-- A stop that has ended in quiet did so when it woke. -/
theorem exists_quiet_wake (hp : s.policy = .drain c) {id instant : Nat} (hs : s.stops[id]? = none)
    {moves : List Move} (h : (s.follow moves).stops[id]? = some (.ended instant .quiet)) :
    ∃ past rest, moves = past ++ .wake id :: rest ∧
      ∃ c', (s.follow past).policy = .drain c' ∧ (s.follow past).now = instant ∧
        (∃ begun reading looks,
          (s.follow past).stops[id]? = some (.waiting begun reading looks)) ∧
        ((s.follow past).wake id).stops[id]? = some (.ended (s.follow past).now .quiet) ∧
        ((s.follow past).observe c').isQuiet = true := by
  obtain ⟨past, rest, hsplit, c', begun, reading, looks, hp', hget, hends, hsettle⟩ :=
    exists_wake_of_ended hp (by simp [hs]) h
  obtain ⟨hnow, hquiet | hlate⟩ := settle_eq_ended hsettle
  · exact ⟨past, rest, hsplit, c', hp', hnow, ⟨begun, reading, looks, hget⟩, hnow ▸ hends, hquiet.2⟩
  · cases hlate

theorem not_active_of_isQuiet (h : (s.observe c).isQuiet = true) :
    (∀ i, c.attached = some i → (s.monitor i).count = 0) ∧
      c.lbActive (s.reading c.clock) = false := by
  simp only [Observation.isQuiet, observe, Bool.and_eq_true, Bool.not_eq_true'] at h
  refine ⟨fun i hi => ?_, h.2⟩
  simpa [hi] using h.1

/-- Stop `id` looks in this state, and is right to end: no request is in flight, and whoever ever
probed has been refused, without interruption, for the whole window. -/
structure SafeLook (c : Coordinator) (tick : Lifecycle) (history : List Told) (id : Nat) : Prop where
  waiting : ∃ begun reading looks, tick.stops[id]? = some (.waiting begun reading looks)
  ends : (tick.wake id).stops[id]? = some (.ended tick.now .quiet)
  idle : ∀ i, c.attached = some i → (tick.monitor i).count = 0
  refused : ∀ told ∈ history, ∃ since, RefusedSince (heardBy told.identity history) since ∧
    since + c.settings.quiescenceWindow ≤ tick.reading c.clock

/-- Every run interleaves moves, and in every interleaving a stop that has ended in quiet ended at a
safe look. -/
theorem quiet_end_safe {settings : DrainSettings} {clock : ClockSource} {c : Coordinator}
    (hc : Coordinator.create settings clock = .ok c) (manual : Option ManualClock) :
    let s := initial (.drain c) manual
    (∀ events, ∃ moves, s.run events = s.follow moves ∧
      moves.filterMap Move.event? = events.filter Event.isOutward) ∧
    ∀ moves id instant, (s.follow moves).stops[id]? = some (.ended instant .quiet) →
      ∃ past rest c', moves = past ++ .wake id :: rest ∧
        (s.follow past).policy = .drain c' ∧ c'.settings = settings ∧ c'.clock = clock ∧
        (s.follow past).now = instant ∧ SafeLook c' (s.follow past) (s.told past) id := by
  intro s
  refine ⟨exists_follow_eq_run s, fun moves id instant h => ?_⟩
  obtain ⟨past, rest, hsplit, c', hp, hnow, hwaiting, hends, hquiet⟩ :=
    exists_quiet_wake (s := s) rfl (by simp [s, initial]) h
  obtain ⟨hidle, hactive⟩ := not_active_of_isQuiet hquiet
  obtain ⟨c₁, hp₁, hsettings, hclock, htracker⟩ := exists_drain_follow (s := s) (c := c) rfl past
  obtain rfl : c₁ = c' := by rw [hp] at hp₁; cases hp₁; rfl
  obtain ⟨hcs, hck, hct⟩ := Coordinator.create_eq_ok hc
  refine ⟨past, rest, c₁, hsplit, hp, hsettings.trans hcs, hclock.trans hck, hnow,
    hwaiting, hends, hidle, fun told hm => ?_⟩
  rw [Coordinator.lbActive, htracker, hct] at hactive
  obtain ⟨since, -, hrefused, hwindow⟩ :=
    Tracker.refusedSince_of_not_active c₁.valid.quiescenceWindow_pos hactive
      (List.ne_nil_of_mem (List.mem_filter.2 ⟨hm, decide_eq_true rfl⟩))
  exact ⟨since, hrefused, hwindow⟩

/-- A load balancer is told "ready" and then refused; the stop ends at its third look. -/
theorem quiet_end_safe_third_look :
    ∃ c, Coordinator.create ⟨"/", 10, 1, 2⟩ .steady = .ok c ∧
      let s := initial (.drain c) none
      let moves : List Move := [.start 0, .probe ⟨some "lb", false⟩, .beginStop,
        .probe ⟨some "lb", false⟩, .wake 0, .pass 1, .wake 0, .pass 2, .wake 0]
      (s.follow moves).stops[0]? = some (.ended 2 .quiet) ∧
      ∃ past rest c', moves = past ++ .wake 0 :: rest ∧
        (s.follow past).policy = .drain c' ∧ c'.settings = ⟨"/", 10, 1, 2⟩ ∧ c'.clock = .steady ∧
        (s.follow past).now = 2 ∧ SafeLook c' (s.follow past) (s.told past) 0 := by
  have hc : Coordinator.create ⟨"/", 10, 1, 2⟩ .steady =
      .ok ⟨⟨"/", 10, 1, 2⟩, by decide, .steady, .init, none, .empty⟩ := by decide
  have hs := (quiet_end_safe hc none).2 [.start 0, .probe ⟨some "lb", false⟩, .beginStop,
    .probe ⟨some "lb", false⟩, .wake 0, .pass 1, .wake 0, .pass 2, .wake 0] 0 2 (by decide)
  exact ⟨_, hc, by decide, hs⟩

end GracefulDrain.Lifecycle
