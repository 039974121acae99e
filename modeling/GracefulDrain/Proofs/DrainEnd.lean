import GracefulDrain.Proofs.Irrevocable
import GracefulDrain.Proofs.LateStart

/-! Where no request begins any more and no newcomer probes, the end of a stop can be read off the
ends of the requests and the first refusals. -/
namespace GracefulDrain

namespace Told

/-- Someone was told "ready" last, or was refused for the first time within the window. -/
def SomeLags (history : List Told) (window now : Nat) : Prop :=
  ∃ told ∈ history,
    (∃ last, (heardBy told.identity history).getLast? = some last ∧ last.verdict = .ready) ∨
    ∃ since, RefusedSince (heardBy told.identity history) since ∧ now < since + window

variable {history later : List Told} {window now : Nat}

theorem not_allRefused_iff : ¬ AllRefused history window now ↔ SomeLags history window now := by
  simp only [AllRefused, SomeLags, not_forall, exists_prop]
  refine exists_congr fun told => and_congr_right fun hm => ?_
  simp only [← foldl_next_eq_notReady_iff, ← foldl_next_eq_ready_iff]
  cases hentry : (heardBy told.identity history).foldl Ack.next none with
  | none =>
    rw [foldl_next_eq_none_iff] at hentry
    exact absurd hentry (heardBy_ne_nil hm)
  | some a => cases a <;> simp

theorem RefusedSince.append {since : Nat} (h : RefusedSince history since)
    (hlater : ∀ told ∈ later, told.verdict = .unavailable) :
    RefusedSince (history ++ later) since := by
  rw [← foldl_next_eq_notReady_iff, List.foldl_append, foldl_next_eq_notReady_iff.2 h]
  exact foldl_next_of_unavailable since hlater

/-- Later refusals of someone who is known already make no one lag and no one catch up. -/
theorem allRefused_append_iff (hw : 0 < window)
    (hv : ∀ told ∈ later, told.verdict = .unavailable ∧ now ≤ told.reading ∧
      ∃ known ∈ history, known.identity = told.identity) :
    AllRefused (history ++ later) window now ↔ AllRefused history window now := by
  have hrefusals (id : String) : ∀ told ∈ heardBy id later, told.verdict = .unavailable :=
    fun told hm => (hv told (List.mem_filter.1 hm).1).1
  constructor
  · intro hall told hm
    obtain ⟨since, hsince, hle⟩ := hall told (List.mem_append_left _ hm)
    refine ⟨since, ?_, hle⟩
    rw [heardBy_append, ← foldl_next_eq_notReady_iff, List.foldl_append,
      foldl_next_eq_refusedBy _ (hrefusals _)] at hsince
    rw [← foldl_next_eq_notReady_iff]
    cases hbefore : (heardBy told.identity history).foldl Ack.next none with
    | none => exact absurd (foldl_next_eq_none_iff.1 hbefore) (heardBy_ne_nil hm)
    | some a =>
      rw [hbefore] at hsince
      cases a with
      | notReady => exact hsince
      | ready =>
        cases hfirst : (heardBy told.identity later).head? with
        | none => simp [hfirst, Ack.refusedBy] at hsince
        | some first =>
          have hreading := (hv first (List.mem_filter.1 (List.mem_of_mem_head? hfirst)).1).2.1
          simp only [hfirst, Ack.refusedBy, Option.some.injEq, Ack.notReady.injEq] at hsince
          omega
  · intro hall told hm
    obtain ⟨known, hknown, hid⟩ : ∃ known ∈ history, known.identity = told.identity := by
      rcases List.mem_append.1 hm with hm | hm
      · exact ⟨told, hm, rfl⟩
      · exact (hv told hm).2.2
    obtain ⟨since, hsince, hle⟩ := hall known hknown
    rw [← hid, heardBy_append]
    exact ⟨since, hsince.append (hrefusals _), hle⟩

end Told

namespace Lifecycle
open Told

/-- No request begins on the monitor, and a load balancer that probes is known. -/
def Event.WindsDown (i : Nat) (history : List Told) : Event → Prop
  | .enter monitor _ => monitor ≠ i
  | .probe ⟨some id, false⟩ => ∃ told ∈ history, told.identity = id
  | _ => True

instance (i : Nat) (history : List Told) (e : Event) : Decidable (e.WindsDown i history) :=
  match e with
  | .enter monitor _ => inferInstanceAs (Decidable (monitor ≠ i))
  | .probe ⟨some id, false⟩ =>
    inferInstanceAs (Decidable (∃ told ∈ history, told.identity = id))
  | .probe ⟨none, _⟩ | .probe ⟨some _, true⟩ => isTrue trivial
  | .start _ | .stop | .leave _ _ | .addMonitor _ | .advanceClock _ | .setClock _ | .elapseTo _
  | .join _ => isTrue trivial

/-- How many requests end on the monitor. -/
def Event.ends (i : Nat) : Event → Nat
  | .leave monitor times => if monitor = i then times else 0
  | _ => 0

/-- How many requests moves end on the monitor. -/
def ended (i : Nat) (moves : List Move) : Nat :=
  ((moves.filterMap Move.event?).map (Event.ends i)).sum

variable {s : Lifecycle} {c : Coordinator} {i : Nat} {history : List Told}

theorem monitor_onMonitor_ne {other : Nat} (h : other ≠ i) (f : Monitor → Monitor) :
    (s.onMonitor other f).monitor i = s.monitor i := by
  simp [onMonitor, monitor, List.getD_eq_getElem?_getD, h]

theorem monitor_addMonitor (hi : i < s.monitors.length) (m : Monitor) :
    (s.addMonitor m).monitor i = s.monitor i := by
  rw [addMonitor, monitor, monitor, List.getD_append _ _ _ _ hi]

/-- Only requests that begin or end change what a monitor counts. -/
theorem count_move (hi : i < s.monitors.length) {m : Move}
    (hm : ∀ e ∈ m.event?, e.WindsDown i history) :
    i < (s.move m).monitors.length ∧ ((s.move m).monitor i).count.toNat =
      (s.monitor i).count.toNat - ended i [m] := by
  have same (hsame : (s.move m).monitors = s.monitors) (hnone : ended i [m] = 0) :
      i < (s.move m).monitors.length ∧ ((s.move m).monitor i).count.toNat =
        (s.monitor i).count.toNat - ended i [m] := by
    rw [monitor, hsame, hnone]
    exact ⟨hi, rfl⟩
  cases m with
  | enter other times =>
    refine ⟨by simpa [move, onMonitor] using hi, ?_⟩
    rw [move, monitor_onMonitor_ne (hm _ rfl)]
    rfl
  | leave other times =>
    refine ⟨by simpa [move, onMonitor] using hi, ?_⟩
    by_cases heq : other = i
    · subst heq
      rw [move, monitor_onMonitor hi, Monitor.toNat_leaveTimes]
      simp [ended, Event.ends, Move.event?]
    · rw [move, monitor_onMonitor_ne heq]
      simp [ended, Event.ends, Move.event?, heq]
  | addMonitor added =>
    rw [move, monitor_addMonitor hi]
    refine ⟨?_, rfl⟩
    rw [addMonitor, List.length_append]
    exact Nat.lt_add_right _ hi
  | start | beginStop | probe | wake =>
    refine same ?_ rfl
    simp only [move, start, beginStop, probe, wake]
    split <;> rfl
  | advanceClock | setClock => exact same (by simp [move]) rfl
  | pass => exact same rfl rfl

theorem ended_append (i : Nat) (moves rest : List Move) :
    ended i (moves ++ rest) = ended i moves + ended i rest := by
  rw [ended, List.filterMap_append, List.map_append, List.sum_append]
  rfl

/-- As long as no request begins, those are open that were open before, less those that ended. -/
theorem count_follow (hi : i < s.monitors.length) {moves : List Move}
    (hmoves : ∀ e ∈ moves.filterMap Move.event?, e.WindsDown i history) :
    ((s.follow moves).monitor i).count.toNat = (s.monitor i).count.toNat - ended i moves := by
  induction moves generalizing s with
  | nil => rfl
  | cons m rest ih =>
    have hm : ∀ e ∈ m.event?, e.WindsDown i history := fun e he =>
      hmoves e (List.mem_filterMap.2 ⟨m, List.mem_cons_self, he⟩)
    obtain ⟨hi', hcount⟩ := count_move hi hm
    rw [follow_cons, ih hi' fun e he => hmoves e ?_, hcount, Nat.sub_sub, ← ended_append]
    · rfl
    · obtain ⟨m', hm', he⟩ := List.mem_filterMap.1 he
      exact List.mem_filterMap.2 ⟨m', List.mem_cons_of_mem _ hm', he⟩

theorem now_le_move (s : Lifecycle) (m : Move) : s.now ≤ (s.move m).now := by
  cases m with
  | pass => exact le_max_left _ _
  | start | beginStop | probe | wake =>
    simp only [move, start, beginStop, probe, wake]
    split <;> exact le_rfl
  | advanceClock | setClock => simp [move]
  | enter | leave | addMonitor => exact le_rfl

/-- On the time in which the service runs, what is told is stamped with the time of the probe. -/
theorem probe_of_mem_told (hp : s.policy = .drain c) (hclock : c.clock = .steady)
    {moves : List Move} {told : Told} (h : told ∈ s.told moves) :
    .probe ⟨some told.identity, false⟩ ∈ moves ∧ s.now ≤ told.reading := by
  induction moves generalizing s c with
  | nil => simp [Lifecycle.told] at h
  | cons m rest ih =>
    obtain ⟨c', hp', -, hclock', -⟩ := exists_drain_move hp m
    rw [Lifecycle.told, List.mem_append] at h
    rcases h with h | h
    · unfold tells at h
      split at h
      · next c₁ id hp₁ =>
        obtain rfl : c₁ = c := Policy.drain.inj (hp₁.symm.trans hp)
        rw [List.mem_singleton.1 h, hclock]
        exact ⟨List.mem_cons_self, le_rfl⟩
      · cases h
    · obtain ⟨hprobe, hle⟩ := ih hp' (hclock'.trans hclock) h
      exact ⟨List.mem_cons_of_mem _ hprobe, (s.now_le_move m).trans hle⟩

/-- What a look during a drain shows: the open requests, and whether everyone has been refused for
the window. Probes that come after it have no part in that. -/
theorem sight_of_drain {settings : DrainSettings} (hc : Coordinator.create settings .steady = .ok c)
    (manual : Option ManualClock) {past later : List Move} (hstop : .beginStop ∈ past)
    (hstarted : (past.filterMap Move.event?).findSome? Event.started? = some i)
    (hknown : ∀ id, .probe ⟨some id, false⟩ ∈ later →
      ∃ told ∈ (initial (.drain c) manual).told past, told.identity = id) :
    let initially := initial (.drain c) manual
    let s := initially.follow past
    ∃ lbActive, s.sight = ⟨(s.monitor i).count, lbActive⟩ ∧ (lbActive = false ↔
      AllRefused (initially.told (past ++ later)) settings.quiescenceWindow s.now) := by
  intro initially s
  obtain ⟨hcs, hck, hct⟩ := Coordinator.create_eq_ok hc
  obtain ⟨c', hp, hrecalls⟩ := exists_recalls_follow hc manual past
  obtain ⟨c₁, hp₁, hsettings, hclock, htracker⟩ :=
    exists_drain_follow (s := initially) (c := c) rfl past
  obtain rfl : c₁ = c' := Policy.drain.inj (hp₁.symm.trans hp)
  rw [hck] at hclock
  rw [hcs] at hsettings
  rw [hct] at htracker
  have hwindow : 0 < settings.quiescenceWindow := hsettings ▸ c₁.valid.quiescenceWindow_pos
  refine ⟨c₁.lbActive (s.reading c₁.clock), ?_, ?_⟩
  · rw [sight_eq hp, observe, hrecalls.attached, hstarted]
    rfl
  · rw [Coordinator.lbActive, htracker, hsettings, hclock,
      Tracker.anyActive_foldl_tell_eq_false_iff hwindow, told_append,
      allRefused_append_iff hwindow fun told hm => ?_]
    · rfl
    · obtain ⟨hprobe, hle⟩ := probe_of_mem_told hp hclock hm
      have hbegun : Event.stop ∈ past.filterMap Move.event? :=
        List.mem_filterMap.2 ⟨.beginStop, hstop, rfl⟩
      exact ⟨hrecalls.told_unavailable hp hbegun later told hm, hle, hknown told.identity hprobe⟩

/-- Look number `k` comes before the limit, finds no request open, and comes a window after the
first refusal of everyone. -/
structure Fits (settings : DrainSettings) (begun i : Nat) (history : List Told)
    (looks : List Lifecycle) (k : Nat) : Prop where
  early : k * settings.pollInterval < settings.shutdownTimeout
  idle : ∃ tick ∈ looks[k]?, (tick.monitor i).count = 0
  refused : AllRefused history settings.quiescenceWindow (begun + k * settings.pollInterval)

/-- A stop that begins in `s` ends in quiet at the first look that fits. Without one it waits for
the next look, or times out at the limit with the requests that are open and whether someone lags. -/
structure EndsByFit (settings : DrainSettings) (s : Lifecycle) (i : Nat) (history : List Told)
    (looks : List Lifecycle) (final : Lifecycle) : Prop where
  quiet : ∀ k, IsLeast {k | Fits settings s.now i history looks k} k →
    final.stops[s.stops.length]? = some (.ended (s.now + k * settings.pollInterval) .quiet)
  late : (∀ k, ¬ Fits settings s.now i history looks k) →
    (∃ reading, final.stops[s.stops.length]? = some (.waiting s.now reading looks.length) ∧
      final.now ≤ s.now + min (looks.length * settings.pollInterval) settings.shutdownTimeout) ∨
    ∃ k, settings.shutdownTimeout ≤ k * settings.pollInterval ∧ ∃ tick ∈ looks[k]?, ∃ lbActive,
      final.stops[s.stops.length]? = some (.ended (s.now + settings.shutdownTimeout)
        (.timedOut (tick.monitor i).count lbActive)) ∧
      (lbActive = true ↔
        SomeLags history settings.quiescenceWindow (s.now + settings.shutdownTimeout))

theorem Course.endsByFit {settings : DrainSettings} {reading : Nat} {looks : List Lifecycle}
    {final : Lifecycle} (h : Course settings s.now reading s.stops.length 0 looks final)
    (hlook : ∀ tick ∈ looks, ∃ lbActive, tick.sight = ⟨(tick.monitor i).count, lbActive⟩ ∧
      (lbActive = false ↔ AllRefused history settings.quiescenceWindow tick.now)) :
    EndsByFit settings s i history looks final := by
  constructor
  · rintro k ⟨⟨hearly, ⟨tick, htick, hidle⟩, hrefused⟩, -⟩
    obtain ⟨lbActive, hsight, hactive⟩ := hlook tick (List.mem_of_getElem? htick)
    have hnow := h.now_eq htick
    rw [Nat.zero_add, min_eq_left hearly.le] at hnow
    have hquiet : tick.sight.isQuiet = true := by
      rw [hsight, hidle, hactive.2 (hnow ▸ hrefused)]
      rfl
    rw [← hnow]
    exact (h.ended_quiet htick (by rwa [Nat.zero_add]) hquiet).2
  · intro hnone
    have hbusy (k : Nat) (tick : Lifecycle) (htick : looks[k]? = some tick)
        (hearly : (0 + k) * settings.pollInterval < settings.shutdownTimeout) :
        tick.sight.isQuiet = false := by
      have hnow := h.now_eq htick
      rw [min_eq_left hearly.le] at hnow
      rw [Nat.zero_add] at hearly hnow
      obtain ⟨lbActive, hsight, hactive⟩ := hlook tick (List.mem_of_getElem? htick)
      by_contra hquiet
      rw [Bool.not_eq_false, hsight] at hquiet
      simp only [Observation.isQuiet, Bool.and_eq_true, Bool.not_eq_true', decide_eq_true_eq]
        at hquiet
      exact hnone k ⟨hearly, ⟨tick, htick, hquiet.1⟩, hnow ▸ hactive.1 hquiet.2⟩
    rcases h.waiting_or_timedOut hbusy with ⟨hwaiting, hle⟩ | ⟨k, tick, htick, hlate, -, hended⟩
    · rw [Nat.zero_add] at hwaiting hle
      exact .inl ⟨reading, hwaiting, hle⟩
    · have hnow := h.now_eq htick
      rw [min_eq_right hlate] at hnow
      rw [Nat.zero_add] at hlate
      obtain ⟨lbActive, hsight, hactive⟩ := hlook tick (List.mem_of_getElem? htick)
      rw [hsight, hnow] at hended
      refine .inr ⟨k, hlate, tick, htick, lbActive, hended, ?_⟩
      rw [← not_allRefused_iff, ← hnow, ← hactive, Bool.not_eq_false]

theorem exists_follow_eq_run_stop (s : Lifecycle) (events : List Event) :
    ∃ moves, s.stop.run events = s.beginStop.follow moves ∧
      moves.filterMap Move.event? = events.filter Event.isOutward := by
  obtain ⟨ids, hids⟩ := exists_settle s.beginStop
  obtain ⟨moves, hrun, houtward⟩ := exists_follow_eq_run s.stop events
  refine ⟨ids.map .wake ++ moves, ?_, ?_⟩
  · rw [hrun, stop_eq, hids, follow_append]
  · rw [List.filterMap_append, silent_wakes, List.nil_append, houtward]

/-- Who waits for a stop gets to its end, and nothing but time passes meanwhile. -/
theorem exists_join_run_stop (hp : s.policy = .drain c) (events : List Event) :
    (∃ moves, (s.stop.run events).join s.stops.length = s.beginStop.follow moves ∧
      moves.filterMap Move.event? = events.filter Event.isOutward) ∧
    ∃ instant outcome, ((s.stop.run events).join s.stops.length).stops[s.stops.length]? =
      some (.ended instant outcome) := by
  obtain ⟨moves, hrun, -⟩ := exists_follow_eq_run_stop s events
  obtain ⟨moves', hjoin, houtward⟩ :=
    exists_follow_eq_run_stop s (events ++ [.join s.stops.length])
  refine ⟨⟨moves', ?_, ?_⟩, hrun ▸ exists_ended_join_follow hp moves⟩
  · rw [← hjoin, run, run, List.foldl_append]
    rfl
  · rw [houtward, List.filter_append, List.filter_cons_of_neg (by simp [Event.isOutward]),
      List.filter_nil, List.append_nil]

/-- A stop that is waited for ends. If no request begins after it has begun and no newcomer probes,
it ends in quiet at the first look that fits, and otherwise it times out at the limit. Once someone
was refused, further refusals do not move the reading that counts. -/
theorem drain_end {settings : DrainSettings} (hc : Coordinator.create settings .steady = .ok c)
    (manual : Option ManualClock) :
    let initially := initial (.drain c) manual
    (∀ events, ∃ moves, initially.run events = initially.follow moves) ∧
    ∀ past, let s := initially.follow past
      (∀ events,
        (∃ moves, (s.stop.run events).join s.stops.length = s.beginStop.follow moves ∧
          moves.filterMap Move.event? = events.filter Event.isOutward) ∧
        ∃ instant outcome, ((s.stop.run events).join s.stops.length).stops[s.stops.length]? =
          some (.ended instant outcome)) ∧
      ∀ i c', s.policy = .drain c' → c'.attached = some i → i < s.monitors.length →
        ∀ moves, (∀ e ∈ moves.filterMap Move.event?, e.WindsDown i (initially.told past)) →
          let looks := s.beginStop.ticks s.stops.length moves
          let history := initially.told (past ++ .beginStop :: moves)
          EndsByFit settings s i history looks (s.beginStop.follow moves) ∧
          (∀ k, ∀ tick ∈ looks[k]?,
            tick.now = s.now + min (k * settings.pollInterval) settings.shutdownTimeout ∧
            ∃ before rest, moves = before ++ .wake s.stops.length :: rest ∧
              s.beginStop.follow before = tick ∧
              (tick.monitor i).count.toNat = (s.monitor i).count.toNat - ended i before) ∧
          ∀ before rest, moves = before ++ rest → ∀ id since,
            RefusedSince (heardBy id (initially.told (past ++ .beginStop :: before))) since →
              RefusedSince (heardBy id history) since := by
  intro initially
  refine ⟨fun events => ?_, fun past => ?_⟩
  · obtain ⟨moves, hrun, -⟩ := exists_follow_eq_run initially events
    exact ⟨moves, hrun⟩
  intro s
  obtain ⟨c₁, hp, hrecalls⟩ := exists_recalls_follow hc manual past
  obtain ⟨c₂, hp₂, hsettings, -⟩ := exists_drain_follow (s := initially) (c := c) rfl past
  obtain rfl : c₂ = c₁ := Policy.drain.inj (hp₂.symm.trans hp)
  rw [(Coordinator.create_eq_ok hc).1] at hsettings
  refine ⟨exists_join_run_stop hp, fun i c' hp' hattached hi moves hmoves => ?_⟩
  intro looks history
  obtain rfl : c₂ = c' := Policy.drain.inj (hp.symm.trans hp')
  have hall (before : List Move) :
      s.beginStop.follow before = initially.follow (past ++ .beginStop :: before) := by
    rw [follow_append]
    rfl
  obtain ⟨hbegun, hnow, hstop⟩ := beginStop_waiting hp
  have hcourse : Course settings s.now (s.reading c₂.clock) s.stops.length 0 looks
      (s.beginStop.follow moves) :=
    hsettings ▸ course_follow hbegun hstop (by rw [hnow]; exact Nat.le_add_right _ _) moves
  have hmonitors : s.beginStop.monitors = s.monitors := by
    rw [beginStop, hp]
  refine ⟨hcourse.endsByFit fun tick htick => ?_, fun k tick htick => ⟨?_, ?_⟩, ?_⟩
  · obtain ⟨before, rest, rfl, rfl⟩ := exists_of_mem_ticks htick
    have hstarted : ((past ++ .beginStop :: before).filterMap Move.event?).findSome?
        Event.started? = some i := by
      rw [List.filterMap_append, List.findSome?_append, ← hrecalls.attached, hattached]
      rfl
    have hknown (other : String)
        (hprobe : .probe ⟨some other, false⟩ ∈ Move.wake s.stops.length :: rest) :
        ∃ told ∈ initially.told (past ++ .beginStop :: before), told.identity = other := by
      obtain ⟨told, hm, hid⟩ := hmoves (.probe ⟨some other, false⟩) (List.mem_filterMap.2
        ⟨_, List.mem_append_right _ hprobe, rfl⟩)
      exact ⟨told, told_append initially past _ ▸ List.mem_append_left _ hm, hid⟩
    have hsight := sight_of_drain hc manual (by simp) hstarted hknown
    rw [List.append_assoc, List.cons_append] at hsight
    rwa [hall before]
  · rw [hcourse.now_eq htick, Nat.zero_add]
  · obtain ⟨before, rest, rfl, hreached⟩ := exists_of_mem_ticks (List.mem_of_getElem? htick)
    refine ⟨before, rest, rfl, hreached, ?_⟩
    rw [← hreached, count_follow (hmonitors ▸ hi) fun e he => hmoves e ?_, monitor, hmonitors]
    · rfl
    · rw [List.filterMap_append]
      exact List.mem_append_left _ he
  · rintro before rest rfl id since hrefused
    obtain ⟨c', hp', hrecalls'⟩ := exists_recalls_follow hc manual (past ++ .beginStop :: before)
    have hlater := hrecalls'.told_unavailable hp'
      (List.mem_filterMap.2 ⟨.beginStop, by simp, rfl⟩) rest
    have hsplit : history = initially.told (past ++ .beginStop :: before) ++
        (initially.follow (past ++ .beginStop :: before)).told rest := by
      rw [← told_append, List.append_assoc]
      rfl
    rw [hsplit, heardBy_append]
    exact hrefused.append fun told hm => hlater told (List.mem_filter.1 hm).1

/-- The look at 2 finds a request open; the one at 4 comes a window after the first refusal. -/
theorem drain_end_third_look :
    ∃ c, Coordinator.create ⟨"/", 10, 2, 3⟩ .steady = .ok c ∧
      let past : List Move := [.start 0, .enter 0 1, .probe ⟨some "lb", false⟩]
      let moves : List Move := [.wake 0, .pass 1, .probe ⟨some "lb", false⟩, .pass 2, .wake 0,
        .pass 3, .leave 0 1, .pass 4, .wake 0, .probe ⟨some "lb", false⟩]
      let s := (initial (.drain c) none).follow past
      (∃ c', s.policy = .drain c' ∧ c'.attached = some 0) ∧ 0 < s.monitors.length ∧
      (∀ e ∈ moves.filterMap Move.event?,
        e.WindsDown 0 ((initial (.drain c) none).told past)) ∧
      (s.beginStop.follow moves).stops[0]? = some (.ended 4 .quiet) := by
  let c : Coordinator := ⟨⟨"/", 10, 2, 3⟩, by decide, .steady, .init, none, .empty⟩
  have hc : Coordinator.create ⟨"/", 10, 2, 3⟩ .steady = .ok c := by decide
  refine ⟨c, hc, ?_⟩
  intro past moves s
  have hwinds : ∀ e ∈ moves.filterMap Move.event?,
      e.WindsDown 0 ((initial (.drain c) none).told past) := by decide
  have hp : s.policy = .drain
      { c with phase := .ready, attached := some 0, tracker := ⟨[("lb", .ready)]⟩ } := by decide
  obtain ⟨hends, -, -⟩ := ((drain_end hc none).2 past).2 0 _ hp rfl (by decide) moves hwinds
  set history := (initial (.drain c) none).told (past ++ .beginStop :: moves)
  have hid : ∀ told ∈ history, told.identity = "lb" := by decide
  have hrefused : RefusedSince (heardBy "lb" history) 1 :=
    ⟨[⟨"lb", .ready, 0⟩], ⟨"lb", .unavailable, 1⟩, [⟨"lb", .unavailable, 4⟩], by decide⟩
  have hlook : (s.beginStop.ticks 0 moves)[2]? = some (s.beginStop.follow (moves.take 8)) := by
    decide
  have hidle : ((s.beginStop.follow (moves.take 8)).monitor 0).count = 0 := by decide
  have hbusy : ∀ k < 2, ∀ tick ∈ (s.beginStop.ticks 0 moves)[k]?, (tick.monitor 0).count ≠ 0 := by
    decide
  refine ⟨⟨_, hp, rfl⟩, by decide, hwinds, hends.quiet 2 ⟨⟨by decide, ⟨_, hlook, hidle⟩, ?_⟩, ?_⟩⟩
  · intro told hm
    exact ⟨1, hid told hm ▸ hrefused, by decide⟩
  · rintro k ⟨-, ⟨tick, htick, hopen⟩, -⟩
    exact not_lt.1 fun hlt => hbusy k hlt tick htick hopen

end Lifecycle

end GracefulDrain
