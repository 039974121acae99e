import Mathlib
import GracefulDrain.Drain.Lifecycle

/-! A run takes everything that is due at an instant together. Here it is cut into moves: time
passes without anything else happening, and every stop wakes by itself, so that other events may
come between any two of them. Every run is such a sequence of moves. -/
namespace GracefulDrain

/-- The phase that the end of a stop leaves behind. -/
def Outcome.phase : Outcome → Phase
  | quiet => .done
  | timedOut _ _ => .timedOut

/-- The phase to note, once the stop has ended. -/
def Stop.phase? : Stop → Option Phase
  | waiting _ _ _ => none
  | ended _ outcome => some outcome.phase

namespace Lifecycle

/-- A stop begins, and has not looked yet. -/
def beginStop (s : Lifecycle) : Lifecycle :=
  match s.policy with
  | .simple h => { s with policy := .simple h.stop, stops := s.stops ++ [Stop.ended s.now .quiet] }
  | .drain c =>
    { s with
      policy := .drain c.beginStop
      stops := s.stops ++ [Stop.waiting s.now (s.reading c.clock) 0]
      record := { s.record with phase := some .draining } }

/-- Time moves on, though not past an instant at which something is due. -/
def pass (s : Lifecycle) (instant : Nat) : Lifecycle :=
  { s with now := max s.now ((s.nextWake?.map (min instant)).getD instant) }

/-- What is due now for one stop happens. -/
def wake (s : Lifecycle) (id : Nat) : Lifecycle :=
  match s.policy, s.stops[id]? with
  | .drain c, some (.waiting begun reading looks) =>
    let stop := Stop.waiting begun reading looks
    let after := stop.settle c.settings s.now (s.observe c)
    { s with
      policy := .drain { c with phase := after.phase?.getD c.phase }
      stops := s.stops.set id after
      record :=
        { phase := after.phase?.or s.record.phase
          durations := s.record.durations ++
            (after.phase?.map fun _ => stop.elapsed (s.reading c.clock)).toList } }
  | _, _ => s

inductive Move
  | start (monitor : Nat)
  | beginStop
  | probe (origin : Origin)
  | enter (monitor times : Nat)
  | leave (monitor times : Nat)
  | addMonitor (m : Monitor)
  | advanceClock (d : Nat)
  | setClock (instant : Nat)
  | pass (instant : Nat)
  | wake (id : Nat)
  deriving DecidableEq, Repr

/-- What others do, as opposed to what time brings. -/
def Move.event? : Move → Option Event
  | start monitor => some (.start monitor)
  | beginStop => some .stop
  | probe origin => some (.probe origin)
  | enter monitor times => some (.enter monitor times)
  | leave monitor times => some (.leave monitor times)
  | addMonitor m => some (.addMonitor m)
  | advanceClock d => some (.advanceClock d)
  | setClock instant => some (.setClock instant)
  | pass _ | wake _ => none

def Event.isOutward : Event → Bool
  | elapseTo _ | join _ => false
  | _ => true

def move (s : Lifecycle) : Move → Lifecycle
  | .start monitor => s.start monitor
  | .beginStop => s.beginStop
  | .probe origin => s.probe origin
  | .enter monitor times => s.onMonitor monitor (·.enterTimes times)
  | .leave monitor times => s.onMonitor monitor (·.leaveTimes times)
  | .addMonitor m => s.addMonitor m
  | .advanceClock d => (s.onClock (·.advance? d)).getD s
  | .setClock instant => (s.onClock fun clock => some (clock.set instant)).getD s
  | .pass instant => s.pass instant
  | .wake id => s.wake id

def follow (s : Lifecycle) (moves : List Move) : Lifecycle := moves.foldl move s

@[simp] theorem follow_nil (s : Lifecycle) : s.follow [] = s := rfl

@[simp] theorem follow_cons (s : Lifecycle) (m : Move) (rest : List Move) :
    s.follow (m :: rest) = (s.move m).follow rest := rfl

theorem follow_append (s : Lifecycle) (moves rest : List Move) :
    s.follow (moves ++ rest) = (s.follow moves).follow rest := by
  simp [follow]

section
variable {s : Lifecycle} {c : Coordinator}

theorem wake_waiting (hp : s.policy = .drain c) {id begun reading looks : Nat}
    (h : s.stops[id]? = some (.waiting begun reading looks)) (after : Stop)
    (ha : (Stop.waiting begun reading looks).settle c.settings s.now (s.observe c) = after) :
    s.wake id =
      { s with
        policy := .drain { c with phase := after.phase?.getD c.phase }
        stops := s.stops.set id after
        record :=
          { phase := after.phase?.or s.record.phase
            durations := s.record.durations ++
              (after.phase?.map fun _ => s.reading c.clock - reading).toList } } := by
  subst ha
  simp [wake, hp, h, Stop.elapsed]

theorem wake_ended {id instant : Nat} {outcome : Outcome}
    (h : s.stops[id]? = some (.ended instant outcome)) : s.wake id = s := by
  unfold wake
  split
  · simp_all
  · rfl

/-- Waking does something only for a stop that waits. -/
theorem wake_cases (hp : s.policy = .drain c) (id : Nat) :
    s.wake id = s ∨ ∃ begun reading looks after,
      s.stops[id]? = some (.waiting begun reading looks) ∧
      (Stop.waiting begun reading looks).settle c.settings s.now (s.observe c) = after ∧
      s.wake id =
        { s with
          policy := .drain { c with phase := after.phase?.getD c.phase }
          stops := s.stops.set id after
          record :=
            { phase := after.phase?.or s.record.phase
              durations := s.record.durations ++
                (after.phase?.map fun _ => s.reading c.clock - reading).toList } } := by
  cases h : s.stops[id]? with
  | none => exact .inl (by simp [wake, hp, h])
  | some stop =>
    cases stop with
    | ended => exact .inl (wake_ended h)
    | waiting begun reading looks =>
      exact .inr ⟨begun, reading, looks, _, rfl, rfl, wake_waiting hp h _ rfl⟩

@[simp] theorem onClock_getD (s : Lifecycle) (f : ManualClock → Option ManualClock) :
    (s.onClock f).getD s = { s with manual := (s.manual.bind f).or s.manual } := by
  unfold onClock
  cases s.manual.bind f <;> rfl

/-- All that a move can do to the stops. -/
theorem stops_move (hp : s.policy = .drain c) (m : Move) :
    (s.move m).stops = s.stops ∨
    (m = .beginStop ∧
      (s.move m).stops = s.stops ++ [.waiting s.now (s.reading c.clock) 0]) ∨
    ∃ id begun reading looks, m = .wake id ∧
      s.stops[id]? = some (.waiting begun reading looks) ∧
      (s.move m).stops = s.stops.set id
        ((Stop.waiting begun reading looks).settle c.settings s.now (s.observe c)) := by
  cases m with
  | beginStop => exact .inr (.inl ⟨rfl, by simp [move, beginStop, hp]⟩)
  | wake id =>
    rcases wake_cases hp id with hsame | ⟨begun, reading, looks, after, h, rfl, hwake⟩
    · exact .inl (congrArg Lifecycle.stops hsame)
    · exact .inr (.inr ⟨id, begun, reading, looks, rfl, h, congrArg Lifecycle.stops hwake⟩)
  | start | probe => exact .inl (by simp [move, start, probe, hp])
  | enter | leave | addMonitor | advanceClock | setClock | pass =>
    exact .inl (by simp [move, onMonitor, addMonitor, pass])

theorem getElem?_stops_move (hp : s.policy = .drain c) {id : Nat} {stop : Stop}
    (h : s.stops[id]? = some stop) {m : Move} (hm : m ≠ .wake id) :
    (s.move m).stops[id]? = some stop := by
  rcases stops_move hp m with hs | ⟨-, hs⟩ | ⟨other, _, _, _, rfl, -, hs⟩
  · rw [hs, h]
  · rw [hs, List.getElem?_append_left (List.getElem?_eq_some_iff.1 h).1, h]
  · have hne : other ≠ id := fun he => hm (by rw [he])
    rw [hs, List.getElem?_set_ne hne, h]

theorem ended_move (hp : s.policy = .drain c) {id instant : Nat} {outcome : Outcome} {m : Move}
    (h : (s.move m).stops[id]? = some (.ended instant outcome)) :
    s.stops[id]? = some (.ended instant outcome) ∨
    ∃ begun reading looks, m = .wake id ∧ s.stops[id]? = some (.waiting begun reading looks) ∧
      (Stop.waiting begun reading looks).settle c.settings s.now (s.observe c) =
        .ended instant outcome := by
  rcases stops_move hp m with hs | ⟨-, hs⟩ | ⟨other, begun, reading, looks, rfl, hget, hs⟩
  · exact .inl (hs ▸ h)
  · rw [hs, List.getElem?_append] at h
    split at h
    · exact .inl h
    · simp [List.getElem?_singleton] at h
  · by_cases heq : other = id
    · subst heq
      rw [hs, List.getElem?_set_self (List.getElem?_eq_some_iff.1 hget).1, Option.some.injEq] at h
      exact .inr ⟨begun, reading, looks, rfl, hget, h⟩
    · rw [hs, List.getElem?_set_ne heq] at h
      exact .inl h

theorem settle_of_expires {settings : DrainSettings} {now : Nat} {seen : Observation} {stop : Stop}
    (h : stop.expires settings now = true) :
    stop.settle settings now seen = .ended now (.timedOut seen.inflight seen.lbActive) := by
  cases stop with
  | ended => simp [Stop.expires] at h
  | waiting begun reading looks => simp_all [Stop.expires, Stop.settle]

theorem isEnded_of_expires {settings : DrainSettings} {now : Nat} {stop : Stop}
    (h : stop.expires settings now = true) : stop.isEnded = false := by
  cases stop with
  | ended => simp [Stop.expires] at h
  | waiting => rfl

theorem isEnded_of_looks {settings : DrainSettings} {now : Nat} {stop : Stop}
    (h : stop.looks settings now = true) : stop.isEnded = false := by
  cases stop with
  | ended => simp [Stop.looks] at h
  | waiting => rfl

theorem settle_of_looks {settings : DrainSettings} {now : Nat} {seen : Observation} {stop : Stop}
    (h : stop.looks settings now = true) (hq : seen.isQuiet = true) :
    stop.settle settings now seen = .ended now .quiet := by
  cases stop with
  | ended => simp [Stop.looks] at h
  | waiting begun reading looks =>
    simp only [Stop.looks, Bool.and_eq_true, decide_eq_true_eq] at h
    simp [Stop.settle, h.1, not_le.2 h.2, hq]

theorem phase?_settle_of_looks {settings : DrainSettings} {now : Nat} {seen : Observation}
    {stop : Stop} (h : stop.looks settings now = true) (hq : seen.isQuiet = false) :
    (stop.settle settings now seen).phase? = none := by
  cases stop with
  | ended => simp [Stop.looks] at h
  | waiting begun reading looks =>
    simp only [Stop.looks, Bool.and_eq_true, decide_eq_true_eq] at h
    simp [Stop.settle, h.1, not_le.2 h.2, hq, Stop.phase?]

theorem settle_of_idle {settings : DrainSettings} {now : Nat} {seen : Observation} {stop : Stop}
    (he : stop.expires settings now = false) (hl : stop.looks settings now = false) :
    stop.settle settings now seen = stop := by
  cases stop with
  | ended => rfl
  | waiting begun reading looks =>
    simp only [Stop.expires, decide_eq_false_iff_not] at he
    simp only [Stop.looks, Bool.and_eq_false_iff, decide_eq_false_iff_not] at hl
    have hn : ¬ Stop.nextLook settings begun looks ≤ now := by omega
    simp [Stop.settle, he, hn]

/-- The stops that satisfy `p` wake in the order in which they began. All of them find the same:
they end and note a phase, or go on waiting. -/
theorem exists_wakes (now reading : Nat) (seen : Observation) (noted : Option Phase)
    (p : Stop → Bool) (hnow : s.now = now) (hseen : s.observe c = seen)
    (hread : s.reading c.clock = reading)
    (hnoted : ∀ stop, p stop = true →
      stop.isEnded = false ∧ (stop.settle c.settings now seen).phase? = noted)
    (rest done : List Stop) (hp : s.policy = .drain c) (hs : s.stops = done ++ rest) :
    ∃ ids : List Nat, s.follow (ids.map .wake) =
      { s with
        policy := .drain
          { c with phase := if (rest.filter p).isEmpty then c.phase else noted.getD c.phase }
        stops := done ++ rest.map fun stop =>
          if p stop then stop.settle c.settings now seen else stop
        record :=
          { phase :=
              if (rest.filter p).isEmpty then s.record.phase else noted.or s.record.phase
            durations := s.record.durations ++
              if noted.isSome then (rest.filter p).map (·.elapsed reading) else [] } } := by
  induction rest generalizing s c done with
  | nil =>
    refine ⟨[], ?_⟩
    simp [← hp, ← hs]
  | cons stop rest ih =>
    by_cases hstop : p stop = true
    · obtain ⟨hopen, hphase⟩ := hnoted stop hstop
      cases stop with
      | ended => simp [Stop.isEnded] at hopen
      | waiting begun began looks =>
        have hget : s.stops[done.length]? = some (.waiting begun began looks) := by simp [hs]
        have hwake := wake_waiting hp hget
          ((Stop.waiting begun began looks).settle c.settings now seen)
          (by rw [hnow, hseen])
        rw [hphase, hread] at hwake
        obtain ⟨ids, hids⟩ := ih (s := s.wake done.length)
          (c := { c with phase := noted.getD c.phase })
          (by rw [hwake]; exact hnow) (by rw [hwake]; exact hseen) (by rw [hwake]; exact hread)
          hnoted (done ++ [(Stop.waiting begun began looks).settle c.settings now seen])
          (by rw [hwake]) (by simp [hwake, hs])
        refine ⟨done.length :: ids, ?_⟩
        rw [List.map_cons, follow_cons]
        refine hids.trans ?_
        rw [hwake]
        cases noted <;> simp [hstop, Stop.elapsed]
    · obtain ⟨ids, hids⟩ := ih hnow hseen hread hnoted (done ++ [stop]) hp (by simp [hs])
      refine ⟨ids, hids.trans ?_⟩
      simp [hstop]

theorem filter_looks_map_settle (settings : DrainSettings) (now : Nat) (seen : Observation)
    (stops : List Stop) :
    (stops.map fun stop => if stop.expires settings now then stop.settle settings now seen
      else stop).filter (·.looks settings now) = stops.filter (·.looks settings now) := by
  induction stops with
  | nil => rfl
  | cons stop rest ih =>
    rw [List.map_cons]
    by_cases he : stop.expires settings now = true
    · have hl : stop.looks settings now = false := by
        cases stop <;> simp_all [Stop.expires, Stop.looks]
      have hs : (stop.settle settings now seen).looks settings now = false := by
        rw [settle_of_expires he]; rfl
      simp [he, hl, hs, ih]
    · by_cases hl : stop.looks settings now = true <;> simp [he, hl, ih]

theorem map_looks_map_expires (settings : DrainSettings) (now : Nat) (seen : Observation)
    (stops : List Stop) :
    ((stops.map fun stop => if stop.expires settings now then stop.settle settings now seen
      else stop).map fun stop => if stop.looks settings now then stop.settle settings now seen
      else stop) = stops.map (·.settle settings now seen) := by
  rw [List.map_map]
  refine List.map_congr_left fun stop _ => ?_
  by_cases he : stop.expires settings now = true
  · simp [he, settle_of_expires he, Stop.looks]
  · by_cases hl : stop.looks settings now = true
    · simp [he, hl]
    · simp [he, hl, settle_of_idle (by simpa using he) (by simpa using hl)]

/-- Stops at their time limit wake before those that look. -/
theorem exists_settle (s : Lifecycle) : ∃ ids : List Nat, s.settle = s.follow (ids.map .wake) := by
  cases hp : s.policy with
  | simple h => exact ⟨[], by simp [settle, hp]⟩
  | drain c =>
    set expired := s.stops.filter (·.expires c.settings s.now) with hexpired
    obtain ⟨expiring, he⟩ := exists_wakes s.now (s.reading c.clock) (s.observe c)
      (some .timedOut) (·.expires c.settings s.now) rfl rfl rfl (by
        intro stop h
        exact ⟨isEnded_of_expires h, by rw [settle_of_expires h]; rfl⟩) s.stops [] hp rfl
    obtain ⟨looking, hl⟩ := exists_wakes (s := s.follow (expiring.map .wake))
      (c := { c with phase := if expired.isEmpty then c.phase else .timedOut })
      s.now (s.reading c.clock) (s.observe c)
      (if (s.observe c).isQuiet then some .done else none) (·.looks c.settings s.now)
      (by rw [he]) (by rw [he]; rfl) (by rw [he]; rfl) (by
        intro stop h
        refine ⟨isEnded_of_looks h, ?_⟩
        cases hq : (s.observe c).isQuiet with
        | true => rw [settle_of_looks h hq]; rfl
        | false => exact phase?_settle_of_looks h hq)
      (s.follow (expiring.map .wake)).stops [] (by rw [he]; rfl) rfl
    refine ⟨expiring ++ looking, ?_⟩
    rw [List.map_append, follow_append, hl, he]
    simp only [settle, hp, List.nil_append, filter_looks_map_settle, map_looks_map_expires,
      ← hexpired]
    generalize s.stops.filter (·.looks c.settings s.now) = due
    cases hq : (s.observe c).isQuiet <;> cases expired <;> cases due <;> simp [phaseAfter]

end

theorem stop_eq (s : Lifecycle) : s.stop = s.beginStop.settle := by
  cases hp : s.policy with
  | simple h => simp [stop, beginStop, settle, hp]
  | drain c => simp [stop, beginStop, hp]

theorem arrive_eq {s : Lifecycle} {w : Nat} (h : s.nextWake? = some w) :
    s.arrive w = (s.pass w).settle := by
  simp [arrive, pass, h]

/-- Moves that nobody but time makes. -/
def Silent (moves : List Move) : Prop := moves.filterMap Move.event? = []

theorem silent_pass (instant : Nat) : Silent [.pass instant] := rfl

theorem silent_wakes (ids : List Nat) : Silent (ids.map .wake) := by
  simp [Silent, Move.event?]

theorem Silent.append {moves rest : List Move} (h : Silent moves) (hr : Silent rest) :
    Silent (moves ++ rest) := by
  rw [Silent, List.filterMap_append, h, hr, List.nil_append]

theorem Silent.of_append {moves rest : List Move} (h : Silent (moves ++ rest)) : Silent moves := by
  rw [Silent, List.filterMap_append, List.append_eq_nil_iff] at h
  exact h.1

theorem runUntil_of_enough {s : Lifecycle} {target : Nat} {enough : Lifecycle → Bool}
    (h : enough s = true) : s.runUntil target enough = s := by
  rw [runUntil, if_pos h]

theorem runUntil_of_lt {s : Lifecycle} {target : Nat} {enough : Lifecycle → Bool}
    (h : ∀ w ∈ s.nextWake?, target < w) : s.runUntil target enough = s := by
  rw [runUntil]
  split
  · rfl
  · split
    · rfl
    · next w hw => rw [if_neg (not_le.2 (h w hw))]

theorem runUntil_of_le {s : Lifecycle} {target : Nat} {enough : Lifecycle → Bool}
    (h : enough s = false) {w : Nat} (hw : s.nextWake? = some w) (hle : w ≤ target) :
    s.runUntil target enough = (s.arrive w).runUntil target enough := by
  rw [runUntil, if_neg (by simp [h])]
  split
  · next hnone => simp [hnone] at hw
  · next w' hw' =>
    obtain rfl : w' = w := Option.some.inj (hw'.symm.trans hw)
    rw [if_pos hle]

theorem exists_runUntil (s : Lifecycle) (target : Nat) (enough : Lifecycle → Bool) :
    ∃ moves, Silent moves ∧ s.runUntil target enough = s.follow moves := by
  fun_induction runUntil target enough s with
  | case1 | case2 | case4 => exact ⟨[], rfl, rfl⟩
  | case3 s _ w hw _ ih =>
    obtain ⟨moves, hsilent, hrun⟩ := ih
    obtain ⟨ids, hids⟩ := exists_settle (s.pass w)
    have hall : Silent ([.pass w] ++ ids.map .wake ++ moves) :=
      ((silent_pass w).append (silent_wakes ids)).append hsilent
    refine ⟨_, hall, ?_⟩
    rw [hrun, arrive_eq hw, hids, follow_append, follow_append]
    rfl

/-- A run to an instant stops when it has enough, or when nothing more is due. -/
theorem enough_runUntil_or_lt (s : Lifecycle) (target : Nat) (enough : Lifecycle → Bool) :
    enough (s.runUntil target enough) = true ∨
      ∀ w, (s.runUntil target enough).nextWake? = some w → target < w := by
  fun_induction runUntil target enough s with
  | case1 s h => exact .inl h
  | case2 => exact .inr (by simp_all)
  | case3 s _ w _ _ ih => exact ih
  | case4 => exact .inr (by simp_all)

theorem pass_of_lt {s : Lifecycle} {target : Nat} (h : ∀ w, s.nextWake? = some w → target < w) :
    s.pass target = { s with now := max s.now target } := by
  unfold pass
  cases hw : s.nextWake? with
  | none => rfl
  | some w => simp [min_eq_left (h w hw).le]

theorem exists_step (s : Lifecycle) (e : Event) :
    ∃ moves, s.step e = s.follow moves ∧
      moves.filterMap Move.event? = [e].filter Event.isOutward := by
  cases e with
  | start monitor => exact ⟨[.start monitor], rfl, rfl⟩
  | stop =>
    obtain ⟨ids, hids⟩ := exists_settle s.beginStop
    refine ⟨.beginStop :: ids.map .wake, ?_, ?_⟩
    · rw [follow_cons, step, stop_eq, hids]
      rfl
    · exact congrArg (Event.stop :: ·) (silent_wakes ids)
  | probe origin => exact ⟨[.probe origin], rfl, rfl⟩
  | enter monitor times => exact ⟨[.enter monitor times], rfl, rfl⟩
  | leave monitor times => exact ⟨[.leave monitor times], rfl, rfl⟩
  | addMonitor m => exact ⟨[.addMonitor m], rfl, rfl⟩
  | advanceClock d => exact ⟨[.advanceClock d], rfl, rfl⟩
  | setClock instant => exact ⟨[.setClock instant], rfl, rfl⟩
  | elapseTo instant =>
    obtain ⟨moves, hsilent, hrun⟩ := exists_runUntil s instant fun _ => false
    refine ⟨moves ++ [.pass instant], ?_, ?_⟩
    · have hlt := (enough_runUntil_or_lt s instant fun _ => false).resolve_left (by simp)
      have hpass := pass_of_lt hlt
      rw [follow_append, ← hrun]
      exact hpass.symm
    · exact hsilent.append (silent_pass instant)
  | join id =>
    obtain ⟨moves, hsilent, hrun⟩ := exists_runUntil s (s.lastInstant id)
      fun s => (s.stops[id]?).all Stop.isEnded
    exact ⟨moves, hrun, hsilent⟩

/-- Every run is a sequence of moves in which others do the same in the same order. -/
theorem exists_follow_eq_run (s : Lifecycle) (events : List Event) :
    ∃ moves, s.run events = s.follow moves ∧
      moves.filterMap Move.event? = events.filter Event.isOutward := by
  induction events generalizing s with
  | nil => exact ⟨[], rfl, rfl⟩
  | cons e rest ih =>
    obtain ⟨first, hstep, hfirst⟩ := exists_step s e
    obtain ⟨later, hrun, hlater⟩ := ih (s.step e)
    refine ⟨first ++ later, ?_, ?_⟩
    · rw [follow_append, ← hstep, ← hrun]
      rfl
    · rw [List.filterMap_append, hfirst, hlater, ← List.filter_append]
      rfl

end Lifecycle

end GracefulDrain
