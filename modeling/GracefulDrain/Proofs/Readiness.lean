import GracefulDrain.Proofs.History

/-! A service answers probes with "ready" from its first start until its first stop, and never
again. Its phase and its monitor are what the events so far amount to, however stops end in between.
-/
namespace GracefulDrain

theorem Coordinator.verdict_of_ready {c : Coordinator} (h : c.phase = .ready) :
    c.verdict = .ready := by
  simp [verdict, isReady, h, Verdict.ofBool]

theorem Coordinator.verdict_of_ne {c : Coordinator} (h : c.phase ≠ .ready) :
    c.verdict = .unavailable := by
  simp [verdict, isReady, h, Verdict.ofBool]

namespace Lifecycle

/-- Started, and never told to stop. -/
def Advertised (past : List Event) : Prop :=
  (∃ monitor, .start monitor ∈ past) ∧ .stop ∉ past

def Event.started? : Event → Option Nat
  | start monitor => some monitor
  | _ => none

theorem isSome_findSome?_started? {past : List Event} :
    (past.findSome? Event.started?).isSome = true ↔ ∃ monitor, .start monitor ∈ past := by
  rw [List.isSome_findSome?, List.any_eq_true]
  constructor
  · rintro ⟨e, he, hstarted⟩
    cases e with
    | start monitor => exact ⟨monitor, he⟩
    | _ => cases hstarted
  · rintro ⟨monitor, hm⟩
    exact ⟨_, hm, rfl⟩

/-- A coordinator's phase and monitor are right for the events so far. -/
structure Recalls (s : Lifecycle) (c : Coordinator) (past : List Event) : Prop where
  attached : c.attached = past.findSome? Event.started?
  idle : .stop ∉ past → s.stops = []
  phase : .stop ∉ past → c.phase = if c.attached.isSome then .ready else .init
  stopped : .stop ∈ past → c.phase ≠ .init ∧ c.phase ≠ .ready

variable {s s' : Lifecycle} {c c' : Coordinator} {past : List Event}

theorem Recalls.advertised_iff (h : Recalls s c past) : c.phase = .ready ↔ Advertised past := by
  by_cases hstop : .stop ∈ past
  · have hnot : ¬ Advertised past := fun ha => ha.2 hstop
    simp [(h.stopped hstop).2, hnot]
  · rw [h.phase hstop, Advertised, ← isSome_findSome?_started?, ← h.attached]
    cases c.attached <;> simp [hstop]

/-- Events that are neither starts nor stops say nothing of readiness. -/
theorem Recalls.append (h : Recalls s c past) (hattached : c'.attached = c.attached)
    (hphase : c'.phase = c.phase) (hstops : s'.stops = s.stops) (more : List Event)
    (hmore : ∀ e ∈ more, e.started? = none ∧ e ≠ .stop) : Recalls s' c' (past ++ more) := by
  have hstop : .stop ∈ past ++ more ↔ .stop ∈ past := by
    rw [List.mem_append]
    exact or_iff_left fun hm => (hmore _ hm).2 rfl
  have hnone : more.findSome? Event.started? = none :=
    List.findSome?_eq_none_iff.2 fun e he => (hmore e he).1
  constructor
  · rw [hattached, h.attached, List.findSome?_append, hnone, Option.or_none]
  · rw [hstop, hstops]
    exact h.idle
  · rw [hstop, hphase, hattached]
    exact h.phase
  · rw [hstop, hphase]
    exact h.stopped

theorem Recalls.start (h : Recalls s c past) (monitor : Nat) :
    Recalls (s.start monitor) (c.start monitor) (past ++ [.start monitor]) := by
  have hstops : (s.start monitor).stops = s.stops := by
    unfold Lifecycle.start
    split <;> rfl
  constructor
  · rw [List.findSome?_append, ← h.attached]
    rfl
  · intro hstop
    rw [hstops]
    exact h.idle fun hm => hstop (List.mem_append_left _ hm)
  · intro hstop
    have hphase := h.phase fun hm => hstop (List.mem_append_left _ hm)
    cases hc : c.attached <;> simp [Coordinator.start, hphase, hc]
  · intro hstop
    have hpast : .stop ∈ past := by simpa using hstop
    simpa [Coordinator.start, (h.stopped hpast).1] using h.stopped hpast

theorem Recalls.beginStop (h : Recalls s c past) :
    Recalls s.beginStop c.beginStop (past ++ [.stop]) := by
  constructor
  · rw [List.findSome?_append, ← h.attached]
    exact (Option.or_none).symm
  · intro hstop
    simp at hstop
  · intro hstop
    simp at hstop
  · intro _
    exact ⟨by simp [Coordinator.beginStop], by simp [Coordinator.beginStop]⟩

/-- A stop that ends leaves behind a phase that is no more ready than before. -/
theorem Recalls.wake (h : Recalls s c past) (hp : s.policy = .drain c) (id : Nat) :
    ∃ c', (s.wake id).policy = .drain c' ∧ Recalls (s.wake id) c' past := by
  rcases wake_cases hp id with hsame | ⟨begun, reading, looks, after, hget, -, hwake⟩
  · rw [hsame]
    exact ⟨c, hp, h⟩
  · have hstop : .stop ∈ past := by
      by_contra hnot
      simp [h.idle hnot] at hget
    refine ⟨_, congrArg Lifecycle.policy hwake, h.attached, fun hnot => absurd hstop hnot,
      fun hnot => absurd hstop hnot, fun _ => ?_⟩
    cases after with
    | waiting => exact h.stopped hstop
    | ended instant outcome =>
      cases outcome <;> simp [Stop.phase?, Outcome.phase]

theorem Recalls.move (h : Recalls s c past) (hp : s.policy = .drain c) (m : Move) :
    ∃ c', (s.move m).policy = .drain c' ∧ Recalls (s.move m) c' (past ++ m.event?.toList) := by
  cases m with
  | start monitor =>
    exact ⟨c.start monitor, by simp [Lifecycle.move, Lifecycle.start, hp], h.start monitor⟩
  | beginStop =>
    exact ⟨c.beginStop, by simp [Lifecycle.move, Lifecycle.beginStop, hp], h.beginStop⟩
  | probe origin =>
    refine ⟨c.note (s.reading c.clock) c.verdict origin, ?_, ?_⟩
    · simp [Lifecycle.move, Lifecycle.probe, hp, Coordinator.handle]
    · have hstops : (s.probe origin).stops = s.stops := by simp [Lifecycle.probe, hp]
      exact h.append (Coordinator.attached_note _ _ _ _) (Coordinator.phase_note _ _ _ _) hstops
        [.probe origin] (by simp [Event.started?])
  | enter | leave | addMonitor =>
    exact ⟨c, hp, h.append (by rfl) (by rfl) (by rfl) [_] (by simp [Event.started?])⟩
  | advanceClock | setClock =>
    exact ⟨c, by simpa [Lifecycle.move] using hp,
      h.append (by rfl) (by rfl) (by simp [Lifecycle.move]) [_] (by simp [Event.started?])⟩
  | pass => exact ⟨c, hp, h.append (by rfl) (by rfl) (by rfl) [] (by simp)⟩
  | wake id =>
    obtain ⟨c', hp', h'⟩ := h.wake hp id
    exact ⟨c', hp', by rw [Move.event?, Option.toList_none, List.append_nil]; exact h'⟩

theorem Recalls.follow (h : Recalls s c past) (hp : s.policy = .drain c) (moves : List Move) :
    ∃ c', (s.follow moves).policy = .drain c' ∧
      Recalls (s.follow moves) c' (past ++ moves.filterMap Move.event?) := by
  induction moves generalizing s c past with
  | nil => exact ⟨c, hp, by simpa using h⟩
  | cons m rest ih =>
    obtain ⟨c₁, hp₁, h₁⟩ := h.move hp m
    obtain ⟨c₂, hp₂, h₂⟩ := ih h₁ hp₁
    refine ⟨c₂, hp₂, ?_⟩
    rw [List.append_assoc] at h₂
    cases hm : m.event? <;> simpa [hm] using h₂

theorem findSome?_started?_filter (past : List Event) :
    (past.filter Event.isOutward).findSome? Event.started? = past.findSome? Event.started? := by
  induction past with
  | nil => rfl
  | cons e rest ih =>
    cases e with
    | start => rfl
    | _ => exact ih

theorem Recalls.of_filter (h : Recalls s c (past.filter Event.isOutward)) : Recalls s c past := by
  have hstop : .stop ∈ past.filter Event.isOutward ↔ .stop ∈ past := by
    simp [List.mem_filter, Event.isOutward]
  have hstarted := findSome?_started?_filter past
  exact ⟨h.attached.trans hstarted, fun hnot => h.idle (mt hstop.1 hnot),
    fun hnot => h.phase (mt hstop.1 hnot), fun hm => h.stopped (hstop.2 hm)⟩

theorem recalls_initial {settings : DrainSettings} {clock : ClockSource}
    (hc : Coordinator.create settings clock = .ok c) (manual : Option ManualClock) :
    Recalls (initial (.drain c) manual) c [] := by
  unfold Coordinator.create at hc
  split at hc
  · cases hc
  · cases hc
    exact ⟨rfl, fun _ => rfl, fun _ => rfl, by simp⟩

theorem exists_recalls_follow {settings : DrainSettings} {clock : ClockSource}
    (hc : Coordinator.create settings clock = .ok c) (manual : Option ManualClock)
    (moves : List Move) :
    ∃ c', ((initial (.drain c) manual).follow moves).policy = .drain c' ∧
      Recalls ((initial (.drain c) manual).follow moves) c' (moves.filterMap Move.event?) :=
  (recalls_initial hc manual).follow rfl moves

theorem exists_recalls_run {settings : DrainSettings} {clock : ClockSource}
    (hc : Coordinator.create settings clock = .ok c) (manual : Option ManualClock)
    (events : List Event) :
    ∃ c', ((initial (.drain c) manual).run events).policy = .drain c' ∧
      Recalls ((initial (.drain c) manual).run events) c' events := by
  obtain ⟨moves, hrun, houtward⟩ := exists_follow_eq_run (initial (.drain c) manual) events
  obtain ⟨c', hp, h⟩ := exists_recalls_follow hc manual moves
  rw [hrun]
  exact ⟨c', hp, (houtward ▸ h).of_filter⟩

/-- Whoever probes now is told what the events so far amount to. -/
def AnswersFor (s : Lifecycle) (past : List Event) : Prop :=
  ∃ c, s.policy = .drain c ∧ ∀ origin,
    let (answer, next) := c.handle (s.reading c.clock) origin
    (s.probe origin).policy = .drain next ∧
    (answer.status = 200 ∧ answer.body = "ok" ↔ Advertised past) ∧
    (answer.status = 503 ∧ answer.body = "service unavailable" ↔ ¬ Advertised past)

theorem Recalls.answersFor (h : Recalls s c past) (hp : s.policy = .drain c) :
    s.AnswersFor past := by
  refine ⟨c, hp, fun origin => ⟨?_, ?_⟩⟩
  · simp only [Lifecycle.probe, hp]
    rfl
  · rw [← h.advertised_iff]
    by_cases hready : c.phase = .ready
    · simp [Coordinator.verdict_of_ready hready, Verdict.status, Verdict.body, hready]
    · simp [Coordinator.verdict_of_ne hready, Verdict.status, Verdict.body, hready]

/-- Between any two moves of any run a probe is answered "ready" exactly if there was a start and no
stop so far, so that no stop is ever followed by such an answer. -/
theorem answersFor_past {settings : DrainSettings} {clock : ClockSource}
    (hc : Coordinator.create settings clock = .ok c) (manual : Option ManualClock) :
    let s := initial (.drain c) manual
    (∀ past, (s.run past).AnswersFor past) ∧
    (∀ past, (s.follow past).AnswersFor (past.filterMap Move.event?)) ∧
    ∀ past later, .stop ∈ past →
      ∃ c', (s.run (past ++ later)).policy = .drain c' ∧ ∀ reading origin,
        (c'.handle reading origin).1.status = 503 := by
  intro s
  refine ⟨fun past => ?_, fun past => ?_, fun past later hstop => ?_⟩
  · obtain ⟨c', hp, h⟩ := exists_recalls_run hc manual past
    exact h.answersFor hp
  · obtain ⟨c', hp, h⟩ := exists_recalls_follow hc manual past
    exact h.answersFor hp
  · obtain ⟨c', hp, h⟩ := exists_recalls_run hc manual (past ++ later)
    have hnot : c'.phase ≠ .ready := (h.stopped (List.mem_append_left _ hstop)).2
    refine ⟨c', hp, fun reading origin => ?_⟩
    rw [Coordinator.handle, Coordinator.verdict_of_ne hnot]
    rfl

/-- Ready once started; a second start after a stop that was waited for changes nothing. -/
theorem answersFor_past_restart :
    ∃ c, Coordinator.create ⟨"/", 10, 1, 2⟩ .steady = .ok c ∧
      let s := initial (.drain c) none
      (s.run [.start 0, .probe ⟨some "lb", false⟩]).AnswersFor
        [.start 0, .probe ⟨some "lb", false⟩] ∧
      Advertised [.start 0, .probe ⟨some "lb", false⟩] ∧
      ∃ c', (s.run ([.start 0, .probe ⟨some "lb", false⟩, .stop] ++ [.join 0, .start 0])).policy =
        .drain c' ∧ ∀ reading origin, (c'.handle reading origin).1.status = 503 := by
  have hc : Coordinator.create ⟨"/", 10, 1, 2⟩ .steady =
      .ok ⟨⟨"/", 10, 1, 2⟩, by decide, .steady, .init, none, .empty⟩ := by decide
  obtain ⟨hrun, -, hstopped⟩ := answersFor_past hc none
  refine ⟨_, hc, hrun _, ⟨⟨0, by simp⟩, by simp⟩, hstopped _ [.join 0, .start 0] (by simp)⟩

end Lifecycle

end GracefulDrain
