import GracefulDrain.Proofs.PhaseOrder
import GracefulDrain.Proofs.Readiness
import GracefulDrain.Proofs.TrackerHistory

namespace GracefulDrain.Lifecycle
open Told

/-- The coordinator's clock does not go back. -/
def ClockForward (source : ClockSource) (s : Lifecycle) (m : Move) : Prop :=
  s.reading source ≤ (s.move m).reading source

/-- Where no load balancer is active, one is active after the move exactly if the move is the first
probe of a load balancer that is not known yet. -/
def OnlyNewcomers (s : Lifecycle) (m : Move) : Prop :=
  ∀ c c', s.policy = .drain c → (s.move m).policy = .drain c' →
    c.lbActive (s.reading c.clock) = false →
    (c'.lbActive ((s.move m).reading c'.clock) = true ↔
      ∃ id, m = .probe ⟨some id, false⟩ ∧ c.tracker.get? id = none)

variable {s : Lifecycle} {c c' : Coordinator} {past : List Event}

/-- A coordinator that was told to stop says nothing but "not ready". -/
theorem Recalls.told_unavailable (h : Recalls s c past) (hp : s.policy = .drain c)
    (hstop : .stop ∈ past) (moves : List Move) :
    ∀ told ∈ s.told moves, told.verdict = .unavailable := by
  induction moves generalizing s c past with
  | nil => simp [told]
  | cons m rest ih =>
    obtain ⟨c', hp', h'⟩ := h.move hp m
    intro told hm
    rw [Lifecycle.told, List.mem_append] at hm
    rcases hm with hm | hm
    · unfold tells at hm
      split at hm
      · rw [List.mem_singleton.1 hm, verdict, hp]
        exact Coordinator.verdict_of_ne (h.stopped hstop).2
      · cases hm
    · exact ih h' hp' (List.mem_append_left _ hstop) told hm

theorem reading_le_follow {source : ClockSource} {moves : List Move}
    (h : s.Throughout (ClockForward source) moves) :
    s.reading source ≤ (s.follow moves).reading source := by
  induction moves generalizing s with
  | nil => exact le_rfl
  | cons m rest ih =>
    obtain ⟨hm, hrest⟩ := throughout_cons.1 h
    exact hm.trans (ih hrest)

/-- A coordinator's memory after a stop has begun: each load balancer has one entry, and it is what
the first refusal since then makes of the entry before. -/
structure Refused (c c' : Coordinator) (told : List Told) : Prop where
  settings : c'.settings = c.settings
  clock : c'.clock = c.clock
  distinct : c'.tracker.Distinct
  entry : ∀ id, c'.tracker.get? id = Ack.refusedBy (c.tracker.get? id) (heardBy id told).head?

theorem Recalls.refused (h : Recalls s c past) (hp : s.policy = .drain c)
    (hdistinct : c.tracker.Distinct) (hstop : .stop ∈ past) (moves : List Move) :
    ∃ c', (s.follow moves).policy = .drain c' ∧ Refused c c' (s.told moves) := by
  obtain ⟨c', hp', hsettings, hclock, htracker⟩ := exists_drain_follow hp moves
  refine ⟨c', hp', hsettings, hclock, htracker ▸ hdistinct.foldl_tell _, fun id => ?_⟩
  rw [htracker, Tracker.get?_foldl_tell]
  refine foldl_next_eq_refusedBy _ fun told hm => ?_
  exact h.told_unavailable hp hstop moves told (List.mem_filter.1 hm).1

/-- When none was active at an earlier reading of the clock, only a newcomer is active now, and only
if it was refused for the first time within the window. -/
theorem Refused.lbActive_iff {told : List Told} (h : Refused c c' told) {reading now : Nat}
    (hle : reading ≤ now) (hidle : c.lbActive reading = false) :
    c'.lbActive now = true ↔ ∃ id, c.tracker.get? id = none ∧
      ∃ first ∈ (heardBy id told).head?, now - first.reading < c.settings.quiescenceWindow := by
  have hwindow := c.valid.quiescenceWindow_pos
  rw [Coordinator.lbActive, Tracker.anyActive_iff h.distinct, h.settings]
  refine exists_congr fun id => ?_
  rw [h.entry id]
  constructor
  · rintro ⟨a, ha, hactive⟩
    cases hbefore : c.tracker.get? id with
    | none =>
      rw [hbefore] at ha
      cases hfirst : (heardBy id told).head? with
      | none => simp [hfirst, Ack.refusedBy] at ha
      | some first =>
        rw [hfirst, Ack.refusedBy, Option.some.injEq] at ha
        · subst ha
          exact ⟨rfl, first, rfl, of_decide_eq_true hactive⟩
        · rintro since ⟨⟩
    | some before =>
      have hnot := Tracker.active_of_get? hbefore hidle
      cases before with
      | ready => cases hnot
      | notReady since =>
        rw [hbefore, Ack.refusedBy, Option.some.injEq] at ha
        subst ha
        simp only [Ack.active, decide_eq_true_eq, decide_eq_false_iff_not] at hactive hnot
        omega
  · rintro ⟨hnone, first, hfirst, hlt⟩
    refine ⟨.notReady first.reading, ?_, decide_eq_true hlt⟩
    rw [hnone, Option.mem_def.1 hfirst]
    rfl

theorem head?_heardBy_tells (hp : s.policy = .drain c) (m : Move) (id : String) :
    (heardBy id (s.told [m])).head? =
      if m = .probe ⟨some id, false⟩ then some ⟨id, s.verdict, s.reading c.clock⟩ else none := by
  rw [Lifecycle.told, Lifecycle.told, List.append_nil]
  cases m with
  | probe origin =>
    obtain ⟨identity, deployer⟩ := origin
    cases identity with
    | none => simp [tells, hp, heardBy]
    | some other =>
      cases deployer with
      | true => simp [tells, hp, heardBy]
      | false => by_cases heq : other = id <;> simp [tells, hp, heardBy, heq]
  | start | beginStop | enter | leave | addMonitor | advanceClock | setClock | pass | wake =>
    simp [tells, hp, heardBy]

theorem Recalls.onlyNewcomers (h : Recalls s c past) (hp : s.policy = .drain c)
    (hdistinct : c.tracker.Distinct) (hstop : .stop ∈ past) {m : Move}
    (hm : s.ClockForward c.clock m) : s.OnlyNewcomers m := by
  intro c₁ c' hp₁ hp' hidle
  obtain rfl : c₁ = c := Policy.drain.inj (hp₁.symm.trans hp)
  obtain ⟨c₂, hp₂, hrefused⟩ := h.refused hp hdistinct hstop [m]
  obtain rfl : c₂ = c' := Policy.drain.inj (hp₂.symm.trans hp')
  rw [hrefused.clock, hrefused.lbActive_iff hm hidle]
  refine exists_congr fun id => ?_
  rw [head?_heardBy_tells hp]
  constructor
  · rintro ⟨hnone, first, hfirst, -⟩
    split at hfirst
    · next heq => exact ⟨heq, hnone⟩
    · cases hfirst
  · rintro ⟨rfl, hnone⟩
    have hsame : (s.move (.probe ⟨some id, false⟩)).reading c₁.clock = s.reading c₁.clock := by
      simp only [Lifecycle.move, Lifecycle.probe, hp]
      rfl
    refine ⟨hnone, ⟨id, s.verdict, s.reading c₁.clock⟩, by simp, ?_⟩
    rw [hsame, Nat.sub_self]
    exact c₁.valid.quiescenceWindow_pos

/-- However a run goes on after a stop has begun, each load balancer keeps the refusal that is
remembered of it, or gets that of its next probe, and is never taken for ready again. As long as the
clock does not go back, a move makes a load balancer active where none is only if it is the first
probe of one that is not known. -/
theorem refusals_irrevocable {settings : DrainSettings} {clock : ClockSource}
    (hc : Coordinator.create settings clock = .ok c) (manual : Option ManualClock) :
    let initially := initial (.drain c) manual
    (∀ events, ∃ moves, initially.run events = initially.follow moves ∧
      moves.filterMap Move.event? = events.filter Event.isOutward) ∧
    ∀ past more, .beginStop ∈ past → let s := initially.follow past
      ∃ before after, s.policy = .drain before ∧ (s.follow more).policy = .drain after ∧
        (∀ id, after.tracker.get? id =
          Ack.refusedBy (before.tracker.get? id) (heardBy id (s.told more)).head?) ∧
        (s.Throughout (ClockForward clock) more →
          s.Throughout OnlyNewcomers more ∧
          (before.lbActive (s.reading clock) = false →
            (after.lbActive ((s.follow more).reading clock) = true ↔
              ∃ id, before.tracker.get? id = none ∧ ∃ first ∈ (heardBy id (s.told more)).head?,
                (s.follow more).reading clock - first.reading < settings.quiescenceWindow))) := by
  intro initially
  refine ⟨exists_follow_eq_run initially, fun past more hbegun => ?_⟩
  intro s
  obtain ⟨hcs, hck, hct⟩ := Coordinator.create_eq_ok hc
  have hreach (moves : List Move) : ∃ c', (initially.follow moves).policy = .drain c' ∧
      Recalls (initially.follow moves) c' (moves.filterMap Move.event?) ∧ c'.settings = settings ∧
      c'.clock = clock ∧ c'.tracker.Distinct := by
    obtain ⟨c₁, hp₁, h₁⟩ := exists_recalls_follow hc manual moves
    obtain ⟨c₂, hp₂, hsettings, hclock, htracker⟩ :=
      exists_drain_follow (s := initially) (c := c) rfl moves
    obtain rfl : c₁ = c₂ := Policy.drain.inj (hp₁.symm.trans hp₂)
    refine ⟨c₁, hp₁, h₁, hsettings.trans hcs, hclock.trans hck, ?_⟩
    rw [htracker, hct]
    exact Tracker.distinct_empty.foldl_tell _
  have hstop (later : List Move) : Event.stop ∈ (past ++ later).filterMap Move.event? :=
    List.mem_filterMap.2 ⟨.beginStop, List.mem_append_left _ hbegun, rfl⟩
  obtain ⟨before, hp, hrecalls, hsettings, hclock, hdistinct⟩ := hreach past
  have hstop₀ : Event.stop ∈ past.filterMap Move.event? := by simpa using hstop []
  obtain ⟨after, hp', hrefused⟩ := hrecalls.refused hp hdistinct hstop₀ more
  refine ⟨before, after, hp, hp', hrefused.entry, fun hforward => ⟨?_, fun hidle => ?_⟩⟩
  · intro part m hpart
    obtain ⟨c₁, hp₁, h₁, -, hclock₁, hdistinct₁⟩ := hreach (past ++ part)
    rw [follow_append] at hp₁ h₁
    exact h₁.onlyNewcomers hp₁ hdistinct₁ (hstop part) (hclock₁ ▸ hforward part m hpart)
  · rw [← hsettings]
    exact hrefused.lbActive_iff (reading_le_follow hforward) hidle

/-- On a clock moved by hand, a load balancer that was told "ready" is refused, and once the window
has passed only a newcomer makes the coordinator wait again. -/
theorem refusals_irrevocable_newcomer :
    ∃ c, Coordinator.create ⟨"/", 10, 1, 2⟩ .manual = .ok c ∧
      let past : List Move := [.start 0, .probe ⟨some "lb", false⟩, .beginStop,
        .probe ⟨some "lb", false⟩, .advanceClock 2]
      let more : List Move := [.start 1, .probe ⟨some "lb", false⟩, .advanceClock 1,
        .probe ⟨some "new", true⟩, .probe ⟨some "new", false⟩, .setClock 4]
      let s := (initial (.drain c) (some ⟨0⟩)).follow past
      s.Throughout (ClockForward .manual) more ∧ s.Throughout OnlyNewcomers more ∧
      ∃ after, (s.follow more).policy = .drain after ∧
        after.tracker.get? "lb" = some (.notReady 0) ∧
        after.tracker.get? "new" = some (.notReady 3) ∧
        after.lbActive ((s.follow more).reading .manual) = true := by
  have hc : Coordinator.create ⟨"/", 10, 1, 2⟩ .manual =
      .ok ⟨⟨"/", 10, 1, 2⟩, by decide, .manual, .init, none, .empty⟩ := by decide
  refine ⟨_, hc, ?_⟩
  intro past more s
  have hforward : s.Throughout (ClockForward .manual) more := by
    have hnil (s : Lifecycle) : s.Throughout (ClockForward .manual) [] := by simp [Throughout]
    simp only [more, throughout_cons, hnil, and_true, ClockForward]
    decide
  obtain ⟨before, after, hp, hp', hentry, hlater⟩ :=
    (refusals_irrevocable hc (some ⟨0⟩)).2 past more (by decide)
  obtain ⟨honly, hactive⟩ := hlater hforward
  obtain rfl : before = _ := Policy.drain.inj (hp.symm.trans rfl)
  refine ⟨hforward, honly, after, hp', (hentry "lb").trans (by decide),
    (hentry "new").trans (by decide), (hactive (by decide)).2 ⟨"new", by decide, _, rfl, by decide⟩⟩

end GracefulDrain.Lifecycle
