import GracefulDrain.Proofs.History

/-! A start only goes forward in the order of the phases, but a stop that begins after another one
has ended goes back to draining, and one that ends in quiet goes back from a time-out. -/
namespace GracefulDrain

/-- A phase that the end of a stop leaves behind. -/
def Phase.IsFinal (p : Phase) : Prop := p = .done ∨ p = .timedOut

instance : DecidablePred Phase.IsFinal :=
  fun p => inferInstanceAs (Decidable (p = .done ∨ p = .timedOut))

theorem Phase.isFinal_iff (p : Phase) : p.IsFinal ↔ 3 ≤ p.code := by
  cases p <;> decide

theorem Outcome.isFinal_phase (outcome : Outcome) : outcome.phase.IsFinal := by
  cases outcome
  · exact .inl rfl
  · exact .inr rfl

namespace Lifecycle

/-- The phases that the ended stops left behind. -/
def endings (s : Lifecycle) : List Phase := s.stops.filterMap Stop.phase?

/-- Whatever move a run makes next, it has this property in the state that was reached. -/
def Throughout (R : Lifecycle → Move → Prop) (s : Lifecycle) (moves : List Move) : Prop :=
  ∀ past m, past ++ [m] <+: moves → R (s.follow past) m

/-- The phase does not go back. -/
def GoesForward (s : Lifecycle) (m : Move) : Prop :=
  s.policy.phase.code ≤ (s.move m).policy.phase.code

/-- The phase that the end of a stop has left behind stays. -/
def KeepsFinal (s : Lifecycle) (m : Move) : Prop :=
  s.policy.phase.IsFinal → (s.move m).policy.phase = s.policy.phase

/-- No stop begins after one has ended, and none ends in quiet after one has timed out. -/
def InTurn (s : Lifecycle) (m : Move) : Prop :=
  (m = .beginStop → s.endings = []) ∧
    (.timedOut ∈ s.endings → (s.move m).endings.count .done = s.endings.count .done)

/-- No stop begins after one has ended, and all end in the same way. -/
def Alike (s : Lifecycle) (m : Move) : Prop :=
  (m = .beginStop → s.endings = []) ∧ ∀ p ∈ s.endings, ∀ q ∈ (s.move m).endings, q = p

variable {s : Lifecycle} {c : Coordinator} {R R' : Lifecycle → Move → Prop}

theorem throughout_cons {m : Move} {rest : List Move} :
    Throughout R s (m :: rest) ↔ R s m ∧ Throughout R (s.move m) rest := by
  constructor
  · intro h
    refine ⟨h [] m (List.cons_prefix_cons.2 ⟨rfl, List.nil_prefix⟩), fun past m' hp => ?_⟩
    exact h (m :: past) m' (List.cons_prefix_cons.2 ⟨rfl, hp⟩)
  · rintro ⟨hm, hrest⟩ past m' hp
    cases past with
    | nil =>
      obtain ⟨rfl, -⟩ := List.cons_prefix_cons.1 hp
      exact hm
    | cons first past =>
      obtain ⟨rfl, hpast⟩ := List.cons_prefix_cons.1 hp
      exact hrest past m' hpast

/-- Properties that are one where an invariant holds, and that keep it, are one throughout a run. -/
theorem throughout_congr {I : Lifecycle → Prop} (hiff : ∀ s m, I s → (R s m ↔ R' s m))
    (hkeep : ∀ s m, I s → R s m → I (s.move m)) (h : I s) (moves : List Move) :
    Throughout R s moves ↔ Throughout R' s moves := by
  induction moves generalizing s with
  | nil => simp [Throughout]
  | cons m rest ih =>
    rw [throughout_cons, throughout_cons, ← hiff s m h]
    exact and_congr_right fun hm => ih (hkeep s m h hm)

/-- A waiting stop left nothing behind, and what takes its place comes in between. -/
theorem endings_split {id begun reading looks : Nat}
    (h : s.stops[id]? = some (.waiting begun reading looks)) :
    ∃ before after, s.endings = before ++ after ∧ ∀ stop : Stop,
      (s.stops.set id stop).filterMap Stop.phase? = before ++ (stop.phase?.toList ++ after) := by
  obtain ⟨hlt, hget⟩ := List.getElem?_eq_some_iff.1 h
  refine ⟨(s.stops.take id).filterMap Stop.phase?, (s.stops.drop (id + 1)).filterMap Stop.phase?,
    ?_, fun stop => ?_⟩
  · have hsplit : s.stops.take id ++ s.stops[id] :: s.stops.drop (id + 1) = s.stops := by
      rw [List.getElem_cons_drop, List.take_append_drop]
    rw [hget] at hsplit
    calc s.endings
      _ = (s.stops.take id ++ .waiting begun reading looks :: s.stops.drop (id + 1)).filterMap
          Stop.phase? := by rw [hsplit, endings]
      _ = _ := by rw [List.filterMap_append, List.filterMap_cons_none rfl]
  · rw [List.set_eq_take_append_cons_drop, if_pos hlt, List.filterMap_append]
    cases hphase : stop.phase? <;> simp [hphase]

/-- All that a move can do to the phase and to the ends of stops. -/
theorem phase_move (hp : s.policy = .drain c) (m : Move) :
    (m = .beginStop ∧ (s.move m).endings = s.endings ∧ (s.move m).policy.phase = .draining) ∨
    (m ≠ .beginStop ∧ ∃ p : Phase, p.IsFinal ∧ (s.move m).endings.Perm (p :: s.endings) ∧
      (s.move m).policy.phase = p) ∨
    (m ≠ .beginStop ∧ (s.move m).endings = s.endings ∧
      ((s.move m).policy.phase = s.policy.phase ∨
        s.policy.phase = .init ∧ (s.move m).policy.phase = .ready)) := by
  cases m with
  | beginStop =>
    refine .inl ⟨rfl, ?_, ?_⟩
    · simp [move, beginStop, hp, endings, Stop.phase?]
    · simp [move, beginStop, hp, Policy.phase, Coordinator.beginStop]
  | start monitor =>
    refine .inr (.inr ⟨by simp, by simp [move, start, hp, endings], ?_⟩)
    by_cases hphase : c.phase = .init <;>
      simp [move, start, hp, Policy.phase, Coordinator.start, hphase]
  | probe origin =>
    refine .inr (.inr ⟨by simp, by simp [move, probe, hp, endings], .inl ?_⟩)
    simp [move, probe, hp, Policy.phase, Coordinator.handle]
  | enter | leave | addMonitor | pass => exact .inr (.inr ⟨by simp, rfl, .inl rfl⟩)
  | advanceClock | setClock =>
    exact .inr (.inr ⟨by simp, by simp [move, endings], .inl (by simp [move])⟩)
  | wake id =>
    rcases wake_cases hp id with hsame | ⟨begun, reading, looks, after, hget, -, hwake⟩
    · exact .inr (.inr ⟨by simp, congrArg endings hsame, .inl (congrArg (·.policy.phase) hsame)⟩)
    · obtain ⟨before, later, hendings, hset⟩ := endings_split hget
      have hafter : (s.wake id).endings = before ++ (after.phase?.toList ++ later) := by
        rw [hwake]
        exact hset after
      cases after with
      | waiting =>
        exact .inr (.inr ⟨by simp, hafter.trans hendings.symm,
          .inl (by simp [move, hwake, hp, Policy.phase, Stop.phase?])⟩)
      | ended instant outcome =>
        refine .inr (.inl ⟨by simp, outcome.phase, outcome.isFinal_phase, ?_,
          by simp [move, hwake, Policy.phase, Stop.phase?]⟩)
        rw [move, hafter, hendings]
        exact List.perm_middle

/-- A coordinator is in the phase that the end of a stop leaves behind only after such an end. -/
structure Noted (s : Lifecycle) : Prop where
  drain : ∃ c, s.policy = .drain c
  final : ∀ p ∈ s.endings, p.IsFinal
  phase : s.policy.phase.IsFinal → s.policy.phase ∈ s.endings

theorem Noted.move (h : s.Noted) (m : Move) : (s.move m).Noted := by
  obtain ⟨c, hp⟩ := h.drain
  obtain ⟨c', hp', -⟩ := exists_drain_move hp m
  refine ⟨⟨c', hp'⟩, ?_, ?_⟩
  · rcases phase_move hp m with ⟨-, hends, -⟩ | ⟨-, p, hfinal, hends, -⟩ | ⟨-, hends, -⟩
    · rw [hends]
      exact h.final
    · intro q hq
      rcases List.mem_cons.1 (hends.mem_iff.1 hq) with rfl | hq
      · exact hfinal
      · exact h.final q hq
    · rw [hends]
      exact h.final
  · rcases phase_move hp m with ⟨-, -, hphase⟩ | ⟨-, p, -, hends, hphase⟩ |
      ⟨-, hends, hphase | ⟨-, hphase⟩⟩
    · rw [hphase]
      exact fun hfinal => absurd hfinal (by decide)
    · intro _
      rw [hphase]
      exact hends.mem_iff.2 List.mem_cons_self
    · rw [hphase, hends]
      exact h.phase
    · rw [hphase]
      exact fun hfinal => absurd hfinal (by decide)

/-- No stop ended with a phase beyond the present one. -/
def Peaks (s : Lifecycle) : Prop := s.Noted ∧ ∀ p ∈ s.endings, p.code ≤ s.policy.phase.code

theorem Peaks.move (h : s.Peaks) {m : Move} (hm : s.GoesForward m) : (s.move m).Peaks := by
  obtain ⟨c, hp⟩ := h.1.drain
  refine ⟨h.1.move m, fun q hq => ?_⟩
  rcases phase_move hp m with ⟨-, hends, -⟩ | ⟨-, p, -, hends, hphase⟩ | ⟨-, hends, -⟩
  · exact (h.2 q (hends ▸ hq)).trans hm
  · rcases List.mem_cons.1 (hends.mem_iff.1 hq) with rfl | hq
    · rw [hphase]
    · exact (h.2 q hq).trans hm
  · exact (h.2 q (hends ▸ hq)).trans hm

theorem Peaks.endings_eq_nil_iff (h : s.Peaks) : s.endings = [] ↔ s.policy.phase.code < 3 := by
  rw [← not_le, ← Phase.isFinal_iff]
  constructor
  · intro hnil hfinal
    simpa [hnil] using h.1.phase hfinal
  · intro hnot
    refine List.eq_nil_iff_forall_not_mem.2 fun p hmem => hnot ?_
    exact (Phase.isFinal_iff _).2 (((Phase.isFinal_iff p).1 (h.1.final p hmem)).trans (h.2 p hmem))

theorem Peaks.timedOut_mem_iff (h : s.Peaks) :
    .timedOut ∈ s.endings ↔ ¬ s.policy.phase.code ≤ Phase.done.code := by
  constructor
  · exact fun hmem hle => absurd ((h.2 _ hmem).trans hle) (by decide)
  · intro hnot
    have hphase : s.policy.phase = .timedOut := by
      cases hp : s.policy.phase <;> simp_all [Phase.code]
    exact hphase ▸ h.1.phase (.inr hphase)

theorem Peaks.goesForward_iff (h : s.Peaks) (m : Move) : s.GoesForward m ↔ s.InTurn m := by
  obtain ⟨c, hp⟩ := h.1.drain
  rcases phase_move hp m with ⟨rfl, hends, hphase⟩ | ⟨hm, p, rfl | rfl, hends, hphase⟩ |
    ⟨hm, hends, hphase⟩
  · -- a begin takes the phase to draining
    rw [GoesForward, InTurn, hphase, hends, h.endings_eq_nil_iff]
    exact ⟨fun hle => ⟨fun _ => Nat.lt_succ_of_le hle, fun _ => rfl⟩,
      fun hturn => Nat.le_of_lt_succ (hturn.1 rfl)⟩
  · -- an end in quiet goes back from a time-out
    rw [GoesForward, InTurn, hphase, hends.count_eq, List.count_cons_self, h.timedOut_mem_iff]
    simp [hm]
  · -- nothing is beyond a time-out
    rw [GoesForward, InTurn, hphase, hends.count_eq, List.count_cons_of_ne (by decide)]
    refine iff_of_true ?_ ⟨fun heq => absurd heq hm, fun _ => rfl⟩
    cases s.policy.phase <;> decide
  · rw [GoesForward, InTurn, hends]
    refine iff_of_true ?_ ⟨fun heq => absurd heq hm, fun _ => rfl⟩
    rcases hphase with hphase | ⟨hinit, hready⟩
    · rw [hphase]
    · rw [hinit, hready]
      decide

/-- All stops that have ended left the present phase behind. -/
def Agrees (s : Lifecycle) : Prop := s.Noted ∧ ∀ p ∈ s.endings, p = s.policy.phase

theorem Agrees.endings_eq_nil_iff (h : s.Agrees) : s.endings = [] ↔ ¬ s.policy.phase.IsFinal := by
  constructor
  · intro hnil hfinal
    simpa [hnil] using h.1.phase hfinal
  · intro hnot
    refine List.eq_nil_iff_forall_not_mem.2 fun p hmem => hnot ?_
    exact h.2 p hmem ▸ h.1.final p hmem

theorem Agrees.move (h : s.Agrees) {m : Move} (hm : s.KeepsFinal m) : (s.move m).Agrees := by
  obtain ⟨c, hp⟩ := h.1.drain
  have hkept : ∀ q ∈ s.endings, q = (s.move m).policy.phase := by
    intro q hq
    rw [hm (h.2 q hq ▸ h.1.final q hq)]
    exact h.2 q hq
  refine ⟨h.1.move m, ?_⟩
  rcases phase_move hp m with ⟨-, hends, -⟩ | ⟨-, p, -, hends, hphase⟩ | ⟨-, hends, -⟩
  · exact hends ▸ hkept
  · intro q hq
    rcases List.mem_cons.1 (hends.mem_iff.1 hq) with rfl | hq
    · exact hphase.symm
    · exact hkept q hq
  · exact hends ▸ hkept

theorem Agrees.keepsFinal_iff (h : s.Agrees) (m : Move) : s.KeepsFinal m ↔ s.Alike m := by
  obtain ⟨c, hp⟩ := h.1.drain
  constructor
  · intro hm
    refine ⟨?_, fun p hmem q hq => ?_⟩
    · rintro rfl
      rw [h.endings_eq_nil_iff]
      intro hfinal
      have hdraining : (s.move .beginStop).policy.phase = .draining := by
        simp [Lifecycle.move, beginStop, hp, Policy.phase, Coordinator.beginStop]
      rw [← hm hfinal, hdraining] at hfinal
      exact absurd hfinal (by decide)
    · have hpast := h.2 p hmem
      rw [(h.move hm).2 q hq, hm (hpast ▸ h.1.final p hmem), hpast]
  · rintro ⟨hbegin, hsame⟩ hfinal
    have hmem := h.1.phase hfinal
    rcases phase_move hp m with ⟨rfl, -, -⟩ | ⟨-, p, -, hends, hphase⟩ |
      ⟨-, -, hphase | ⟨hinit, -⟩⟩
    · simp [hbegin rfl] at hmem
    · rw [hphase]
      exact hsame _ hmem p (hends.mem_iff.2 List.mem_cons_self)
    · exact hphase
    · exact absurd (hinit ▸ hfinal) (by decide)

theorem goesForward_of_keepsFinal (hp : s.policy = .drain c) {m : Move} (h : s.KeepsFinal m) :
    s.GoesForward m := by
  by_cases hfinal : s.policy.phase.IsFinal
  · exact (congrArg Phase.code (h hfinal)).ge
  · rw [Phase.isFinal_iff, not_le] at hfinal
    rw [GoesForward]
    rcases phase_move hp m with ⟨-, -, hphase⟩ | ⟨-, p, hended, -, hphase⟩ |
      ⟨-, -, hphase | ⟨hinit, hready⟩⟩
    · rw [hphase]
      exact Nat.le_of_lt_succ hfinal
    · rw [hphase]
      exact hfinal.le.trans ((Phase.isFinal_iff p).1 hended)
    · rw [hphase]
    · rw [hinit, hready]
      decide

theorem mem_endings_move (hp : s.policy = .drain c) (m : Move) {p : Phase} (h : p ∈ s.endings) :
    p ∈ (s.move m).endings := by
  rcases phase_move hp m with ⟨-, hends, -⟩ | ⟨-, q, -, hends, -⟩ | ⟨-, hends, -⟩
  · exact hends ▸ h
  · exact hends.mem_iff.2 (List.mem_cons_of_mem q h)
  · exact hends ▸ h

theorem length_stops_move (hp : s.policy = .drain c) (m : Move) :
    (s.move m).stops.length = s.stops.length + [m].count .beginStop := by
  by_cases hm : m = .beginStop
  · subst hm
    simp [move, beginStop, hp]
  · rcases stops_move hp m with hs | ⟨heq, -⟩ | ⟨_, _, _, _, -, -, hs⟩
    · simp [hs, hm]
    · exact absurd heq hm
    · simp [hs, hm]

/-- Where only one stop begins, there is none that it could differ from. -/
theorem throughout_alike_of_count_le (hp : s.policy = .drain c) {moves : List Move}
    (h : s.stops.length + moves.count .beginStop ≤ 1) : Throughout Alike s moves := by
  induction moves generalizing s c with
  | nil => simp [Throughout]
  | cons m rest ih =>
    have hlength := length_stops_move hp m
    have hcount : (m :: rest).count .beginStop = [m].count .beginStop + rest.count .beginStop := by
      rw [← List.singleton_append, List.count_append]
    obtain ⟨c', hp', -⟩ := exists_drain_move hp m
    refine throughout_cons.2 ⟨⟨?_, fun p hmem q hq => ?_⟩, ih hp' (by omega)⟩
    · rintro rfl
      have hbegin : [Move.beginStop].count .beginStop = 1 := by simp
      have hnone : s.stops = [] := List.length_eq_zero_iff.1 (by omega)
      rw [endings, hnone, List.filterMap_nil]
    · have hone : (s.move m).endings.length ≤ 1 :=
        (List.length_filterMap_le _ _).trans (by omega)
      have hmem' := mem_endings_move hp m hmem
      generalize (s.move m).endings = ended at hone hmem' hq
      cases ended with
      | nil => cases hq
      | cons first others =>
        obtain rfl : others = [] := List.length_eq_zero_iff.1 (by simpa using hone)
        rw [List.mem_singleton.1 hq, List.mem_singleton.1 hmem']

theorem exists_simple_move {h : SimpleHealth} (hp : s.policy = .simple h)
    (hphase : h.phase.code ≤ Phase.done.code) (m : Move) :
    ∃ h', (s.move m).policy = .simple h' ∧ h'.phase.code ≤ Phase.done.code ∧
      s.GoesForward m ∧ s.KeepsFinal m := by
  have hsame (heq : (s.move m).policy = s.policy) : ∃ h', (s.move m).policy = .simple h' ∧
      h'.phase.code ≤ Phase.done.code ∧ s.GoesForward m ∧ s.KeepsFinal m :=
    ⟨h, heq.trans hp, hphase, (congrArg (·.phase.code) heq).ge, fun _ => congrArg Policy.phase heq⟩
  cases m with
  | beginStop =>
    have hmove : (s.move .beginStop).policy = .simple h.stop := by simp [move, beginStop, hp]
    refine ⟨h.stop, hmove, le_rfl, ?_, fun hfinal => ?_⟩
    · rw [GoesForward, hmove, hp]
      exact hphase
    · rw [hp] at hfinal ⊢
      rw [hmove]
      rcases hfinal with hdone | htimedOut
      · exact hdone.symm
      · rw [show h.phase = .timedOut from htimedOut] at hphase
        exact absurd hphase (by decide)
  | start monitor =>
    have hmove : (s.move (.start monitor)).policy = .simple h.start := by simp [move, start, hp]
    by_cases hinit : h.phase = .init
    · refine ⟨h.start, hmove, ?_, ?_, fun hfinal => ?_⟩
      · simp [SimpleHealth.start, hinit, Phase.code]
      · rw [GoesForward, hmove, hp]
        simp [Policy.phase, hinit, Phase.code]
      · rw [hp, Policy.phase, hinit] at hfinal
        exact absurd hfinal (by decide)
    · exact hsame (by simp [hmove, hp, SimpleHealth.start, hinit])
  | probe | wake => exact hsame (by simp [move, probe, wake, hp])
  | enter | leave | addMonitor | pass => exact hsame rfl
  | advanceClock | setClock => exact hsame (by simp [move])

theorem exists_simple_follow {h : SimpleHealth} (hp : s.policy = .simple h)
    (hphase : h.phase.code ≤ Phase.done.code) (moves : List Move) :
    ∃ h', (s.follow moves).policy = .simple h' ∧ h'.phase.code ≤ Phase.done.code := by
  induction moves generalizing s h with
  | nil => exact ⟨h, hp, hphase⟩
  | cons m rest ih =>
    obtain ⟨h', hp', hphase', -⟩ := exists_simple_move hp hphase m
    exact ih hp' hphase'

theorem noted_initial {settings : DrainSettings} {clock : ClockSource}
    (hc : Coordinator.create settings clock = .ok c) (manual : Option ManualClock) :
    (initial (.drain c) manual).Noted := by
  unfold Coordinator.create at hc
  split at hc
  · cases hc
  · cases hc
    exact ⟨⟨_, rfl⟩, by simp [endings, initial],
      fun hfinal => absurd (show Phase.init.IsFinal from hfinal) (by decide)⟩

/-- Without a drain the phase only goes forward, and the final one stays. With one it does so exactly
under conditions on the order in which stops begin and end, which a single stop meets. -/
theorem phases_forward_iff {settings : DrainSettings} {clock : ClockSource} {c : Coordinator}
    (hc : Coordinator.create settings clock = .ok c) (path : String)
    (manual : Option ManualClock) :
    (∀ (s : Lifecycle) events, ∃ moves, s.run events = s.follow moves ∧
      moves.filterMap Move.event? = events.filter Event.isOutward) ∧
    (∀ moves, let s := initial (.simple (.create path)) manual
      s.Throughout GoesForward moves ∧ s.Throughout KeepsFinal moves) ∧
    ∀ moves, let s := initial (.drain c) manual
      (s.Throughout GoesForward moves ↔ s.Throughout InTurn moves) ∧
      (s.Throughout KeepsFinal moves ↔ s.Throughout Alike moves) ∧
      (moves.count .beginStop ≤ 1 →
        s.Throughout GoesForward moves ∧ s.Throughout KeepsFinal moves) := by
  refine ⟨exists_follow_eq_run, fun moves => ?_, fun moves => ?_⟩
  · intro s
    have hmove (past : List Move) (m : Move) :
        (s.follow past).GoesForward m ∧ (s.follow past).KeepsFinal m := by
      obtain ⟨h, hp, hphase⟩ := exists_simple_follow (s := s) rfl (Nat.zero_le _) past
      obtain ⟨-, -, -, hmove⟩ := exists_simple_move hp hphase m
      exact hmove
    exact ⟨fun past m _ => (hmove past m).1, fun past m _ => (hmove past m).2⟩
  · intro s
    have hnoted : s.Noted := noted_initial hc manual
    have hnone : ∀ p, p ∉ s.endings := by simp [s, endings, initial]
    have hkeeps : s.Throughout KeepsFinal moves ↔ s.Throughout Alike moves :=
      throughout_congr (I := Agrees) (fun _ m h => h.keepsFinal_iff m) (fun _ _ h hm => h.move hm)
        ⟨hnoted, fun p hp => absurd hp (hnone p)⟩ moves
    refine ⟨?_, hkeeps, fun hone => ?_⟩
    · exact throughout_congr (I := Peaks) (fun _ m h => h.goesForward_iff m)
        (fun _ _ h hm => h.move hm) ⟨hnoted, fun p hp => absurd hp (hnone p)⟩ moves
    · have hkept : s.Throughout KeepsFinal moves :=
        hkeeps.2 (throughout_alike_of_count_le (c := c) rfl (by simpa [s, initial] using hone))
      refine ⟨fun past m hpast => ?_, hkept⟩
      obtain ⟨c', hp', -⟩ := exists_drain_follow (s := s) (c := c) rfl past
      exact goesForward_of_keepsFinal hp' (hkept past m hpast)

/-- A stop that times out, with a request in flight. -/
theorem phases_forward_iff_single_stop :
    ∃ c, Coordinator.create ⟨"/", 2, 1, 1⟩ .steady = .ok c ∧
      let s := initial (.drain c) none
      let moves : List Move :=
        [.start 0, .enter 0 1, .beginStop, .wake 0, .pass 1, .wake 0, .pass 2, .wake 0, .start 0]
      (s.follow moves).policy.phase = .timedOut ∧ moves.count .beginStop ≤ 1 ∧
        s.Throughout GoesForward moves ∧ s.Throughout KeepsFinal moves := by
  have hc : Coordinator.create ⟨"/", 2, 1, 1⟩ .steady =
      .ok ⟨⟨"/", 2, 1, 1⟩, by decide, .steady, .init, none, .empty⟩ := by decide
  refine ⟨_, hc, ?_⟩
  intro s moves
  have hone : moves.count .beginStop ≤ 1 := by decide
  exact ⟨by decide, hone, ((phases_forward_iff hc "/" none).2.2 moves).2.2 hone⟩

/-- A second stop takes the phase back, from the quiet end of the first one when it begins, and from
its time-out when it ends in quiet. -/
theorem not_forward_second_stop :
    ∃ c, Coordinator.create ⟨"/", 2, 1, 1⟩ .steady = .ok c ∧
      let s := initial (.drain c) none
      ((s.run [.start 0, .stop]).policy.phase = .done ∧
        (s.run [.start 0, .stop, .enter 0 1, .stop]).policy.phase = .draining) ∧
      let late := s.follow [.start 0, .enter 0 1, .beginStop, .wake 0, .pass 1, .wake 0,
        .beginStop, .wake 1, .pass 2, .wake 0, .leave 0 1]
      late.policy.phase = .timedOut ∧ (late.move (.wake 1)).policy.phase = .done ∧
        ¬ late.GoesForward (.wake 1) ∧ ¬ late.KeepsFinal (.wake 1) := by
  refine ⟨⟨⟨"/", 2, 1, 1⟩, by decide, .steady, .init, none, .empty⟩, by decide, ?_⟩
  intro s
  refine ⟨by decide, ?_⟩
  intro late
  have htimedOut : late.policy.phase = .timedOut := by decide
  have hdone : (late.move (.wake 1)).policy.phase = .done := by decide
  refine ⟨htimedOut, hdone, fun h => ?_, fun h => ?_⟩
  · rw [GoesForward, htimedOut, hdone] at h
    exact absurd h (by decide)
  · have hkept := h (.inr htimedOut)
    rw [htimedOut, hdone] at hkept
    exact absurd hkept (by decide)

end Lifecycle

end GracefulDrain
