import GracefulDrain.Proofs.Acknowledgement
import GracefulDrain.Proofs.Interleaving

namespace GracefulDrain

namespace Coordinator
variable {c : Coordinator}

theorem tracker_note (c : Coordinator) (reading : Nat) (v : Verdict) (id : String) :
    (c.note reading v ⟨some id, false⟩).tracker = c.tracker.tell ⟨id, v, reading⟩ := by
  cases v <;> rfl

theorem clock_note (c : Coordinator) (reading : Nat) (v : Verdict) (origin : Origin) :
    (c.note reading v origin).clock = c.clock := by
  unfold note
  split
  · rfl
  · split <;> rfl

theorem note_deployer (c : Coordinator) (reading : Nat) (v : Verdict) (id : Option String) :
    (c.note reading v ⟨id, true⟩).tracker = c.tracker := by
  unfold note
  split
  · rfl
  · split <;> rfl

theorem create_eq_ok {settings : DrainSettings} {clock : ClockSource}
    (h : create settings clock = .ok c) :
    c.settings = settings ∧ c.clock = clock ∧ c.tracker = .empty := by
  unfold create at h
  split at h
  · cases h
  · cases h
    exact ⟨rfl, rfl, rfl⟩

end Coordinator

namespace Lifecycle
open Coordinator

/-- What a move tells a load balancer; deployment tools and unknown clients are none. -/
def tells (s : Lifecycle) (m : Move) : List Told :=
  match s.policy, m with
  | .drain c, .probe ⟨some id, false⟩ => [⟨id, s.verdict, s.reading c.clock⟩]
  | _, _ => []

/-- All that load balancers were told, in order. -/
def told (s : Lifecycle) : List Move → List Told
  | [] => []
  | m :: rest => s.tells m ++ (s.move m).told rest

theorem told_append (s : Lifecycle) (moves rest : List Move) :
    s.told (moves ++ rest) = s.told moves ++ (s.follow moves).told rest := by
  induction moves generalizing s with
  | nil => rfl
  | cons m moves ih => rw [List.cons_append, told, told, ih, List.append_assoc, follow_cons]

variable {s : Lifecycle} {c : Coordinator}

/-- All that a move can do to the coordinator's memory. -/
theorem exists_drain_move (hp : s.policy = .drain c) (m : Move) :
    ∃ c', (s.move m).policy = .drain c' ∧ c'.settings = c.settings ∧ c'.clock = c.clock ∧
      c'.tracker = (s.tells m).foldl Tracker.tell c.tracker := by
  cases m with
  | start monitor =>
    exact ⟨c.start monitor, by simp [move, start, hp], rfl, rfl,
      by simp [tells, hp, Coordinator.start]⟩
  | beginStop =>
    exact ⟨c.beginStop, by simp [move, beginStop, hp], rfl, rfl,
      by simp [tells, hp, Coordinator.beginStop]⟩
  | probe origin =>
    refine ⟨c.note (s.reading c.clock) c.verdict origin, ?_, by simp, clock_note _ _ _ _, ?_⟩
    · simp [move, probe, hp, Coordinator.handle]
    · obtain ⟨identity, deployer⟩ := origin
      cases deployer with
      | true => simp [tells, hp, note_deployer]
      | false =>
        cases identity with
        | none => simp [tells, hp, Coordinator.note]
        | some id => simp [tells, hp, tracker_note, verdict]
  | enter | leave | addMonitor | advanceClock | setClock | pass =>
    exact ⟨c, by simp [move, onMonitor, addMonitor, pass, hp], rfl, rfl, by simp [tells, hp]⟩
  | wake id =>
    simp only [move, wake, hp]
    split
    · next heq _ => cases heq; exact ⟨_, rfl, rfl, rfl, by simp [tells, hp]⟩
    · exact ⟨c, hp, rfl, rfl, by simp [tells, hp]⟩

theorem exists_drain_follow (hp : s.policy = .drain c) (moves : List Move) :
    ∃ c', (s.follow moves).policy = .drain c' ∧ c'.settings = c.settings ∧ c'.clock = c.clock ∧
      c'.tracker = (s.told moves).foldl Tracker.tell c.tracker := by
  induction moves generalizing s c with
  | nil => exact ⟨c, hp, rfl, rfl, rfl⟩
  | cons m rest ih =>
    obtain ⟨c₁, hp₁, hs₁, hk₁, ht₁⟩ := exists_drain_move hp m
    obtain ⟨c₂, hp₂, hs₂, hk₂, ht₂⟩ := ih hp₁
    refine ⟨c₂, hp₂, hs₂.trans hs₁, hk₂.trans hk₁, ?_⟩
    rw [ht₂, ht₁, told, List.foldl_append]

theorem exists_wake_of_ended (hp : s.policy = .drain c) {id instant : Nat} {outcome : Outcome}
    (hs : s.stops[id]? ≠ some (.ended instant outcome)) {moves : List Move}
    (h : (s.follow moves).stops[id]? = some (.ended instant outcome)) :
    ∃ past rest, moves = past ++ .wake id :: rest ∧
      ∃ c' begun reading looks, (s.follow past).policy = .drain c' ∧
        (s.follow past).stops[id]? = some (.waiting begun reading looks) ∧
        ((s.follow past).wake id).stops[id]? = some (.ended instant outcome) ∧
        (Stop.waiting begun reading looks).settle c'.settings (s.follow past).now
          ((s.follow past).observe c') = .ended instant outcome := by
  induction moves using List.reverseRecOn with
  | nil => exact absurd h hs
  | append_singleton moves m ih =>
    rw [follow_append] at h
    obtain ⟨c', hp', -⟩ := exists_drain_follow hp moves
    rcases ended_move hp' h with h | ⟨begun, reading, looks, rfl, hget, hsettle⟩
    · obtain ⟨past, rest, rfl, hpast⟩ := ih h
      exact ⟨past, rest ++ [m], by simp, hpast⟩
    · exact ⟨moves, [], rfl, c', begun, reading, looks, hp', hget, h, hsettle⟩

/-- A stop ends now, in quiet or with what its last look shows. -/
theorem settle_eq_ended {settings : DrainSettings} {now begun reading looks instant : Nat}
    {seen : Observation} {outcome : Outcome}
    (h : (Stop.waiting begun reading looks).settle settings now seen = .ended instant outcome) :
    now = instant ∧ (outcome = .quiet ∧ seen.isQuiet = true ∨
      outcome = .timedOut seen.inflight seen.lbActive) := by
  simp only [Stop.settle] at h
  split at h
  · cases h
    exact ⟨rfl, .inr rfl⟩
  · split at h
    · split at h
      · next hq =>
        cases h
        exact ⟨rfl, .inl ⟨rfl, hq⟩⟩
      · cases h
    · cases h

end Lifecycle

end GracefulDrain
