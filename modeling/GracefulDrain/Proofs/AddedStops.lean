import GracefulDrain.Proofs.Readiness
import GracefulDrain.Proofs.Settled

/-! A run is compared with one to which stops were added, at any points after its first stop had
begun. The added stops leave their trace in the phase and in the record of the drain only. -/
namespace GracefulDrain

/-- A phase after the first stop has begun. -/
def Phase.IsStopped (p : Phase) : Prop := p ≠ .init ∧ p ≠ .ready

instance : DecidablePred Phase.IsStopped :=
  fun p => inferInstanceAs (Decidable (p ≠ .init ∧ p ≠ .ready))

theorem Phase.isStopped_draining : Phase.draining.IsStopped := by decide

theorem Outcome.isStopped_phase (outcome : Outcome) : outcome.phase.IsStopped := by
  cases outcome <;> simp [Outcome.phase, Phase.IsStopped]

/-- The numbers that the stops of a run have once others were added, and how many there are then. -/
structure Numbering where
  own : List Nat
  total : Nat
  nodup : own.Nodup
  lt_total : ∀ id ∈ own, id < total

/-- A part of a run, or a stop that was added to it. -/
inductive Entry (α : Type)
  | own (a : α)
  | added

def Entry.own? {α : Type} : Entry α → Option α
  | own a => some a
  | added => none

namespace Numbering

/-- Nothing was added yet. -/
def identity (total : Nat) : Numbering :=
  ⟨List.range total, total, List.nodup_range, fun _ => List.mem_range.1⟩

/-- One more stop of the run begins. -/
def withOwn (n : Numbering) : Numbering where
  own := n.own ++ [n.total]
  total := n.total + 1
  nodup := by
    refine List.nodup_append.2 ⟨n.nodup, List.nodup_singleton _, fun id hid id' hid' => ?_⟩
    rw [List.mem_singleton.1 hid']
    exact (n.lt_total id hid).ne
  lt_total := by
    intro id hid
    rcases List.mem_append.1 hid with hid | hid
    · exact Nat.lt_succ_of_lt (n.lt_total id hid)
    · exact List.mem_singleton.1 hid ▸ Nat.lt_succ_self _

/-- An added stop begins. -/
def withAdded (n : Numbering) : Numbering where
  own := n.own
  total := n.total + 1
  nodup := n.nodup
  lt_total := fun id hid => Nat.lt_succ_of_lt (n.lt_total id hid)

/-- The number that a stop of the run has now; a number that no stop has stays such a one. -/
def place (n : Numbering) (id : Nat) : Nat := n.own.getD id n.total

variable {n : Numbering} {α : Type}

theorem place_of_lt {id : Nat} (h : id < n.own.length) : n.place id = n.own[id] := by
  simp [place, h]

theorem place_of_le {id : Nat} (h : n.own.length ≤ id) : n.place id = n.total := by
  simp [place, h]

theorem place_lt_iff {id : Nat} : n.place id < n.total ↔ id < n.own.length := by
  by_cases h : id < n.own.length
  · simp [h, place_of_lt h, n.lt_total _ (List.getElem_mem h)]
  · simp [h, place_of_le (not_lt.1 h)]

theorem place_inj {id id' : Nat} (h : id < n.own.length) (heq : n.place id = n.place id') :
    id = id' := by
  have h' : id' < n.own.length := place_lt_iff.1 (heq ▸ place_lt_iff.2 h)
  rw [place_of_lt h, place_of_lt h'] at heq
  exact (n.nodup.getElem_inj_iff).1 heq

/-- `some` are those of `all` that have the run's own numbers. -/
structure Picks (n : Numbering) (all some : List α) : Prop where
  length_all : all.length = n.total
  getElem? : ∀ id, some[id]? = all[n.place id]?

namespace Picks
variable {all some : List α} (h : n.Picks all some)
include h

theorem length_some : some.length = n.own.length := by
  apply le_antisymm
  · by_contra hlt
    have hget := h.getElem? n.own.length
    rw [place_of_le le_rfl, ← h.length_all, List.getElem?_length] at hget
    exact hlt (List.getElem?_eq_none_iff.1 hget)
  · by_contra hlt
    have hget := h.getElem? some.length
    rw [List.getElem?_length, eq_comm, List.getElem?_eq_none_iff, h.length_all] at hget
    exact absurd (place_lt_iff.2 (not_le.1 hlt)) (not_lt.2 hget)

theorem map {β : Type} (f : α → β) : n.Picks (all.map f) (some.map f) := by
  refine ⟨by rw [List.length_map, h.length_all], fun id => ?_⟩
  rw [List.getElem?_map, List.getElem?_map, h.getElem? id]

theorem withOwn (a : α) : n.withOwn.Picks (all ++ [a]) (some ++ [a]) := by
  refine ⟨by simp [Numbering.withOwn, h.length_all], fun id => ?_⟩
  rcases lt_trichotomy id n.own.length with hlt | heq | hgt
  · have hplace : n.withOwn.place id = n.place id := by
      simp [place, Numbering.withOwn, List.getElem?_append_left hlt, hlt]
    rw [hplace, List.getElem?_append_left (h.length_some ▸ hlt), h.getElem?,
      List.getElem?_append_left (h.length_all ▸ place_lt_iff.2 hlt)]
  · have hplace : n.withOwn.place id = n.total := by simp [place, Numbering.withOwn, heq]
    rw [hplace, heq, ← h.length_some, ← h.length_all, List.getElem?_concat_length,
      List.getElem?_concat_length]
  · have hplace : n.withOwn.place id = n.total + 1 :=
      place_of_le (by simpa [Numbering.withOwn] using hgt)
    rw [hplace, List.getElem?_eq_none (by simpa [h.length_some] using hgt),
      List.getElem?_eq_none (by simp [h.length_all])]

theorem withAdded (a : α) : n.withAdded.Picks (all ++ [a]) some := by
  refine ⟨by simp [Numbering.withAdded, h.length_all], fun id => ?_⟩
  by_cases hid : id < n.own.length
  · have hplace : n.withAdded.place id = n.place id := by simp [place, Numbering.withAdded, hid]
    rw [hplace, List.getElem?_append_left (h.length_all ▸ place_lt_iff.2 hid), h.getElem?]
  · have hplace : n.withAdded.place id = n.total + 1 := place_of_le (not_lt.1 hid)
    rw [hplace, List.getElem?_eq_none (by simpa [h.length_some] using hid),
      List.getElem?_eq_none (by simp [h.length_all])]

theorem set_own (id : Nat) (a : α) : n.Picks (all.set (n.place id) a) (some.set id a) := by
  refine ⟨by rw [List.length_set, h.length_all], fun id' => ?_⟩
  by_cases hid : id < n.own.length
  · have hiff : n.place id = n.place id' ↔ id = id' := ⟨place_inj hid, congrArg _⟩
    simp only [List.getElem?_set, hiff, h.length_some, h.length_all, place_lt_iff, h.getElem?]
  · rw [List.set_eq_of_length_le (h.length_some ▸ not_lt.1 hid),
      List.set_eq_of_length_le (h.length_all ▸ not_lt.1 (mt place_lt_iff.1 hid)), h.getElem?]

theorem set_added {id : Nat} (hid : id ∉ n.own) (a : α) : n.Picks (all.set id a) some := by
  refine ⟨by rw [List.length_set, h.length_all], fun id' => ?_⟩
  rw [h.getElem?, List.getElem?_set]
  split
  · next heq =>
    have hout : ¬ id' < n.own.length := fun hlt =>
      hid (heq ▸ place_of_lt hlt ▸ List.getElem_mem hlt)
    have hlen : all.length ≤ n.place id' := h.length_all ▸ not_lt.1 (mt place_lt_iff.1 hout)
    rw [heq, if_neg (not_lt.2 hlen), List.getElem?_eq_none hlen]
  · rfl

end Picks

end Numbering

namespace Lifecycle

/-- The second state is the first one with more stops: everything else is the same but for the phase
and the record of the drain, and no probe is told "ready" in either. -/
structure Beside (n : Numbering) (s t : Lifecycle) : Prop where
  policy : ∃ c phase, s.policy = .drain c ∧ t.policy = .drain { c with phase } ∧
    c.phase.IsStopped ∧ phase.IsStopped
  monitors : t.monitors = s.monitors
  now : t.now = s.now
  manual : t.manual = s.manual
  stops : n.Picks t.stops s.stops

variable {n : Numbering} {s t : Lifecycle} {c : Coordinator}

theorem Beside.observe (h : Beside n s t) (c : Coordinator) (phase : Phase) :
    t.observe { c with phase } = s.observe c := by
  simp only [Lifecycle.observe, reading, monitor, Coordinator.lbActive, h.monitors, h.now, h.manual]

theorem isStopped_phaseAfter {p : Phase} (h : p.IsStopped) (expired succeeded : List Stop) :
    (phaseAfter p expired succeeded).IsStopped := by
  unfold phaseAfter
  split
  · decide
  · split
    · decide
    · exact h

theorem isStopped_getD_phase? {p : Phase} (h : p.IsStopped) (after : Stop) :
    (after.phase?.getD p).IsStopped := by
  cases after with
  | waiting => exact h
  | ended instant outcome => exact outcome.isStopped_phase

theorem Beside.settle (h : Beside n s t) : Beside n s.settle t.settle := by
  obtain ⟨c, phase, hs, ht, hstopped, hstopped'⟩ := h.policy
  have hseen := h.observe c phase
  simp only [Lifecycle.settle, hs, ht, hseen]
  refine ⟨⟨_, _, rfl, rfl, isStopped_phaseAfter hstopped _ _, isStopped_phaseAfter hstopped' _ _⟩,
    h.monitors, h.now, h.manual, ?_⟩
  rw [h.now]
  exact h.stops.map _

theorem Beside.start (h : Beside n s t) (monitor : Nat) :
    Beside n (s.start monitor) (t.start monitor) := by
  obtain ⟨c, phase, hs, ht, hstopped, hstopped'⟩ := h.policy
  simp only [Lifecycle.start, hs, ht, Coordinator.start, if_neg hstopped.1, if_neg hstopped'.1]
  exact ⟨⟨_, _, rfl, rfl, hstopped, hstopped'⟩, h.monitors, h.now, h.manual, h.stops⟩

theorem Beside.probe (h : Beside n s t) (origin : Origin) :
    Beside n (s.probe origin) (t.probe origin) := by
  obtain ⟨c, phase, hs, ht, hstopped, hstopped'⟩ := h.policy
  have hread : t.reading c.clock = s.reading c.clock := by
    simp only [reading, h.now, h.manual]
  -- both answer "unavailable", and what is noted does not depend on the phase
  have hnote : ({ c with phase } : Coordinator).note (s.reading c.clock) .unavailable origin =
      { c.note (s.reading c.clock) .unavailable origin with phase } := by
    unfold Coordinator.note
    split <;> rfl
  simp only [Lifecycle.probe, hs, ht, Coordinator.handle, Coordinator.verdict_of_ne hstopped.2,
    Coordinator.verdict_of_ne (c := { c with phase }) hstopped'.2, hread, hnote]
  refine ⟨⟨_, _, rfl, rfl, ?_, hstopped'⟩, h.monitors, h.now, h.manual, h.stops⟩
  rwa [Coordinator.phase_note]

theorem Beside.onMonitor (h : Beside n s t) (i : Nat) (f : Monitor → Monitor) :
    Beside n (s.onMonitor i f) (t.onMonitor i f) :=
  ⟨h.policy, congrArg (·.modify i f) h.monitors, h.now, h.manual, h.stops⟩

theorem Beside.addMonitor (h : Beside n s t) (m : Monitor) :
    Beside n (s.addMonitor m) (t.addMonitor m) :=
  ⟨h.policy, congrArg (· ++ [m]) h.monitors, h.now, h.manual, h.stops⟩

theorem Beside.onClock (h : Beside n s t) (f : ManualClock → Option ManualClock) :
    Beside n ((s.onClock f).getD s) ((t.onClock f).getD t) := by
  rw [onClock_getD, onClock_getD]
  exact ⟨h.policy, h.monitors, h.now, by rw [h.manual], h.stops⟩

theorem Beside.beginStop (h : Beside n s t) : Beside n.withOwn s.beginStop t.beginStop := by
  obtain ⟨c, phase, hs, ht, -, -⟩ := h.policy
  have hread : t.reading c.clock = s.reading c.clock := by
    simp only [reading, h.now, h.manual]
  simp only [Lifecycle.beginStop, hs, ht, hread, h.now]
  exact ⟨⟨c.beginStop, .draining, rfl, rfl, Phase.isStopped_draining, Phase.isStopped_draining⟩,
    h.monitors, rfl, h.manual, h.stops.withOwn _⟩

theorem Beside.atInstant (h : Beside n s t) (w : Nat) :
    Beside n { s with now := w } { t with now := w } :=
  ⟨h.policy, h.monitors, rfl, h.manual, h.stops⟩

theorem Beside.beginStop_added (h : Beside n s t) : Beside n.withAdded s t.beginStop := by
  obtain ⟨c, phase, hs, ht, hstopped, -⟩ := h.policy
  simp only [Lifecycle.beginStop, ht]
  exact ⟨⟨c, .draining, hs, rfl, hstopped, Phase.isStopped_draining⟩, h.monitors, h.now, h.manual,
    h.stops.withAdded _⟩

/-- What is due for one stop of the run happens in both. -/
theorem Beside.wake (h : Beside n s t) (id : Nat) : Beside n (s.wake id) (t.wake (n.place id)) := by
  obtain ⟨c, phase, hs, ht, hstopped, hstopped'⟩ := h.policy
  have hget := h.stops.getElem? id
  cases hstop : s.stops[id]? with
  | none =>
    have hsame : s.wake id = s := by simp [Lifecycle.wake, hs, hstop]
    have hsame' : t.wake (n.place id) = t := by simp [Lifecycle.wake, ht, ← hget, hstop]
    rwa [hsame, hsame']
  | some stop =>
    rw [hstop] at hget
    cases stop with
    | ended =>
      rw [wake_ended hstop, wake_ended hget.symm]
      exact h
    | waiting begun reading looks =>
      rw [wake_waiting hs hstop _ rfl, wake_waiting ht hget.symm _ rfl, h.observe, h.now]
      exact ⟨⟨_, _, rfl, rfl, isStopped_getD_phase? hstopped _, isStopped_getD_phase? hstopped' _⟩,
        h.monitors, rfl, h.manual, h.stops.set_own id _⟩

theorem Beside.wake_added (h : Beside n s t) {id : Nat} (hid : id ∉ n.own) :
    Beside n s (t.wake id) := by
  obtain ⟨c, phase, hs, ht, hstopped, hstopped'⟩ := h.policy
  rcases wake_cases ht id with hsame | ⟨begun, reading, looks, after, -, -, hwake⟩
  · rwa [hsame]
  · rw [hwake]
    exact ⟨⟨c, _, hs, rfl, hstopped, isStopped_getD_phase? hstopped' _⟩, h.monitors, h.now,
      h.manual, h.stops.set_added hid _⟩

/-- The added stops only make more instants due. -/
theorem Beside.exists_nextWake? (h : Beside n s t) {w : Nat} (hw : w ∈ s.nextWake?) :
    ∃ first ∈ t.nextWake?, first ≤ w := by
  obtain ⟨c, phase, hs, ht, -, -⟩ := h.policy
  obtain ⟨⟨stop, hstop, hwake⟩, -⟩ := (mem_nextWake?_iff hs).1 hw
  obtain ⟨id, hid⟩ := List.mem_iff_getElem?.1 hstop
  rw [h.stops.getElem? id] at hid
  exact exists_nextWake?_le ht hid hwake

/-- Time moves on in both as far as it does with the added stops. -/
theorem Beside.pass (h : Beside n s t) (instant : Nat) :
    Beside n (s.pass (t.pass instant).now) (t.pass instant) := by
  refine ⟨h.policy, h.monitors, ?_, h.manual, h.stops⟩
  have hnow := h.now
  simp only [Lifecycle.pass]
  cases hw : s.nextWake? with
  | none =>
    simp only [Option.map_none, Option.getD_none]
    omega
  | some w =>
    obtain ⟨first, hfirst, hle⟩ := h.exists_nextWake? hw
    rw [Option.mem_def.1 hfirst]
    simp only [Option.map_some, Option.getD_some]
    omega

/-- How the stops are numbered after an entry. -/
def renumber (n : Numbering) : Entry Event → Numbering
  | .added => n.withAdded
  | .own .stop => n.withOwn
  | .own _ => n

/-- What an entry is in the run with the added stops. -/
def crowd (n : Numbering) : Entry Event → Event
  | .added => .stop
  | .own (.join id) => .join (n.place id)
  | .own e => e

/-- The run with the added stops. -/
def crowded (n : Numbering) : List (Entry Event) → List Event
  | [] => []
  | e :: rest => crowd n e :: crowded (renumber n e) rest

/-- While time passes, the first state may stay at an instant at which nothing is due for it. -/
structure Lags (n : Numbering) (target : Nat) (enough : Lifecycle → Bool) (s t : Lifecycle) :
    Prop where
  beside : Beside n { s with now := t.now } t
  settled : t.Settled
  now : s.now = t.now ∨ s.now < t.now ∧ t.now ≤ target ∧ enough s = false

theorem Beside.settled (h : Beside n s t) (ht : t.Settled) : s.Settled := by
  intro w hw
  obtain ⟨first, hfirst, hle⟩ := h.exists_nextWake? hw
  exact h.now ▸ (ht first hfirst).trans_le hle

/-- Time passes in both until they have enough, through more instants in the second state. -/
theorem Lags.runUntil {target : Nat} {enough : Lifecycle → Bool} (enough' : Lifecycle → Bool)
    (henough : ∀ s t, Beside n { s with now := t.now } t → enough' t = enough s)
    (h : Lags n target enough s t) :
    Lags n target enough (s.runUntil target enough) (t.runUntil target enough') := by
  fun_induction Lifecycle.runUntil target enough' t generalizing s with
  | case1 t hdone =>
    rw [runUntil_of_enough (henough s t h.beside ▸ hdone)]
    exact h
  | case2 t _ hnone =>
    rw [runUntil_of_lt]
    · exact h
    · intro w hw
      obtain ⟨first, hfirst, -⟩ := h.beside.exists_nextWake? hw
      simp [hnone] at hfirst
  | case4 t _ w hdue hlate =>
    rw [runUntil_of_lt]
    · exact h
    · intro w' hw'
      obtain ⟨first, hfirst, hle⟩ := h.beside.exists_nextWake? hw'
      obtain rfl : w = first := Option.some.inj (hdue.symm.trans hfirst)
      exact (not_le.1 hlate).trans_le hle
  | case3 t hopen w hdue hle ih =>
    have hlt : t.now < w := h.settled w hdue
    have hopen' : enough s = false := by
      rw [← henough s t h.beside]
      simpa using hopen
    have hsettled : (t.arrive w).Settled := h.settled.arrive hdue
    have hnow : s.now ≤ t.now := h.now.elim le_of_eq fun hlag => hlag.1.le
    have hbeside := h.beside.atInstant w
    have harrive : t.arrive w = { t with now := w }.settle := by
      rw [Lifecycle.arrive, max_eq_right hlt.le]
    have hnow' : (t.arrive w).now = w := by rw [harrive, now_settle]
    by_cases hboth : s.nextWake? = some w
    · have harrive' : s.arrive w = { s with now := w }.settle := by
        rw [Lifecycle.arrive, max_eq_right (hnow.trans hlt.le)]
      have hafter : Beside n (s.arrive w) (t.arrive w) := by
        rw [harrive, harrive']
        exact hbeside.settle
      rw [runUntil_of_le hopen' hboth hle]
      exact ih ⟨by rw [hafter.now]; exact hafter, hsettled, .inl hafter.now.symm⟩
    · -- nothing is due here for the first state, which does not move
      have hidle : { s with now := w }.Settled := by
        intro w' hw'
        obtain ⟨first, hfirst, hfirst'⟩ := h.beside.exists_nextWake? hw'
        obtain rfl : w = first := Option.some.inj (hdue.symm.trans hfirst)
        refine lt_of_le_of_ne hfirst' ?_
        rintro rfl
        exact hboth hw'
      have hafter : Beside n { s with now := w } (t.arrive w) := by
        rw [harrive, ← hidle.settle_eq]
        exact hbeside.settle
      exact ih ⟨by rw [hnow']; exact hafter, hsettled,
        .inr ⟨hnow'.symm ▸ hnow.trans_lt hlt, hnow'.symm ▸ hle, hopen'⟩⟩

theorem Beside.lags (h : Beside n s t) (ht : t.Settled) (target : Nat)
    (enough : Lifecycle → Bool) : Lags n target enough s t :=
  ⟨by rw [h.now]; exact h, ht, .inl h.now.symm⟩

theorem Beside.elapseTo (h : Beside n s t) (ht : t.Settled) (instant : Nat) :
    Beside n (s.elapseTo instant) (t.elapseTo instant) := by
  obtain ⟨hbeside, -, hnow⟩ :=
    (h.lags ht instant fun _ => false).runUntil (fun _ => false) fun _ _ _ => rfl
  have hmax : max (s.runUntil instant fun _ => false).now instant =
      max (t.runUntil instant fun _ => false).now instant := by
    omega
  have hafter := hbeside.atInstant (max (t.runUntil instant fun _ => false).now instant)
  rw [← hmax] at hafter
  simpa only [Lifecycle.elapseTo, ← hmax] using hafter

theorem Beside.lastInstant (h : Beside n s t) (id : Nat) :
    t.lastInstant (n.place id) = s.lastInstant id := by
  obtain ⟨c, phase, hs, ht, -, -⟩ := h.policy
  simp only [Lifecycle.lastInstant, hs, ht, ← h.stops.getElem? id, h.now]
  cases s.stops[id]? with
  | none => rfl
  | some stop => cases stop <;> rfl

theorem Beside.join (h : Beside n s t) (ht : t.Settled) (id : Nat) :
    Beside n (s.join id) (t.join (n.place id)) := by
  obtain ⟨hbeside, -, hnow⟩ :=
    (h.lags ht (s.lastInstant id) fun s => (s.stops[id]?).all Stop.isEnded).runUntil
      (fun t => (t.stops[n.place id]?).all Stop.isEnded)
      fun s t hst => by rw [← hst.stops.getElem? id]
  obtain ⟨c, -, hs, -⟩ := h.policy
  have hdone := (h.settled ht).all_isEnded_join hs id
  have hsame := hnow.resolve_right fun hlag => by
    rw [Lifecycle.join, hlag.2.2] at hdone
    cases hdone
  rw [← hsame] at hbeside
  rwa [Lifecycle.join, Lifecycle.join, h.lastInstant]

/-- Every entry keeps the two runs beside each other. -/
theorem Beside.entry (h : Beside n s t) (ht : t.Settled) (e : Entry Event) :
    Beside (renumber n e) (s.run e.own?.toList) (t.step (crowd n e)) := by
  cases e with
  | added =>
    have hbegun : Beside n.withAdded s t.beginStop := h.beginStop_added
    have hafter := hbegun.settle
    rw [(h.settled ht).settle_eq, ← stop_eq] at hafter
    exact hafter
  | own e =>
    cases e with
    | start monitor => exact h.start monitor
    | stop =>
      have hafter := h.beginStop.settle
      rw [← stop_eq, ← stop_eq] at hafter
      exact hafter
    | probe origin => exact h.probe origin
    | enter monitor times | leave monitor times => exact h.onMonitor monitor _
    | addMonitor m => exact h.addMonitor m
    | advanceClock | setClock => exact h.onClock _
    | elapseTo instant => exact h.elapseTo ht instant
    | join id => exact h.join ht id

theorem Beside.run (h : Beside n s t) (ht : t.Settled) (entries : List (Entry Event)) :
    Beside (entries.foldl renumber n) (s.run (entries.filterMap Entry.own?))
      (t.run (crowded n entries)) := by
  induction entries generalizing n s t with
  | nil => exact h
  | cons e rest ih =>
    have hrest := ih (h.entry ht e) (ht.step (crowd n e))
    cases e <;> exact hrest

/-- Time may be cut anywhere, so that stops can be added in between. -/
theorem elapseTo_elapseTo (s : Lifecycle) {instant later : Nat} (h : instant ≤ later) :
    (s.elapseTo instant).elapseTo later = s.elapseTo later := by
  have hcut : (s.runUntil instant fun _ => false).runUntil later (fun _ => false) =
      s.runUntil later fun _ => false := by
    fun_induction Lifecycle.runUntil instant (fun _ => false) s with
    | case1 | case2 | case4 => rfl
    | case3 s _ w hw hle ih => rw [ih, runUntil_of_le rfl hw (hle.trans h)]
  have hlate := (enough_runUntil_or_lt s instant fun _ => false).resolve_left (by simp)
  simp only [Lifecycle.elapseTo]
  rw [← hcut]
  generalize (s.runUntil instant fun _ => false) = r at hlate
  by_cases hnext : ∀ w ∈ r.nextWake?, later < w
  · rw [runUntil_of_lt hnext, runUntil_of_lt (s := { r with now := max r.now instant }) hnext,
      max_assoc, max_eq_right h]
  · push Not at hnext
    obtain ⟨w, hw, hle⟩ := hnext
    have harrive : { r with now := max r.now instant }.arrive w = r.arrive w := by
      simp only [Lifecycle.arrive, max_assoc, max_eq_right (hlate w hw).le]
    rw [runUntil_of_le rfl hw hle,
      runUntil_of_le (s := { r with now := max r.now instant }) rfl hw hle, harrive]

/-- How the stops are numbered after an entry. -/
def renumberMove (n : Numbering) : Entry Move → Numbering
  | .added => n.withAdded
  | .own .beginStop => n.withOwn
  | .own _ => n

def crowdMove : Entry Move → Move
  | .added => .beginStop
  | .own m => m

/-- What an entry is in the run without the added stops, which neither wake there nor hold up
time. -/
def aloneMove (n : Numbering) (t : Lifecycle) : Entry Move → List Move
  | .added => []
  | .own (.wake id) => if id ∈ n.own then [.wake (n.own.idxOf id)] else []
  | .own (.pass instant) => [.pass (t.pass instant).now]
  | .own m => [m]

/-- The run without the added stops. -/
def alone (n : Numbering) (t : Lifecycle) : List (Entry Move) → List Move
  | [] => []
  | e :: rest => aloneMove n t e ++ alone (renumberMove n e) (t.move (crowdMove e)) rest

theorem Beside.entryMove (h : Beside n s t) (e : Entry Move) :
    Beside (renumberMove n e) (s.follow (aloneMove n t e)) (t.move (crowdMove e)) := by
  cases e with
  | added => exact h.beginStop_added
  | own m =>
    cases m with
    | start monitor => exact h.start monitor
    | beginStop => exact h.beginStop
    | probe origin => exact h.probe origin
    | enter monitor times | leave monitor times => exact h.onMonitor monitor _
    | addMonitor m => exact h.addMonitor m
    | advanceClock | setClock => exact h.onClock _
    | pass instant => exact h.pass instant
    | wake id =>
      by_cases hid : id ∈ n.own
      · have hplace : n.place (n.own.idxOf id) = id := by
          rw [Numbering.place_of_lt (List.idxOf_lt_length_iff.2 hid), List.getElem_idxOf]
        rw [aloneMove, if_pos hid]
        have hwake := h.wake (n.own.idxOf id)
        rwa [hplace] at hwake
      · rw [aloneMove, if_neg hid]
        exact h.wake_added hid

theorem Beside.follow (h : Beside n s t) (entries : List (Entry Move)) :
    Beside (entries.foldl renumberMove n) (s.follow (alone n t entries))
      (t.follow (entries.map crowdMove)) := by
  induction entries generalizing n s t with
  | nil => exact h
  | cons e rest ih =>
    rw [alone, follow_append]
    exact ih (h.entryMove e)

/-- Others do the same without the added stops. -/
theorem filterMap_event?_alone (n : Numbering) (t : Lifecycle) (entries : List (Entry Move)) :
    (alone n t entries).filterMap Move.event? =
      (entries.filterMap Entry.own?).filterMap Move.event? := by
  induction entries generalizing n t with
  | nil => rfl
  | cons e rest ih =>
    rw [alone, List.filterMap_append, ih]
    cases e with
    | added => rfl
    | own m =>
      cases m with
      | wake id =>
        rw [aloneMove]
        split <;> rfl
      | _ => rfl

theorem Beside.verdict_eq (h : Beside n s t) : t.verdict = s.verdict := by
  obtain ⟨c, phase, hs, ht, hstopped, hstopped'⟩ := h.policy
  rw [Lifecycle.verdict, Lifecycle.verdict, hs, ht]
  exact (Coordinator.verdict_of_ne hstopped'.2).trans (Coordinator.verdict_of_ne hstopped.2).symm

theorem beside_identity {past : List Event} (hp : s.policy = .drain c) (h : Recalls s c past)
    (hstop : .stop ∈ past) : Beside (.identity s.stops.length) s s := by
  have hstopped : c.phase.IsStopped := h.stopped hstop
  refine ⟨⟨c, c.phase, hp, hp, hstopped, hstopped⟩, rfl, rfl, rfl, rfl, fun id => ?_⟩
  by_cases hid : id < s.stops.length
  · rw [Numbering.place_of_lt (by simpa [Numbering.identity] using hid)]
    simp [Numbering.identity]
  · rw [Numbering.place_of_le (by simpa [Numbering.identity] using hid)]
    simpa [Numbering.identity] using hid

theorem settled_run (policy : Policy) (manual : Option ManualClock) (events : List Event) :
    ((initial policy manual).run events).Settled := by
  refine List.foldlRecOn events step (settled_initial policy manual) ?_
  intro s hs e _
  exact hs.step e

/-- Stops that are added to a run after its first stop has begun, at any points, change nothing but
the phase and the record of the drain: neither when and how its own stops end, nor what probes are
told, nor what is remembered of them. The same holds however the looks of the stops interleave with
the rest: without the added stops others do the same, and time brings the same but for their
looks. -/
theorem added_stops_unnoticed {settings : DrainSettings} {clock : ClockSource}
    (hc : Coordinator.create settings clock = .ok c) (manual : Option ManualClock) :
    (∀ before, .stop ∈ before → ∀ entries : List (Entry Event),
      let s := (initial (.drain c) manual).run before
      let n := Numbering.identity s.stops.length
      let without := s.run (entries.filterMap Entry.own?)
      let crowd := s.run (crowded n entries)
      Beside (entries.foldl renumber n) without crowd ∧ crowd.verdict = without.verdict) ∧
    (∀ s : Lifecycle, ∀ instant later, instant ≤ later →
      (s.elapseTo instant).elapseTo later = s.elapseTo later) ∧
    ∀ before, .beginStop ∈ before → ∀ entries : List (Entry Move),
      let s := (initial (.drain c) manual).follow before
      let n := Numbering.identity s.stops.length
      let without := s.follow (alone n s entries)
      let crowd := s.follow (entries.map crowdMove)
      (alone n s entries).filterMap Move.event? =
        (entries.filterMap Entry.own?).filterMap Move.event? ∧
      Beside (entries.foldl renumberMove n) without crowd ∧ crowd.verdict = without.verdict := by
  refine ⟨fun before hstop entries => ?_, fun s _ _ => s.elapseTo_elapseTo,
    fun before hstop entries => ?_⟩
  · intro s n without crowd
    obtain ⟨c', hp, h⟩ := exists_recalls_run hc manual before
    have hbeside : Beside _ without crowd :=
      (beside_identity hp h hstop).run (settled_run _ manual before) entries
    exact ⟨hbeside, hbeside.verdict_eq⟩
  · intro s n without crowd
    obtain ⟨c', hp, h⟩ := exists_recalls_follow hc manual before
    have hstop' : .stop ∈ before.filterMap Move.event? :=
      List.mem_filterMap.2 ⟨.beginStop, hstop, rfl⟩
    have hbeside : Beside _ without crowd := (beside_identity hp h hstop').follow entries
    exact ⟨filterMap_event?_alone n s entries, hbeside, hbeside.verdict_eq⟩

/-- Two stops overlap, and two more are added while they wait for a request. Without the added ones
and with them they end 4 and 5 nanoseconds after the start. -/
theorem added_stops_unnoticed_overlap :
    ∃ c, Coordinator.create ⟨"/", 10, 2, 3⟩ .steady = .ok c ∧
      let before : List Event := [.start 0, .enter 0 1, .stop]
      let entries : List (Entry Event) := [.own (.elapseTo 1), .added, .own .stop,
        .own (.probe ⟨some "lb", false⟩), .added, .own (.leave 0 1), .own (.join 0), .own (.join 1)]
      let s := (initial (.drain c) none).run before
      let without := s.run (entries.filterMap Entry.own?)
      let crowd := s.run (crowded (.identity s.stops.length) entries)
      .stop ∈ before ∧
        (entries.foldl renumber (.identity s.stops.length)).own = [0, 2] ∧
        Beside (entries.foldl renumber (.identity s.stops.length)) without crowd ∧
        without.stops = [.ended 4 .quiet, .ended 5 .quiet] ∧
        crowd.stops = [.ended 4 .quiet, .ended 5 .quiet, .ended 5 .quiet, .ended 5 .quiet] := by
  have hc : Coordinator.create ⟨"/", 10, 2, 3⟩ .steady =
      .ok ⟨⟨"/", 10, 2, 3⟩, by decide, .steady, .init, none, .empty⟩ := by decide
  refine ⟨_, hc, ?_⟩
  intro before entries s without crowd
  have hstop : .stop ∈ before := by decide
  exact ⟨hstop, by decide +kernel, ((added_stops_unnoticed hc none).1 before hstop entries).1,
    by decide +kernel, by decide +kernel⟩

end Lifecycle

end GracefulDrain
