import GracefulDrain.Proofs.Threads

/-! A probe that has not yet given an answer is in flight. When the watcher counts zero, each probe
that ever is answered "ready" has left, and what it noted is seen when the entries are read after
the count. -/
namespace GracefulDrain.Threads
open Told

variable {w : Threads} {i : Nat}

/-- All that a move can do to the probes. -/
theorem probes_move (w : Threads) (m : Move) :
    (w.move m).probes = w.probes ∨
    (∃ origin, m = .enter origin ∧ (w.move m).probes = w.probes ++ [⟨origin, .entered⟩]) ∨
    ∃ i p stage, w.probes[i]? = some p ∧ p.stage.Next w.coordinator.verdict stage ∧
      (m = .probe i ∨ stage = .left p.stage.answer?) ∧
      (w.move m).probes = w.probes.set i { p with stage } := by
  cases m with
  | enter origin => exact .inr (.inl ⟨origin, rfl, rfl⟩)
  | probe i =>
    cases h : w.probes[i]? with
    | none => exact .inl (by simp [move, h])
    | some p =>
      obtain ⟨origin, stage⟩ := p
      cases stage with
      | entered =>
        exact .inr (.inr ⟨i, _, _, h, .sample, .inl rfl, by simp [move, h, stepProbe, setStage]⟩)
      | sampled v =>
        exact .inr (.inr ⟨i, _, _, h, .note v, .inl rfl, by simp [move, h, stepProbe, setStage]⟩)
      | noted v =>
        exact .inr (.inr ⟨i, _, _, h, .answer v, .inl rfl, by simp [move, h, stepProbe, setStage]⟩)
      | answered v =>
        exact .inr (.inr ⟨i, _, _, h, .leave rfl, .inl rfl,
          by simp [move, h, stepProbe, setStage, leave, Stage.answer?]⟩)
      | left answer => exact .inl (by simp [move, h, stepProbe])
  | drop i =>
    cases h : w.probes[i]? with
    | none => exact .inl (by simp [move, h])
    | some p =>
      by_cases hopen : p.stage.isOpen = true
      · exact .inr (.inr ⟨i, p, _, h, .leave hopen, .inr rfl,
          by simp [move, h, hopen, setStage, leave]⟩)
      · exact .inl (by simp [move, h, hopen])
  | stop | watch | elapse => exact .inl rfl
  | finish i | giveUp i =>
    refine .inl ?_
    simp only [move]
    split <;> rfl

/-- Where a probe in the state after a move comes from. -/
theorem exists_of_getElem?_probes_move {m : Move} {p : Probe}
    (h : (w.move m).probes[i]? = some p) :
    w.probes[i]? = some p ∨ (i = w.probes.length ∧ p.stage = .entered) ∨
    ∃ old, w.probes[i]? = some old ∧ old.origin = p.origin ∧
      old.stage.Next w.coordinator.verdict p.stage ∧
      (m = .probe i ∨ p.stage = .left old.stage.answer?) := by
  rcases probes_move w m with hs | ⟨origin, -, hs⟩ | ⟨j, old, stage, hget, hnext, hm, hs⟩
  · exact .inl (hs ▸ h)
  · rw [hs, List.getElem?_append] at h
    split at h
    · exact .inl h
    · rw [List.getElem?_singleton] at h
      split at h
      · cases h
        exact .inr (.inl ⟨by omega, rfl⟩)
      · cases h
  · by_cases hij : j = i
    · subst hij
      rw [hs, List.getElem?_set_self (List.getElem?_eq_some_iff.1 hget).1] at h
      cases h
      exact .inr (.inr ⟨old, hget, rfl, hnext, hm⟩)
    · rw [hs, List.getElem?_set_ne hij] at h
      exact .inl h

theorem length_probes_move (w : Threads) (m : Move) :
    w.probes.length ≤ (w.move m).probes.length := by
  rcases probes_move w m with hs | ⟨_, _, hs⟩ | ⟨_, _, _, _, _, _, hs⟩ <;> simp [hs]

theorem getElem?_probes_move {p : Probe} (h : w.probes[i]? = some p) (hleft : p.stage.isOpen = false)
    (m : Move) : (w.move m).probes[i]? = some p := by
  rcases probes_move w m with hs | ⟨_, _, hs⟩ | ⟨j, old, _, hget, hnext, _, hs⟩
  · rw [hs, h]
  · rw [hs, List.getElem?_append_left (List.getElem?_eq_some_iff.1 h).1, h]
  · have hij : j ≠ i := by
      rintro rfl
      have hopen := hnext.isOpen
      rw [h] at hget
      cases hget
      rw [hleft] at hopen
      contradiction
    rw [hs, List.getElem?_set_ne hij, h]

theorem getElem?_probes_follow {p : Probe} (h : w.probes[i]? = some p)
    (hleft : p.stage.isOpen = false) (moves : List Move) :
    (w.follow moves).probes[i]? = some p := by
  induction moves generalizing w with
  | nil => exact h
  | cons m rest ih => exact ih (getElem?_probes_move h hleft m)

/-- All that a move can do to the coordinator: it notes an answer, which is written down, or enters
another phase than the ready one. -/
theorem coordinator_move (w : Threads) (m : Move) :
    ((w.move m).coordinator = w.coordinator ∧ (w.move m).writes = w.writes) ∨
    (∃ i origin v, w.probes[i]? = some ⟨origin, .sampled v⟩ ∧ m = .probe i ∧
      (w.move m).coordinator = w.coordinator.note w.clock v origin ∧
      (w.move m).writes = w.writes ++ writesOf i origin v w.clock) ∨
    ∃ phase ≠ Phase.ready, (w.move m).coordinator = { w.coordinator with phase } ∧
      (w.move m).writes = w.writes := by
  cases m with
  | enter | watch | elapse => exact .inl ⟨rfl, rfl⟩
  | probe i =>
    cases h : w.probes[i]? with
    | none => exact .inl (by simp [move, h])
    | some p =>
      obtain ⟨origin, stage⟩ := p
      cases stage with
      | sampled v =>
        exact .inr (.inl ⟨i, origin, v, h, rfl, by simp [move, h, stepProbe],
          by simp [move, h, stepProbe]⟩)
      | entered | noted | answered | left =>
        exact .inl (by simp [move, h, stepProbe, setStage, leave])
  | drop i =>
    refine .inl ?_
    simp only [move]
    split
    · split <;> exact ⟨rfl, rfl⟩
    · exact ⟨rfl, rfl⟩
  | stop => exact .inr (.inr ⟨.draining, by decide, rfl, rfl⟩)
  | finish i =>
    simp only [move]
    split
    · exact .inr (.inr ⟨.done, by decide, rfl, rfl⟩)
    · exact .inl ⟨rfl, rfl⟩
  | giveUp i =>
    simp only [move]
    split
    · exact .inl ⟨rfl, rfl⟩
    · exact .inl ⟨rfl, rfl⟩
    · exact .inr (.inr ⟨.timedOut, by decide, rfl, rfl⟩)

theorem verdict_note (c : Coordinator) (reading : Nat) (v : Verdict) (origin : Origin) :
    (c.note reading v origin).verdict = c.verdict := by
  simp [Coordinator.verdict, Coordinator.isReady]

/-- Once no probe is told "ready" any more, none ever is. -/
theorem verdict_move (h : w.coordinator.verdict = .unavailable) (m : Move) :
    (w.move m).coordinator.verdict = .unavailable := by
  rcases coordinator_move w m with ⟨hc, -⟩ | ⟨_, _, _, _, _, hc, -⟩ | ⟨phase, hne, hc, -⟩
  · rw [hc, h]
  · rw [hc, verdict_note, h]
  · rw [hc]
    simp [Coordinator.verdict, Coordinator.isReady, Verdict.ofBool, hne]

/-- Where the state of a watcher after a move comes from. -/
theorem exists_of_getElem?_watchers_move {m : Move} {x : Watcher}
    (h : (w.move m).watchers[i]? = some x) :
    (m = .stop ∧ x = .looking) ∨ ∃ old, w.watchers[i]? = some old ∧
      (x = old ∨ x = .ended ∨ m = .watch i ∧ x = w.nextWatcher old) := by
  have hsame (hs : w.watchers[i]? = some x) : ∃ old, w.watchers[i]? = some old ∧
      (x = old ∨ x = .ended ∨ m = .watch i ∧ x = w.nextWatcher old) := ⟨x, hs, .inl rfl⟩
  have hset {j : Nat} (hs : (w.watchers.set j .ended)[i]? = some x) :
      ∃ old, w.watchers[i]? = some old ∧
        (x = old ∨ x = .ended ∨ m = .watch i ∧ x = w.nextWatcher old) := by
    rw [List.getElem?_set] at hs
    split at hs
    · next hij =>
      subst hij
      split at hs
      · next hlt =>
        exact ⟨_, List.getElem?_eq_getElem hlt, .inr (.inl (Option.some.inj hs).symm)⟩
      · cases hs
    · exact hsame hs
  cases m with
  | enter | elapse => exact .inr (hsame h)
  | probe j =>
    refine .inr (hsame ?_)
    simp only [move] at h
    split at h
    · unfold stepProbe at h
      split at h <;> exact h
    · exact h
  | drop j =>
    refine .inr (hsame ?_)
    simp only [move] at h
    split at h
    · split at h <;> exact h
    · exact h
  | stop =>
    simp only [move] at h
    rw [List.getElem?_append] at h
    split at h
    · exact .inr (hsame h)
    · rw [List.getElem?_singleton] at h
      split at h
      · exact .inl ⟨rfl, (Option.some.inj h).symm⟩
      · cases h
  | watch j =>
    by_cases hij : j = i
    · subst hij
      simp only [move, List.getElem?_modify_eq, Option.map_eq_map, Option.map_eq_some_iff] at h
      obtain ⟨old, hold, rfl⟩ := h
      exact .inr ⟨old, hold, .inr (.inr ⟨rfl, rfl⟩)⟩
    · rw [move, List.getElem?_modify_ne _ _ hij] at h
      exact .inr (hsame h)
  | finish j =>
    simp only [move] at h
    split at h
    · exact .inr (hset h)
    · exact .inr (hsame h)
  | giveUp j =>
    simp only [move] at h
    split at h
    · exact .inr (hsame h)
    · exact .inr (hsame h)
    · exact .inr (hset h)

theorem clock_le_move (w : Threads) (m : Move) : w.clock ≤ (w.move m).clock := by
  cases m with
  | elapse d => exact Nat.le_add_right _ _
  | enter | stop | watch => exact le_rfl
  | probe j =>
    simp only [move]
    split
    · unfold stepProbe
      split <;> exact le_rfl
    · exact le_rfl
  | drop j =>
    simp only [move]
    split
    · split <;> exact le_rfl
    · exact le_rfl
  | finish j | giveUp j =>
    simp only [move]
    split <;> exact le_rfl

theorem openCount_set {p : Probe} (h : w.probes[i]? = some p) (stage : Stage) :
    (w.probes.set i { p with stage }).countP (·.stage.isOpen) =
      w.openCount - (if p.stage.isOpen then 1 else 0) + if stage.isOpen then 1 else 0 := by
  obtain ⟨hlt, hget⟩ := List.getElem?_eq_some_iff.1 h
  rw [List.countP_set hlt, hget, openCount]

theorem openCount_pos {p : Probe} (h : w.probes[i]? = some p) (hopen : p.stage.isOpen = true) :
    0 < w.openCount :=
  List.countP_pos_iff.2 ⟨p, List.mem_of_getElem? h, hopen⟩

theorem count_leave {p : Probe} (hcount : w.monitor.count.toNat = w.openCount)
    (h : w.probes[i]? = some p) (hopen : p.stage.isOpen = true) :
    (w.leave i p).monitor.count.toNat = (w.leave i p).openCount := by
  have hset := openCount_set h (.left p.stage.answer?)
  simp only [hopen, Stage.isOpen_left, if_true, Bool.false_eq_true, if_false, Nat.add_zero] at hset
  change w.monitor.leave.count.toNat = (w.probes.set i _).countP _
  rw [Monitor.toNat_leave, hcount, hset]

theorem count_setStage {p : Probe} {stage : Stage} (hcount : w.monitor.count.toNat = w.openCount)
    (h : w.probes[i]? = some p) (hopen : p.stage.isOpen = true) (hstage : stage.isOpen = true) :
    w.monitor.count.toNat = (w.probes.set i { p with stage }).countP (·.stage.isOpen) := by
  have hpos := openCount_pos h hopen
  rw [openCount_set h, hopen, hstage, if_pos rfl, hcount]
  omega

/-- The monitor counts the probes in flight, as long as a word can hold their number. -/
theorem count_move (hcount : w.monitor.count.toNat = w.openCount) {m : Move}
    (hfew : (w.move m).openCount < 2 ^ 32) :
    (w.move m).monitor.count.toNat = (w.move m).openCount := by
  cases m with
  | enter origin =>
    have hopen : (w.move (.enter origin)).openCount = w.openCount + 1 := by
      simp [move, openCount, Stage.isOpen]
    rw [hopen] at hfew ⊢
    change (w.monitor.count + 1).toNat = _
    rw [UInt32.toNat_add, hcount, UInt32.toNat_one]
    omega
  | probe i =>
    cases h : w.probes[i]? with
    | none => simpa [move, h] using hcount
    | some p =>
      obtain ⟨origin, stage⟩ := p
      simp only [move, h]
      cases stage with
      | entered | sampled v | noted v => exact count_setStage hcount h rfl rfl
      | answered v => exact count_leave hcount h rfl
      | left answer => exact hcount
  | drop i =>
    cases h : w.probes[i]? with
    | none => simpa [move, h] using hcount
    | some p =>
      simp only [move, h]
      split
      · next hopen => exact count_leave hcount h hopen
      · exact hcount
  | stop | watch | elapse => exact hcount
  | finish i | giveUp i =>
    simp only [move]
    split <;> exact hcount

/-- At no time are more in flight than a word can count. -/
def Few (w : Threads) (moves : List Move) : Prop :=
  ∀ past, past <+: moves → (w.follow past).openCount < 2 ^ 32

theorem count_follow (hcount : w.monitor.count.toNat = w.openCount) {moves : List Move}
    (hfew : w.Few moves) : (w.follow moves).monitor.count.toNat = (w.follow moves).openCount := by
  induction moves using List.reverseRecOn with
  | nil => exact hcount
  | append_singleton moves m ih =>
    have hbefore := ih fun past h => hfew past (h.trans (List.prefix_append moves [m]))
    have hlast := hfew (moves ++ [m]) List.prefix_rfl
    rw [follow_append] at hlast ⊢
    exact count_move hbefore hlast

theorem mem_writesOf {origin : Origin} {v : Verdict} {reading : Nat} {x : Write} :
    x ∈ writesOf i origin v reading ↔
      ∃ id, origin = ⟨some id, false⟩ ∧ x = ⟨i, ⟨id, v, reading⟩⟩ := by
  obtain ⟨identity, deployer⟩ := origin
  cases identity <;> cases deployer <;> simp [writesOf]

theorem pairwise_writesOf {origin : Origin} {v : Verdict} {reading : Nat} {R : Write → Write → Prop} :
    (writesOf i origin v reading).Pairwise R := by
  obtain ⟨identity, deployer⟩ := origin
  cases identity <;> cases deployer <;> simp [writesOf]

theorem tracker_note_eq (c : Coordinator) (i reading : Nat) (v : Verdict) (origin : Origin) :
    (c.note reading v origin).tracker =
      ((writesOf i origin v reading).map Write.told).foldl Tracker.tell c.tracker := by
  obtain ⟨identity, deployer⟩ := origin
  cases deployer with
  | true => simp [writesOf, Coordinator.note_deployer]
  | false =>
    cases identity with
    | none => rfl
    | some id => simp [writesOf, Coordinator.tracker_note]

/-- What every interleaving keeps. -/
structure Inv (settings : DrainSettings) (w : Threads) : Prop where
  settings : w.coordinator.settings = settings
  attached : w.coordinator.attached ≠ none
  /-- Once a stop has begun, no probe is told "ready" that has not read the phase before. -/
  stopped : w.watchers ≠ [] → w.coordinator.verdict = .unavailable
  entries : w.coordinator.tracker = (w.writes.map Write.told).foldl Tracker.tell .empty
  /-- What an identified client was told, or is about to be told, was written down. -/
  noted : ∀ i p v id, w.probes[i]? = some p → p.stage.noted? = some v →
    p.origin = ⟨some id, false⟩ →
    ∃ x ∈ w.writes, x.probe = i ∧ x.told.identity = id ∧ x.told.verdict = v
  past : ∀ x ∈ w.writes, x.told.reading ≤ w.clock
  ordered : w.writes.Pairwise fun x y => x.told.reading ≤ y.told.reading

theorem mem_writes_move {x : Write} (h : x ∈ w.writes) (m : Move) : x ∈ (w.move m).writes := by
  rcases coordinator_move w m with ⟨-, hw⟩ | ⟨_, _, _, -, -, -, hw⟩ | ⟨_, -, -, hw⟩
  · exact hw ▸ h
  · exact hw ▸ List.mem_append_left _ h
  · exact hw ▸ h

variable {settings : DrainSettings}

theorem Inv.stopped_move (h : w.Inv settings) (m : Move) (hne : (w.move m).watchers ≠ []) :
    (w.move m).coordinator.verdict = .unavailable := by
  obtain ⟨x, hx⟩ := List.exists_mem_of_ne_nil _ hne
  obtain ⟨i, hi⟩ := List.mem_iff_getElem?.1 hx
  rcases exists_of_getElem?_watchers_move hi with ⟨rfl, -⟩ | ⟨old, hold, -⟩
  · rfl
  · exact verdict_move (h.stopped (List.ne_nil_of_mem (List.mem_of_getElem? hold))) m

theorem Inv.noted_move (h : w.Inv settings) (m : Move) {p : Probe} {v : Verdict} {id : String}
    (hp : (w.move m).probes[i]? = some p) (hv : p.stage.noted? = some v)
    (ho : p.origin = ⟨some id, false⟩) :
    ∃ x ∈ (w.move m).writes, x.probe = i ∧ x.told.identity = id ∧ x.told.verdict = v := by
  have hold {old : Probe} (hget : w.probes[i]? = some old) (hn : old.stage.noted? = some v)
      (horigin : old.origin = ⟨some id, false⟩) :
      ∃ x ∈ (w.move m).writes, x.probe = i ∧ x.told.identity = id ∧ x.told.verdict = v := by
    obtain ⟨x, hx, hxp⟩ := h.noted i old v id hget hn horigin
    exact ⟨x, mem_writes_move hx m, hxp⟩
  rcases exists_of_getElem?_probes_move hp with hget | ⟨-, hentered⟩ |
    ⟨old, hget, horigin, hnext, hm⟩
  · exact hold hget hv ho
  · simp [hentered, Stage.noted?, Stage.answer?] at hv
  · rcases hnext.noted? hv with hn | ⟨hsampled, hnoted⟩
    · exact hold hget hn (horigin.trans ho)
    · have hprobe : m = .probe i := hm.resolve_right (by simp [hnoted])
      have hstep : (w.move m).writes = w.writes ++ writesOf i old.origin v w.clock := by
        simp [hprobe, move, hget, stepProbe, hsampled]
      refine ⟨⟨i, ⟨id, v, w.clock⟩⟩, ?_, rfl, rfl, rfl⟩
      rw [hstep, List.mem_append, mem_writesOf]
      exact .inr ⟨id, horigin.trans ho, rfl⟩

theorem Inv.move (h : w.Inv settings) (m : Move) : (w.move m).Inv settings := by
  have hclock := clock_le_move w m
  have hpast : ∀ x ∈ w.writes, x.told.reading ≤ (w.move m).clock :=
    fun x hx => (h.past x hx).trans hclock
  rcases coordinator_move w m with ⟨hc, hw⟩ | ⟨i, origin, v, -, -, hc, hw⟩ | ⟨phase, -, hc, hw⟩
  · exact {
      settings := by rw [hc, h.settings]
      attached := by rw [hc]; exact h.attached
      stopped := h.stopped_move m
      entries := by rw [hc, hw, h.entries]
      noted := fun i p v id => h.noted_move m
      past := by rw [hw]; exact hpast
      ordered := by rw [hw]; exact h.ordered }
  · exact {
      settings := by rw [hc, Coordinator.settings_note, h.settings]
      attached := by rw [hc, Coordinator.attached_note]; exact h.attached
      stopped := h.stopped_move m
      entries := by
        rw [hc, hw, tracker_note_eq _ i, h.entries, List.map_append, List.foldl_append]
      noted := fun i p v id => h.noted_move m
      past := by
        intro x hx
        rw [hw, List.mem_append, mem_writesOf] at hx
        rcases hx with hx | ⟨id, -, rfl⟩
        · exact hpast x hx
        · exact hclock
      ordered := by
        rw [hw, List.pairwise_append]
        refine ⟨h.ordered, pairwise_writesOf, fun x hx y hy => ?_⟩
        obtain ⟨id, -, rfl⟩ := mem_writesOf.1 hy
        exact h.past x hx }
  · exact {
      settings := by rw [hc, h.settings]
      attached := by rw [hc]; exact h.attached
      stopped := h.stopped_move m
      entries := by rw [hc, hw, h.entries]
      noted := fun i p v id => h.noted_move m
      past := by rw [hw]; exact hpast
      ordered := by rw [hw]; exact h.ordered }

theorem Inv.follow (h : w.Inv settings) (moves : List Move) : (w.follow moves).Inv settings := by
  induction moves generalizing w with
  | nil => exact h
  | cons m rest ih => exact ih (h.move m)

theorem inv_initial {c : Coordinator} (hc : c.settings = settings) (ha : c.attached ≠ none)
    (ht : c.tracker = .empty) (clock : Nat) : (initial c clock).Inv settings :=
  ⟨hc, ha, fun h => absurd rfl h, ht, by simp [initial], by simp [initial], List.Pairwise.nil⟩

/-- Since `e`, in which all probes had left, those that came are not told "ready". -/
structure Closed (e w : Threads) : Prop where
  verdict : w.coordinator.verdict = .unavailable
  length : e.probes.length ≤ w.probes.length
  probes : ∀ i p, w.probes[i]? = some p → e.probes[i]? = some p ∨
    (e.probes.length ≤ i ∧ p.stage.verdict? ≠ some .ready)

variable {e : Threads}

theorem Closed.move (h : Closed e w) (hleft : ∀ p ∈ e.probes, p.stage.isOpen = false) (m : Move) :
    Closed e (w.move m) := by
  refine ⟨verdict_move h.verdict m, h.length.trans (length_probes_move w m), fun i p hp => ?_⟩
  rcases exists_of_getElem?_probes_move hp with hget | ⟨rfl, hentered⟩ | ⟨old, hget, -, hnext, -⟩
  · exact h.probes i p hget
  · exact .inr ⟨h.length, by simp [hentered, Stage.verdict?, Stage.noted?, Stage.answer?]⟩
  · rcases h.probes i old hget with he | ⟨hle, hold⟩
    · have hopen := hnext.isOpen
      rw [hleft old (List.mem_of_getElem? he)] at hopen
      contradiction
    · refine .inr ⟨hle, fun hready => ?_⟩
      rcases hnext.verdict? hready with hv | hv
      · exact hold hv
      · rw [h.verdict] at hv
        contradiction

theorem Closed.follow (h : Closed e w) (hleft : ∀ p ∈ e.probes, p.stage.isOpen = false)
    (moves : List Move) : Closed e (w.follow moves) := by
  induction moves generalizing w with
  | nil => exact h
  | cons m rest ih => exact ih (h.move hleft m)

/-- A watcher that is past the count has read it as zero. -/
theorem exists_count_read (hinv : w.Inv settings) (hw : w.watchers = []) {moves : List Move}
    {x : Watcher} (hx : (w.follow moves).watchers[i]? = some x)
    (hpast : x = .idle ∨ ∃ reading, x = .timed reading) :
    ∃ early mid, moves = early ++ .watch i :: mid ∧
      (w.follow early).watchers[i]? = some .inactive ∧ (w.follow early).monitor.count = 0 := by
  induction moves using List.reverseRecOn generalizing x with
  | nil => simp [hw] at hx
  | append_singleton moves m ih =>
    rw [follow_append] at hx
    have hlater (hm : ∃ early mid, moves = early ++ .watch i :: mid ∧
        (w.follow early).watchers[i]? = some .inactive ∧ (w.follow early).monitor.count = 0) :
        ∃ early mid, moves ++ [m] = early ++ .watch i :: mid ∧
          (w.follow early).watchers[i]? = some .inactive ∧
          (w.follow early).monitor.count = 0 := by
      obtain ⟨early, mid, rfl, hread⟩ := hm
      exact ⟨early, mid ++ [m], by simp, hread⟩
    rcases exists_of_getElem?_watchers_move hx with ⟨-, rfl⟩ | ⟨old, hold, hnew⟩
    · simp at hpast
    · rcases hnew with rfl | rfl | ⟨rfl, rfl⟩
      · exact hlater (ih hold hpast)
      · simp at hpast
      · cases old with
        | looking =>
          have ha := (hinv.follow moves).attached
          simp only [nextWatcher, if_neg ha] at hpast
          split at hpast <;> simp at hpast
        | inactive =>
          by_cases hcount : (w.follow moves).monitor.count = 0
          · exact ⟨moves, [], rfl, hold, hcount⟩
          · simp [nextWatcher, hcount] at hpast
        | idle => exact hlater (ih hold (.inl rfl))
        | timed reading =>
          simp only [nextWatcher] at hpast
          split at hpast <;> simp at hpast
        | signalled | ended => simp [nextWatcher] at hpast

/-- What one client heard without interruption, among all that was written down. -/
theorem exists_writes_of_refusedSince {writes : List Write} {id : String} {since : Nat}
    (h : RefusedSince (heardBy id (writes.map Write.told)) since) :
    ∃ before first after, writes = before ++ first :: after ∧
      first.told = ⟨id, .unavailable, since⟩ ∧
      ∀ x ∈ first :: after, x.told.identity = id → x.told.verdict = .unavailable := by
  obtain ⟨before, first, after, hsplit, hsince, -, hrefused⟩ := h
  rw [heardBy, List.filter_map] at hsplit
  obtain ⟨l₁, l₂, hfilter, -, hl₂⟩ := List.map_eq_append_iff.1 hsplit
  obtain ⟨w, later, rfl, rfl, rfl⟩ := List.map_eq_cons_iff.1 hl₂
  obtain ⟨k₁, k₂, rfl, -, hk₂⟩ := List.filter_eq_append_iff.1 hfilter
  obtain ⟨between, rest, rfl, -, hid, hrest⟩ := List.filter_eq_cons_iff.1 hk₂
  have hverdict : ∀ x ∈ w :: rest, x.told.identity = id → x.told.verdict = .unavailable := by
    intro x hx hxid
    refine hrefused x.told ?_
    rcases List.mem_cons.1 hx with rfl | hx
    · exact List.mem_cons_self
    · refine List.mem_cons_of_mem _ (List.mem_map_of_mem ?_)
      rw [← hrest]
      exact List.mem_filter.2 ⟨hx, by simpa using hxid⟩
  have hwid : w.told.identity = id := by simpa using hid
  refine ⟨k₁ ++ between, w, rest, by simp, ?_, hverdict⟩
  rw [← hsince, ← hwid, ← hverdict w List.mem_cons_self hwid]

/-- A client whose refusal stands at the end of the window, after all that it was told before. -/
structure Acknowledged (w : Threads) (id : String) (reading : Nat) (since : Nat)
    (before after : List Write) (first : Write) : Prop where
  entry : w.coordinator.tracker.get? id = some (.notReady since)
  window : since + w.coordinator.settings.quiescenceWindow ≤ reading
  writes : w.writes = before ++ first :: after
  refused : first.told = ⟨id, .unavailable, since⟩
  earlier : ∀ x ∈ before, x.told.reading ≤ since
  later : ∀ x ∈ first :: after, x.told.identity = id → x.told.verdict = .unavailable

/-- A watcher that signals has seen every client acknowledge whose answer was written down. -/
theorem Inv.exists_acknowledged (h : w.Inv settings) {reading : Nat}
    (hactive : w.coordinator.lbActive reading = false) {x : Write} (hx : x ∈ w.writes) :
    ∃ since before first after,
      w.Acknowledged x.told.identity reading since before after first := by
  have hheard : heardBy x.told.identity (w.writes.map Write.told) ≠ [] :=
    List.ne_nil_of_mem (List.mem_filter.2 ⟨List.mem_map_of_mem hx, decide_eq_true rfl⟩)
  rw [Coordinator.lbActive, h.entries] at hactive
  obtain ⟨since, hentry, hrefused, hwindow⟩ := Tracker.refusedSince_of_not_active
    w.coordinator.valid.quiescenceWindow_pos hactive hheard
  obtain ⟨before, first, after, hwrites, hfirst, hlater⟩ := exists_writes_of_refusedSince hrefused
  have hordered := h.ordered
  rw [hwrites, List.pairwise_append] at hordered
  refine ⟨since, before, first, after, h.entries ▸ hentry, hwindow, hwrites, hfirst,
    fun y hy => ?_, hlater⟩
  have hle := hordered.2.2 y hy first List.mem_cons_self
  rwa [hfirst] at hle

theorem not_active_of_signalled {reading : Nat} (h : w.watchers[i]? = some (.timed reading))
    (hsignal : (w.move (.watch i)).watchers[i]? = some (.signalled reading)) :
    w.coordinator.lbActive reading = false := by
  rw [move, List.getElem?_modify_eq, h, Option.map_eq_map, Option.map_some] at hsignal
  cases hactive : w.coordinator.lbActive reading with
  | true => simp [nextWatcher, hactive] at hsignal
  | false => rfl

theorem isOpen_of_count_eq_zero (hcount : w.monitor.count.toNat = w.openCount)
    (hzero : w.monitor.count = 0) : ∀ p ∈ w.probes, p.stage.isOpen = false := by
  intro p hp
  rw [hzero, UInt32.toNat_zero] at hcount
  simpa using List.countP_eq_zero.1 hcount.symm p hp

/-- However probes interleave with a stop: when its watcher signals, it has read the count at a
point where each probe that is ever answered "ready", even after the signal, had been so and had
left, and has read the entries when its client was refused after that for the whole window. -/
theorem no_lost_acknowledgement {settings : DrainSettings} {source : ClockSource}
    {c : Coordinator} (hc : Coordinator.create settings source = .ok c) (monitor clock : Nat)
    {moves : List Move} (hfew : (initial (c.start monitor) clock).Few moves) :
    let w := initial (c.start monitor) clock
    ∀ past rest i reading, moves = past ++ .watch i :: rest →
      (w.follow past).watchers[i]? = some (.timed reading) →
      ((w.follow past).move (.watch i)).watchers[i]? = some (.signalled reading) →
      ∃ early mid, past = early ++ .watch i :: mid ∧
        (w.follow early).watchers[i]? = some .inactive ∧
        ((w.follow early).move (.watch i)).watchers[i]? = some .idle ∧
        ∀ j p, (w.follow moves).probes[j]? = some p → p.stage.answer? = some .ready →
          (w.follow early).probes[j]? = some p ∧ p.stage = .left (some .ready) ∧
          ∀ id, p.origin = ⟨some id, false⟩ → ∃ since before first after,
            (w.follow past).Acknowledged id reading since before after first ∧
            (w.follow past).coordinator.settings = settings ∧
            ∃ x ∈ before, x.probe = j ∧ x.told.identity = id ∧ x.told.verdict = .ready := by
  intro w past rest i reading hsplit htimed hsignal
  obtain ⟨hcs, -, hct⟩ := Coordinator.create_eq_ok hc
  have hattached : (c.start monitor).attached ≠ none := by
    cases ha : c.attached <;> simp [Coordinator.start, ha]
  have hinv : w.Inv settings := inv_initial (c := c.start monitor) hcs hattached hct clock
  obtain ⟨early, mid, hpast, hinactive, hzero⟩ :=
    exists_count_read hinv rfl htimed (.inr ⟨reading, rfl⟩)
  have hmoves : moves = early ++ (.watch i :: mid ++ .watch i :: rest) := by simp [hsplit, hpast]
  have hprefix : early <+: moves := ⟨_, hmoves.symm⟩
  have hcount := count_follow (show w.monitor.count.toNat = w.openCount from rfl)
    fun _ h => hfew _ (h.trans hprefix)
  have hleft := isOpen_of_count_eq_zero hcount hzero
  have hstopped : (w.follow early).watchers ≠ [] :=
    List.ne_nil_of_mem (List.mem_of_getElem? hinactive)
  -- all probes had left, and whoever came later read a phase that is not the ready one
  have hclosed : Closed (w.follow early) (w.follow early) :=
    ⟨(hinv.follow early).stopped hstopped, le_rfl, fun _ _ h => .inl h⟩
  refine ⟨early, mid, hpast, hinactive, ?_, fun j p hp hanswer => ?_⟩
  · simp [move, hinactive, nextWatcher, hzero]
  have hnoted := Stage.noted?_of_answer? hanswer
  rw [hmoves, follow_append] at hp
  have he : (w.follow early).probes[j]? = some p := by
    rcases (hclosed.follow hleft _).probes j p hp with he | ⟨-, hne⟩
    · exact he
    · exact absurd (Stage.verdict?_of_noted? hnoted) hne
  have hgone := hleft p (List.mem_of_getElem? he)
  refine ⟨he, ?_, fun id horigin => ?_⟩
  · cases hstage : p.stage <;> simp_all [Stage.isOpen, Stage.answer?]
  -- a probe that had left at the count had written down its answer before the entries are read
  · have hthen : (w.follow past).probes[j]? = some p := by
      rw [hpast, follow_append]
      exact getElem?_probes_follow he hgone _
    have hinvPast := hinv.follow past
    obtain ⟨x, hx, hxj, rfl, hxv⟩ := hinvPast.noted j p .ready id hthen hnoted horigin
    obtain ⟨since, before, first, after, hack⟩ :=
      hinvPast.exists_acknowledged (not_active_of_signalled htimed hsignal) hx
    refine ⟨since, before, first, after, hack, hinvPast.settings, x, ?_, hxj, rfl, hxv⟩
    rw [hack.writes, List.mem_append] at hx
    refine hx.resolve_right fun hlater => ?_
    rw [hack.later x hlater rfl] at hxv
    contradiction

/-- A probe that has read the phase before the stop is answered "ready" after it. -/
theorem no_lost_acknowledgement_late_answer :
    let settings : DrainSettings := ⟨"/", 10, 1, 2⟩
    let lb : Origin := ⟨some "lb", false⟩
    let past : List Move := [.enter lb, .probe 0, .stop, .watch 0, .probe 0, .probe 0, .probe 0,
      .enter lb, .probe 1, .probe 1, .probe 1, .probe 1, .elapse 2, .watch 0, .watch 0, .watch 0]
    ∃ c, Coordinator.create settings .steady = .ok c ∧
      let w := initial (c.start 0) 0
      w.Few (past ++ [.watch 0]) ∧
      ((w.follow past).move (.watch 0)).watchers[0]? = some (.signalled 2) ∧
      (w.follow past).probes[0]? = some ⟨lb, .left (some .ready)⟩ ∧
      ∃ since before first after,
        (w.follow past).Acknowledged "lb" 2 since before after first := by
  intro settings lb past
  have hc : Coordinator.create settings .steady =
      .ok ⟨settings, by decide, .steady, .init, none, .empty⟩ := by decide
  refine ⟨_, hc, ?_⟩
  intro w
  have hinits : ∀ early ∈ (past ++ [Move.watch 0]).inits, (w.follow early).openCount < 2 ^ 32 := by
    decide
  have hfew : w.Few (past ++ [.watch 0]) := fun early h => hinits early ((List.mem_inits _ _).2 h)
  have hsignal : ((w.follow past).move (.watch 0)).watchers[0]? = some (.signalled 2) := by decide
  obtain ⟨early, mid, -, -, -, hready⟩ :=
    no_lost_acknowledgement hc 0 0 hfew past [] 0 2 rfl (by decide) hsignal
  have hprobe : (w.follow past).probes[0]? = some ⟨lb, .left (some .ready)⟩ := by decide
  have hend : (w.follow (past ++ [.watch 0])).probes[0]? = some ⟨lb, .left (some .ready)⟩ := by
    decide
  obtain ⟨-, -, hack⟩ := hready 0 _ hend rfl
  obtain ⟨since, before, first, after, hack, -⟩ := hack "lb" rfl
  exact ⟨hfew, hsignal, hprobe, since, before, first, after, hack⟩

end GracefulDrain.Threads
