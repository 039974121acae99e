import GracefulDrain.Proofs.StopOutcome

namespace GracefulDrain.Lifecycle

/-- Whatever is due lies in the future. -/
def Settled (s : Lifecycle) : Prop := ∀ w ∈ s.nextWake?, s.now < w

variable {s : Lifecycle} {c : Coordinator}

/-- The next due instant is the first at which any stop has something due. -/
theorem mem_nextWake?_iff (hp : s.policy = .drain c) {w : Nat} :
    w ∈ s.nextWake? ↔ (∃ stop ∈ s.stops, stop.wake? c.settings = some w) ∧
      ∀ stop ∈ s.stops, ∀ w', stop.wake? c.settings = some w' → w ≤ w' := by
  rw [Option.mem_def, nextWake?, hp, List.min?_eq_some_iff, List.mem_filterMap]
  refine and_congr_right fun _ => ?_
  constructor
  · intro h stop hs w' hw
    exact h w' (List.mem_filterMap.2 ⟨stop, hs, hw⟩)
  · intro h w' hw
    obtain ⟨stop, hs, hw⟩ := List.mem_filterMap.1 hw
    exact h stop hs w' hw

theorem lt_wake?_of_lt_nextWake? (hp : s.policy = .drain c) {now : Nat}
    (h : ∀ w ∈ s.nextWake?, now < w) {stop : Stop} (hs : stop ∈ s.stops) {w : Nat}
    (hw : stop.wake? c.settings = some w) : now < w := by
  obtain ⟨id, hid⟩ := List.mem_iff_getElem?.1 hs
  obtain ⟨first, hfirst, hle⟩ := exists_nextWake?_le hp hid hw
  exact (h first hfirst).trans_le hle

theorem now_settle (s : Lifecycle) : s.settle.now = s.now := by
  unfold settle
  split <;> rfl

theorem idle_of_lt_wake? {settings : DrainSettings} {now : Nat} {stop : Stop}
    (h : ∀ w, stop.wake? settings = some w → now < w) :
    stop.expires settings now = false ∧ stop.looks settings now = false := by
  cases stop with
  | ended => exact ⟨rfl, rfl⟩
  | waiting begun reading looks =>
    have hlt := h _ rfl
    simp only [Stop.expires, Stop.looks, decide_eq_false_iff_not, Bool.and_eq_false_iff]
    omega

theorem Settled.settle_eq (h : s.Settled) : s.settle = s := by
  unfold settle
  split
  · rfl
  · next c hp =>
    have hidle (stop : Stop) (hs : stop ∈ s.stops) :=
      idle_of_lt_wake? fun w hw => lt_wake?_of_lt_nextWake? hp h hs hw
    have hexpired : s.stops.filter (·.expires c.settings s.now) = [] :=
      List.filter_eq_nil_iff.2 fun stop hs => by simp [(hidle stop hs).1]
    have hlooking : s.stops.filter (·.looks c.settings s.now) = [] :=
      List.filter_eq_nil_iff.2 fun stop hs => by simp [(hidle stop hs).2]
    have hstops : s.stops.map (·.settle c.settings s.now (s.observe c)) = s.stops := by
      rw [List.map_congr_left fun stop hs => settle_of_idle (hidle stop hs).1 (hidle stop hs).2]
      exact List.map_id' _
    simp only [hexpired, hlooking, hstops, ite_self, phaseAfter, List.isEmpty_nil, List.append_nil,
      List.map_nil, Bool.not_true, Bool.false_eq_true, if_true, if_false, ← hp]

/-- When nothing is overdue, what was due now has happened after settling. -/
theorem settled_settle (h : ∀ w ∈ s.nextWake?, s.now ≤ w) : s.settle.Settled := by
  cases hp : s.policy with
  | simple => simp [Settled, settle, nextWake?, hp]
  | drain c =>
    have hpolicy : ∃ phase, s.settle.policy = .drain { c with phase } := by
      simp only [settle, hp]
      exact ⟨_, rfl⟩
    obtain ⟨phase, hp'⟩ := hpolicy
    intro w hw
    obtain ⟨⟨stop', hs', hw'⟩, -⟩ := (mem_nextWake?_iff hp').1 hw
    simp only [settle, hp] at hs' ⊢
    obtain ⟨stop, hs, rfl⟩ := List.mem_map.1 hs'
    obtain ⟨id, hid⟩ := List.mem_iff_getElem?.1 hs
    refine Stop.lt_wake?_settle c.valid (fun w₀ hw₀ => ?_) le_rfl hw'
    obtain ⟨first, hfirst, hle⟩ := exists_nextWake?_le hp hid hw₀
    exact (h first hfirst).trans hle

theorem Settled.arrive (h : s.Settled) {w : Nat} (hw : s.nextWake? = some w) :
    (s.arrive w).Settled := by
  refine settled_settle fun w' hw' => ?_
  have hsame : w' = w := Option.some.inj (hw'.symm.trans hw)
  rw [hsame]
  exact max_le (h w hw).le le_rfl

theorem Settled.runUntil (h : s.Settled) (target : Nat) (enough : Lifecycle → Bool) :
    (s.runUntil target enough).Settled := by
  fun_induction Lifecycle.runUntil target enough s with
  | case1 | case2 | case4 => exact h
  | case3 s _ w hw _ ih => exact ih (h.arrive hw)

theorem Settled.elapseTo (h : s.Settled) (target : Nat) : (s.elapseTo target).Settled := by
  have hrun := h.runUntil target fun _ => false
  have hlate := (enough_runUntil_or_lt s target fun _ => false).resolve_left (by simp)
  exact fun w hw => max_lt (hrun w hw) (hlate w hw)

theorem Settled.stop (h : s.Settled) : s.stop.Settled := by
  rw [stop_eq]
  refine settled_settle fun w hw => ?_
  cases hp : s.policy with
  | simple => simp [nextWake?, beginStop, hp] at hw
  | drain c =>
    obtain ⟨hbegun, hnow, -⟩ := beginStop_waiting hp
    obtain ⟨⟨stop, hs, hw⟩, -⟩ := (mem_nextWake?_iff hbegun).1 hw
    rw [hnow]
    simp only [beginStop, hp, List.mem_append, List.mem_singleton] at hs
    rcases hs with hs | rfl
    · exact (lt_wake?_of_lt_nextWake? hp h hs hw).le
    · simp only [Stop.wake?, Stop.nextLook, Stop.deadline, Option.some.injEq] at hw
      omega

theorem Settled.step (h : s.Settled) (e : Event) : (s.step e).Settled := by
  cases e with
  | start | probe =>
    cases hp : s.policy with
    | simple => simp [Settled, nextWake?, Lifecycle.step, start, probe, hp]
    | drain c =>
      simpa [Settled, nextWake?, Lifecycle.step, start, probe, hp, Coordinator.handle] using h
  | stop => exact h.stop
  | enter | leave | addMonitor => exact h
  | advanceClock | setClock =>
    simp only [Lifecycle.step, onClock_getD]
    exact h
  | elapseTo instant => exact h.elapseTo instant
  | join id => exact h.runUntil _ _

theorem Settled.all_isEnded_join (h : s.Settled) (hp : s.policy = .drain c) (id : Nat) :
    ((s.join id).stops[id]?).all Stop.isEnded = true := by
  cases hstop : s.stops[id]? with
  | none =>
    have hsame : s.join id = s := runUntil_of_enough (by simp [hstop])
    rw [hsame, hstop]
    rfl
  | some stop =>
    cases stop with
    | ended instant outcome =>
      have hsame : s.join id = s := runUntil_of_enough (by simp [hstop, Stop.isEnded])
      rw [hsame, hstop]
      rfl
    | waiting begun reading looks =>
      have hlt := lt_wake?_of_lt_nextWake? hp h (List.mem_of_getElem? hstop) rfl
      rw [Stop.nextLook, Stop.deadline, Nat.add_min_add_left] at hlt
      obtain ⟨instant, outcome, hended⟩ := exists_ended_join hp hstop hlt.le
      rw [hended]
      rfl

theorem settled_initial (policy : Policy) (manual : Option ManualClock) :
    (initial policy manual).Settled := by
  cases policy <;> simp [Settled, nextWake?, initial]

end GracefulDrain.Lifecycle
