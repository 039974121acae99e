import Mathlib
import GracefulDrain.Drain.Monitor

/-! Each counter shows the balance of what was done to it, raised by as much as this balance ever
fell below zero. -/
namespace GracefulDrain

namespace Monitor

/-- A begin or an end, the two things that change a counter. -/
inductive Change
  | enter
  | leave
  deriving DecidableEq, Repr

def apply (m : Monitor) : Change → Monitor
  | .enter => m.enter
  | .leave => m.leave

/-- Begins minus ends. -/
def balance (changes : List Change) : ℤ := changes.count .enter - changes.count .leave

/-- What changes make of a count that never overflows. -/
def tally (n : ℕ) (changes : List Change) : ℕ :=
  changes.foldl (fun n change => match change with | .enter => n + 1 | .leave => n - 1) n

theorem tally_concat (n : ℕ) (changes : List Change) (change : Change) :
    tally n (changes ++ [change]) =
      match change with | .enter => tally n changes + 1 | .leave => tally n changes - 1 := by
  rw [tally, List.foldl_concat]
  rfl

theorem balance_concat (changes : List Change) (change : Change) :
    balance (changes ++ [change]) =
      match change with | .enter => balance changes + 1 | .leave => balance changes - 1 := by
  cases change <;> simp [balance, List.count_append] <;> ring

theorem eq_of_toNat_count {m m' : Monitor} (h : m.count.toNat = m'.count.toNat) : m = m' := by
  cases m
  cases m'
  exact congrArg mk (UInt32.toNat_inj.1 h)

/-- As long as the begins do not overflow, the counter is what is tallied. -/
theorem toNat_foldl_apply (m : Monitor) (changes : List Change)
    (h : m.count.toNat + changes.count .enter < 2 ^ 32) :
    (changes.foldl apply m).count.toNat = tally m.count.toNat changes ∧
      tally m.count.toNat changes ≤ m.count.toNat + changes.count .enter := by
  induction changes using List.reverseRecOn with
  | nil => exact ⟨rfl, le_rfl⟩
  | append_singleton changes change ih =>
    rw [List.count_append] at h ⊢
    obtain ⟨hcount, hle⟩ := ih (by omega)
    rw [List.foldl_concat, tally_concat]
    cases change with
    | enter =>
      rw [List.count_singleton_self] at h ⊢
      have hfits : (changes.foldl apply m).count.toNat + 1 < 2 ^ 32 := by omega
      rw [apply, toNat_enter hfits, hcount]
      exact ⟨rfl, by dsimp only; omega⟩
    | leave =>
      rw [apply, toNat_leave, hcount]
      exact ⟨rfl, by dsimp only; omega⟩

/-- What is tallied is the balance less the lowest balance on the way, the empty one at the outset
included. -/
theorem isLeast_balance_sub_tally (changes : List Change) :
    IsLeast {z | ∃ part, part <+: changes ∧ balance part = z}
      (balance changes - tally 0 changes) := by
  induction changes using List.reverseRecOn with
  | nil =>
    refine ⟨⟨[], List.prefix_rfl, rfl⟩, ?_⟩
    rintro z ⟨part, hpart, rfl⟩
    rw [List.prefix_nil.1 hpart]
    rfl
  | append_singleton changes change ih =>
    obtain ⟨⟨lowest, hlowest, hlow⟩, hleast⟩ := ih
    have hall (z : ℤ) : (∃ part, part <+: changes ++ [change] ∧ balance part = z) ↔
        balance (changes ++ [change]) = z ∨ ∃ part, part <+: changes ∧ balance part = z := by
      constructor
      · rintro ⟨part, hpart, rfl⟩
        rcases List.prefix_concat_iff.1 hpart with rfl | hpart
        · exact .inl rfl
        · exact .inr ⟨part, hpart, rfl⟩
      · rintro (rfl | ⟨part, hpart, rfl⟩)
        · exact ⟨_, List.prefix_rfl, rfl⟩
        · exact ⟨part, hpart.trans (List.prefix_append _ _), rfl⟩
    have hbound (part : List Change) (hpart : part <+: changes) :
        balance changes - tally 0 changes ≤ balance part := hleast ⟨part, hpart, rfl⟩
    by_cases hidle : change = .leave ∧ tally 0 changes = 0
    · obtain ⟨rfl, hzero⟩ := hidle
      have hdifference : balance (changes ++ [.leave]) - tally 0 (changes ++ [.leave]) =
          balance (changes ++ [.leave]) := by
        simp [tally_concat, hzero]
      rw [hdifference]
      refine ⟨(hall _).2 (.inl rfl), fun z hz => ?_⟩
      rcases (hall z).1 hz with rfl | ⟨part, hpart, rfl⟩
      · exact le_rfl
      · have := hbound part hpart
        simp only [balance_concat, hzero] at this ⊢
        omega
    · have hdifference : balance (changes ++ [change]) - tally 0 (changes ++ [change]) =
          balance changes - tally 0 changes := by
        cases change with
        | enter =>
          simp only [balance_concat, tally_concat]
          push_cast
          ring
        | leave =>
          have hpos : 0 < tally 0 changes := by simpa [Nat.pos_iff_ne_zero] using hidle
          simp only [balance_concat, tally_concat]
          omega
      rw [hdifference]
      refine ⟨(hall _).2 (.inr ⟨lowest, hlowest, hlow⟩), fun z hz => ?_⟩
      rcases (hall z).1 hz with rfl | ⟨part, hpart, rfl⟩
      · omega
      · exact hbound part hpart

/-- A count that is never asked to fall below zero is what was there, with the begins, without the
ends. -/
theorem tally_add_count_leave {n : ℕ} {changes : List Change}
    (h : ∀ part, part <+: changes → part.count .leave ≤ n + part.count .enter) :
    tally n changes + changes.count .leave = n + changes.count .enter := by
  induction changes using List.reverseRecOn with
  | nil => rfl
  | append_singleton changes change ih =>
    have hbefore := ih fun part hpart => h part (hpart.trans (List.prefix_append _ _))
    have hwhole := h _ List.prefix_rfl
    rw [tally_concat, List.count_append, List.count_append]
    rw [List.count_append, List.count_append] at hwhole
    cases change with
    | enter =>
      simp only [List.count_singleton_self, List.count_singleton] at hwhole ⊢
      simp
      omega
    | leave =>
      simp only [List.count_singleton_self, List.count_singleton] at hwhole ⊢
      simp at hwhole ⊢
      omega

theorem foldl_apply_replicate_enter (m : Monitor) (n : ℕ) :
    (List.replicate n .enter).foldl apply m = m.enterTimes n := by
  induction n with
  | zero => exact (enterTimes_zero m).symm
  | succ n ih => rw [List.replicate_succ', List.foldl_concat, ih, enterTimes_succ, apply]

theorem foldl_apply_replicate_leave (m : Monitor) (n : ℕ) :
    (List.replicate n .leave).foldl apply m = m.leaveTimes n := by
  induction n with
  | zero => exact (leaveTimes_zero m).symm
  | succ n ih => rw [List.replicate_succ', List.foldl_concat, ih, leaveTimes_succ, apply]

end Monitor

namespace MonitorPool
open Monitor

/-- What a thread does through a handle. -/
structure Call where
  thread : Nat
  handle : Nat
  action : Action
  deriving DecidableEq, Repr

/-- A change of one counter by one thread. -/
structure Mark where
  thread : Nat
  counter : Nat
  change : Change
  deriving DecidableEq, Repr

/-- A call through a handle that does not exist changes nothing. -/
def call (pool : MonitorPool) (c : Call) : MonitorPool :=
  (pool.step? c.handle c.action).getD pool

def run (pool : MonitorPool) (calls : List Call) : MonitorPool := calls.foldl call pool

/-- The changes that an action through a handle of `counter` makes, each with its counter. Only the
first drop of a guard ends what it began. -/
def changes (pool : MonitorPool) (counter : Nat) : Action → List (Nat × Change)
  | .enter times => List.replicate times (counter, .enter)
  | .leave times => List.replicate times (counter, .leave)
  | .track => [(counter, .enter)]
  | .drop guard =>
    match pool.guards[guard]? with
    | some (some c) => [(c, .leave)]
    | _ => []
  | .clone | .fresh => []
  | .threads times begins ends =>
    List.replicate (times * begins) (counter, .enter) ++
      List.replicate (times * min ends begins) (counter, .leave)

def marks (pool : MonitorPool) (c : Call) : List Mark :=
  match pool.handles[c.handle]? with
  | none => []
  | some counter => (pool.changes counter c.action).map fun (c', change) => ⟨c.thread, c', change⟩

/-- All changes of a run, in order. -/
def log (pool : MonitorPool) : List Call → List Mark
  | [] => []
  | c :: rest => pool.marks c ++ (pool.call c).log rest

def changesOf (counter : Nat) (log : List Mark) : List Change :=
  (log.filter (·.counter = counter)).map Mark.change

def monitor (pool : MonitorPool) (counter : Nat) : Monitor := pool.counters.getD counter .idle

/-- Handles and guards refer to counters that there are. -/
structure WellFormed (pool : MonitorPool) : Prop where
  handles : ∀ counter ∈ pool.handles, counter < pool.counters.length
  guards : ∀ guard ∈ pool.guards, ∀ counter ∈ guard, counter < pool.counters.length

variable {pool : MonitorPool} {counter : Nat}

theorem changesOf_append (counter : Nat) (log rest : List Mark) :
    changesOf counter (log ++ rest) = changesOf counter log ++ changesOf counter rest := by
  simp [changesOf]

theorem wellFormed_initial : initial.WellFormed := by
  constructor <;> simp [initial]

theorem monitor_onCounter (pool : MonitorPool) {other : Nat} (h : other < pool.counters.length)
    (f : Monitor → Monitor) (counter : Nat) :
    (pool.onCounter other f).monitor counter =
      if other = counter then f (pool.monitor counter) else pool.monitor counter := by
  rw [monitor, onCounter, List.getD_eq_getElem?_getD, List.getElem?_modify, monitor,
    List.getD_eq_getElem?_getD]
  split
  · next heq =>
    subst heq
    simp [h]
  · simp

theorem WellFormed.onCounter (h : pool.WellFormed) (other : Nat) (f : Monitor → Monitor) :
    (pool.onCounter other f).WellFormed := by
  constructor
  · simpa [MonitorPool.onCounter] using h.handles
  · simpa [MonitorPool.onCounter] using h.guards

theorem WellFormed.act (h : pool.WellFormed) (hcounter : counter < pool.counters.length)
    (action : Action) : (pool.act counter action).WellFormed := by
  cases action with
  | enter | leave => exact h.onCounter counter _
  | threads => exact (h.onCounter counter _).onCounter counter _
  | track =>
    refine ⟨(h.onCounter counter _).handles, fun guard hg c hc => ?_⟩
    rcases List.mem_append.1 hg with hg | hg
    · exact (h.onCounter counter _).guards guard hg c hc
    · rw [List.mem_singleton.1 hg] at hc
      cases hc
      simpa [MonitorPool.act, MonitorPool.onCounter] using hcounter
  | drop guard =>
    simp only [MonitorPool.act]
    split
    · next dropped _ =>
      refine ⟨(h.onCounter dropped _).handles, fun g hg c hc => ?_⟩
      rcases List.mem_or_eq_of_mem_set hg with hg | rfl
      · exact (h.onCounter dropped _).guards g hg c hc
      · cases hc
    · exact h
  | clone =>
    refine ⟨fun c hc => ?_, h.guards⟩
    rcases List.mem_append.1 hc with hc | hc
    · exact h.handles c hc
    · exact List.mem_singleton.1 hc ▸ hcounter
  | fresh =>
    constructor
    · intro c hc
      simp only [MonitorPool.act, List.length_append, List.length_singleton]
      rcases List.mem_append.1 hc with hc | hc
      · exact (h.handles c hc).trans (Nat.lt_succ_self _)
      · rw [List.mem_singleton.1 hc]
        exact Nat.lt_succ_self _
    · intro guard hg c hc
      simp only [MonitorPool.act, List.length_append, List.length_singleton]
      exact (h.guards guard hg c hc).trans (Nat.lt_succ_self _)

theorem WellFormed.call (h : pool.WellFormed) (c : Call) : (pool.call c).WellFormed := by
  rw [MonitorPool.call, step?]
  cases hvia : pool.handles[c.handle]? with
  | none => exact h
  | some via => exact h.act (h.handles via (List.mem_of_getElem? hvia)) c.action

theorem foldl_changesOf_map (changes : List (Nat × Change)) (thread : Nat) (m : Monitor) :
    (changesOf counter (changes.map fun (c, change) => ⟨thread, c, change⟩)).foldl apply m =
      ((changes.filter (·.1 = counter)).map Prod.snd).foldl apply m := by
  congr 1
  induction changes with
  | nil => rfl
  | cons first rest ih => by_cases h : first.1 = counter <;> simp_all [changesOf]

theorem monitor_act (h : pool.WellFormed) {via : Nat} (hvia : via < pool.counters.length)
    (action : Action) (counter : Nat) :
    (pool.act via action).monitor counter =
      (((pool.changes via action).filter (·.1 = counter)).map Prod.snd).foldl apply
        (pool.monitor counter) := by
  cases action with
  | enter times | leave times =>
    simp only [act, changes, monitor_onCounter pool hvia, List.filter_replicate]
    by_cases heq : via = counter <;>
      simp [heq, foldl_apply_replicate_enter, foldl_apply_replicate_leave]
  | threads times begins ends =>
    have hvia' : via < (pool.onCounter via (·.enterTimes (times * begins))).counters.length := by
      simpa [onCounter] using hvia
    simp only [act, changes, monitor_onCounter _ hvia', monitor_onCounter pool hvia,
      List.filter_append, List.filter_replicate, List.map_append, List.foldl_append]
    by_cases heq : via = counter <;>
      simp [heq, foldl_apply_replicate_enter, foldl_apply_replicate_leave]
  | track =>
    have hsame : (pool.act via .track).monitor counter =
        (pool.onCounter via (·.enter)).monitor counter := rfl
    rw [hsame, monitor_onCounter pool hvia]
    by_cases heq : via = counter <;> simp [changes, heq, apply]
  | drop guard =>
    rcases hguard : pool.guards[guard]? with _ | _ | dropped
    · simp [act, changes, hguard]
    · simp [act, changes, hguard]
    · have hdropped : dropped < pool.counters.length :=
        h.guards (some dropped) (List.mem_of_getElem? hguard) dropped rfl
      have hsame : (pool.act via (.drop guard)).monitor counter =
          (pool.onCounter dropped (·.leave)).monitor counter := by
        simp [act, hguard, monitor]
      rw [hsame, monitor_onCounter pool hdropped]
      by_cases heq : dropped = counter <;> simp [changes, hguard, heq, apply]
  | clone => rfl
  | fresh =>
    simp only [act, monitor, changes, List.getD_eq_getElem?_getD, List.getElem?_append]
    split
    · rfl
    · next hlt =>
      rw [List.getElem?_eq_none (not_lt.1 hlt)]
      rcases Nat.eq_zero_or_pos (counter - pool.counters.length) with hzero | hpos
      · simp [hzero]
      · rw [List.getElem?_eq_none (by simp only [List.length_singleton]; omega)]
        rfl

theorem monitor_call (h : pool.WellFormed) (c : Call) (counter : Nat) :
    (pool.call c).monitor counter =
      (changesOf counter (pool.marks c)).foldl apply (pool.monitor counter) := by
  rw [call, step?, marks]
  cases hvia : pool.handles[c.handle]? with
  | none => rfl
  | some via =>
    rw [foldl_changesOf_map]
    exact monitor_act h (h.handles via (List.mem_of_getElem? hvia)) c.action counter

theorem monitor_run (h : pool.WellFormed) (calls : List Call) (counter : Nat) :
    (pool.run calls).monitor counter =
      (changesOf counter (pool.log calls)).foldl apply (pool.monitor counter) := by
  induction calls generalizing pool with
  | nil => rfl
  | cons c rest ih =>
    have hrest : pool.run (c :: rest) = (pool.call c).run rest := rfl
    rw [hrest, ih (h.call c), monitor_call h, log, changesOf_append, List.foldl_append]

theorem WellFormed.run (h : pool.WellFormed) (calls : List Call) : (pool.run calls).WellFormed := by
  induction calls generalizing pool with
  | nil => exact h
  | cons c rest ih => exact ih (h.call c)

theorem countP_eq_sum (log : List Mark) {threads : Finset ℕ}
    (h : ∀ m ∈ log, m.thread ∈ threads) (p : Mark → Bool) :
    log.countP p = ∑ t ∈ threads, (log.filter (·.thread = t)).countP p := by
  induction log with
  | nil => simp
  | cons m rest ih =>
    have hm : m.thread ∈ threads := h m List.mem_cons_self
    have hsplit (t : ℕ) : ((m :: rest).filter (·.thread = t)).countP p =
        (rest.filter (·.thread = t)).countP p +
          if m.thread = t then (if p m then 1 else 0) else 0 := by
      by_cases ht : m.thread = t <;> simp [ht, List.countP_cons]
    rw [List.countP_cons, ih fun m' hm' => h m' (List.mem_cons_of_mem _ hm')]
    simp only [hsplit, Finset.sum_add_distrib, Finset.sum_ite_eq, if_pos hm]

theorem count_changesOf (log : List Mark) (change : Change) :
    (changesOf counter log).count change =
      log.countP fun m => decide (m.change = change) && decide (m.counter = counter) := by
  rw [changesOf, List.count, List.countP_map, List.countP_filter]
  refine List.countP_congr fun m _ => ?_
  simp

/-- What is done to a counter is what its threads do to it, in total. -/
theorem count_changesOf_eq_sum (log : List Mark) {threads : Finset ℕ}
    (h : ∀ m ∈ log, m.thread ∈ threads) (change : Change) :
    (changesOf counter log).count change =
      ∑ t ∈ threads, (changesOf counter (log.filter (·.thread = t))).count change := by
  rw [count_changesOf, countP_eq_sum log h]
  exact Finset.sum_congr rfl fun t _ => (count_changesOf _ change).symm

/-- Where no thread ever ended more than it had begun, all together have not. -/
theorem count_leave_le_of_threads {log : List Mark}
    (h : ∀ t own, own <+: changesOf counter (log.filter (·.thread = t)) →
      own.count .leave ≤ own.count .enter)
    {part : List Change} (hpart : part <+: changesOf counter log) :
    part.count .leave ≤ part.count .enter := by
  obtain ⟨rest, hrest⟩ := hpart
  obtain ⟨before, after, hfilter, rfl, -⟩ := List.map_eq_append_iff.1 hrest.symm
  obtain ⟨past, future, rfl, rfl, -⟩ := List.filter_eq_append_iff.1 hfilter
  have hthreads (m : Mark) (hm : m ∈ past) : m.thread ∈ (past.map Mark.thread).toFinset :=
    List.mem_toFinset.2 (List.mem_map_of_mem hm)
  have hcount (change : Change) : (changesOf counter past).count change =
      ∑ t ∈ (past.map Mark.thread).toFinset,
        (changesOf counter (past.filter (·.thread = t))).count change :=
    count_changesOf_eq_sum past hthreads change
  rw [changesOf] at hcount
  rw [hcount, hcount]
  refine Finset.sum_le_sum fun t _ => h t _ ?_
  exact (((List.prefix_append past future).filter _).filter _).map _

/-- The change that a single begin or end makes. -/
def Action.change : Action → Change
  | .leave _ => .leave
  | _ => .enter

/-- In some order, `times` threads each begin so many requests, one at a time and through any handles
of the counter, and then end as many of them as they are told to. -/
structure IsShuffle (pool : MonitorPool) (counter times begins ends : Nat) (trace : List Call) :
    Prop where
  threads : ∀ c ∈ trace, c.thread < times
  handles : ∀ c ∈ trace, pool.handles[c.handle]? = some counter
  own : ∀ t < times, (trace.filter (·.thread = t)).map Call.action =
    List.replicate begins (.enter 1) ++ List.replicate (min ends begins) (.leave 1)

theorem onCounter_onCounter (pool : MonitorPool) (counter : Nat) (f g : Monitor → Monitor) :
    (pool.onCounter counter f).onCounter counter g = pool.onCounter counter (g ∘ f) := by
  simp only [onCounter, List.modify_modify_eq]

theorem onCounter_id (pool : MonitorPool) (counter : Nat) :
    pool.onCounter counter (fun m => m) = pool := by
  have hsame : pool.counters.modify counter (fun m => m) = pool.counters := List.modify_id _ _
  rw [onCounter, hsame]

theorem onCounter_congr {f g : Monitor → Monitor}
    (h : f (pool.monitor counter) = g (pool.monitor counter)) :
    pool.onCounter counter f = pool.onCounter counter g := by
  have hcounters : pool.counters.modify counter f = pool.counters.modify counter g := by
    refine List.ext_getElem? fun i => ?_
    rw [List.getElem?_modify, List.getElem?_modify]
    split
    · next heq =>
      subst heq
      cases hget : pool.counters[counter]? with
      | none => rfl
      | some m =>
        rw [monitor, List.getD_eq_getElem?_getD, hget] at h
        exact congrArg some h
    · rfl
  rw [onCounter, hcounters]
  rfl

theorem call_single {c : Call} (hvia : pool.handles[c.handle]? = some counter)
    (haction : c.action = .enter 1 ∨ c.action = .leave 1) :
    pool.call c = pool.onCounter counter (·.apply c.action.change) ∧
      pool.marks c = [⟨c.thread, counter, c.action.change⟩] := by
  have henter (m : Monitor) : m.enterTimes 1 = m.enter := by
    rw [enterTimes_succ, enterTimes_zero]
  have hleave (m : Monitor) : m.leaveTimes 1 = m.leave := by
    rw [leaveTimes_succ, leaveTimes_zero]
  rcases haction with haction | haction
  · simp [call, step?, marks, hvia, haction, act, changes, henter, apply, Action.change]
  · simp [call, step?, marks, hvia, haction, act, changes, hleave, apply, Action.change]

/-- Single begins and ends change their counter one after the other, and nothing else. -/
theorem run_singles {trace : List Call}
    (hvia : ∀ c ∈ trace, pool.handles[c.handle]? = some counter)
    (haction : ∀ c ∈ trace, c.action = .enter 1 ∨ c.action = .leave 1) :
    pool.run trace = pool.onCounter counter
        ((trace.map fun c => c.action.change).foldl apply ·) ∧
      pool.log trace = trace.map fun c => ⟨c.thread, counter, c.action.change⟩ := by
  induction trace generalizing pool with
  | nil => exact ⟨(onCounter_id pool counter).symm, rfl⟩
  | cons c rest ih =>
    obtain ⟨hcall, hmarks⟩ :=
      call_single (hvia c List.mem_cons_self) (haction c List.mem_cons_self)
    have hrest (c' : Call) (hc' : c' ∈ rest) :
        (pool.call c).handles[c'.handle]? = some counter := by
      rw [hcall]
      exact hvia c' (List.mem_cons_of_mem _ hc')
    obtain ⟨hrun, hlog⟩ := ih hrest fun c' hc' => haction c' (List.mem_cons_of_mem _ hc')
    constructor
    · have hfirst : pool.run (c :: rest) = (pool.call c).run rest := rfl
      rw [hfirst, hrun, hcall, onCounter_onCounter]
      rfl
    · rw [log, hmarks, hlog]
      rfl

variable {times begins ends : Nat} {trace : List Call}

theorem IsShuffle.action (h : pool.IsShuffle counter times begins ends trace) {c : Call}
    (hc : c ∈ trace) : c.action = .enter 1 ∨ c.action = .leave 1 := by
  have hmem : c.action ∈ (trace.filter (·.thread = c.thread)).map Call.action :=
    List.mem_map_of_mem (List.mem_filter.2 ⟨hc, by simp⟩)
  rw [h.own c.thread (h.threads c hc), List.mem_append] at hmem
  exact hmem.imp List.eq_of_mem_replicate List.eq_of_mem_replicate

/-- What each thread does to the counter, in its own order. -/
theorem IsShuffle.changesOf_own (h : pool.IsShuffle counter times begins ends trace) {t : Nat}
    (ht : t < times) : changesOf counter ((pool.log trace).filter (·.thread = t)) =
      List.replicate begins .enter ++ List.replicate (min ends begins) .leave := by
  have hown := congrArg (List.map Action.change) (h.own t ht)
  rw [List.map_append, List.map_replicate, List.map_replicate, List.map_map] at hown
  rw [(run_singles h.handles fun c hc => h.action hc).2, List.filter_map, changesOf,
    List.filter_map, List.map_map, List.filter_filter]
  simpa [Function.comp_def, Action.change] using hown

theorem IsShuffle.changesOf_other (h : pool.IsShuffle counter times begins ends trace) {t : Nat}
    (ht : ¬ t < times) : changesOf counter ((pool.log trace).filter (·.thread = t)) = [] := by
  have hnone : (pool.log trace).filter (·.thread = t) = [] := by
    rw [(run_singles h.handles fun c hc => h.action hc).2, List.filter_eq_nil_iff]
    intro m hm heq
    obtain ⟨c, hc, rfl⟩ := List.mem_map.1 hm
    exact ht (of_decide_eq_true heq ▸ h.threads c hc)
  rw [hnone]
  rfl

/-- A thread that begins first never has more ends than begins. -/
theorem IsShuffle.balanced (h : pool.IsShuffle counter times begins ends trace) (t : Nat)
    (own : List Change) (hown : own <+: changesOf counter ((pool.log trace).filter (·.thread = t))) :
    own.count .leave ≤ own.count .enter := by
  by_cases ht : t < times
  · rw [h.changesOf_own ht, List.prefix_iff_eq_take] at hown
    rw [hown, List.take_append, List.take_replicate, List.take_replicate]
    simp [List.count_replicate]
  · rw [h.changesOf_other ht] at hown
    rw [List.prefix_nil.1 hown]
    rfl

theorem IsShuffle.count_changesOf (h : pool.IsShuffle counter times begins ends trace)
    (change : Change) : (changesOf counter (pool.log trace)).count change =
      times * (List.replicate begins Change.enter ++
        List.replicate (min ends begins) Change.leave).count change := by
  have hthreads (m : Mark) (hm : m ∈ pool.log trace) : m.thread ∈ Finset.range times := by
    rw [(run_singles h.handles fun c hc => h.action hc).2] at hm
    obtain ⟨c, hc, rfl⟩ := List.mem_map.1 hm
    exact Finset.mem_range.2 (h.threads c hc)
  rw [count_changesOf_eq_sum _ hthreads, Finset.sum_congr rfl fun t ht => by
    rw [h.changesOf_own (Finset.mem_range.1 ht)]]
  simp

/-- In whatever order the threads take turns, they leave the same behind. -/
theorem IsShuffle.run_eq (h : pool.IsShuffle counter times begins ends trace)
    (hfits : (pool.monitor counter).count.toNat + times * begins < 2 ^ 32) :
    pool.run trace = pool.act counter (.threads times begins ends) := by
  have hsingles := run_singles h.handles fun c hc => h.action hc
  have hchanges : changesOf counter (pool.log trace) = trace.map fun c => c.action.change := by
    rw [hsingles.2, changesOf, List.filter_map, List.map_map]
    simp [Function.comp_def]
  have henter : (changesOf counter (pool.log trace)).count .enter = times * begins := by
    rw [h.count_changesOf]
    simp [List.count_replicate]
  have hleave : (changesOf counter (pool.log trace)).count .leave = times * min ends begins := by
    rw [h.count_changesOf]
    simp [List.count_replicate]
  set m := pool.monitor counter
  have hbalanced : tally m.count.toNat (changesOf counter (pool.log trace)) +
      times * min ends begins = m.count.toNat + times * begins := by
    rw [← henter, ← hleave]
    refine tally_add_count_leave fun part hpart => ?_
    exact (count_leave_le_of_threads h.balanced hpart).trans (Nat.le_add_left _ _)
  rw [hsingles.1, act, onCounter_onCounter, ← hchanges]
  refine onCounter_congr (eq_of_toNat_count ?_)
  rw [(toNat_foldl_apply m _ (by rw [henter]; exact hfits)).1, Function.comp_apply,
    toNat_leaveTimes, toNat_enterTimes m hfits]
  omega

/-- Every handle of the counter shows this count. -/
def Shows (pool : MonitorPool) (counter n : Nat) : Prop :=
  ∀ handle : Nat, pool.handles[handle]? = some counter →
    ∃ m, pool.view[handle]? = some m ∧ m.count.toNat = n

theorem shows_monitor (pool : MonitorPool) (counter : Nat) :
    pool.Shows counter (pool.monitor counter).count.toNat := by
  intro handle hvia
  exact ⟨pool.monitor counter, by simp [view, hvia, monitor], rfl⟩

theorem monitor_run_initial (calls : List Call) (counter : Nat) :
    (initial.run calls).monitor counter =
      (changesOf counter (initial.log calls)).foldl apply .idle := by
  rw [monitor_run wellFormed_initial]
  rcases Nat.eq_zero_or_pos counter with rfl | hpos
  · rfl
  · rw [monitor, List.getD_eq_default _ _ hpos]

theorem toNat_monitor_run {calls : List Call}
    (hfits : (changesOf counter (initial.log calls)).count .enter < 2 ^ 32) :
    ((initial.run calls).monitor counter).count.toNat =
        tally 0 (changesOf counter (initial.log calls)) ∧
      tally 0 (changesOf counter (initial.log calls)) ≤
        (changesOf counter (initial.log calls)).count .enter := by
  have hidle : Monitor.idle.count.toNat = 0 := rfl
  have hcount := toNat_foldl_apply .idle (changesOf counter (initial.log calls))
    (by rwa [hidle, Nat.zero_add])
  rwa [← monitor_run_initial, hidle, Nat.zero_add] at hcount

/-- However threads begin and end requests, through handles and guards, a counter shows the balance
of its own changes less the lowest balance on the way: begins minus ends, where no thread ended more
than it had begun. A begin always counts one more, an end that has nothing to end leaves all as it
is, and what is done to other counters does not matter. -/
theorem interleaved_calls_counted (calls : List Call) (counter : Nat) :
    let pool := initial.run calls
    let log := initial.log calls
    let changes := changesOf counter log
    (changes.count .enter < 2 ^ 32 →
      (∃ n low, pool.Shows counter n ∧
        IsLeast {z | ∃ part, part <+: changes ∧ balance part = z} low ∧
        (n : ℤ) = balance changes - low) ∧
      ((∀ thread own, own <+: changesOf counter (log.filter (·.thread = thread)) →
          own.count .leave ≤ own.count .enter) →
        ∃ n, pool.Shows counter n ∧ (n : ℤ) = balance changes)) ∧
    (∀ thread handle, pool.handles[handle]? = some counter →
      (changes.count .enter + 1 < 2 ^ 32 → ∃ n, pool.Shows counter n ∧
        (pool.call ⟨thread, handle, .enter 1⟩).Shows counter (n + 1)) ∧
      (pool.Shows counter 0 → pool.call ⟨thread, handle, .leave 1⟩ = pool)) ∧
    (∀ others, changesOf counter (initial.log others) = changes →
      (initial.run others).monitor counter = pool.monitor counter) ∧
    ∀ times begins ends trace, pool.IsShuffle counter times begins ends trace →
      changes.count .enter + times * begins < 2 ^ 32 →
        pool.run trace = pool.act counter (.threads times begins ends) := by
  intro pool log changes
  refine ⟨fun hfits => ⟨?_, fun hthreads => ?_⟩,
    fun thread handle hvia => ⟨fun hfits => ?_, fun hzero => ?_⟩,
    fun others hsame => ?_, fun times begins ends trace hshuffle hfits => ?_⟩
  · have hcount : (pool.monitor counter).count.toNat = tally 0 changes :=
      (toNat_monitor_run hfits).1
    exact ⟨tally 0 changes, balance changes - tally 0 changes, hcount ▸ shows_monitor pool counter,
      isLeast_balance_sub_tally changes, by ring⟩
  · have hcount : (pool.monitor counter).count.toNat = tally 0 changes :=
      (toNat_monitor_run hfits).1
    have hbalanced : tally 0 changes + changes.count .leave = 0 + changes.count .enter :=
      tally_add_count_leave fun part hpart => by
        rw [Nat.zero_add]
        exact count_leave_le_of_threads hthreads hpart
    refine ⟨tally 0 changes, hcount ▸ shows_monitor pool counter, ?_⟩
    rw [balance]
    omega
  · obtain ⟨hcall, -⟩ := call_single (c := ⟨thread, handle, .enter 1⟩) hvia (.inl rfl)
    have hlt : counter < pool.counters.length :=
      (wellFormed_initial.run calls).handles counter (List.mem_of_getElem? hvia)
    obtain ⟨hcount, hle⟩ := toNat_monitor_run (Nat.lt_of_succ_lt hfits)
    have hroom : (pool.monitor counter).count.toNat + 1 < 2 ^ 32 :=
      hcount ▸ (Nat.succ_le_succ hle).trans_lt hfits
    have hafter : (pool.call ⟨thread, handle, .enter 1⟩).monitor counter =
        (pool.monitor counter).enter := by
      rw [hcall, monitor_onCounter pool hlt, if_pos rfl]
      rfl
    refine ⟨_, shows_monitor pool counter, ?_⟩
    rw [← toNat_enter hroom, ← hafter]
    exact shows_monitor _ counter
  · obtain ⟨hcall, -⟩ := call_single (c := ⟨thread, handle, .leave 1⟩) hvia (.inr rfl)
    obtain ⟨m, hview, hm⟩ := hzero handle hvia
    obtain ⟨m', hview', hm'⟩ := shows_monitor pool counter handle hvia
    have hidle : pool.monitor counter = .idle := by
      rw [hview, Option.some.injEq] at hview'
      exact eq_of_toNat_count (by rw [← hm', ← hview', hm]; rfl)
    rw [hcall, onCounter_congr (g := fun m => m) (by rw [hidle]; rfl), onCounter_id]
  · have hpool : pool.monitor counter = changes.foldl apply .idle :=
      monitor_run_initial calls counter
    rw [hpool, monitor_run_initial, hsame]
  · obtain ⟨hcount, hle⟩ := toNat_monitor_run (Nat.lt_of_le_of_lt (Nat.le_add_right _ _) hfits)
    refine hshuffle.run_eq (lt_of_le_of_lt (Nat.add_le_add_right ?_ _) hfits)
    exact hcount ▸ hle

/-- Two threads and two counters. On the first counter an end that has nothing to end comes first and
a guard is dropped twice, and then the threads take turns; on the second one the thread that ends has
begun before. -/
theorem interleaved_calls_counted_two_threads :
    let calls : List Call := [⟨0, 0, .leave 1⟩, ⟨1, 0, .clone⟩, ⟨1, 1, .track⟩, ⟨0, 0, .fresh⟩,
      ⟨1, 2, .enter 2⟩, ⟨0, 0, .enter 1⟩, ⟨1, 2, .leave 1⟩, ⟨1, 1, .drop 0⟩, ⟨0, 1, .drop 0⟩]
    let trace : List Call :=
      [⟨1, 0, .enter 1⟩, ⟨0, 1, .enter 1⟩, ⟨1, 1, .leave 1⟩, ⟨0, 0, .leave 1⟩]
    let pool := initial.run calls
    (∃ n low, pool.Shows 0 n ∧
      IsLeast {z | ∃ part, part <+: changesOf 0 (initial.log calls) ∧ balance part = z} low ∧
      (n : ℤ) = 0 - low) ∧
    (∃ n, pool.Shows 1 n ∧ (n : ℤ) = 1) ∧ pool.view = [⟨1⟩, ⟨1⟩, ⟨1⟩] ∧
    (∃ n, pool.Shows 0 n ∧ (pool.call ⟨1, 1, .enter 1⟩).Shows 0 (n + 1)) ∧
    pool.run trace = pool.act 0 (.threads 2 1 1) := by
  intro calls trace pool
  have hchanges : changesOf 0 (initial.log calls) = [.leave, .enter, .enter, .leave] := by decide
  have hothers : changesOf 1 (initial.log calls) = [.enter, .enter, .leave] := by decide
  obtain ⟨hfirst, hlater, -, hturns⟩ := interleaved_calls_counted calls 0
  obtain ⟨hsecond, -⟩ := interleaved_calls_counted calls 1
  rw [hchanges] at hfirst hlater hturns
  rw [hothers] at hsecond
  have hbalanced (thread : ℕ) (own : List Change)
      (hown : own <+: changesOf 1 ((initial.log calls).filter (·.thread = thread))) :
      own.count .leave ≤ own.count .enter := by
    by_cases hone : thread = 1
    · subst hone
      have hall : ∀ own ∈ (changesOf 1 ((initial.log calls).filter (·.thread = 1))).inits,
          own.count .leave ≤ own.count .enter := by decide
      exact hall own ((List.mem_inits _ _).2 hown)
    · have hnone : changesOf 1 ((initial.log calls).filter (·.thread = thread)) = [] := by
        have hmarks : ∀ m ∈ initial.log calls, m.counter = 1 → m.thread = 1 := by decide
        rw [changesOf, List.map_eq_nil_iff, List.filter_filter, List.filter_eq_nil_iff]
        intro m hm heq
        simp only [Bool.and_eq_true, decide_eq_true_eq] at heq
        exact hone (heq.2 ▸ hmarks m hm heq.1)
      rw [hnone] at hown
      rw [List.prefix_nil.1 hown]
      rfl
  have hshuffle : pool.IsShuffle 0 2 1 1 trace := ⟨by decide, by decide, by decide⟩
  exact ⟨(hfirst (by decide)).1, (hsecond (by decide)).2 hbalanced, by decide,
    (hlater 1 1 (by decide)).1 (by decide), hturns 2 1 1 trace hshuffle (by decide)⟩

end MonitorPool

end GracefulDrain
