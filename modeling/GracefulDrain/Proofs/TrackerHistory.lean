import GracefulDrain.Drain.ClockedTracker
import GracefulDrain.Proofs.Acknowledgement

namespace GracefulDrain

namespace Tracker

/-- No load balancer has two entries. -/
def Distinct (t : Tracker) : Prop := (t.entries.map Prod.fst).Nodup

theorem map_fst_putEntry (id : String) (a : Ack) (es : List (String × Ack)) :
    (putEntry id a es).map Prod.fst =
      if id ∈ es.map Prod.fst then es.map Prod.fst else es.map Prod.fst ++ [id] := by
  induction es with
  | nil => simp [putEntry]
  | cons e rest ih =>
    obtain ⟨k, old⟩ := e
    by_cases hk : k = id
    · simp [putEntry, hk]
    · have hne : id ≠ k := Ne.symm hk
      rw [putEntry, if_neg hk, List.map_cons, ih]
      by_cases hid : id ∈ rest.map Prod.fst
      · rw [if_pos hid, if_pos (by simpa [hne] using hid), List.map_cons]
      · rw [if_neg hid, if_neg (by simpa [hne] using hid), List.map_cons, List.cons_append]

theorem distinct_empty : empty.Distinct := List.nodup_nil

theorem Distinct.put {t : Tracker} (h : t.Distinct) (id : String) (a : Ack) :
    (t.put id a).Distinct := by
  rw [Distinct, Tracker.put, map_fst_putEntry]
  split
  · exact h
  · next hid => simpa using List.Nodup.concat hid h

theorem Distinct.tell {t : Tracker} (h : t.Distinct) (told : Told) : (t.tell told).Distinct := by
  unfold Tracker.tell
  split
  · exact h.put told.identity .ready
  · exact h.put told.identity _

theorem Distinct.foldl_tell {t : Tracker} (h : t.Distinct) (history : List Told) :
    (history.foldl Tracker.tell t).Distinct := by
  induction history generalizing t with
  | nil => exact h
  | cons told rest ih => exact ih (h.tell told)

theorem mem_map_fst_iff {t : Tracker} {id : String} :
    id ∈ t.entries.map Prod.fst ↔ t.get? id ≠ none := by
  rw [get?, ne_eq, List.lookup_eq_none_iff, List.mem_map]
  constructor
  · rintro ⟨e, hm, rfl⟩ hnone
    simpa using hnone e hm
  · intro h
    by_contra hnone
    exact h fun e hm => by simpa using fun heq => hnone ⟨e, hm, Eq.symm heq⟩

theorem get?_eq_some_iff {t : Tracker} (h : t.Distinct) {id : String} {a : Ack} :
    t.get? id = some a ↔ (id, a) ∈ t.entries := by
  obtain ⟨es⟩ := t
  rw [Distinct] at h
  rw [get?]
  induction es with
  | nil => simp
  | cons e rest ih =>
    obtain ⟨k, b⟩ := e
    obtain ⟨hk, hrest⟩ := List.nodup_cons.1 h
    rw [lookup_cons_ite, List.mem_cons, Prod.mk.injEq]
    by_cases hid : id = k
    · subst hid
      have hnot : (id, a) ∉ rest := fun hm => hk (List.mem_map.2 ⟨_, hm, rfl⟩)
      simp [hnot, eq_comm]
    · simp [hid, ih hrest]

theorem anyActive_iff {t : Tracker} (h : t.Distinct) (now window : Nat) :
    t.anyActive now window = true ↔ ∃ id a, t.get? id = some a ∧ a.active now window = true := by
  rw [anyActive, List.any_eq_true]
  constructor
  · rintro ⟨⟨id, a⟩, hm, hactive⟩
    exact ⟨id, a, (get?_eq_some_iff h).2 hm, hactive⟩
  · rintro ⟨id, a, hget, hactive⟩
    exact ⟨(id, a), (get?_eq_some_iff h).1 hget, hactive⟩

end Tracker

/-- Whoever was told anything has been refused, without interruption, for the whole window. -/
def Told.AllRefused (history : List Told) (window now : Nat) : Prop :=
  ∀ told ∈ history, ∃ since, RefusedSince (heardBy told.identity history) since ∧
    since + window ≤ now

theorem Told.heardBy_eq_nil_iff {history : List Told} {id : String} :
    heardBy id history = [] ↔ id ∉ history.map identity := by
  simp [heardBy]

namespace Tracker
open Told

/-- There is an entry for each load balancer that was told anything. -/
theorem size_foldl_tell (history : List Told) :
    (history.foldl tell empty).size = (history.map identity).toFinset.card := by
  have hdistinct : (history.foldl tell empty).Distinct := distinct_empty.foldl_tell history
  have hkeys : ((history.foldl tell empty).entries.map Prod.fst).toFinset =
      (history.map identity).toFinset := by
    ext id
    rw [List.mem_toFinset, List.mem_toFinset, mem_map_fst_iff, get?_foldl_tell, get?_empty]
    rw [ne_eq, foldl_next_eq_none_iff, heardBy_eq_nil_iff, not_not]
  rw [← hkeys, List.toFinset_card_of_nodup hdistinct, List.length_map, size]

/-- The entries are what each load balancer was told itself: nothing, "ready" at last, or "not ready"
since the reading of the first refusal that followed. -/
structure Summarises (t : Tracker) (history : List Told) : Prop where
  unknown (id : String) : t.get? id = none ↔ heardBy id history = []
  ready (id : String) : t.get? id = some .ready ↔
    ∃ last, (heardBy id history).getLast? = some last ∧ last.verdict = .ready
  refused (id : String) (since : Nat) :
    t.get? id = some (.notReady since) ↔ RefusedSince (heardBy id history) since
  size : t.size = (history.map identity).toFinset.card
  active (now window : Nat) : t.anyActive now window = true ↔
    ∃ id, t.get? id = some .ready ∨
      ∃ since, t.get? id = some (.notReady since) ∧ now - since < window

theorem summarises_foldl_tell (history : List Told) :
    (history.foldl tell empty).Summarises history := by
  have hget (id : String) : (history.foldl tell empty).get? id =
      (heardBy id history).foldl Ack.next none := by
    rw [get?_foldl_tell, get?_empty]
  refine ⟨fun id => ?_, fun id => ?_, fun id since => ?_, size_foldl_tell history,
    fun now window => ?_⟩
  · rw [hget, foldl_next_eq_none_iff]
  · rw [hget, foldl_next_eq_ready_iff]
  · rw [hget, foldl_next_eq_notReady_iff]
  · rw [anyActive_iff (distinct_empty.foldl_tell history)]
    refine exists_congr fun id => ?_
    constructor
    · rintro ⟨a, ha, hactive⟩
      cases a with
      | ready => exact .inl ha
      | notReady since => exact .inr ⟨since, ha, of_decide_eq_true hactive⟩
    · rintro (hready | ⟨since, hsince, hlt⟩)
      · exact ⟨.ready, hready, rfl⟩
      · exact ⟨.notReady since, hsince, decide_eq_true hlt⟩

/-- None is active exactly if everyone who was told anything has been refused for the window. -/
theorem anyActive_foldl_tell_eq_false_iff {history : List Told} {now window : Nat}
    (hw : 0 < window) :
    (history.foldl tell empty).anyActive now window = false ↔ AllRefused history window now := by
  constructor
  · intro hidle told hm
    obtain ⟨since, -, hrefused, hle⟩ := refusedSince_of_not_active hw hidle (heardBy_ne_nil hm)
    exact ⟨since, hrefused, hle⟩
  · intro hall
    have hsummary := summarises_foldl_tell history
    rw [← Bool.not_eq_true, hsummary.active]
    rintro ⟨id, hactive⟩
    have hknown : (history.foldl tell empty).get? id ≠ none := by
      rcases hactive with hready | ⟨since, hsince, -⟩
      · simp [hready]
      · simp [hsince]
    obtain ⟨told, hm⟩ := List.exists_mem_of_ne_nil _ (mt (hsummary.unknown id).2 hknown)
    obtain ⟨hm, hid⟩ := List.mem_filter.1 hm
    obtain ⟨since, hrefused, hle⟩ := hall told hm
    have hentry := (hsummary.refused id since).2 (of_decide_eq_true hid ▸ hrefused)
    rcases hactive with hready | ⟨since', hsince', hlt⟩
    · rw [hready] at hentry
      cases hentry
    · obtain rfl : since' = since := Ack.notReady.inj (Option.some.inj (hsince'.symm.trans hentry))
      omega

end Tracker

namespace ClockedTracker
open Told

def run (s : ClockedTracker) (actions : List Action) : ClockedTracker := actions.foldl act s

/-- The clock after an action. Only its own movements move it, and none beyond the horizon. -/
def Action.move (clock : ManualClock) : Action → ManualClock
  | advance d => (clock.advance? d).getD clock
  | set instant => clock.set instant
  | noteReady _ _ | noteNotReady _ _ => clock

/-- What an action tells a load balancer; deployment tools are none. -/
def Action.tells (clock : ManualClock) : Action → List Told
  | noteReady id false => [⟨id, .ready, clock.now⟩]
  | noteNotReady id false => [⟨id, .unavailable, clock.now⟩]
  | _ => []

/-- All that load balancers were told while the clock was moved, in order. -/
def told (clock : ManualClock) : List Action → List Told
  | [] => []
  | a :: rest => a.tells clock ++ told (a.move clock) rest

theorem clock_act (s : ClockedTracker) (a : Action) : (s.act a).clock = a.move s.clock := by
  cases a with
  | noteReady | noteNotReady | set => rfl
  | advance d =>
    rw [act, act?, Action.move]
    cases s.clock.advance? d <;> rfl

theorem tracker_act (s : ClockedTracker) (a : Action) :
    (s.act a).tracker = (a.tells s.clock).foldl Tracker.tell s.tracker := by
  cases a with
  | noteReady id deployer | noteNotReady id deployer => cases deployer <;> rfl
  | set => rfl
  | advance d =>
    rw [act, act?]
    cases s.clock.advance? d <;> rfl

theorem tracker_run (s : ClockedTracker) (actions : List Action) :
    (s.run actions).tracker = (told s.clock actions).foldl Tracker.tell s.tracker := by
  induction actions generalizing s with
  | nil => rfl
  | cons a rest ih =>
    have hrest : (s.run (a :: rest)).tracker = ((s.act a).run rest).tracker := rfl
    rw [hrest, ih, clock_act, tracker_act, told, List.foldl_append]

theorem run_append (s : ClockedTracker) (actions rest : List Action) :
    s.run (actions ++ rest) = (s.run actions).run rest := by
  simp [run]

theorem act_advance_of_none {s : ClockedTracker} {d : Nat} (h : s.clock.advance? d = none) :
    s.act (.advance d) = s := by
  rw [act, act?, h]
  rfl

/-- After any actions the tracker is the history of its probes, so that an entry depends on nothing
but what its own load balancer was told. A movement of the clock that is refused might as well not
have been tried. -/
theorem summarises_run (clock : ManualClock) (actions : List Action) :
    let s := run ⟨.empty, clock⟩ actions
    s.tracker.Summarises (told clock actions) ∧
    (∀ clock' actions' id,
      heardBy id (told clock actions) = heardBy id (told clock' actions') →
        s.tracker.get? id = (run ⟨.empty, clock'⟩ actions').tracker.get? id) ∧
    ∀ before d after, actions = before ++ .advance d :: after →
      (run ⟨.empty, clock⟩ before).clock.advance? d = none →
        s = run ⟨.empty, clock⟩ (before ++ after) := by
  intro s
  refine ⟨?_, fun clock' actions' id hsame => ?_, ?_⟩
  · rw [show s.tracker = _ from tracker_run ⟨.empty, clock⟩ actions]
    exact Tracker.summarises_foldl_tell _
  · rw [show s.tracker = _ from tracker_run ⟨.empty, clock⟩ actions, tracker_run]
    rw [Tracker.get?_foldl_tell, Tracker.get?_foldl_tell, hsame]
  · rintro before d after rfl hnone
    have hskip : s = ((run ⟨.empty, clock⟩ before).act (.advance d)).run after :=
      run_append ⟨.empty, clock⟩ before (.advance d :: after)
    rw [hskip, act_advance_of_none hnone, run_append]

/-- A load balancer is told "ready" again, and the clock goes back; the next refusal counts. -/
theorem summarises_run_clock_back :
    let before : List Action := [.advance 5, .noteNotReady "lb" false, .set 3]
    let after : List Action := [.noteReady "lb" false, .noteNotReady "lb" true, .advance 1,
      .noteNotReady "lb" false, .set 0, .noteNotReady "lb" false]
    let start : ClockedTracker := ⟨.empty, ⟨0⟩⟩
    let s := run start (before ++ .advance ManualClock.horizon :: after)
    (run start before).clock.advance? ManualClock.horizon = none ∧
      s = run start (before ++ after) ∧ s.tracker.get? "lb" = some (.notReady 4) ∧
      s.tracker.size = 1 := by
  intro before after start s
  have hnone : (run start before).clock.advance? ManualClock.horizon = none := by decide
  obtain ⟨hsummary, -, hskip⟩ :=
    summarises_run ⟨0⟩ (before ++ .advance ManualClock.horizon :: after)
  refine ⟨hnone, hskip before _ after rfl hnone, (hsummary.refused "lb" 4).2 ?_, ?_⟩
  · refine ⟨[⟨"lb", .unavailable, 5⟩, ⟨"lb", .ready, 3⟩], ⟨"lb", .unavailable, 4⟩,
      [⟨"lb", .unavailable, 0⟩], by decide, rfl, by decide, by decide⟩
  · rw [hsummary.size]
    decide

end ClockedTracker

end GracefulDrain
