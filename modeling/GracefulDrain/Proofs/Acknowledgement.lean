import Mathlib
import GracefulDrain.Drain.Probe
import GracefulDrain.Drain.Tracker

namespace GracefulDrain

/-- An answer to a load balancer, given at a clock reading. -/
structure Told where
  identity : String
  verdict : Verdict
  reading : Nat
  deriving DecidableEq, Repr

/-- The entry after one more answer. -/
def Ack.next (a : Option Ack) (told : Told) : Option Ack :=
  match told.verdict with
  | .ready => some .ready
  | .unavailable => some (noteNotReady told.reading a)

/-- The entry after nothing but refusals: the first of them counts, unless one came before. -/
def Ack.refusedBy (a : Option Ack) (first : Option Told) : Option Ack :=
  match a, first with
  | some (.notReady since), _ => some (.notReady since)
  | _, some told => some (.notReady told.reading)
  | a, none => a

def Tracker.tell (t : Tracker) (told : Told) : Tracker :=
  match told.verdict with
  | .ready => t.noteReady told.identity false
  | .unavailable => t.noteNotReady told.reading told.identity false

namespace Told

/-- What was said to one load balancer. -/
def heardBy (id : String) (history : List Told) : List Told :=
  history.filter (·.identity = id)

theorem heardBy_append (id : String) (history later : List Told) :
    heardBy id (history ++ later) = heardBy id history ++ heardBy id later :=
  List.filter_append ..

theorem heardBy_ne_nil {history : List Told} {told : Told} (h : told ∈ history) :
    heardBy told.identity history ≠ [] :=
  List.ne_nil_of_mem (List.mem_filter.2 ⟨h, decide_eq_true rfl⟩)

/-- "Not ready" was said last, and without interruption since the reading. -/
def RefusedSince (history : List Told) (since : Nat) : Prop :=
  ∃ before first after, history = before ++ first :: after ∧ first.reading = since ∧
    (∀ told ∈ before.getLast?, told.verdict = .ready) ∧
    ∀ told ∈ first :: after, told.verdict = .unavailable

theorem RefusedSince.concat {history : List Told} {since : Nat} (h : RefusedSince history since)
    {told : Told} (ht : told.verdict = .unavailable) : RefusedSince (history ++ [told]) since := by
  obtain ⟨before, first, after, rfl, hsince, hbefore, hafter⟩ := h
  refine ⟨before, first, after ++ [told], by simp, hsince, hbefore, ?_⟩
  intro x hx
  rw [← List.cons_append, List.mem_append, List.mem_singleton] at hx
  rcases hx with hx | rfl
  · exact hafter x hx
  · exact ht

theorem foldl_next_eq_ready {history : List Told}
    (h : history.foldl Ack.next none = some .ready) :
    ∃ told, history.getLast? = some told ∧ told.verdict = .ready := by
  induction history using List.reverseRecOn with
  | nil => simp at h
  | append_singleton history told _ =>
    refine ⟨told, by simp, ?_⟩
    rw [List.foldl_concat] at h
    cases hv : told.verdict with
    | ready => rfl
    | unavailable =>
      simp only [Ack.next, hv, Option.some.injEq] at h
      unfold Ack.noteNotReady at h
      split at h <;> cases h

theorem foldl_next_eq_none {history : List Told} (h : history.foldl Ack.next none = none) :
    history = [] := by
  induction history using List.reverseRecOn with
  | nil => rfl
  | append_singleton history told _ =>
    rw [List.foldl_concat, Ack.next] at h
    split at h <;> cases h

theorem refusedSince_of_foldl_next {history : List Told} {since : Nat}
    (h : history.foldl Ack.next none = some (.notReady since)) : RefusedSince history since := by
  induction history using List.reverseRecOn with
  | nil => simp at h
  | append_singleton history told ih =>
    rw [List.foldl_concat] at h
    cases hv : told.verdict with
    | ready => simp [Ack.next, hv] at h
    | unavailable =>
      simp only [Ack.next, hv, Option.some.injEq] at h
      cases hl : history.foldl Ack.next none with
      | none =>
        simp only [hl, Ack.noteNotReady, Ack.notReady.injEq] at h
        rw [foldl_next_eq_none hl]
        exact ⟨[], told, [], rfl, h, by simp, by simp [hv]⟩
      | some a =>
        cases a with
        | ready =>
          obtain ⟨last, hlast, hready⟩ := foldl_next_eq_ready hl
          simp only [hl, Ack.noteNotReady, Ack.notReady.injEq] at h
          exact ⟨history, told, [], rfl, h, by simp [hlast, hready], by simp [hv]⟩
        | notReady before =>
          simp only [hl, Ack.noteNotReady, Ack.notReady.injEq] at h
          exact (ih (h ▸ hl)).concat hv

theorem foldl_next_eq_none_iff {history : List Told} :
    history.foldl Ack.next none = none ↔ history = [] := by
  constructor
  · exact foldl_next_eq_none
  · rintro rfl
    rfl

theorem foldl_next_eq_ready_iff {history : List Told} :
    history.foldl Ack.next none = some .ready ↔
      ∃ last, history.getLast? = some last ∧ last.verdict = .ready := by
  constructor
  · exact foldl_next_eq_ready
  · rintro ⟨last, hlast, hready⟩
    obtain ⟨before, rfl⟩ := List.getLast?_eq_some_iff.1 hlast
    rw [List.foldl_concat, Ack.next, hready]

theorem foldl_next_of_unavailable {history : List Told} (since : Nat)
    (h : ∀ told ∈ history, told.verdict = .unavailable) :
    history.foldl Ack.next (some (.notReady since)) = some (.notReady since) := by
  induction history with
  | nil => rfl
  | cons told rest ih =>
    have hfirst : Ack.next (some (.notReady since)) told = some (.notReady since) := by
      rw [Ack.next, h told List.mem_cons_self, Ack.noteNotReady]
    rw [List.foldl_cons, hfirst]
    exact ih fun told hm => h told (List.mem_cons_of_mem _ hm)

theorem foldl_next_eq_refusedBy {history : List Told} (a : Option Ack)
    (h : ∀ told ∈ history, told.verdict = .unavailable) :
    history.foldl Ack.next a = Ack.refusedBy a history.head? := by
  cases history with
  | nil => rcases a with _ | _ | since <;> rfl
  | cons first rest =>
    have hfirst : first.verdict = .unavailable := h first List.mem_cons_self
    have hrest : ∀ told ∈ rest, told.verdict = .unavailable :=
      fun told hm => h told (List.mem_cons_of_mem _ hm)
    rw [List.foldl_cons, Ack.next, hfirst]
    rcases a with _ | _ | since <;> exact foldl_next_of_unavailable _ hrest

/-- A refusal that follows nothing or "ready" is noted with its own reading. -/
theorem noteNotReady_foldl_next {history : List Told} (now : Nat)
    (h : ∀ told ∈ history.getLast?, told.verdict = .ready) :
    Ack.noteNotReady now (history.foldl Ack.next none) = .notReady now := by
  induction history using List.reverseRecOn with
  | nil => rfl
  | append_singleton history told _ =>
    have hready : told.verdict = .ready := h told (by simp)
    rw [List.foldl_concat, Ack.next, hready, Ack.noteNotReady]
    rintro since ⟨⟩

theorem foldl_next_eq_notReady_iff {history : List Told} {since : Nat} :
    history.foldl Ack.next none = some (.notReady since) ↔ RefusedSince history since := by
  constructor
  · exact refusedSince_of_foldl_next
  · rintro ⟨before, first, after, rfl, rfl, hbefore, hafter⟩
    have hfirst : first.verdict = .unavailable := hafter first List.mem_cons_self
    rw [List.foldl_append, List.foldl_cons, Ack.next, hfirst]
    rw [noteNotReady_foldl_next first.reading hbefore]
    exact foldl_next_of_unavailable _ fun told hm => hafter told (List.mem_cons_of_mem _ hm)

end Told

namespace Tracker
open Told

theorem get?_tell (t : Tracker) (told : Told) (id : String) :
    (t.tell told).get? id =
      if told.identity = id then Ack.next (t.get? id) told else t.get? id := by
  unfold tell Ack.next
  split
  · rw [get?_noteReady]
    split <;> split <;> simp_all
  · rw [get?_noteNotReady]
    split <;> split <;> simp_all

/-- The entry of a load balancer depends only on what it was told itself. -/
theorem get?_foldl_tell (t : Tracker) (history : List Told) (id : String) :
    (history.foldl tell t).get? id = (heardBy id history).foldl Ack.next (t.get? id) := by
  induction history generalizing t with
  | nil => rfl
  | cons told rest ih =>
    rw [List.foldl_cons, ih, get?_tell, heardBy, heardBy, List.filter_cons]
    split <;> simp_all

theorem active_of_get? {t : Tracker} {id : String} {a : Ack} {now window : Nat}
    (h : t.get? id = some a) (hq : t.anyActive now window = false) :
    a.active now window = false := by
  obtain ⟨before, after, hentries, _⟩ := List.lookup_eq_some_iff.1 h
  have hall := List.any_eq_false.1 hq (id, a) (by simp [hentries])
  simpa using hall

/-- When no entry is active, whoever was told anything has been refused for the whole window. -/
theorem refusedSince_of_not_active {history : List Told} {now window : Nat} (hw : 0 < window)
    (hq : (history.foldl tell empty).anyActive now window = false) {id : String}
    (hid : heardBy id history ≠ []) :
    ∃ since, (history.foldl tell empty).get? id = some (.notReady since) ∧
      RefusedSince (heardBy id history) since ∧ since + window ≤ now := by
  have hget := get?_foldl_tell empty history id
  rw [get?_empty] at hget
  cases hl : (heardBy id history).foldl Ack.next none with
  | none => exact absurd (foldl_next_eq_none hl) hid
  | some a =>
    have ha := active_of_get? (hget.trans hl) hq
    cases a with
    | ready => simp [Ack.active] at ha
    | notReady since =>
      refine ⟨since, hget.trans hl, refusedSince_of_foldl_next hl, ?_⟩
      simp only [Ack.active, decide_eq_false_iff_not] at ha
      omega

end Tracker

end GracefulDrain
