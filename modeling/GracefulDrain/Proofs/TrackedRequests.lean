import GracefulDrain.Proofs.LateStart
import GracefulDrain.Proofs.ServiceSteps

namespace GracefulDrain

namespace Lifecycle

/-- What an event does to the service's own monitor. -/
def Event.onOwn (e : Event) (m : Monitor) : Monitor :=
  match e with
  | enter 0 times => m.enterTimes times
  | leave 0 times => m.leaveTimes times
  | _ => m

theorem own_step {s : Lifecycle} (h : s.monitors ≠ []) (e : Event) :
    (s.step e).monitors ≠ [] ∧ (s.step e).monitor ownMonitor = e.onOwn (s.monitor ownMonitor) := by
  obtain ⟨own, others, hms⟩ := List.exists_cons_of_ne_nil h
  rw [monitor, monitor, monitors_step, hms]
  cases e with
  | enter i times | leave i times => cases i <;> exact ⟨by simp [Event.onMonitors], rfl⟩
  | addMonitor m => exact ⟨by simp [Event.onMonitors], rfl⟩
  | _ => exact ⟨List.cons_ne_nil _ _, rfl⟩

theorem own_run {s : Lifecycle} (h : s.monitors ≠ []) (events : List Event) :
    (s.run events).monitors ≠ [] ∧ (s.run events).monitor ownMonitor =
      events.foldl (fun m e => e.onOwn m) (s.monitor ownMonitor) := by
  induction events generalizing s with
  | nil => exact ⟨h, rfl⟩
  | cons e rest ih =>
    obtain ⟨hne, hown⟩ := own_step h e
    rw [run_cons, List.foldl_cons, ← hown]
    exact ih hne

variable {s : Lifecycle} {c : Coordinator} {id instant : Nat}

theorem ended_quiet_of_silent (hp : s.policy = .drain c) (hbusy : (s.observe c).inflight ≠ 0)
    {moves : List Move} (hsilent : Silent moves)
    (h : (s.follow moves).stops[id]? = some (.ended instant .quiet)) :
    s.stops[id]? = some (.ended instant .quiet) := by
  by_contra hbefore
  obtain ⟨past, rest, rfl, c₁, begun, reading, looks, hp₁, -, -, hsettle⟩ :=
    exists_wake_of_ended hp hbefore h
  obtain ⟨c₂, hp₂, hinflight⟩ := inflight_follow_of_silent hp hsilent.of_append
  obtain rfl : c₁ = c₂ := Policy.drain.inj (hp₁.symm.trans hp₂)
  rcases (settle_eq_ended hsettle).2 with ⟨-, hquiet⟩ | hlate
  · simp only [Observation.isQuiet, Bool.and_eq_true, decide_eq_true_eq] at hquiet
    exact hbusy (hinflight ▸ hquiet.1)
  · cases hlate

/-- While requests are in flight on the attached monitor, no event ends a stop in quiet. -/
theorem ended_quiet_of_busy (hp : s.policy = .drain c) (hbusy : (s.observe c).inflight ≠ 0)
    (e : Event) (h : (s.step e).stops[id]? = some (.ended instant .quiet)) :
    s.stops[id]? = some (.ended instant .quiet) := by
  cases e with
  | start | probe => simpa [step, start, probe, hp] using h
  | enter | leave | addMonitor => exact h
  | advanceClock | setClock => simpa [step] using h
  | stop =>
    obtain ⟨ids, hids⟩ := exists_settle s.beginStop
    rw [step, stop_eq, hids] at h
    obtain ⟨hbegun, -, -⟩ := beginStop_waiting hp
    have hsame : (s.beginStop.observe c.beginStop).inflight = (s.observe c).inflight := by
      simp [observe, beginStop, hp, monitor, Coordinator.beginStop]
    have hquiet := ended_quiet_of_silent hbegun (hsame ▸ hbusy) (silent_wakes ids) h
    simp only [beginStop, hp] at hquiet
    rw [List.getElem?_append] at hquiet
    split at hquiet
    · exact hquiet
    · simp [List.getElem?_singleton] at hquiet
  | elapseTo instant =>
    obtain ⟨moves, hstep, houtward⟩ := exists_step s (.elapseTo instant)
    exact ended_quiet_of_silent hp hbusy houtward (hstep ▸ h)
  | join other =>
    obtain ⟨moves, hstep, houtward⟩ := exists_step s (.join other)
    exact ended_quiet_of_silent hp hbusy houtward (hstep ▸ h)

/-- Stops begin and end only with these events. -/
def Event.isStirring : Event → Bool
  | stop | elapseTo _ | join _ => true
  | _ => false

theorem stops_step_of_still (s : Lifecycle) {e : Event} (h : e.isStirring = false) :
    (s.step e).stops = s.stops := by
  cases e with
  | start | probe =>
    simp only [step, start, probe]
    split <;> rfl
  | enter | leave | addMonitor => rfl
  | advanceClock | setClock => simp only [step, onClock_getD]
  | stop | elapseTo | join => cases h

theorem stops_run_of_still (s : Lifecycle) {events : List Event}
    (h : ∀ e ∈ events, e.isStirring = false) : (s.run events).stops = s.stops := by
  induction events generalizing s with
  | nil => rfl
  | cons e rest ih =>
    rw [run_cons, ih _ fun e' he => h e' (List.mem_cons_of_mem _ he),
      stops_step_of_still s (h e List.mem_cons_self)]

end Lifecycle

namespace Service
open Routing Lifecycle

/-- The requests of a run so far. -/
structure Tally where
  /-- How many were begun and ended by hand. -/
  begun : Nat
  ended : Nat
  /-- How many were opened, and which of them were neither released nor crashed nor cancelled. -/
  opened : Nat
  running : List Nat
  /-- Whether any request was sent or opened. -/
  tracked : Bool
  deriving DecidableEq, Repr

namespace Tally

def empty : Tally := ⟨0, 0, 0, [], false⟩

def add (a : Tally) : Step → Tally
  | .enter times => { a with begun := a.begun + times }
  | .leave times => { a with ended := a.ended + times }
  | .request _ => { a with tracked := true }
  | .openRequest =>
    { a with opened := a.opened + 1, running := a.running ++ [a.opened], tracked := true }
  | .release id | .crash id | .cancel id => { a with running := a.running.erase id }
  | _ => a

def outstanding (a : Tally) : Nat := a.begun - a.ended + a.running.length

/-- How many requests come and go with a step. -/
def passing : Step → Nat
  | .request _ => 1
  | _ => 0

/-- No more is ended by hand than was begun, and what is outstanding fits the monitor's word. A
request that is answered at once is outstanding in between. -/
def Fits (a : Tally) (step : Step) : Prop :=
  (a.add step).ended ≤ (a.add step).begun ∧ (a.add step).outstanding + passing step < 2 ^ 32

instance (a : Tally) (step : Step) : Decidable (a.Fits step) :=
  inferInstanceAs (Decidable (_ ∧ _))

/-- At every point of the run. -/
def Fair : Tally → List TimedStep → Prop
  | _, [] => True
  | a, t :: rest => a.Fits t.step ∧ (a.add t.step).Fair rest

instance decidableFair : (a : Tally) → (steps : List TimedStep) → Decidable (a.Fair steps)
  | _, [] => .isTrue trivial
  | a, t :: rest =>
    have := decidableFair (a.add t.step) rest
    inferInstanceAs (Decidable (_ ∧ _))

/-- The tally after more steps. -/
def after (a : Tally) (steps : List TimedStep) : Tally := steps.foldl (fun a t => a.add t.step) a

theorem Fair.of_append {a : Tally} {steps rest : List TimedStep} (h : a.Fair (steps ++ rest)) :
    a.Fair steps ∧ (a.after steps).Fair rest := by
  induction steps generalizing a with
  | nil => exact ⟨trivial, h⟩
  | cons t later ih =>
    obtain ⟨hlater, hrest⟩ := ih h.2
    exact ⟨⟨h.1, hlater⟩, hrest⟩

end Tally

def tally (steps : List TimedStep) : Tally := Tally.empty.after steps

/-- The tally has the open requests right, and so has the gauge. -/
structure Gauged (s : Service) (a : Tally) : Prop where
  length : s.opened.length = a.opened
  running : ∀ id, s.opened[id]? = some .running ↔ id ∈ a.running
  nodup : a.running.Nodup
  untracked : a.tracked = false → a.running = []
  gauge : s.metrics.inflight = if a.tracked then some a.running.length else none

variable {s : Service} {a : Tally}

theorem Gauged.getD_inflight (h : s.Gauged a) : s.metrics.inflight.getD 0 = a.running.length := by
  rw [h.gauge]
  cases ha : a.tracked with
  | false => rw [h.untracked ha]; rfl
  | true => rfl

theorem Gauged.of_eq (h : s.Gauged a) {s' : Service} (hopened : s'.opened = s.opened)
    (hgauge : s'.metrics.inflight = s.metrics.inflight) : s'.Gauged a :=
  ⟨by rw [hopened, h.length], by rw [hopened]; exact h.running, h.nodup, h.untracked,
    by rw [hgauge, h.gauge]⟩

theorem inflight_route (s : Service) (t : Table Handler) (r : Http.Request) :
    (s.route t r).2.metrics.inflight = s.metrics.inflight := by
  rw [route_snd]
  cases probed? t r <;> rfl

theorem Gauged.openRequest (h : s.Gauged a) :
    (s.step .openRequest).2.Gauged (a.add .openRequest) := by
  have hnew : a.opened ∉ a.running := fun hm => by
    have hlt := (List.getElem?_eq_some_iff.1 ((h.running _).2 hm)).1
    exact absurd h.length hlt.ne'
  constructor
  · simp [Service.step, Tally.add, h.length]
  · intro id
    simp only [Service.step, Tally.add, List.mem_append, List.mem_singleton, ← h.running,
      List.getElem?_append, List.getElem?_singleton, ← h.length]
    split
    · next hlt => simp [hlt.ne]
    · next hge =>
      rw [List.getElem?_eq_none (not_lt.1 hge)]
      simp
      omega
  · simpa [Tally.add] using h.nodup.concat hnew
  · simp [Tally.add]
  · simp [Service.step, beginRequest, Metrics.beginRequest, Tally.add, h.getD_inflight]

theorem Gauged.close (h : s.Gauged a) (id : Nat) (result : Result) :
    (s.close id result).2.Gauged { a with running := a.running.erase id } := by
  unfold Service.close
  by_cases hid : s.opened[id]? = some .running
  · have hmem := (h.running id).1 hid
    have htracked : a.tracked = true := by
      by_contra hnot
      simp [h.untracked (by simpa using hnot)] at hmem
    simp only [hid]
    constructor
    · simp [h.length]
    · intro other
      rw [h.nodup.mem_erase_iff, ← h.running, List.getElem?_set]
      split
      · next heq => simp [heq]
      · next hne => simp [Ne.symm hne]
    · exact h.nodup.erase id
    · simp [htracked]
    · simp [endRequest, Metrics.endRequest, h.gauge, htracked, List.length_erase_of_mem hmem]
  · have hmem := mt (h.running id).2 hid
    rw [List.erase_of_not_mem hmem]
    split
    · next heq => exact absurd heq hid
    · exact h

theorem Gauged.step (h : s.Gauged a) (step : Step) : (s.step step).2.Gauged (a.add step) := by
  cases step with
  | openRequest => exact h.openRequest
  | release id | crash id | cancel id => exact h.close id _
  | request r =>
    have hopened := opened_step s (.request r)
    have hgauge : (s.step (.request r)).2.metrics.inflight = some a.running.length := by
      change (s.serve r).2.metrics.inflight = _
      rw [serve_snd]
      simp [endRequest, Metrics.endRequest, inflight_route, beginRequest, Metrics.beginRequest,
        h.getD_inflight]
    exact ⟨hopened ▸ h.length, hopened ▸ h.running, h.nodup, nofun, hgauge⟩
  | mountedRequest r =>
    refine h.of_eq (opened_step s _) ?_
    simp only [Service.step]
    split
    · rfl
    · exact inflight_route s _ r
  | join | advanceClock | setClock =>
    refine h.of_eq (opened_step s _) ?_
    simp only [Service.step]
    split <;> rfl
  | wait | start | startOther | enter | leave | probe | stop | metrics =>
    exact ⟨h.length, h.running, h.nodup, h.untracked, h.gauge⟩

theorem Gauged.elapseTo (h : s.Gauged a) (instant : Option Nat) :
    (s.elapseTo instant).Gauged a := by
  cases instant <;> exact ⟨h.length, h.running, h.nodup, h.untracked, h.gauge⟩

theorem Gauged.run (h : s.Gauged a) (steps : List TimedStep) :
    (s.run steps).Gauged (a.after steps) := by
  induction steps generalizing s a with
  | nil => exact h
  | cons t rest ih => exact ih ((h.elapseTo t.instant).step t.step)

/-- The service's own monitor counts what is outstanding. -/
structure Balanced (s : Service) (a : Tally) : Prop where
  monitors : s.lifecycle.monitors ≠ []
  ended_le : a.ended ≤ a.begun
  count : s.inflight = a.outstanding

theorem foldl_onOwn_probes (origin? : Option Origin) (m : Monitor) :
    (probes origin?).foldl (fun m e => e.onOwn m) m = m := by
  cases origin? <;> rfl

theorem Balanced.step (h : s.Balanced a) (hgauged : s.Gauged a) {step : Step}
    (hfits : a.Fits step) : (s.step step).2.Balanced (a.add step) := by
  obtain ⟨hle, hfits⟩ := hfits
  obtain ⟨hmonitors, hown⟩ := own_run h.monitors (s.events step)
  rw [← lifecycle_step] at hmonitors hown
  refine ⟨hmonitors, hle, ?_⟩
  have hcount := h.count
  have hended := h.ended_le
  rw [inflight] at hcount ⊢
  rw [hown]
  generalize s.lifecycle.monitor ownMonitor = own at hcount ⊢
  simp only [Tally.outstanding] at hcount hfits ⊢
  cases step with
  | enter times =>
    simp only [Tally.add, Tally.passing] at hfits ⊢
    have hsum : own.count.toNat + times < 2 ^ 32 := by omega
    have hnext := Monitor.toNat_enterTimes own hsum
    simp only [events, List.foldl_cons, List.foldl_nil, Event.onOwn, ownMonitor]
    omega
  | leave times =>
    simp only [Tally.add] at hle ⊢
    have hnext := Monitor.toNat_leaveTimes own times
    simp only [events, List.foldl_cons, List.foldl_nil, Event.onOwn, ownMonitor]
    omega
  | request r =>
    simp only [Tally.add, Tally.passing] at hfits ⊢
    have hsum : own.count.toNat + 1 < 2 ^ 32 := by omega
    have hnext := Monitor.toNat_enterTimes own hsum
    have hlast := Monitor.toNat_leaveTimes (own.enterTimes 1) 1
    simp only [events, List.cons_append, List.foldl_cons, List.foldl_append, foldl_onOwn_probes]
    simp only [List.foldl_nil, Event.onOwn, ownMonitor]
    omega
  | openRequest =>
    simp only [Tally.add, Tally.passing, List.length_append, List.length_singleton] at hfits ⊢
    have hsum : own.count.toNat + 1 < 2 ^ 32 := by omega
    have hnext := Monitor.toNat_enterTimes own hsum
    simp only [events, List.foldl_cons, List.foldl_nil, Event.onOwn, ownMonitor]
    omega
  | release id | crash id | cancel id =>
    simp only [Tally.add, events]
    by_cases hid : s.opened[id]? = some .running
    · have hlength := List.length_erase_of_mem ((hgauged.running id).1 hid)
      have hpos := List.length_pos_of_mem ((hgauged.running id).1 hid)
      have hnext := Monitor.toNat_leaveTimes own 1
      simp only [if_pos hid, List.foldl_cons, List.foldl_nil, Event.onOwn, ownMonitor]
      omega
    · rw [if_neg hid, List.erase_of_not_mem (mt (hgauged.running id).2 hid)]
      exact hcount
  | mountedRequest r =>
    simp only [events, foldl_onOwn_probes]
    exact hcount
  | wait | start | startOther | probe | stop | join | advanceClock | setClock | metrics =>
    exact hcount

theorem Balanced.elapseTo (h : s.Balanced a) (instant : Option Nat) :
    (s.elapseTo instant).Balanced a := by
  refine ⟨?_, h.ended_le, (inflight_elapseTo s instant).trans h.count⟩
  rw [lifecycle_elapseTo]
  exact (own_run h.monitors _).1

theorem Balanced.run (h : s.Balanced a) (hgauged : s.Gauged a) {steps : List TimedStep}
    (hfair : a.Fair steps) : (s.run steps).Balanced (a.after steps) := by
  induction steps generalizing s a with
  | nil => exact h
  | cons t rest ih =>
    have hgauged' := hgauged.elapseTo t.instant
    exact ih ((h.elapseTo t.instant).step hgauged' hfair.1) (hgauged'.step t.step) hfair.2

/-- The liveness report when so many requests are in flight. -/
def report (inflight : Nat) (policy : Policy) : String :=
  "\x7b\"code\":0,\"data\":\x7b\"inflight\":" ++ toString inflight ++
    ",\"phase\":\"" ++ policy.phase.name ++ "\",\"policy\":\"" ++ policy.name ++
    "\",\"status\":\"healthy\",\"version\":\"" ++ version ++
    "\"\x7d,\"message\":\"success\"\x7d"

theorem livenessText_eq (s : Service) : s.livenessText = report s.inflight s.lifecycle.policy := rfl

theorem step_liveness (hmonitors : s.lifecycle.monitors ≠ []) (hcount : s.inflight + 1 < 2 ^ 32)
    {r : Http.Request} {captures : List (String × List Char)}
    (h : s.routes.dispatch r.method r.uri.path = .handler .liveness captures) :
    (s.step (.request r)).1 = .response
      ((Http.Response.json (report (s.inflight + 1) s.lifecycle.policy)).forMethod r.method) := by
  have hown : s.beginRequest.inflight = s.inflight + 1 := by
    rw [inflight, beginRequest, (own_step hmonitors _).2]
    exact Monitor.toNat_enterTimes _ hcount
  simp only [Service.step, serve, route, h, Service.handle, livenessText_eq, hown]
  rfl

variable {c : Coordinator} {id instant : Nat}

theorem ended_quiet_step (hp : s.lifecycle.policy = .drain c)
    (hbusy : (s.lifecycle.observe c).inflight ≠ 0) {step : Step}
    (h : (s.step step).2.lifecycle.stops[id]? = some (.ended instant .quiet)) :
    s.lifecycle.stops[id]? = some (.ended instant .quiet) := by
  rw [lifecycle_step] at h
  have still (hstill : ∀ e ∈ s.events step, e.isStirring = false) :
      s.lifecycle.stops[id]? = some (.ended instant .quiet) :=
    stops_run_of_still s.lifecycle hstill ▸ h
  have hprobes (origin? : Option Origin) (e : Event) (he : e ∈ probes origin?) :
      e.isStirring = false := by
    obtain ⟨origin, -, rfl⟩ := List.mem_map.1 he
    rfl
  cases step with
  | stop => exact ended_quiet_of_busy hp hbusy .stop h
  | join other => exact ended_quiet_of_busy hp hbusy (.join other) h
  | wait | metrics | start | startOther | enter | leave | probe | openRequest | advanceClock
  | setClock => exact still (by simp [events, Event.isStirring])
  | request r =>
    refine still fun e he => ?_
    simp only [events, List.cons_append, List.mem_cons, List.mem_append, List.not_mem_nil,
      or_false] at he
    rcases he with rfl | he | rfl
    · rfl
    · exact hprobes _ e he
    · rfl
  | mountedRequest r => exact still (hprobes _)
  | release other | crash other | cancel other =>
    refine still ?_
    rw [events]
    split <;> simp [Event.isStirring]

theorem ended_quiet_timedStep (hp : s.lifecycle.policy = .drain c)
    (hbusy : (s.lifecycle.observe c).inflight ≠ 0) {t : TimedStep}
    (h : (s.timedStep t).2.lifecycle.stops[id]? = some (.ended instant .quiet)) :
    s.lifecycle.stops[id]? = some (.ended instant .quiet) := by
  cases ht : t.instant with
  | none =>
    rw [timedStep, ht] at h
    exact ended_quiet_step hp hbusy h
  | some later =>
    rw [timedStep, ht] at h
    obtain ⟨moves, hstep, houtward⟩ := exists_step s.lifecycle (.elapseTo later)
    obtain ⟨c', hp', hinflight⟩ := inflight_follow_of_silent hp houtward
    rw [← hstep] at hp' hinflight
    have hbefore := ended_quiet_step (s := s.elapseTo (some later)) hp' (hinflight ▸ hbusy) h
    exact ended_quiet_of_busy hp hbusy (.elapseTo later) hbefore

theorem gauged_initial (h : s.opened = []) (hmetrics : s.metrics = .initial) :
    s.Gauged .empty := by
  refine ⟨by rw [h]; rfl, fun id => ?_, List.nodup_nil, fun _ => rfl, by rw [hmetrics]; rfl⟩
  simp [h, Tally.empty]

theorem balanced_initial {policy : Policy} {manual : Option ManualClock}
    (h : s.lifecycle = .initial policy manual) : s.Balanced .empty := by
  refine ⟨?_, le_rfl, ?_⟩
  · simp [h, Lifecycle.initial]
  · rw [inflight, h]
    rfl

/-- In a run in which the hand-made begins and ends are fair, the monitor counts those outstanding
and the open requests, and the gauge the open requests, however the others ended. The liveness
report shows one request more, and no stop that waits for the monitor ends in quiet meanwhile. -/
theorem tracked_requests_counted_once {config : AppConfig} {clock : ClockSource}
    {manual : Option ManualClock} {rendersMetrics : Bool} {mount : Option (List String)}
    {s₀ : Service} (hs₀ : create config clock manual rendersMetrics mount = .ok s₀)
    {steps : List TimedStep} (hfair : Tally.empty.Fair steps) :
    (∀ past, past <+: steps →
      let s := s₀.run past
      let a := tally past
      s.inflight = a.begun - a.ended + a.running.length ∧
        s.metrics.inflight = if a.tracked then some a.running.length else none) ∧
    ∀ past t, past ++ [t] <+: steps →
      let s := s₀.run past
      let a := tally past
      (∀ r captures, t.step = .request r →
        s.routes.dispatch r.method r.uri.path = .handler .liveness captures →
        (s.timedStep t).1 = .response ((Http.Response.json
          (report (s.inflight + 1) (s.elapseTo t.instant).lifecycle.policy)).forMethod r.method)) ∧
      ∀ c, s.lifecycle.policy = .drain c → c.attached = some ownMonitor → 0 < a.outstanding →
        ∀ id instant : Nat,
          (s.timedStep t).2.lifecycle.stops[id]? = some (Stop.ended instant .quiet) →
          s.lifecycle.stops[id]? = some (Stop.ended instant .quiet) := by
  obtain ⟨policy, -, -, hlifecycle, hmetrics, hopened, -⟩ := initial_of_create hs₀
  have hgauged (past : List TimedStep) : (s₀.run past).Gauged (tally past) :=
    (gauged_initial hopened hmetrics).run past
  have hbalanced (past : List TimedStep) (hpast : past <+: steps) :
      (s₀.run past).Balanced (tally past) := by
    obtain ⟨rest, rfl⟩ := hpast
    exact (balanced_initial hlifecycle).run (gauged_initial hopened hmetrics) hfair.of_append.1
  refine ⟨fun past hpast => ⟨(hbalanced past hpast).count, (hgauged past).gauge⟩, ?_⟩
  intro past t hpast s a
  have hnow : s.Balanced a := hbalanced past ((List.prefix_append past [t]).trans hpast)
  refine ⟨fun r captures hstep hroute => ?_, fun c hp hattached hpos id instant hended => ?_⟩
  · obtain ⟨rest, rfl⟩ := hpast
    rw [List.append_assoc] at hfair
    have hfits : a.Fits t.step := hfair.of_append.2.1
    have hcount : (s.elapseTo t.instant).inflight + 1 < 2 ^ 32 := by
      rw [inflight_elapseTo, hnow.count]
      rw [hstep] at hfits
      exact hfits.2
    have hroutes := (sameSetup_elapseTo s t.instant).routes
    rw [timedStep, hstep,
      step_liveness (hnow.elapseTo t.instant).monitors hcount (hroutes ▸ hroute), inflight_elapseTo]
  · have hbusy : (s.lifecycle.observe c).inflight ≠ 0 := by
      intro hzero
      have hcount := hnow.count
      rw [inflight] at hcount
      simp only [observe, hattached, Option.map_some, Option.getD_some] at hzero
      rw [hzero] at hcount
      exact hpos.ne hcount
    exact ended_quiet_timedStep hp hbusy hended

/-- Of three requests one crashes and one is cancelled during a drain. A minute later the third one
still keeps the stop waiting, and the liveness report shows two requests. -/
theorem tracked_requests_counted_once_drain :
    let past : List TimedStep := [⟨none, .start⟩, ⟨none, .openRequest⟩, ⟨none, .openRequest⟩,
      ⟨none, .enter 2⟩, ⟨none, .openRequest⟩, ⟨none, .stop⟩, ⟨none, .cancel 1⟩,
      ⟨some 1000000000, .crash 0⟩, ⟨none, .leave 2⟩]
    let ask : TimedStep := ⟨some 60000000000, .request (getFrom "10.0.0.3" "/health" none)⟩
    let s := standard.run past
    Tally.empty.Fair (past ++ [ask]) ∧ s.inflight = 1 ∧ s.metrics.inflight = some 1 ∧
      (s.timedStep ask).1 = .response (.json (report 2 s.lifecycle.policy)) ∧
      ∀ id instant : Nat,
        (s.timedStep ask).2.lifecycle.stops[id]? ≠ some (Stop.ended instant .quiet) := by
  intro past ask s
  have hfair : Tally.empty.Fair (past ++ [ask]) := by decide
  obtain ⟨hnow, hnext⟩ := tracked_requests_counted_once create_default hfair
  obtain ⟨hcount, hgauge⟩ := hnow past (List.prefix_append past [ask])
  obtain ⟨hreport, hquiet⟩ := hnext past ask (List.prefix_rfl)
  have htally : tally past = ⟨2, 2, 3, [2], true⟩ := by decide
  have hone : s.inflight = 1 := by
    rw [htally] at hcount
    exact hcount
  rw [htally] at hgauge
  have hroute : s.routes.dispatch "GET" "/health" = .handler .liveness [] := by
    rw [(sameSetup_run standard past).routes]
    rfl
  have hpolicy : (s.elapseTo ask.instant).lifecycle.policy = s.lifecycle.policy := by
    decide +kernel
  have hanswer := hreport _ _ rfl hroute
  rw [show (standard.run past).inflight = 1 from hone,
    show ((standard.run past).elapseTo ask.instant).lifecycle.policy = _ from hpolicy] at hanswer
  refine ⟨hfair, hone, hgauge, hanswer, fun id instant hended => ?_⟩
  have hp : s.lifecycle.policy = .drain
      ⟨HealthConfig.default.drainSettings, by decide, .steady, .draining, some 0, .empty⟩ := by
    decide +kernel
  have hstops : s.lifecycle.stops = [.waiting 0 0 2] := by decide +kernel
  have hbefore := hquiet _ hp rfl (by rw [htally]; decide) id instant hended
  rw [show (standard.run past).lifecycle.stops = _ from hstops, List.getElem?_singleton] at hbefore
  split at hbefore <;> cases hbefore

end Service

end GracefulDrain
