import GracefulDrain.Proofs.Interleaving
import GracefulDrain.Service.Basic

namespace GracefulDrain

namespace Lifecycle

@[simp] theorem run_nil (s : Lifecycle) : s.run [] = s := rfl

@[simp] theorem run_cons (s : Lifecycle) (e : Event) (rest : List Event) :
    s.run (e :: rest) = (s.step e).run rest := rfl

theorem run_append (s : Lifecycle) (events rest : List Event) :
    s.run (events ++ rest) = (s.run events).run rest := by
  simp [run]

theorem join_of_none {s : Lifecycle} {id : Nat} (h : s.stops[id]? = none) : s.join id = s :=
  runUntil_of_enough (by simp [h])

/-- What an event does to the monitors. -/
def Event.onMonitors (e : Event) (monitors : List Monitor) : List Monitor :=
  match e with
  | enter i times => monitors.modify i (·.enterTimes times)
  | leave i times => monitors.modify i (·.leaveTimes times)
  | addMonitor m => monitors ++ [m]
  | _ => monitors

theorem monitors_settle (s : Lifecycle) : s.settle.monitors = s.monitors := by
  unfold settle
  split <;> rfl

theorem monitors_runUntil (s : Lifecycle) (target : Nat) (enough : Lifecycle → Bool) :
    (s.runUntil target enough).monitors = s.monitors := by
  refine runUntil_preserves (P := fun t => t.monitors = s.monitors) (fun t w h => ?_) target enough
    s rfl
  rw [arrive, monitors_settle, ← h]

theorem monitors_step (s : Lifecycle) (e : Event) :
    (s.step e).monitors = e.onMonitors s.monitors := by
  cases e with
  | start | probe =>
    simp only [step, start, probe]
    split <;> rfl
  | stop =>
    simp only [step, stop]
    split
    · rfl
    · exact monitors_settle _
  | enter | leave | addMonitor => rfl
  | advanceClock | setClock =>
    simp only [step, onClock_getD]
    rfl
  | elapseTo | join => exact monitors_runUntil s _ _

end Lifecycle

theorem exists_of_bind_eq_ok {ε α β : Type} {x : Except ε α} {f : α → Except ε β} {b : β}
    (h : x >>= f = .ok b) : ∃ a, x = .ok a ∧ f a = .ok b := by
  cases x with
  | error e => cases h
  | ok a => exact ⟨a, rfl, h⟩

theorem Policy.ofHealth_drain {config : HealthConfig} {clock : ClockSource} {p : Policy}
    (hmode : config.mode = .drain)
    (h : (ofHealth config clock).mapError Service.SetupError.settings = .ok p) :
    ∃ c, p = .drain c ∧ Coordinator.create config.drainSettings clock = .ok c := by
  cases hc : Coordinator.create config.drainSettings clock with
  | error fault =>
    rw [ofHealth, hc] at h
    cases h
  | ok c =>
    rw [ofHealth, hc, hmode] at h
    cases h
    exact ⟨c, rfl, rfl⟩

namespace Service
open Routing Lifecycle

theorem orRoutes_eq_ok {α : Type} {a? : Option α} {a : α} (h : orRoutes a? = .ok a) :
    a? = some a := by
  cases a? with
  | none => cases h
  | some b =>
    cases h
    rfl

theorem initial_of_create {config : AppConfig} {clock : ClockSource} {manual : Option ManualClock}
    {rendersMetrics : Bool} {mount : Option (List String)} {s : Service}
    (h : create config clock manual rendersMetrics mount = .ok s) :
    ∃ policy, (Policy.ofHealth config.health clock).mapError SetupError.settings = .ok policy ∧
      mainRoutes? policy.path config.observability = some s.routes ∧
      s.lifecycle = .initial policy manual ∧ s.metrics = .initial ∧ s.opened = [] ∧
      s.rendersMetrics = rendersMetrics := by
  obtain ⟨policy, hpolicy, h⟩ := exists_of_bind_eq_ok h
  obtain ⟨routes, hroutes, h⟩ := exists_of_bind_eq_ok h
  refine ⟨policy, hpolicy, ?_⟩
  rw [orRoutes_eq_ok hroutes]
  cases mount with
  | none =>
    cases h
    exact ⟨rfl, rfl, rfl, rfl, rfl⟩
  | some templates =>
    obtain ⟨mounted, -, h⟩ := exists_of_bind_eq_ok h
    cases h
    exact ⟨rfl, rfl, rfl, rfl, rfl⟩

/-- As what the policy is probed when a table is sent a request. -/
def probed? (t : Table Handler) (r : Http.Request) : Option Origin :=
  match t.dispatch r.method r.uri.path with
  | .handler .probe captures => some (r.origin (routeIp? captures))
  | _ => none

def probes (origin? : Option Origin) : List Lifecycle.Event := origin?.toList.map .probe

/-- What a step is for the policy's lifecycle. -/
def events (s : Service) : Step → List Lifecycle.Event
  | .wait | .metrics => []
  | .start => [.start ownMonitor]
  | .startOther inflight =>
    [.addMonitor (Monitor.idle.enterTimes inflight), .start s.lifecycle.monitors.length]
  | .enter times => [.enter ownMonitor times]
  | .leave times => [.leave ownMonitor times]
  | .probe origin => [.probe origin]
  | .request r => .enter ownMonitor 1 :: probes (probed? s.routes r) ++ [.leave ownMonitor 1]
  | .mountedRequest r => probes (s.mounted.bind (probed? · r))
  | .stop => [.stop]
  | .join id => [.join id]
  | .openRequest => [.enter ownMonitor 1]
  | .release id | .crash id | .cancel id =>
    if s.opened[id]? = some .running then [.leave ownMonitor 1] else []
  | .advanceClock d => [.advanceClock d]
  | .setClock instant => [.setClock instant]

def timedEvents (s : Service) (t : TimedStep) : List Lifecycle.Event :=
  t.instant.toList.map .elapseTo ++ (s.elapseTo t.instant).events t.step

/-- What a run is for the policy's lifecycle. -/
def history (s : Service) : List TimedStep → List Lifecycle.Event
  | [] => []
  | t :: rest => s.timedEvents t ++ (s.timedStep t).2.history rest

@[simp] theorem run_nil (s : Service) : s.run [] = s := rfl

@[simp] theorem run_cons (s : Service) (t : TimedStep) (rest : List TimedStep) :
    s.run (t :: rest) = (s.timedStep t).2.run rest := rfl

theorem run_append (s : Service) (steps rest : List TimedStep) :
    s.run (steps ++ rest) = (s.run steps).run rest := by
  simp [run]

theorem route_snd (s : Service) (t : Table Handler) (r : Http.Request) :
    (s.route t r).2 = ((probed? t r).map fun origin => (s.answerProbe origin).2).getD s := by
  unfold route probed?
  cases t.dispatch r.method r.uri.path with
  | handler h captures => cases h <;> rfl
  | methodNotAllowed | notFound => rfl

theorem status_headers_forMethod (method : String) (response : Http.Response) :
    (response.forMethod method).status = response.status ∧
      (response.forMethod method).headers = response.headers := by
  unfold Http.Response.forMethod
  split <;> exact ⟨rfl, rfl⟩

theorem lifecycle_route (s : Service) (t : Table Handler) (r : Http.Request) :
    (s.route t r).2.lifecycle = s.lifecycle.run (probes (probed? t r)) := by
  rw [route_snd]
  cases probed? t r <;> rfl

theorem serve_snd (s : Service) (r : Http.Request) :
    (s.serve r).2 = (s.beginRequest.route s.routes r).2.endRequest := rfl

theorem step_mountedRequest_of_none {s : Service} (h : s.mounted = none) (r : Http.Request) :
    s.step (.mountedRequest r) = (.refused, s) := by
  simp only [Service.step, h]

theorem step_mountedRequest_of_some {s : Service} {t : Table Handler} (h : s.mounted = some t)
    (r : Http.Request) :
    s.step (.mountedRequest r) = (.response (s.route t r).1, (s.route t r).2) := by
  simp only [Service.step, h]

theorem lifecycle_close (s : Service) (id : Nat) (result : Result) :
    (s.close id result).2.lifecycle =
      s.lifecycle.run (if s.opened[id]? = some .running then [.leave ownMonitor 1] else []) := by
  unfold close
  split
  · next h => rw [if_pos h]; rfl
  · next h => rw [if_neg h]; rfl

theorem lifecycle_step (s : Service) (step : Step) :
    (s.step step).2.lifecycle = s.lifecycle.run (s.events step) := by
  cases step with
  | wait | metrics | start | startOther | enter | leave | probe | stop | openRequest => rfl
  | request r =>
    change (s.serve r).2.lifecycle = _
    rw [serve_snd, events, List.cons_append, Lifecycle.run_cons, Lifecycle.run_append]
    exact congrArg (Lifecycle.step · (.leave ownMonitor 1))
      (lifecycle_route s.beginRequest s.routes r)
  | mountedRequest r =>
    simp only [Service.step, events]
    cases s.mounted with
    | none => rfl
    | some t => exact lifecycle_route s t r
  | join id =>
    simp only [Service.step]
    cases h : s.lifecycle.stops[id]? with
    | none => exact (join_of_none h).symm
    | some stop => rfl
  | release id | crash id | cancel id => exact lifecycle_close s id _
  | advanceClock d =>
    simp only [Service.step]
    cases h : s.lifecycle.onClock (·.advance? d) with
    | none => simp [events, Lifecycle.step, h]
    | some moved => rfl
  | setClock instant =>
    simp only [Service.step]
    cases h : s.lifecycle.manual with
    | none => simp [events, Lifecycle.step, onClock, h]
    | some clock => rfl

theorem lifecycle_elapseTo (s : Service) (instant : Option Nat) :
    (s.elapseTo instant).lifecycle = s.lifecycle.run (instant.toList.map .elapseTo) := by
  cases instant <;> rfl

theorem lifecycle_timedStep (s : Service) (t : TimedStep) :
    (s.timedStep t).2.lifecycle = s.lifecycle.run (s.timedEvents t) := by
  rw [timedStep, lifecycle_step, lifecycle_elapseTo, timedEvents, Lifecycle.run_append]

theorem lifecycle_run (s : Service) (steps : List TimedStep) :
    (s.run steps).lifecycle = s.lifecycle.run (s.history steps) := by
  induction steps generalizing s with
  | nil => rfl
  | cons t rest ih =>
    rw [run_cons, ih, lifecycle_timedStep, history, Lifecycle.run_append]

/-- How many requests the service's own monitor counts. -/
def inflight (s : Service) : Nat := (s.lifecycle.monitor ownMonitor).count.toNat

theorem inflight_elapseTo (s : Service) (instant : Option Nat) :
    (s.elapseTo instant).inflight = s.inflight := by
  cases instant with
  | none => rfl
  | some instant =>
    rw [inflight, monitor, elapseTo, onLifecycle, monitors_step]
    rfl

/-- The requests left open after a step. -/
def openedAfter (opened : List OpenRequest) : Step → List OpenRequest
  | .openRequest => opened ++ [.running]
  | .release id | .crash id | .cancel id =>
    if opened[id]? = some .running then opened.set id .gone else opened
  | _ => opened

theorem opened_route (s : Service) (t : Table Handler) (r : Http.Request) :
    (s.route t r).2.opened = s.opened := by
  rw [route_snd]
  cases probed? t r <;> rfl

theorem opened_close (s : Service) (id : Nat) (result : Result) :
    (s.close id result).2.opened =
      if s.opened[id]? = some .running then s.opened.set id .gone else s.opened := by
  unfold close
  split
  · next h => rw [if_pos h]
  · next h => rw [if_neg h]

theorem opened_step (s : Service) (step : Step) :
    (s.step step).2.opened = openedAfter s.opened step := by
  cases step with
  | wait | metrics | start | startOther | enter | leave | probe | stop | openRequest => rfl
  | request r => exact opened_route s.beginRequest s.routes r
  | mountedRequest r =>
    simp only [Service.step]
    split
    · rfl
    · exact opened_route s _ r
  | join | advanceClock | setClock =>
    simp only [Service.step]
    split <;> rfl
  | release id | crash id | cancel id => exact opened_close s id _

/-- What the service was made with. -/
structure SameSetup (s s' : Service) : Prop where
  routes : s'.routes = s.routes
  mounted : s'.mounted = s.mounted
  rendersMetrics : s'.rendersMetrics = s.rendersMetrics

theorem SameSetup.symm {s s' : Service} (h : s.SameSetup s') : s'.SameSetup s :=
  ⟨h.routes.symm, h.mounted.symm, h.rendersMetrics.symm⟩

theorem SameSetup.trans {s s' s'' : Service} (h : s.SameSetup s') (h' : s'.SameSetup s'') :
    s.SameSetup s'' :=
  ⟨h'.routes.trans h.routes, h'.mounted.trans h.mounted, h'.rendersMetrics.trans h.rendersMetrics⟩

theorem sameSetup_route (s : Service) (t : Table Handler) (r : Http.Request) :
    s.SameSetup (s.route t r).2 := by
  rw [route_snd]
  cases probed? t r <;> exact ⟨rfl, rfl, rfl⟩

theorem sameSetup_step (s : Service) (step : Step) : s.SameSetup (s.step step).2 := by
  cases step with
  | wait | metrics | start | startOther | enter | leave | probe | stop | openRequest =>
    exact ⟨rfl, rfl, rfl⟩
  | request r =>
    obtain ⟨hroutes, hmounted, hrenders⟩ := sameSetup_route s.beginRequest s.routes r
    exact ⟨hroutes, hmounted, hrenders⟩
  | mountedRequest r =>
    simp only [Service.step]
    split
    · exact ⟨rfl, rfl, rfl⟩
    · exact sameSetup_route s _ r
  | join | advanceClock | setClock =>
    simp only [Service.step]
    split <;> exact ⟨rfl, rfl, rfl⟩
  | release | crash | cancel =>
    simp only [Service.step, close]
    split <;> exact ⟨rfl, rfl, rfl⟩

theorem sameSetup_elapseTo (s : Service) (instant : Option Nat) :
    s.SameSetup (s.elapseTo instant) := by
  cases instant <;> exact ⟨rfl, rfl, rfl⟩

theorem sameSetup_timedStep (s : Service) (t : TimedStep) : s.SameSetup (s.timedStep t).2 :=
  (sameSetup_elapseTo s t.instant).trans (sameSetup_step _ t.step)

theorem sameSetup_run (s : Service) (steps : List TimedStep) : s.SameSetup (s.run steps) := by
  induction steps generalizing s with
  | nil => exact ⟨rfl, rfl, rfl⟩
  | cons t rest ih => exact (sameSetup_timedStep s t).trans (ih _)

/-- The service that the default configuration makes, with a second table for probes whose path
names the client. -/
def standard : Service where
  rendersMetrics := true
  routes := [⟨"/status.txt", "/status.txt".toList.map .char, none, some .probe⟩,
    ⟨"/health", "/health".toList.map .char, some .liveness, none⟩,
    ⟨"/metrics", "/metrics".toList.map .char, some .metrics, none⟩]
  mounted := some [⟨"/lb/{ip}/status",
    "/lb/".toList.map .char ++ .param "ip" :: "/status".toList.map .char, none, some .probe⟩]
  lifecycle := .initial
    (.drain ⟨HealthConfig.default.drainSettings, by decide, .steady, .init, none, .empty⟩) none
  metrics := .initial
  opened := []

theorem create_default :
    create AppConfig.default .steady none true (some ["/lb/{ip}/status"]) = .ok standard := rfl

/-- A GET request from a load balancer. -/
def getFrom (client path : String) (query : Option String) : Http.Request :=
  ⟨⟨path, query⟩, "GET", [("x-real-ip", client)], none, none⟩

end Service

end GracefulDrain
