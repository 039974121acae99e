import GracefulDrain.Http.Request
import GracefulDrain.Http.Response
import GracefulDrain.Routing.Table
import GracefulDrain.Service.Metrics

/-! The main table serves the probe at the configured path, a liveness report, and the metrics if
they are enabled; every request to it counts as in flight while it is handled. -/
namespace GracefulDrain

inductive Handler
  | probe
  | liveness
  | metrics
  deriving DecidableEq, Repr

/-- A request that was left open, by whether it still runs. -/
inductive OpenRequest
  | running
  | gone
  deriving DecidableEq, Repr

structure Service where
  /-- Whether metrics can be rendered for clients. -/
  rendersMetrics : Bool
  routes : Routing.Table Handler
  mounted : Option (Routing.Table Handler)
  lifecycle : Lifecycle
  metrics : Metrics
  opened : List OpenRequest
  deriving DecidableEq, Repr

namespace Service

def livenessPath : String := "/health"

def version : String := "0.1.0"

/-- The main table, or nothing when a path is refused. -/
def mainRoutes? (healthPath : String) (config : ObservabilityConfig) :
    Option (Routing.Table Handler) := do
  let t ← Routing.Table.add? [] healthPath .any .probe
  let t ← t.add? livenessPath .get .liveness
  if config.metricsEnabled then t.add? config.metricsPath .get .metrics else some t

/-- A table that serves the probe, or nothing when a template is refused. -/
def probeRoutes? (templates : List String) : Option (Routing.Table Handler) :=
  templates.foldlM (fun t path => t.add? path .any .probe) []

inductive SetupError
  | settings (f : SettingsFault)
  | routes
  deriving DecidableEq, Repr

def orRoutes : Option α → Except SetupError α
  | some a => .ok a
  | none => .error .routes

def create (config : AppConfig) (clock : ClockSource) (manual : Option ManualClock)
    (rendersMetrics : Bool) (mount : Option (List String)) : Except SetupError Service := do
  let policy ← (Policy.ofHealth config.health clock).mapError .settings
  let routes ← orRoutes (mainRoutes? policy.path config.observability)
  let mounted ← match mount with
    | none => pure none
    | some templates => (orRoutes (probeRoutes? templates)).map some
  return {
    rendersMetrics, routes, mounted
    lifecycle := .initial policy manual
    metrics := .initial
    opened := [] }

def routeIp? (captures : List (String × List Char)) : Option String :=
  (Routing.decodeCaptures? captures).bind fun decoded => decoded.lookup "ip"

def livenessText (s : Service) : String :=
  "\x7b\"code\":0,\"data\":\x7b\"inflight\":" ++
    toString (s.lifecycle.monitor Lifecycle.ownMonitor).count.toNat ++
    ",\"phase\":\"" ++ s.lifecycle.policy.phase.name ++
    "\",\"policy\":\"" ++ s.lifecycle.policy.name ++
    "\",\"status\":\"healthy\",\"version\":\"" ++ version ++
    "\"\x7d,\"message\":\"success\"\x7d"

def sampleLines (s : Service) : List String := s.metrics.lines s.lifecycle.record

/-- The samples as a document; one without samples is empty. -/
def metricsBody (s : Service) : Http.Body :=
  if s.sampleLines.isEmpty then .text "" else .samples s.sampleLines

def answerProbe (s : Service) (origin : Origin) : Http.Response × Service :=
  let v := s.lifecycle.verdict
  (.bare v.status v.body,
    { s with
      lifecycle := s.lifecycle.step (.probe origin)
      metrics := { s.metrics with probes := s.metrics.probes.note v origin.deployer } })

def answerMetrics (s : Service) : Http.Response :=
  if s.rendersMetrics then .plainText 200 s.metricsBody
  else .plainText 404 (.text "metrics disabled")

def handle (s : Service) (r : Http.Request) :
    Routing.Target Handler → Http.Response × Service
  | .handler .probe captures => s.answerProbe (r.origin (routeIp? captures))
  | .handler .liveness _ => (.json s.livenessText, s)
  | .handler .metrics _ => (s.answerMetrics, s)
  | .methodNotAllowed => (.methodNotAllowed, s)
  | .notFound => (.notFound, s)

def route (s : Service) (t : Routing.Table Handler) (r : Http.Request) :
    Http.Response × Service :=
  let (response, s) := s.handle r (t.dispatch r.method r.uri.path)
  (response.forMethod r.method, s)

def beginRequest (s : Service) : Service :=
  { s with
    lifecycle := s.lifecycle.step (.enter Lifecycle.ownMonitor 1)
    metrics := s.metrics.beginRequest }

def endRequest (s : Service) : Service :=
  { s with
    lifecycle := s.lifecycle.step (.leave Lifecycle.ownMonitor 1)
    metrics := s.metrics.endRequest }

/-- A request to the main table, in flight while it is handled. -/
def serve (s : Service) (r : Http.Request) : Http.Response × Service :=
  let (response, s) := s.beginRequest.route s.routes r
  (response, s.endRequest)

inductive Step
  | wait
  | start
  /-- Starts the policy with another monitor on which requests are in flight. -/
  | startOther (inflight : Nat)
  | enter (times : Nat)
  | leave (times : Nat)
  | probe (origin : Origin)
  | request (r : Http.Request)
  | mountedRequest (r : Http.Request)
  | stop
  | join (id : Nat)
  /-- Begins a request that stays in flight until it is released, crashes or is cancelled. -/
  | openRequest
  | release (id : Nat)
  | crash (id : Nat)
  | cancel (id : Nat)
  | advanceClock (d : Nat)
  | setClock (instant : Nat)
  | metrics
  deriving DecidableEq, Repr

inductive Result
  | nothing
  | verdict (v : Verdict)
  | response (r : Http.Response)
  | panicked
  | cancelled
  | samples (lines : List String)
  /-- The step makes no sense in this state. -/
  | refused
  deriving DecidableEq, Repr

def onLifecycle (s : Service) (e : Lifecycle.Event) : Service := { s with lifecycle := s.lifecycle.step e }

def close (s : Service) (id : Nat) (result : Result) : Result × Service :=
  match s.opened[id]? with
  | some .running => (result, { s.endRequest with opened := s.opened.set id .gone })
  | _ => (.refused, s)

def lateResponse : Http.Response := .plainText 200 (.text "done")

def step (s : Service) : Step → Result × Service
  | .wait => (.nothing, s)
  | .start => (.nothing, s.onLifecycle (.start Lifecycle.ownMonitor))
  | .startOther inflight =>
    let added := s.onLifecycle (.addMonitor (Monitor.idle.enterTimes inflight))
    (.nothing, added.onLifecycle (.start s.lifecycle.monitors.length))
  | .enter times => (.nothing, s.onLifecycle (.enter Lifecycle.ownMonitor times))
  | .leave times => (.nothing, s.onLifecycle (.leave Lifecycle.ownMonitor times))
  | .probe origin => (.verdict s.lifecycle.verdict, s.onLifecycle (.probe origin))
  | .request r =>
    let (response, s) := s.serve r
    (.response response, s)
  | .mountedRequest r =>
    match s.mounted with
    | none => (.refused, s)
    | some t =>
      let (response, s) := s.route t r
      (.response response, s)
  | .stop => (.nothing, s.onLifecycle .stop)
  | .join id =>
    match s.lifecycle.stops[id]? with
    | some _ => (.nothing, s.onLifecycle (.join id))
    | none => (.refused, s)
  | .openRequest => (.nothing, { s.beginRequest with opened := s.opened ++ [.running] })
  | .release id => s.close id (.response lateResponse)
  | .crash id => s.close id .panicked
  | .cancel id => s.close id .cancelled
  | .advanceClock d =>
    match s.lifecycle.onClock (·.advance? d) with
    | some _ => (.nothing, s.onLifecycle (.advanceClock d))
    | none => (.refused, s)
  | .setClock instant =>
    match s.lifecycle.manual with
    | some _ => (.nothing, s.onLifecycle (.setClock instant))
    | none => (.refused, s)
  | .metrics => (.samples s.sampleLines, s)

/-- A step at an instant: what is due before it comes first. -/
structure TimedStep where
  instant : Option Nat
  step : Step
  deriving DecidableEq, Repr

def elapseTo (s : Service) : Option Nat → Service
  | none => s
  | some instant => s.onLifecycle (.elapseTo instant)

def timedStep (s : Service) (t : TimedStep) : Result × Service := (s.elapseTo t.instant).step t.step

def run (s : Service) (steps : List TimedStep) : Service :=
  steps.foldl (fun s t => (s.timedStep t).2) s

end Service

end GracefulDrain
