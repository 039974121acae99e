import GracefulDrain.Proofs.History
import GracefulDrain.Proofs.LiteralRoute
import GracefulDrain.Proofs.ServiceSteps

namespace GracefulDrain

namespace Lifecycle
variable {s : Lifecycle} {c : Coordinator}

theorem exists_drain_run (hp : s.policy = .drain c) (events : List Event) :
    ∃ c', (s.run events).policy = .drain c' := by
  obtain ⟨moves, hrun, -⟩ := exists_follow_eq_run s events
  obtain ⟨c', hp', -⟩ := exists_drain_follow hp moves
  exact ⟨c', by rw [hrun, hp']⟩

end Lifecycle

namespace Service
open Routing

/-- The routes stay, and the policy's lifecycle goes on. -/
def LeadsTo (s s' : Service) : Prop :=
  s'.routes = s.routes ∧ ∃ events, s'.lifecycle = s.lifecycle.run events

theorem leadsTo_run (s : Service) (steps : List TimedStep) : s.LeadsTo (s.run steps) :=
  ⟨(sameSetup_run s steps).routes, s.history steps, lifecycle_run s steps⟩

/-- A request goes to the liveness report although its path is the probe's. -/
def Shadowed (healthPath method : String) : Prop :=
  healthPath = livenessPath ∧ Table.isGetMethod method = true

theorem mainRoutes?_eq_cons {path : String} {config : ObservabilityConfig} {t : Table Handler}
    (ht : mainRoutes? path config = some t) (hplain : Plain path.toList)
    (hmetrics : config.metricsEnabled = true → config.metricsPath ≠ path) :
    ∃ rest, t = ⟨path, path.toList.map .char,
      if path = livenessPath then some .liveness else none, some .probe⟩ :: rest := by
  obtain ⟨t₁, h₁, ht⟩ := Option.bind_eq_some_iff.1 ht
  obtain ⟨t₂, h₂, ht⟩ := Option.bind_eq_some_iff.1 ht
  obtain ⟨template, hparse, rfl⟩ := Table.add?_nil h₁
  obtain rfl := Template.parse?_of_plain hplain hparse
  have hlive : ∃ rest, t₂ = ⟨path, path.toList.map .char,
      if path = livenessPath then some .liveness else none, some .probe⟩ :: rest := by
    by_cases hpath : path = livenessPath
    · subst hpath
      obtain ⟨r', hr', rfl⟩ := Table.add?_cons_self h₂
      cases hr'
      exact ⟨[], rfl⟩
    · obtain ⟨rest, rfl⟩ := Table.add?_cons_of_ne hpath h₂
      exact ⟨rest, by rw [if_neg hpath]; rfl⟩
  obtain ⟨rest, rfl⟩ := hlive
  split at ht
  · next henabled => exact Table.add?_cons_of_ne (hmetrics henabled).symm ht
  · exact ⟨rest, (Option.some.inj ht).symm⟩

theorem dispatch_mainRoutes {path : String} {config : ObservabilityConfig} {t : Table Handler}
    (ht : mainRoutes? path config = some t) (hplain : Plain path.toList)
    (hmetrics : config.metricsEnabled = true → config.metricsPath ≠ path) (method : String) :
    (Shadowed path method → t.dispatch method path = .handler .liveness []) ∧
      (¬ Shadowed path method → t.dispatch method path = .handler .probe []) := by
  obtain ⟨rest, rfl⟩ := mainRoutes?_eq_cons ht hplain hmetrics
  unfold Table.dispatch
  rw [Table.find?_literal rfl]
  by_cases hpath : path = livenessPath <;> cases hget : Table.isGetMethod method <;>
    simp [Shadowed, Table.handlerFor, hpath, hget]

theorem create_eq_ok {config : AppConfig} {clock : ClockSource} {manual : Option ManualClock}
    {rendersMetrics : Bool} {mount : Option (List String)} {s : Service}
    (hmode : config.health.mode = .drain)
    (h : create config clock manual rendersMetrics mount = .ok s) :
    (∃ c, s.lifecycle = .initial (.drain c) manual) ∧
      mainRoutes? config.health.path config.observability = some s.routes := by
  obtain ⟨policy, hpolicy, hroutes, hlifecycle, -⟩ := initial_of_create h
  obtain ⟨c, rfl, hc⟩ := Policy.ofHealth_drain hmode hpolicy
  have hpath : (Policy.drain c).path = config.health.path := by
    rw [Policy.path, (Coordinator.create_eq_ok hc).1]
    rfl
  exact ⟨⟨c, hlifecycle⟩, hpath ▸ hroutes⟩

/-- A request is answered as a probe of the policy, and its client remembered as one. -/
structure SpeaksForPolicy (s : Service) (r : Http.Request) : Prop where
  status : (s.serve r).1.status = if s.lifecycle.policy.phase = .ready then 200 else 503
  noted : ∀ c id, s.lifecycle.policy = .drain c → r.origin none = ⟨some id, false⟩ →
    ∃ c', (s.serve r).2.lifecycle.policy = .drain c' ∧ c'.tracker.get? id =
      some (if c.phase = .ready then .ready
        else .noteNotReady (s.lifecycle.reading c.clock) (c.tracker.get? id))

variable {s : Service} {c : Coordinator} {r : Http.Request}

theorem serve_liveness (h : s.routes.dispatch r.method r.uri.path = .handler .liveness []) :
    (s.serve r).1.status = 200 ∧ (s.serve r).2.lifecycle.policy = s.lifecycle.policy := by
  have hroutes : s.beginRequest.routes = s.routes := rfl
  refine ⟨?_, ?_⟩
  · simp only [serve, route, h, status_headers_forMethod]
    rfl
  · simp only [serve, route, h]
    rfl

theorem serve_probe (hp : s.lifecycle.policy = .drain c)
    (h : s.routes.dispatch r.method r.uri.path = .handler .probe []) :
    (s.serve r).1.status = c.verdict.status ∧ (s.serve r).2.lifecycle.policy =
      .drain (c.note (s.lifecycle.reading c.clock) c.verdict (r.origin none)) := by
  have hpolicy : s.beginRequest.lifecycle.policy = .drain c := hp
  have hread : s.beginRequest.lifecycle.reading c.clock = s.lifecycle.reading c.clock := rfl
  refine ⟨?_, ?_⟩
  · simp only [serve, route, h, status_headers_forMethod, handle, answerProbe, Lifecycle.verdict,
      hpolicy]
    rfl
  · simp only [serve, route, h, handle, answerProbe, endRequest, Lifecycle.step,
      Lifecycle.onMonitor, Lifecycle.probe, hpolicy, hread]
    rfl

theorem status_verdict (c : Coordinator) :
    c.verdict.status = if c.phase = .ready then 200 else 503 := by
  by_cases h : c.phase = .ready <;>
    simp [Coordinator.verdict, Coordinator.isReady, Verdict.ofBool, Verdict.status, h]

theorem get?_note (c : Coordinator) (reading : Nat) (id : String) :
    (c.note reading c.verdict ⟨some id, false⟩).tracker.get? id =
      some (if c.phase = .ready then .ready else .noteNotReady reading (c.tracker.get? id)) := by
  rw [Coordinator.tracker_note, Tracker.get?_tell, if_pos rfl]
  by_cases h : c.phase = .ready <;>
    simp [Coordinator.verdict, Coordinator.isReady, Verdict.ofBool, Ack.next, h]

theorem speaksForPolicy_of_probe (hp : s.lifecycle.policy = .drain c)
    (h : s.routes.dispatch r.method r.uri.path = .handler .probe []) : s.SpeaksForPolicy r := by
  obtain ⟨hstatus, hpolicy⟩ := serve_probe hp h
  refine ⟨?_, fun c' id hp' horigin => ?_⟩
  · rw [hstatus, status_verdict, hp, Policy.phase]
  · obtain rfl : c = c' := by rw [hp] at hp'; cases hp'; rfl
    exact ⟨_, hpolicy, by rw [horigin, get?_note]⟩

/-- The liveness report says what the policy would have said only where nothing has to change. -/
theorem speaksForPolicy_iff_of_liveness (hp : s.lifecycle.policy = .drain c)
    (h : s.routes.dispatch r.method r.uri.path = .handler .liveness []) :
    s.SpeaksForPolicy r ↔ c.phase = .ready ∧
      ∀ id, r.origin none = ⟨some id, false⟩ → c.tracker.get? id = some .ready := by
  obtain ⟨hstatus, hpolicy⟩ := serve_liveness h
  constructor
  · intro hspeaks
    have hready : c.phase = .ready := by
      have hsaid := hspeaks.status
      rw [hstatus, hp, Policy.phase] at hsaid
      by_contra hne
      simp [hne] at hsaid
    refine ⟨hready, fun id horigin => ?_⟩
    obtain ⟨c', hp', hget⟩ := hspeaks.noted c id hp horigin
    rw [hpolicy, hp] at hp'
    cases hp'
    rw [hget, if_pos hready]
  · rintro ⟨hready, htold⟩
    refine ⟨?_, fun c' id hp' horigin => ?_⟩
    · rw [hstatus, hp, Policy.phase, if_pos hready]
    · obtain rfl : c = c' := by rw [hp] at hp'; cases hp'; rfl
      exact ⟨c, hpolicy.trans hp, by rw [htold id horigin, if_pos hready]⟩

theorem metricsPath_ne {config : AppConfig} (h : config.fault? = none)
    (henabled : config.observability.metricsEnabled = true) :
    config.observability.metricsPath ≠ config.health.path := by
  intro heq
  exact (AppConfig.fault?_eq_none_iff.1 h).2.2 ⟨henabled, heq⟩

/-- Whatever has happened, a request to the health path is answered by the policy, unless the path
is the liveness report's and the method GET or HEAD: then nothing is remembered and the answer is
200, which the policy would have left at that only if it is ready and has said so before. -/
theorem speaksForPolicy_iff {config : AppConfig} {clock : ClockSource}
    {manual : Option ManualClock} {rendersMetrics : Bool} {mount : Option (List String)}
    {s₀ : Service} (hfault : config.fault? = none) (hmode : config.health.mode = .drain)
    (hplain : '\x7b' ∉ config.health.path.toList ∧ '\x7d' ∉ config.health.path.toList)
    (hs₀ : create config clock manual rendersMetrics mount = .ok s₀) (steps : List TimedStep)
    {r : Http.Request} (hr : r.uri.path = config.health.path) :
    let s := s₀.run steps
    ∃ c, s.lifecycle.policy = .drain c ∧
      (s.SpeaksForPolicy r ↔ ¬ Shadowed config.health.path r.method ∨ (c.phase = .ready ∧
        ∀ id, r.origin none = ⟨some id, false⟩ → c.tracker.get? id = some .ready)) ∧
      (Shadowed config.health.path r.method →
        (s.serve r).1.status = 200 ∧ (s.serve r).2.lifecycle.policy = s.lifecycle.policy) := by
  intro s
  obtain ⟨⟨c₀, hlifecycle⟩, hmain⟩ := create_eq_ok hmode hs₀
  obtain ⟨hroutes, events, hrun⟩ := leadsTo_run s₀ steps
  have hp₀ : s₀.lifecycle.policy = .drain c₀ := by rw [hlifecycle, Lifecycle.initial]
  obtain ⟨c, hp⟩ := Lifecycle.exists_drain_run hp₀ events
  rw [← hrun] at hp
  obtain ⟨hshadow, hclear⟩ := dispatch_mainRoutes hmain hplain (metricsPath_ne hfault) r.method
  rw [← hroutes, ← hr] at hshadow hclear
  refine ⟨c, hp, ?_, fun h => serve_liveness (hshadow (hr ▸ h))⟩
  by_cases h : Shadowed r.uri.path r.method
  · rw [speaksForPolicy_iff_of_liveness hp (hshadow h), ← hr]
    exact ⟨.inr, fun hor => hor.resolve_left (not_not_intro h)⟩
  · rw [← hr]
    exact ⟨fun _ => .inl h, fun _ => speaksForPolicy_of_probe hp (hclear h)⟩

/-- The default configuration but for the health path. -/
def configAt (healthPath : String) : AppConfig :=
  { AppConfig.default with health := { HealthConfig.default with path := healthPath } }

/-- Told to stop, a service refuses a load balancer. -/
theorem speaksForPolicy_lb_status :
    let r : Http.Request := ⟨⟨"/lb/status", none⟩, "GET", [("x-real-ip", "10.0.0.1")], none, none⟩
    (configAt "/lb/status").fault? = none ∧ r.uri.path = "/lb/status" ∧
      ∃ s₀, create (configAt "/lb/status") .steady none true none = .ok s₀ ∧
        (s₀.run [⟨none, .start⟩, ⟨none, .stop⟩]).SpeaksForPolicy r := by
  intro r
  have hfault : (configAt "/lb/status").fault? = none := by decide
  have hs₀ : create (configAt "/lb/status") .steady none true none = .ok {
      rendersMetrics := true
      routes := [⟨"/lb/status", "/lb/status".toList.map .char, none, some .probe⟩,
        ⟨"/health", "/health".toList.map .char, some .liveness, none⟩,
        ⟨"/metrics", "/metrics".toList.map .char, some .metrics, none⟩]
      mounted := none
      lifecycle := .initial (.drain
        ⟨(configAt "/lb/status").health.drainSettings, by decide, .steady, .init, none, .empty⟩) none
      metrics := .initial
      opened := [] } := rfl
  obtain ⟨c, -, hiff, -⟩ := speaksForPolicy_iff hfault rfl (by decide) hs₀
    [⟨none, .start⟩, ⟨none, .stop⟩] (r := r) rfl
  have hclear : ¬ Shadowed (configAt "/lb/status").health.path r.method :=
    fun h => absurd h.1 (by decide)
  exact ⟨hfault, rfl, _, hs₀, hiff.2 (.inl hclear)⟩

/-- Where the health path is that of the liveness report, load balancers are told 200 in a drain. -/
theorem not_speaksForPolicy_health :
    let r : Http.Request := ⟨⟨"/health", none⟩, "GET", [("x-real-ip", "10.0.0.1")], none, none⟩
    (configAt "/health").fault? = none ∧ (configAt "/health").health.mode = .drain ∧
      r.uri.path = (configAt "/health").health.path ∧
      ∃ s₀, create (configAt "/health") .steady none true none = .ok s₀ ∧
        let s := s₀.run [⟨none, .start⟩, ⟨none, .enter 1⟩, ⟨none, .stop⟩]
        s.lifecycle.policy.phase = .draining ∧ (s.serve r).1.status = 200 ∧
          ¬ s.SpeaksForPolicy r := by
  intro r
  have hs₀ : create (configAt "/health") .steady none true none = .ok {
      rendersMetrics := true
      routes := [⟨"/health", "/health".toList.map .char, some .liveness, some .probe⟩,
        ⟨"/metrics", "/metrics".toList.map .char, some .metrics, none⟩]
      mounted := none
      lifecycle := .initial (.drain
        ⟨(configAt "/health").health.drainSettings, by decide, .steady, .init, none, .empty⟩) none
      metrics := .initial
      opened := [] } := rfl
  refine ⟨by decide, rfl, rfl, _, hs₀, ?_⟩
  intro s
  have hphase : s.lifecycle.policy.phase = .draining := by decide
  have hstatus : (s.serve r).1.status = 200 := by decide
  refine ⟨hphase, hstatus, fun h => ?_⟩
  have hsaid := h.status
  rw [hstatus, hphase] at hsaid
  contradiction

end Service

end GracefulDrain
