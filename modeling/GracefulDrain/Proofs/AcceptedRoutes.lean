import GracefulDrain.Config.Load
import GracefulDrain.Proofs.HealthEndpoint

namespace GracefulDrain

theorem Load.fault?_accept {merged : Value} {config : AppConfig}
    (h : Load.accept merged = .ok config) : config.fault? = none := by
  unfold Load.accept Load.conclude at h
  split at h
  · cases h
  · split at h
    · cases h
    · next hnone =>
      cases h
      exact hnone

theorem Load.fault?_fromDirectory {files : FileTree} {environment : Environment} {dir : String}
    {config : AppConfig} (h : Load.fromDirectory files environment dir = .ok config) :
    config.fault? = none := by
  obtain ⟨defaults, -, h⟩ := exists_of_bind_eq_ok h
  obtain ⟨profiled, -, h⟩ := exists_of_bind_eq_ok h
  exact fault?_accept h

theorem Coordinator.exists_create {settings : DrainSettings} (h : settings.fault? = none)
    (clock : ClockSource) : ∃ c, create settings clock = .ok c := by
  unfold create
  split
  · next fault hsome =>
    rw [h] at hsome
    cases hsome
  · exact ⟨_, rfl⟩

/-- Valid settings make a policy of either kind, at the configured path. -/
theorem Policy.exists_ofHealth {config : HealthConfig} (h : config.drainSettings.Valid)
    (clock : ClockSource) : ∃ p, ofHealth config clock = .ok p ∧ p.path = config.path := by
  obtain ⟨c, hc⟩ := Coordinator.exists_create (DrainSettings.fault?_eq_none_iff.2 h) clock
  have hsettings : c.settings = config.drainSettings := (Coordinator.create_eq_ok hc).1
  cases hmode : config.mode with
  | drain =>
    refine ⟨.drain c, ?_, ?_⟩
    · rw [ofHealth, hc, hmode]
      rfl
    · rw [Policy.path, hsettings]
      rfl
  | simple =>
    refine ⟨.simple (.create config.path), ?_, rfl⟩
    rw [ofHealth, hc, hmode]
    rfl

namespace Service
open Routing

/-- The liveness report's template. -/
def livenessTemplate : Template := livenessPath.toList.map .char

theorem plain_livenessPath : Plain livenessPath.toList := ⟨by decide, by decide⟩

theorem parse?_livenessPath : Template.parse? livenessPath = some livenessTemplate := by
  rw [Template.parse?_eq_of_plain plain_livenessPath, if_pos (by decide), livenessTemplate]

/-- Only its own path conflicts with the liveness report. -/
theorem eq_livenessPath_of_conflicts {path : String} {t : Template}
    (ht : Template.parse? path = some t) (h : t.conflicts livenessTemplate = true) :
    path = livenessPath := by
  rw [Template.eq_of_conflicts_literal h] at ht
  exact String.toList_inj.1 (Template.eq_of_parse?_literal plain_livenessPath ht)

/-- The table of the probe and the liveness report. -/
def healthRoutes (path : String) (t : Template) : Table Handler :=
  if path = livenessPath then [⟨path, t, some .liveness, some .probe⟩]
  else [.single path t .any .probe, .single livenessPath livenessTemplate .get .liveness]

theorem add?_liveness {path : String} {t : Template} (ht : Template.parse? path = some t) :
    Table.add? [.single path t .any .probe] livenessPath .get .liveness =
      some (healthRoutes path t) := by
  by_cases hpath : path = livenessPath
  · rw [Table.add?, parse?_livenessPath, healthRoutes, if_pos hpath]
    simp [Table.extend?, Route.single, Route.add?, hpath]
  · have hno : t.conflicts livenessTemplate = false := by
      by_contra hyes
      exact hpath (eq_livenessPath_of_conflicts ht (by simpa using hyes))
    rw [Table.add?_of_path_ne (by simpa [Route.single] using hpath), parse?_livenessPath]
    simp [healthRoutes, Route.single, hpath, hno]

/-- The metrics need a path of their own, and a template that can be told from the probe's. -/
theorem isSome_add?_metrics {path metricsPath : String} {t : Template}
    (hne : metricsPath ≠ path) :
    ((healthRoutes path t).add? metricsPath .get .metrics).isSome = true ↔
      metricsPath ≠ livenessPath ∧
        ∃ m, Template.parse? metricsPath = some m ∧ t.conflicts m = false := by
  by_cases hlive : metricsPath = livenessPath
  · subst hlive
    rw [Table.add?, parse?_livenessPath, healthRoutes, if_neg hne.symm]
    simp [Table.extend?, Route.single, Route.add?, hne.symm]
  · have hpaths : ∀ r ∈ healthRoutes path t, r.path ≠ metricsPath := by
      unfold healthRoutes
      split <;> simp [Route.single, Ne.symm hne, Ne.symm hlive]
    rw [Table.add?_of_path_ne hpaths]
    cases hm : Template.parse? metricsPath with
    | none => simp
    | some m =>
      have hany : ((healthRoutes path t).any fun r => r.template.conflicts m) = t.conflicts m := by
        have hno : livenessTemplate.conflicts m = false := by
          rw [Template.conflicts_comm]
          by_contra hyes
          exact hlive (eq_livenessPath_of_conflicts hm (by simpa using hyes))
        unfold healthRoutes
        split <;> simp [Route.single, hno]
      rw [Option.bind_some, hany]
      cases hconflict : t.conflicts m <;> simp [hlive, hconflict]

/-- The path of the probe is a template, and that of the metrics, if they are enabled, another one
that can be told from it and is not the path of the liveness report. -/
def RoutesFit (config : AppConfig) : Prop :=
  ∃ t, Template.parse? config.health.path = some t ∧
    (config.observability.metricsEnabled = true →
      config.observability.metricsPath ≠ livenessPath ∧
        ∃ m, Template.parse? config.observability.metricsPath = some m ∧ t.conflicts m = false)

theorem isSome_mainRoutes?_iff {config : AppConfig} (h : config.fault? = none) :
    (mainRoutes? config.health.path config.observability).isSome = true ↔ RoutesFit config := by
  rw [mainRoutes?, Table.add?_nil_eq, RoutesFit]
  cases ht : Template.parse? config.health.path with
  | none => simp
  | some t =>
    have hlive := add?_liveness ht
    cases henabled : config.observability.metricsEnabled with
    | false => simp [hlive]
    | true =>
      have hmetrics := isSome_add?_metrics (t := t) (metricsPath_ne h henabled)
      simpa [hlive] using hmetrics

theorem routesFit_iff_of_plain {config : AppConfig} (h : config.fault? = none)
    (hhealth : Plain config.health.path.toList)
    (hmetrics : config.observability.metricsEnabled = true →
      Plain config.observability.metricsPath.toList) :
    RoutesFit config ↔ isRoutePath config.health.path.toList = true ∧
      (config.observability.metricsEnabled = true →
        config.observability.metricsPath ≠ livenessPath ∧
          isRoutePath config.observability.metricsPath.toList = true) := by
  rw [RoutesFit, Template.parse?_eq_of_plain hhealth]
  by_cases hroute : isRoutePath config.health.path.toList = true
  · simp only [hroute, if_true, Option.some.injEq, exists_eq_left', true_and]
    refine forall_congr' fun henabled => and_congr_right fun _ => ?_
    rw [Template.parse?_eq_of_plain (hmetrics henabled)]
    by_cases hmroute : isRoutePath config.observability.metricsPath.toList = true
    · simp only [hmroute, if_true, Option.some.injEq, exists_eq_left', iff_true]
      by_contra hyes
      have heq := Template.eq_of_conflicts_literal (by simpa using hyes)
      have hinj : Function.Injective Piece.char := fun _ _ => Piece.char.inj
      exact metricsPath_ne h henabled (String.toList_inj.1 (hinj.list_map heq).symm)
    · simp [hmroute]
  · simp [hroute]

/-- Once there is a policy, only the routes can be refused. -/
theorem create_of_policy {config : AppConfig} {clock : ClockSource} {p : Policy}
    (hp : Policy.ofHealth config.health clock = .ok p) (hpath : p.path = config.health.path)
    (manual : Option ManualClock) (rendersMetrics : Bool) :
    create config clock manual rendersMetrics none =
      (orRoutes (mainRoutes? config.health.path config.observability)).map fun routes => {
        rendersMetrics, routes
        mounted := none
        lifecycle := .initial p manual
        metrics := .initial
        opened := [] } := by
  rw [create, hp, ← hpath]
  change (orRoutes (mainRoutes? p.path config.observability) >>= _) = _
  cases mainRoutes? p.path config.observability <;> rfl

/-- What is loaded is accepted, and what is accepted has a policy at its health path. A service starts
with it exactly if the routes fit, and is refused for its routes otherwise. For paths without braces
this comes down to their texts. -/
theorem create_of_accepted (config : AppConfig) :
    (∀ files environment dir, Load.fromDirectory files environment dir = .ok config →
      config.fault? = none) ∧
    (config.fault? = none → ∀ clock manual rendersMetrics,
      (∃ p, Policy.ofHealth config.health clock = .ok p ∧ p.path = config.health.path) ∧
      ((∃ s, create config clock manual rendersMetrics none = .ok s) ↔ RoutesFit config) ∧
      (create config clock manual rendersMetrics none = .error .routes ↔ ¬ RoutesFit config) ∧
      (Plain config.health.path.toList →
        (config.observability.metricsEnabled = true →
          Plain config.observability.metricsPath.toList) →
        (RoutesFit config ↔ isRoutePath config.health.path.toList = true ∧
          (config.observability.metricsEnabled = true →
            config.observability.metricsPath ≠ livenessPath ∧
              isRoutePath config.observability.metricsPath.toList = true)))) := by
  refine ⟨fun _ _ _ => Load.fault?_fromDirectory, fun h clock manual rendersMetrics => ?_⟩
  obtain ⟨p, hp, hpath⟩ := Policy.exists_ofHealth (AppConfig.fault?_eq_none_iff.1 h).2.1 clock
  have hcreate := create_of_policy hp hpath manual rendersMetrics
  refine ⟨⟨p, hp, hpath⟩, ?_, ?_, fun hhealth hmetrics => routesFit_iff_of_plain h hhealth hmetrics⟩
  · rw [hcreate, ← isSome_mainRoutes?_iff h]
    cases mainRoutes? config.health.path config.observability <;> simp [orRoutes, Except.map]
  · rw [hcreate, ← isSome_mainRoutes?_iff h]
    cases mainRoutes? config.health.path config.observability <;> simp [orRoutes, Except.map]

/-- The default configuration but for the paths of the probe and the metrics. -/
def configWith (healthPath metricsPath : String) : AppConfig :=
  { configAt healthPath with
    observability := { ObservabilityConfig.default with metricsPath := metricsPath } }

/-- A probe that takes the client's address from its path, beside other parameters. -/
theorem create_of_accepted_parameters :
    let config := configWith "/lb/{ip}/status" "/{team}/metrics"
    config.fault? = none ∧ RoutesFit config ∧
      ∃ s, create config .steady none true none = .ok s := by
  intro config
  have haccepted : config.fault? = none := by decide
  have hfit : RoutesFit config := by
    refine ⟨"/lb/".toList.map .char ++ .param "ip" :: "/status".toList.map .char, by decide,
      fun _ => ⟨by decide, .char '/' :: .param "team" :: "/metrics".toList.map .char, by decide,
        by decide⟩⟩
  obtain ⟨-, hcreate, -⟩ := (create_of_accepted config).2 haccepted .steady none true
  exact ⟨haccepted, hfit, hcreate.2 hfit⟩

/-- Metrics at the path of the liveness report are accepted, and have no route. -/
theorem create_metrics_at_health_eq_error :
    let config := configWith "/status.txt" livenessPath
    config.fault? = none ∧ create config .steady none true none = .error .routes := by
  decide

end Service

end GracefulDrain
