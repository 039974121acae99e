import GracefulDrain.Proofs.HealthEndpoint
import GracefulDrain.Proofs.InertTraffic

namespace GracefulDrain

namespace Routing.Table
variable {H : Type} {t t' : Table H} {r : Route H} {path : String} {slot : Slot} {h : H}

theorem mem_of_mem_extend? (ht : extend? path slot h t = some (some t')) (hr : r ∈ t') :
    r ∈ t ∨ ∃ r₀ ∈ t, r₀.add? slot h = some r := by
  induction t generalizing t' with
  | nil => cases ht
  | cons r₀ rest ih =>
    rw [extend?] at ht
    split at ht
    · obtain ⟨r', hr', rfl⟩ := Option.map_eq_some_iff.1 (Option.some.inj ht)
      rcases List.mem_cons.1 hr with rfl | hr
      · exact .inr ⟨r₀, List.mem_cons_self, hr'⟩
      · exact .inl (List.mem_cons_of_mem _ hr)
    · obtain ⟨rest?, hrest, hcons⟩ := Option.map_eq_some_iff.1 ht
      obtain ⟨rest', rfl, rfl⟩ := Option.map_eq_some_iff.1 hcons
      rcases List.mem_cons.1 hr with rfl | hr
      · exact .inl List.mem_cons_self
      · rcases ih hrest hr with hold | ⟨r₁, hr₁, hadd⟩
        · exact .inl (List.mem_cons_of_mem _ hold)
        · exact .inr ⟨r₁, List.mem_cons_of_mem _ hr₁, hadd⟩

/-- A route of a table with a further handler is an old one, an old one with this handler, or new. -/
theorem mem_of_mem_add? (ht : t.add? path slot h = some t') (hr : r ∈ t') :
    r ∈ t ∨ (∃ r₀ ∈ t, r₀.add? slot h = some r) ∨ ∃ template, r = .single path template slot h := by
  obtain ⟨template, -, hadd⟩ := Option.bind_eq_some_iff.1 ht
  split at hadd
  · next extended hext =>
    subst hadd
    rcases mem_of_mem_extend? hext hr with hold | hadded
    · exact .inl hold
    · exact .inr (.inl hadded)
  · split at hadd
    · cases hadd
    · cases hadd
      rcases List.mem_append.1 hr with hold | hnew
      · exact .inl hold
      · exact .inr (.inr ⟨template, List.mem_singleton.1 hnew⟩)

/-- The route that a path leads to stands in the table. -/
theorem mem_of_find? {cs : List Char} {captures : List (String × List Char)}
    (h : t.find? cs = some (r, captures)) : r ∈ t := by
  have hfound : ∀ found ∈ t.find? cs, found.1 ∈ t := by
    refine List.foldlRecOn (motive := fun best : Option (Route H × List (String × List Char)) =>
      ∀ found ∈ best, found.1 ∈ t) t _ nofun fun best hbest r₀ hr₀ => ?_
    split
    · exact hbest
    · split
      · rintro found ⟨⟩
        exact hr₀
      · split
        · rintro found ⟨⟩
          exact hr₀
        · exact hbest
  exact hfound (r, captures) h

end Routing.Table

theorem Policy.path_ofHealth {config : HealthConfig} {clock : ClockSource} {p : Policy}
    (h : ofHealth config clock = .ok p) : p.path = config.path := by
  obtain ⟨c, hc, h⟩ := exists_of_bind_eq_ok h
  cases hmode : config.mode with
  | drain =>
    rw [hmode] at h
    cases h
    rw [Policy.path, (Coordinator.create_eq_ok hc).1]
    rfl
  | simple =>
    rw [hmode] at h
    cases h
    rfl

namespace Service
open Routing Lifecycle

/-- A request to the probe, with the client that its route names: one to the health path, or one that
a template of the second table fits. -/
def probing? (healthPath : String) (mounted : Option (Table Handler)) :
    Step → Option (Http.Request × Option String)
  | .request r => if r.uri.path = healthPath then some (r, none) else none
  | .mountedRequest r => mounted.bind fun t =>
    (t.find? r.uri.path.toList).map fun found => (r, routeIp? found.2)
  | _ => none

/-- The health path leads to the probe, and so does all that the second table finds, whatever the
method. -/
structure LeadsToProbe (healthPath : String) (s : Service) : Prop where
  main : ∀ method, s.routes.dispatch method healthPath = .handler .probe []
  mounted : ∀ t ∈ s.mounted, ∀ method path route captures,
    t.find? path.toList = some (route, captures) →
      t.dispatch method path = .handler .probe captures

theorem SameSetup.leadsToProbe {healthPath : String} {s s' : Service} (h : s.SameSetup s')
    (hs : s.LeadsToProbe healthPath) : s'.LeadsToProbe healthPath := by
  obtain ⟨hmain, hmounted⟩ := hs
  constructor
  · rwa [h.routes]
  · rwa [h.mounted]

theorem routes_of_probeRoutes? {templates : List String} {t : Table Handler}
    (h : probeRoutes? templates = some t) : ∀ r ∈ t, r.onGet = none ∧ r.onAny = some .probe := by
  suffices hfold : ∀ t₀ : Table Handler, (∀ r ∈ t₀, r.onGet = none ∧ r.onAny = some .probe) →
      templates.foldlM (fun t path => t.add? path .any .probe) t₀ = some t →
        ∀ r ∈ t, r.onGet = none ∧ r.onAny = some .probe from hfold [] (by simp) h
  clear h
  induction templates with
  | nil =>
    intro t₀ hall h
    cases h
    exact hall
  | cons path rest ih =>
    intro t₀ hall h
    obtain ⟨t₁, hadd, h⟩ := Option.bind_eq_some_iff.1 h
    refine ih t₁ (fun r hr => ?_) h
    rcases Table.mem_of_mem_add? hadd hr with hold | ⟨r₀, hr₀, hextended⟩ | ⟨template, rfl⟩
    · exact hall r hold
    · -- there is a handler for every method already
      simp [Route.add?, (hall r₀ hr₀).2] at hextended
    · exact ⟨rfl, rfl⟩

theorem dispatch_probeRoutes {templates : List String} {t : Table Handler}
    (h : probeRoutes? templates = some t) {path : String} {route : Route Handler}
    {captures : List (String × List Char)} (hfind : t.find? path.toList = some (route, captures))
    (method : String) : t.dispatch method path = .handler .probe captures := by
  obtain ⟨hget, hany⟩ := routes_of_probeRoutes? h route (Table.mem_of_find? hfind)
  simp [Table.dispatch, hfind, Table.handlerFor, hget, hany]

theorem mounted_of_create {config : AppConfig} {clock : ClockSource} {manual : Option ManualClock}
    {rendersMetrics : Bool} {mount : Option (List String)} {s : Service}
    (h : create config clock manual rendersMetrics mount = .ok s) {t : Table Handler}
    (ht : t ∈ s.mounted) : ∃ templates, probeRoutes? templates = some t := by
  obtain ⟨policy, -, h⟩ := exists_of_bind_eq_ok h
  obtain ⟨routes, -, h⟩ := exists_of_bind_eq_ok h
  cases mount with
  | none =>
    cases h
    cases ht
  | some templates =>
    obtain ⟨mounted, hmounted, h⟩ := exists_of_bind_eq_ok h
    cases h
    refine ⟨templates, ?_⟩
    cases hroutes : probeRoutes? templates with
    | none =>
      rw [hroutes] at hmounted
      cases hmounted
    | some t' =>
      rw [hroutes] at hmounted
      cases hmounted
      exact ht

theorem leadsToProbe_of_create {config : AppConfig} {clock : ClockSource}
    {manual : Option ManualClock} {rendersMetrics : Bool} {mount : Option (List String)}
    {s : Service} (hplain : Plain config.health.path.toList)
    (hlive : config.health.path ≠ livenessPath)
    (hmetrics : config.observability.metricsEnabled = true →
      config.observability.metricsPath ≠ config.health.path)
    (h : create config clock manual rendersMetrics mount = .ok s) :
    s.LeadsToProbe config.health.path := by
  obtain ⟨policy, hpolicy, hroutes, -⟩ := initial_of_create h
  have hpath : policy.path = config.health.path := by
    cases hof : Policy.ofHealth config.health clock with
    | error fault =>
      rw [hof] at hpolicy
      cases hpolicy
    | ok p =>
      rw [hof] at hpolicy
      cases hpolicy
      exact Policy.path_ofHealth hof
  rw [hpath] at hroutes
  refine ⟨fun method => ?_, fun t ht method path route captures hfind => ?_⟩
  · exact (dispatch_mainRoutes hroutes hplain hmetrics method).2 fun hshadow => hlive hshadow.1
  · obtain ⟨templates, hprobes⟩ := mounted_of_create h ht
    exact dispatch_probeRoutes hprobes hfind method

/-- What a client is answered who is told a verdict. A response to HEAD has no body, nor has a
successful one to CONNECT. -/
def answerTo (method : String) (v : Verdict) : Http.Response where
  status := v.status
  headers := []
  body := .text (if method = "HEAD" ∨ method = "CONNECT" ∧ v = .ready then "" else v.body)

theorem forMethod_bare (method : String) (v : Verdict) :
    (Http.Response.bare v.status v.body).forMethod method = answerTo method v := by
  have hsuccess : (Http.Response.bare v.status v.body).isSuccess = true ↔ v = .ready := by
    cases v <;> decide
  simp only [Http.Response.forMethod, hsuccess, answerTo]
  split <;> rfl

section
variable {s : Service} {healthPath : String} {step : Step} {r : Http.Request}
  {routeIp : Option String}

theorem probed?_of_dispatch {t : Table Handler} {captures : List (String × List Char)}
    (h : t.dispatch r.method r.uri.path = .handler .probe captures) :
    probed? t r = some (r.origin (routeIp? captures)) := by
  rw [probed?, h]

theorem route_fst_of_dispatch {t : Table Handler} {captures : List (String × List Char)}
    (h : t.dispatch r.method r.uri.path = .handler .probe captures) :
    (s.route t r).1 = answerTo r.method s.lifecycle.verdict := by
  simp only [route, h, handle, answerProbe, forMethod_bare]

theorem run_enter_probe_leave {l : Lifecycle} (h : (l.monitor ownMonitor).count.toNat < 2 ^ 32 - 1)
    (origin : Origin) :
    l.run [.enter ownMonitor 1, .probe origin, .leave ownMonitor 1] = l.run [.probe origin] := by
  have hcomm : (l.step (.enter ownMonitor 1)).step (.probe origin) =
      (l.step (.probe origin)).step (.enter ownMonitor 1) := by
    cases hp : l.policy <;> simp only [Lifecycle.step, Lifecycle.probe, Lifecycle.onMonitor, hp]
    rfl
  have hcount : ((l.step (.probe origin)).monitor ownMonitor).count.toNat < 2 ^ 32 - 1 := by
    rwa [monitor, monitors_step]
  calc
    _ = (l.step (.probe origin)).run [.enter ownMonitor 1, .leave ownMonitor 1] := by
      simp only [Lifecycle.run_cons, hcomm]
    _ = l.run [.probe origin] := run_enter_leave hcount

/-- A request to the probe is a direct probe but for the metrics, and answers with its verdict. -/
theorem step_of_probing (hs : s.LeadsToProbe healthPath)
    (h : (r, routeIp) ∈ probing? healthPath s.mounted step) :
    (s.step step).1 = .response (answerTo r.method s.lifecycle.verdict) ∧
      (s.inflight < 2 ^ 32 - 1 →
        (s.step step).2.SameButMetrics (s.step (.probe (r.origin routeIp))).2) := by
  cases step with
  | request r' =>
    simp only [probing?, Option.mem_def] at h
    split at h
    · next hpath =>
      cases h
      have hdispatch := hpath ▸ hs.main r.method
      refine ⟨congrArg Result.response (route_fst_of_dispatch (s := s.beginRequest) hdispatch),
        fun hcount => ⟨(sameSetup_step s _).symm.trans (sameSetup_step s _), ?_, ?_⟩⟩
      · have hevents : s.events (.request r) =
            [.enter ownMonitor 1, .probe (r.origin none), .leave ownMonitor 1] := by
          rw [events, probed?_of_dispatch hdispatch]
          rfl
        rw [lifecycle_step, lifecycle_step, hevents]
        exact (run_enter_probe_leave hcount _).symm
      · rw [opened_step, opened_step]
        rfl
    · cases h
  | mountedRequest r' =>
    obtain ⟨t, hmounted, hfound⟩ := Option.bind_eq_some_iff.1 h
    obtain ⟨⟨route, captures⟩, hfind, heq⟩ := Option.map_eq_some_iff.1 hfound
    cases heq
    have hdispatch := hs.mounted t hmounted r.method r.uri.path route captures hfind
    refine ⟨?_, fun _ => ⟨(sameSetup_step s _).symm.trans (sameSetup_step s _), ?_, ?_⟩⟩
    · rw [step_mountedRequest_of_some hmounted, route_fst_of_dispatch hdispatch]
    · have hevents : s.events (.mountedRequest r) = [.probe (r.origin (routeIp? captures))] := by
        rw [events, hmounted, Option.bind_some, probed?_of_dispatch hdispatch]
        rfl
      rw [lifecycle_step, lifecycle_step, hevents]
      rfl
    · rw [opened_step, opened_step]
      rfl
  | _ => cases h

end

/-- A direct probe at the instant of a request to the probe, with the origin that is read off it. -/
def IsDirect (healthPath : String) (mounted : Option (Table Handler)) (t t' : TimedStep) : Prop :=
  ∃ call ∈ probing? healthPath mounted t.step, t' = ⟨t.instant, .probe (call.1.origin call.2)⟩

instance (healthPath : String) (mounted : Option (Table Handler)) (t t' : TimedStep) :
    Decidable (IsDirect healthPath mounted t t') :=
  inferInstanceAs (Decidable (∃ call ∈ probing? healthPath mounted t.step,
    t' = ⟨t.instant, .probe (call.1.origin call.2)⟩))

/-- `direct` is `steps` with direct probes in place of requests to the probe, be it of some or of
all. -/
def Replaces (healthPath : String) (mounted : Option (Table Handler))
    (steps direct : List TimedStep) : Prop :=
  List.Forall₂ (fun t t' => t' = t ∨ IsDirect healthPath mounted t t') steps direct

instance (healthPath : String) (mounted : Option (Table Handler))
    (steps direct : List TimedStep) : Decidable (Replaces healthPath mounted steps direct) :=
  inferInstanceAs (Decidable (List.Forall₂ _ steps direct))

variable {s₀ s s' : Service} {healthPath : String}

theorem SameButMetrics.timedStep_of_direct (hs : s₀.LeadsToProbe healthPath)
    (hsetup : s₀.SameSetup s) (h : s.SameButMetrics s') (hcount : s.inflight < 2 ^ 32 - 1)
    {t t' : TimedStep} (ht : t' = t ∨ IsDirect healthPath s₀.mounted t t') :
    (s.timedStep t).2.SameButMetrics (s'.timedStep t').2 := by
  have helapsed := h.elapseTo t.instant
  rcases ht with rfl | ⟨⟨r, routeIp⟩, hcall, rfl⟩
  · exact helapsed.step t'.step
  · have hsetup' := hsetup.trans (sameSetup_elapseTo s t.instant)
    rw [← hsetup'.mounted] at hcall
    have hdirect := (step_of_probing (hsetup'.leadsToProbe hs) hcall).2
      (by rwa [inflight_elapseTo])
    exact hdirect.trans (helapsed.step _)

/-- The same step of both runs has the same result but for samples. -/
theorem SameButMetrics.timedStep_fst (h : s.SameButMetrics s') (t : TimedStep) :
    (¬ s.ShowsSamples t.step → (s'.timedStep t).1 = (s.timedStep t).1) ∧
      (s.timedStep t).1.SameButSamples (s'.timedStep t).1 := by
  have helapsed := h.elapseTo t.instant
  obtain ⟨hresult, hsamples⟩ := step_fst (s.elapseTo t.instant) (s'.elapseTo t.instant).metrics t.step
  rw [← helapsed.eq] at hresult hsamples
  exact ⟨fun hno => hresult (mt (sameSetup_elapseTo s t.instant).symm.showsSamples hno), hsamples⟩

/-- The request is answered with the verdict that the direct probe of the other run gets. -/
theorem SameButMetrics.timedStep_fst_of_direct (hs : s₀.LeadsToProbe healthPath)
    (hsetup : s₀.SameSetup s) (h : s.SameButMetrics s') {t : TimedStep} {r : Http.Request}
    {routeIp : Option String} (hcall : (r, routeIp) ∈ probing? healthPath s₀.mounted t.step) :
    ∃ v, (s'.timedStep ⟨t.instant, .probe (r.origin routeIp)⟩).1 = .verdict v ∧
      (s.timedStep t).1 = .response (answerTo r.method v) := by
  have hsetup' := hsetup.trans (sameSetup_elapseTo s t.instant)
  rw [← hsetup'.mounted] at hcall
  refine ⟨_, rfl, ?_⟩
  rw [(h.elapseTo t.instant).lifecycle]
  exact (step_of_probing (hsetup'.leadsToProbe hs) hcall).1

/-- Direct probes may stand in for any requests to the probe, sent to the health path of the main
table or found by the second one: before and after every step the service is the same but for its
metrics, each of these requests is answered with the verdict of its direct probe, and every other step
has the same result but for the samples in it. -/
theorem requests_as_direct_probes {config : AppConfig} {clock : ClockSource}
    {manual : Option ManualClock} {rendersMetrics : Bool} {mount : Option (List String)}
    {s₀ : Service} (hplain : Plain config.health.path.toList)
    (hlive : config.health.path ≠ livenessPath)
    (hmetrics : config.observability.metricsEnabled = true →
      config.observability.metricsPath ≠ config.health.path)
    (hs₀ : create config clock manual rendersMetrics mount = .ok s₀)
    {steps direct : List TimedStep} (hdirect : Replaces config.health.path s₀.mounted steps direct)
    (hcount : ∀ past, past <+: steps → (s₀.run past).inflight < 2 ^ 32 - 1) (k : Nat) :
    let now := s₀.run (steps.take k)
    let now' := s₀.run (direct.take k)
    now.SameButMetrics now' ∧ ∀ t ∈ steps[k]?, ∀ t' ∈ direct[k]?,
      (t' = t → (¬ now.ShowsSamples t.step → (now'.timedStep t').1 = (now.timedStep t).1) ∧
        (now.timedStep t).1.SameButSamples (now'.timedStep t').1) ∧
      ∀ r routeIp, (r, routeIp) ∈ probing? config.health.path s₀.mounted t.step →
        t' = ⟨t.instant, .probe (r.origin routeIp)⟩ →
        ∃ v, (now'.timedStep t').1 = .verdict v ∧
          (now.timedStep t).1 = .response (answerTo r.method v) := by
  intro now now'
  have hleads := leadsToProbe_of_create hplain hlive hmetrics hs₀
  have hnow : now.SameButMetrics now' :=
    SameButMetrics.run_of_timedStep
      (fun hsetup hsame hlow ht => hsame.timedStep_of_direct hleads hsetup hlow ht)
      ⟨rfl, rfl, rfl⟩ (sameButMetrics_refl s₀) (List.forall₂_take k hdirect)
      fun past hpast => hcount past (hpast.trans (List.take_prefix k steps))
  refine ⟨hnow, fun t _ t' _ => ⟨?_, ?_⟩⟩
  · rintro rfl
    exact hnow.timedStep_fst t'
  · rintro r routeIp hcall rfl
    exact hnow.timedStep_fst_of_direct hleads (sameSetup_run s₀ _) hcall

/-- A drain during which a load balancer probes the main table, and another one the second table,
where the path names it. -/
theorem requests_as_direct_probes_drain :
    let config := AppConfig.default
    let lb := getFrom "10.0.0.1" "/status.txt" none
    let proxied := getFrom "10.0.0.1" "/lb/10.0.0.2/status" none
    let steps : List TimedStep := [⟨none, .start⟩, ⟨none, .request lb⟩, ⟨none, .stop⟩,
      ⟨some 2000000000, .request lb⟩, ⟨some 3000000000, .mountedRequest proxied⟩]
    let direct : List TimedStep := [⟨none, .start⟩, ⟨none, .probe ⟨some "10.0.0.1", false⟩⟩,
      ⟨none, .stop⟩, ⟨some 2000000000, .probe ⟨some "10.0.0.1", false⟩⟩,
      ⟨some 3000000000, .probe ⟨some "10.0.0.2", false⟩⟩]
    Plain config.health.path.toList ∧ config.health.path ≠ livenessPath ∧
      config.observability.metricsPath ≠ config.health.path ∧
      create config .steady none true (some ["/lb/{ip}/status"]) = .ok standard ∧
      Replaces config.health.path standard.mounted steps direct ∧
      (∀ past, past <+: steps → (standard.run past).inflight < 2 ^ 32 - 1) ∧
      (standard.run (steps.take 4)).SameButMetrics (standard.run (direct.take 4)) ∧
      ∃ v, ((standard.run (direct.take 4)).timedStep
          ⟨some 3000000000, .probe ⟨some "10.0.0.2", false⟩⟩).1 = .verdict v ∧
        ((standard.run (steps.take 4)).timedStep ⟨some 3000000000, .mountedRequest proxied⟩).1 =
          .response (answerTo "GET" v) := by
  intro config lb proxied steps direct
  have hplain : Plain config.health.path.toList := ⟨by decide, by decide⟩
  have hlive : config.health.path ≠ livenessPath := by decide
  have hmetrics : config.observability.metricsPath ≠ config.health.path := by decide
  have hdirect : Replaces config.health.path standard.mounted steps direct := by decide +kernel
  have hcount : ∀ past ∈ steps.inits, (standard.run past).inflight < 2 ^ 32 - 1 := by
    decide +kernel
  have hcount' : ∀ past, past <+: steps → (standard.run past).inflight < 2 ^ 32 - 1 :=
    fun past hpast => hcount past ((List.mem_inits past steps).2 hpast)
  obtain ⟨hsame, hresults⟩ := requests_as_direct_probes hplain hlive (fun _ => hmetrics)
    create_default hdirect hcount' 4
  have hanswer := (hresults _ rfl _ rfl).2 proxied (some "10.0.0.2") (by decide +kernel)
    (by decide +kernel)
  exact ⟨hplain, hlive, hmetrics, create_default, hdirect, hcount', hsame, hanswer⟩

/-- A ready service answers CONNECT at the health path with 200 and no body. -/
theorem body_ne_of_connect :
    let config := AppConfig.default
    let r : Http.Request := ⟨⟨"/status.txt", none⟩, "CONNECT", [], none, none⟩
    let s := standard.run [⟨none, .start⟩]
    Plain config.health.path.toList ∧ config.health.path ≠ livenessPath ∧
      config.observability.metricsPath ≠ config.health.path ∧ config.health.mode = .drain ∧
      create config .steady none true (some ["/lb/{ip}/status"]) = .ok standard ∧
      s.inflight < 2 ^ 32 - 1 ∧ r.uri.path = config.health.path ∧
      ∃ v response, (s.step (.probe (r.origin none))).1 = .verdict v ∧
        (s.step (.request r)).1 = .response response ∧
        response.body ≠ .text (if r.method = "HEAD" then "" else v.body) := by
  intro config r s
  refine ⟨⟨by decide, by decide⟩, by decide, by decide, rfl, create_default, by decide, rfl, .ready,
    ⟨200, [], .text ""⟩, by decide +kernel, by decide +kernel, by decide⟩

end Service

end GracefulDrain
