import GracefulDrain.Proofs.ServiceSteps

namespace GracefulDrain

/-- Sent by deployment tooling, or by a client that could not be determined. -/
def Origin.IsInert (o : Origin) : Prop := o.deployer = true ∨ o.identity = none

instance (o : Origin) : Decidable o.IsInert := inferInstanceAs (Decidable (_ ∨ _))

theorem Coordinator.note_of_inert {origin : Origin} (h : origin.IsInert) (c : Coordinator)
    (reading : Nat) (v : Verdict) : c.note reading v origin = c := by
  obtain ⟨identity, deployer⟩ := origin
  rcases h with hdeployer | hidentity
  · obtain rfl : deployer = true := hdeployer
    cases identity with
    | none => rfl
    | some id => cases v <;> rfl
  · obtain rfl : identity = none := hidentity
    rfl

theorem Lifecycle.probe_of_inert {origin : Origin} (h : origin.IsInert) (s : Lifecycle) :
    s.probe origin = s := by
  unfold probe
  split
  · rfl
  · next c hp =>
    rw [Coordinator.handle, Coordinator.note_of_inert h, ← hp]

/-- A request that is counted in and out again leaves the count as it was. -/
theorem Monitor.leaveTimes_enterTimes_one {m : Monitor} (h : m.count.toNat < 2 ^ 32 - 1) :
    (m.enterTimes 1).leaveTimes 1 = m := by
  have hne : m.count ≠ -1 := by
    rintro heq
    rw [heq] at h
    exact absurd h (by decide)
  rw [enterTimes_succ, leaveTimes_succ, enterTimes_zero, leaveTimes_zero, leave_enter hne]

namespace Service
open Routing Lifecycle

theorem run_enter_leave {l : Lifecycle} (h : (l.monitor ownMonitor).count.toNat < 2 ^ 32 - 1) :
    l.run [.enter ownMonitor 1, .leave ownMonitor 1] = l := by
  have hmonitors : (l.monitors.modify ownMonitor (·.enterTimes 1)).modify ownMonitor
      (·.leaveTimes 1) = l.monitors := by
    cases hms : l.monitors with
    | nil => rfl
    | cons m rest =>
      have hm : m.count.toNat < 2 ^ 32 - 1 := by simpa [monitor, ownMonitor, hms] using h
      simp [ownMonitor, Monitor.leaveTimes_enterTimes_one hm]
  simp only [Lifecycle.run_cons, Lifecycle.run_nil, Lifecycle.step, onMonitor, hmonitors]

/-- A table answers the request without a probe, or with one that leaves no trace. -/
def IsInertAt (t : Table Handler) (r : Http.Request) : Prop :=
  ∀ origin ∈ probed? t r, origin.IsInert

instance (t : Table Handler) (r : Http.Request) : Decidable (IsInertAt t r) :=
  inferInstanceAs (Decidable (∀ origin ∈ probed? t r, origin.IsInert))

/-- Requests to be left out: probes that leave no trace, and what the liveness report, the metrics
or nobody answers. -/
def IsInert (s : Service) : Step → Prop
  | .probe origin => origin.IsInert
  | .request r => IsInertAt s.routes r
  | .mountedRequest r => ∃ t ∈ s.mounted, IsInertAt t r
  | _ => False

instance (s : Service) : DecidablePred s.IsInert
  | .probe origin => inferInstanceAs (Decidable origin.IsInert)
  | .request r => inferInstanceAs (Decidable (IsInertAt s.routes r))
  | .mountedRequest r => inferInstanceAs (Decidable (∃ t ∈ s.mounted, IsInertAt t r))
  | .wait | .start | .startOther _ | .enter _ | .leave _ | .stop | .join _ | .openRequest
  | .release _ | .crash _ | .cancel _ | .advanceClock _ | .setClock _ | .metrics =>
    inferInstanceAs (Decidable False)

/-- `fewer` is `steps` without some of their inert requests. Time passes as before. -/
def Thins (s : Service) (steps fewer : List TimedStep) : Prop :=
  List.Forall₂ (fun t t' => t' = t ∨ s.IsInert t.step ∧ t' = ⟨t.instant, .wait⟩) steps fewer

instance (s : Service) (steps fewer : List TimedStep) : Decidable (s.Thins steps fewer) :=
  inferInstanceAs (Decidable (List.Forall₂ _ steps fewer))

/-- The same but for what is sampled: the policy with all that it remembers, its monitors, its stops
and their ends, the instant and the clock, and the requests left open. -/
structure SameButMetrics (s s' : Service) : Prop extends SameSetup s s' where
  lifecycle : s'.lifecycle = s.lifecycle
  opened : s'.opened = s.opened

/-- Samples are asked for. -/
def ShowsSamples (s : Service) : Step → Prop
  | .metrics => True
  | .request r => ∃ captures, s.routes.dispatch r.method r.uri.path = .handler .metrics captures
  | .mountedRequest r => ∃ t ∈ s.mounted, ∃ captures,
      t.dispatch r.method r.uri.path = .handler .metrics captures
  | _ => False

/-- The same result but for the samples in it. -/
def Result.SameButSamples : Result → Result → Prop
  | .response a, .response b => b.status = a.status ∧ b.headers = a.headers
  | .samples _, .samples _ => True
  | a, b => b = a

theorem Result.SameButSamples.refl (a : Result) : a.SameButSamples a := by
  cases a <;> simp [SameButSamples]

variable {s s' : Service}

theorem SameButMetrics.eq (h : s.SameButMetrics s') : s' = { s with metrics := s'.metrics } := by
  obtain ⟨⟨hroutes, hmounted, hrenders⟩, hlifecycle, hopened⟩ := h
  cases s'
  simp_all

theorem sameButMetrics_refl (s : Service) : s.SameButMetrics s := ⟨⟨rfl, rfl, rfl⟩, rfl, rfl⟩

theorem SameButMetrics.trans {s'' : Service} (h : s.SameButMetrics s')
    (h' : s'.SameButMetrics s'') : s.SameButMetrics s'' :=
  ⟨h.toSameSetup.trans h'.toSameSetup, h'.lifecycle.trans h.lifecycle, h'.opened.trans h.opened⟩

theorem SameButMetrics.symm (h : s.SameButMetrics s') : s'.SameButMetrics s :=
  ⟨⟨h.routes.symm, h.mounted.symm, h.rendersMetrics.symm⟩, h.lifecycle.symm, h.opened.symm⟩

theorem run_probes_of_inert {origin? : Option Origin}
    (h : ∀ origin ∈ origin?, origin.IsInert) (l : Lifecycle) :
    l.run (probes origin?) = l := by
  cases origin? with
  | none => rfl
  | some origin => exact probe_of_inert (h origin rfl) l

theorem run_events_of_inert {step : Step} (h : s.IsInert step)
    (hcount : s.inflight < 2 ^ 32 - 1) : s.lifecycle.run (s.events step) = s.lifecycle := by
  cases step with
  | probe origin => exact probe_of_inert h s.lifecycle
  | request r =>
    rw [events, List.cons_append, Lifecycle.run_cons, Lifecycle.run_append, run_probes_of_inert h]
    exact run_enter_leave hcount
  | mountedRequest r =>
    obtain ⟨t, hmounted, hinert⟩ := h
    rw [events, hmounted, Option.bind_some]
    exact run_probes_of_inert hinert s.lifecycle
  | _ => cases h

theorem sameButMetrics_of_inert {step : Step} (h : s.IsInert step)
    (hcount : s.inflight < 2 ^ 32 - 1) : s.SameButMetrics (s.step step).2 := by
  refine ⟨sameSetup_step s step, ?_, ?_⟩
  · rw [lifecycle_step, run_events_of_inert h hcount]
  · rw [opened_step]
    cases step with
    | probe | request | mountedRequest => rfl
    | _ => cases h

theorem SameButMetrics.events (h : s.SameButMetrics s') (step : Step) :
    s'.events step = s.events step := by
  rw [h.eq]
  cases step <;> rfl

theorem SameButMetrics.step (h : s.SameButMetrics s') (step : Step) :
    (s.step step).2.SameButMetrics (s'.step step).2 := by
  refine ⟨((sameSetup_step s step).symm.trans h.toSameSetup).trans (sameSetup_step s' step), ?_, ?_⟩
  · rw [lifecycle_step, lifecycle_step, h.lifecycle, h.events]
  · rw [opened_step, opened_step, h.opened]

theorem SameButMetrics.elapseTo (h : s.SameButMetrics s') (instant : Option Nat) :
    (s.elapseTo instant).SameButMetrics (s'.elapseTo instant) := by
  rw [h.eq]
  cases instant <;> exact ⟨⟨rfl, rfl, rfl⟩, rfl, rfl⟩

theorem route_fst (s : Service) (m : Metrics) (t : Table Handler) (r : Http.Request) :
    ((∀ captures, t.dispatch r.method r.uri.path ≠ .handler .metrics captures) →
      ({ s with metrics := m }.route t r).1 = (s.route t r).1) ∧
    ({ s with metrics := m }.route t r).1.status = (s.route t r).1.status ∧
      ({ s with metrics := m }.route t r).1.headers = (s.route t r).1.headers := by
  unfold route
  cases t.dispatch r.method r.uri.path with
  | methodNotAllowed | notFound => exact ⟨fun _ => rfl, rfl, rfl⟩
  | handler handler captures =>
    cases handler with
    | probe | liveness => exact ⟨fun _ => rfl, rfl, rfl⟩
    | metrics =>
      refine ⟨fun hno => absurd rfl (hno captures), ?_⟩
      simp only [handle, status_headers_forMethod]
      unfold answerMetrics
      split <;> exact ⟨rfl, rfl⟩

theorem step_fst (s : Service) (m : Metrics) (step : Step) :
    (¬ s.ShowsSamples step → ({ s with metrics := m }.step step).1 = (s.step step).1) ∧
      (s.step step).1.SameButSamples ({ s with metrics := m }.step step).1 := by
  have hsame (heq : ({ s with metrics := m }.step step).1 = (s.step step).1) :
      (¬ s.ShowsSamples step → ({ s with metrics := m }.step step).1 = (s.step step).1) ∧
        (s.step step).1.SameButSamples ({ s with metrics := m }.step step).1 :=
    ⟨fun _ => heq, by rw [heq]; exact .refl _⟩
  cases step with
  | wait | start | startOther | enter | leave | probe | stop | openRequest => exact hsame rfl
  | metrics => exact ⟨fun hno => absurd trivial hno, trivial⟩
  | request r =>
    obtain ⟨heq, hshape⟩ := route_fst s.beginRequest m.beginRequest s.routes r
    refine ⟨fun hno => ?_, hshape⟩
    exact congrArg Result.response (heq fun captures hmetrics => hno ⟨captures, hmetrics⟩)
  | mountedRequest r =>
    rcases Option.eq_none_or_eq_some s.mounted with hnone | ⟨t, hsome⟩
    · refine hsame ?_
      rw [step_mountedRequest_of_none hnone,
        step_mountedRequest_of_none (s := { s with metrics := m }) hnone]
    · obtain ⟨heq, hshape⟩ := route_fst s m t r
      rw [step_mountedRequest_of_some hsome,
        step_mountedRequest_of_some (s := { s with metrics := m }) hsome]
      refine ⟨fun hno => ?_, hshape⟩
      exact congrArg Result.response
        (heq fun captures hmetrics => hno ⟨t, hsome, captures, hmetrics⟩)
  | join | advanceClock | setClock | release | crash | cancel =>
    refine hsame ?_
    simp only [Service.step, close]
    split <;> rfl

theorem SameSetup.isInert (h : s.SameSetup s') {step : Step} (hs : s.IsInert step) :
    s'.IsInert step := by
  cases step with
  | probe => exact hs
  | request r => rwa [IsInert, h.routes]
  | mountedRequest r => rwa [IsInert, h.mounted]
  | _ => cases hs

theorem SameSetup.showsSamples (h : s.SameSetup s') {step : Step} (hs : s.ShowsSamples step) :
    s'.ShowsSamples step := by
  cases step with
  | metrics => trivial
  | request r => rwa [ShowsSamples, h.routes]
  | mountedRequest r => rwa [ShowsSamples, h.mounted]
  | _ => cases hs

theorem SameButMetrics.timedStep (h : s.SameButMetrics s') (hcount : s.inflight < 2 ^ 32 - 1)
    {t t' : TimedStep} (ht : t' = t ∨ s.IsInert t.step ∧ t' = ⟨t.instant, .wait⟩) :
    (s.timedStep t).2.SameButMetrics (s'.timedStep t').2 := by
  have helapsed := h.elapseTo t.instant
  rcases ht with rfl | ⟨hinert, rfl⟩
  · exact helapsed.step t'.step
  · have hcount' : (s.elapseTo t.instant).inflight < 2 ^ 32 - 1 := by rwa [inflight_elapseTo]
    have hinert' := (sameSetup_elapseTo s t.instant).isInert hinert
    exact (sameButMetrics_of_inert hinert' hcount').symm.trans helapsed

/-- Two runs stay the same but for the metrics if any two corresponding steps do. -/
theorem SameButMetrics.run_of_timedStep {s₀ : Service} {R : TimedStep → TimedStep → Prop}
    (hR : ∀ {s s' : Service} {t t' : TimedStep}, s₀.SameSetup s → s.SameButMetrics s' →
      s.inflight < 2 ^ 32 - 1 → R t t' → (s.timedStep t).2.SameButMetrics (s'.timedStep t').2)
    (hsetup : s₀.SameSetup s) (h : s.SameButMetrics s') {steps steps' : List TimedStep}
    (hsteps : List.Forall₂ R steps steps')
    (hcount : ∀ past, past <+: steps → (s.run past).inflight < 2 ^ 32 - 1) :
    (s.run steps).SameButMetrics (s'.run steps') := by
  induction hsteps generalizing s s' with
  | nil => exact h
  | @cons t t' rest rest' ht _ ih =>
    refine ih (hsetup.trans (sameSetup_timedStep s t))
      (hR hsetup h (hcount [] List.nil_prefix) ht) fun past hpast => ?_
    exact hcount (t :: past) (List.cons_prefix_cons.2 ⟨rfl, hpast⟩)

theorem SameButMetrics.run (h : s.SameButMetrics s') {steps fewer : List TimedStep}
    (hthin : s.Thins steps fewer)
    (hcount : ∀ past, past <+: steps → (s.run past).inflight < 2 ^ 32 - 1) :
    (s.run steps).SameButMetrics (s'.run fewer) :=
  run_of_timedStep
    (fun hsetup hsame hlow ht => hsame.timedStep hlow (ht.imp_right (And.imp_left hsetup.isInert)))
    ⟨rfl, rfl, rfl⟩ h hthin hcount

/-- However many inert requests are left out, before and after every step the service is the same
but for its metrics, and every remaining step has the same result but for the samples in it. -/
theorem inert_requests_unnoticed {s : Service} {steps fewer : List TimedStep}
    (hthin : s.Thins steps fewer)
    (hcount : ∀ past, past <+: steps → (s.run past).inflight < 2 ^ 32 - 1) (k : Nat) :
    let now := s.run (steps.take k)
    let now' := s.run (fewer.take k)
    now.SameButMetrics now' ∧ ∀ t ∈ steps[k]?, t ∈ fewer[k]? →
      (¬ now.ShowsSamples t.step → (now'.timedStep t).1 = (now.timedStep t).1) ∧
        (now.timedStep t).1.SameButSamples (now'.timedStep t).1 := by
  intro now now'
  have hnow : now.SameButMetrics now' :=
    (sameButMetrics_refl s).run (List.forall₂_take k hthin)
      fun past hpast => hcount past (hpast.trans (List.take_prefix k steps))
  refine ⟨hnow, fun t _ _ => ?_⟩
  have helapsed := hnow.elapseTo t.instant
  obtain ⟨hresult, hsamples⟩ := step_fst (now.elapseTo t.instant)
    (now'.elapseTo t.instant).metrics t.step
  rw [← helapsed.eq] at hresult hsamples
  have hsetup := (sameSetup_elapseTo now t.instant).symm
  exact ⟨fun hno => hresult (mt hsetup.showsSamples hno), hsamples⟩

/-- During a drain a deployment tool probes, and clients ask for the liveness report and for a page
that does not exist. The stop ends in quiet 15 seconds after its begin, with or without them. -/
theorem inert_requests_unnoticed_drain :
    let lb := getFrom "10.0.0.1" "/status.txt" none
    let steps : List TimedStep := [⟨none, .start⟩, ⟨none, .request lb⟩, ⟨none, .stop⟩,
      ⟨none, .request lb⟩,
      ⟨some 2000000000, .request (getFrom "10.0.0.2" "/status.txt" (some "deployer"))⟩,
      ⟨some 2500000000, .request (getFrom "10.0.0.3" "/health" none)⟩,
      ⟨some 9000000000, .request (getFrom "10.0.0.3" "/missing" none)⟩,
      ⟨some 15000000000, .request lb⟩]
    let fewer : List TimedStep := [⟨none, .start⟩, ⟨none, .request lb⟩, ⟨none, .stop⟩,
      ⟨none, .request lb⟩, ⟨some 2000000000, .wait⟩, ⟨some 2500000000, .wait⟩,
      ⟨some 9000000000, .wait⟩, ⟨some 15000000000, .request lb⟩]
    standard.Thins steps fewer ∧
      (∀ past, past <+: steps → (standard.run past).inflight < 2 ^ 32 - 1) ∧
      (standard.run steps).lifecycle.stops = [.ended 15000000000 .quiet] ∧
      (standard.run steps).SameButMetrics (standard.run fewer) := by
  intro lb steps fewer
  have hthin : standard.Thins steps fewer := by decide +kernel
  have hcount : ∀ past ∈ steps.inits, (standard.run past).inflight < 2 ^ 32 - 1 := by
    decide +kernel
  have hcount' : ∀ past, past <+: steps → (standard.run past).inflight < 2 ^ 32 - 1 :=
    fun past hpast => hcount past ((List.mem_inits past steps).2 hpast)
  exact ⟨hthin, hcount', by decide +kernel, (inert_requests_unnoticed hthin hcount' 8).1⟩

end Service

end GracefulDrain
