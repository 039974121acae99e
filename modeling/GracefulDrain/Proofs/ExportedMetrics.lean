import GracefulDrain.Proofs.TrackedRequests

/-! Every sample line is a series with its value, and no other line reads as a sample of that
series. -/
namespace GracefulDrain

/-- What is exported, each with a name. -/
inductive Series
  | durationCount
  | durationSum
  | phase
  | probes (v : Verdict) (deployer : Bool)
  | inflight
  deriving DecidableEq, Repr

namespace Series

def name : Series → String
  | durationCount => "lbdrain_drain_duration_seconds_count"
  | durationSum => "lbdrain_drain_duration_seconds_sum"
  | phase => "lbdrain_drain_phase"
  | probes v deployer =>
    "lbdrain_health_probes_total\x7bstatus=\"" ++ v.label ++ "\",deployer=\"" ++
      (if deployer then "true" else "false") ++ "\"\x7d"
  | inflight => "lbdrain_inflight_requests"

/-- In the order of their names. -/
def all : List Series :=
  [durationCount, durationSum, phase, probes .ready false, probes .ready true,
    probes .unavailable false, probes .unavailable true, inflight]

theorem mem_all (series : Series) : series ∈ all := by
  cases series with
  | probes v deployer => cases v <;> cases deployer <;> decide
  | _ => decide

theorem name_inj : ∀ a ∈ all, ∀ b ∈ all, a.name = b.name → a = b := by
  decide

theorem blank_notMem_name : ∀ series ∈ all, ' ' ∉ series.name.toList := by
  decide

/-- The lines give the series this value, and no other one. -/
def Shows (series : Series) (lines : List String) (value? : Option Nat) : Prop :=
  ∀ text, Metrics.sample series.name text ∈ lines ↔ value?.map toString = some text

end Series

namespace Metrics

def value? (m : Metrics) (record : DrainRecord) : Series → Option String
  | .durationCount =>
    if record.durations.isEmpty then none else some (toString record.durations.length)
  | .durationSum =>
    if record.durations.isEmpty then none else some (durationSum record.durations).text
  | .phase => record.phase.map fun p => toString p.code
  | .probes v deployer =>
    if m.probes.get v deployer = 0 then none else some (toString (m.probes.get v deployer))
  | .inflight => m.inflight.map toString

theorem value?_probes (m : Metrics) (record : DrainRecord) (v : Verdict) (deployer : Bool) :
    m.value? record (.probes v deployer) = if m.probes.get v deployer = 0 then none
      else some (toString (m.probes.get v deployer)) := rfl

/-- The line of a series, if it has a value. -/
def line? (m : Metrics) (record : DrainRecord) (series : Series) : Option String :=
  (m.value? record series).map (sample series.name)

theorem lines_eq (m : Metrics) (record : DrainRecord) :
    m.lines record = Series.all.flatMap fun series => (m.line? record series).toList := by
  have hdurations : durationLines record.durations =
      (m.line? record .durationCount).toList ++ (m.line? record .durationSum).toList := by
    unfold durationLines line? value?
    split <;> rfl
  have hphase : record.phase.map (fun p => sample "lbdrain_drain_phase" (toString p.code)) =
      m.line? record .phase := by
    unfold line? value?
    cases record.phase <;> rfl
  have hprobes (v : Verdict) (deployer : Bool) :
      probeLine m.probes v deployer = (m.line? record (.probes v deployer)).toList := by
    by_cases hnone : m.probes.get v deployer = 0
    · rw [probeLine, line?, value?_probes, if_pos hnone, if_pos hnone]
      rfl
    · rw [probeLine, line?, value?_probes, if_neg hnone, if_neg hnone]
      rfl
  have hinflight : m.inflight.map (fun n => sample "lbdrain_inflight_requests" (toString n)) =
      m.line? record .inflight := by
    unfold line? value?
    cases m.inflight <;> rfl
  simp only [lines, hdurations, hphase, hprobes, hinflight, Series.all, List.flatMap_cons,
    List.flatMap_nil, List.append_nil, List.append_assoc]

/-- The name ends at the first blank. -/
theorem sample_inj {a b : Series} {text text' : String}
    (h : sample a.name text = sample b.name text') : a = b ∧ text = text' := by
  have hline : a.name.toList ++ ' ' :: text.toList = b.name.toList ++ ' ' :: text'.toList := by
    simpa [sample, String.toList_append] using congrArg String.toList h
  have hname : a.name = b.name := by
    have hcut := congrArg (List.takeWhile (· ≠ ' ')) hline
    rw [Text.takeWhile_append_cons (Series.blank_notMem_name a a.mem_all),
      Text.takeWhile_append_cons (Series.blank_notMem_name b b.mem_all)] at hcut
    exact String.toList_inj.1 hcut
  rw [hname] at hline
  have hrest := List.append_cancel_left hline
  exact ⟨Series.name_inj a a.mem_all b b.mem_all hname, String.toList_inj.1 (List.cons.inj hrest).2⟩

theorem sample_mem_lines_iff (m : Metrics) (record : DrainRecord) (series : Series)
    (text : String) :
    sample series.name text ∈ m.lines record ↔ m.value? record series = some text := by
  rw [lines_eq, List.mem_flatMap]
  constructor
  · rintro ⟨other, -, hline⟩
    obtain ⟨text', hvalue, hsame⟩ := Option.map_eq_some_iff.1 (Option.mem_toList.1 hline)
    obtain ⟨rfl, rfl⟩ := sample_inj hsame
    exact hvalue
  · intro hvalue
    exact ⟨series, series.mem_all, Option.mem_toList.2 (by rw [line?, hvalue]; rfl)⟩

end Metrics

namespace Lifecycle

/-- The phase is recorded once it has changed, and one duration for every stop that has ended. -/
structure Recorded (s : Lifecycle) (c : Coordinator) : Prop where
  phase : s.record.phase = if c.phase = .init then none else some c.phase
  durations : s.record.durations.length = s.stops.countP Stop.isEnded

variable {s : Lifecycle} {c : Coordinator}

theorem Recorded.start (h : Recorded s c) (hp : s.policy = .drain c) (monitor : Nat) :
    Recorded (s.start monitor) (c.start monitor) := by
  simp only [Lifecycle.start, hp, Coordinator.start]
  by_cases hinit : c.phase = .init
  · exact ⟨by simp [hinit], by simpa [hinit] using h.durations⟩
  · exact ⟨by simpa [hinit] using h.phase, by simpa [hinit] using h.durations⟩

theorem Recorded.beginStop (h : Recorded s c) (hp : s.policy = .drain c) :
    Recorded s.beginStop c.beginStop := by
  simp only [Lifecycle.beginStop, hp, Coordinator.beginStop]
  exact ⟨rfl, by simp [h.durations, Stop.isEnded]⟩

theorem Recorded.wake (h : Recorded s c) (hp : s.policy = .drain c) (id : Nat) :
    ∃ c', (s.wake id).policy = .drain c' ∧ Recorded (s.wake id) c' := by
  rcases wake_cases hp id with hsame | ⟨begun, reading, looks, after, hget, -, hwake⟩
  · rw [hsame]
    exact ⟨c, hp, h⟩
  · obtain ⟨hlt, hstop⟩ := List.getElem?_eq_some_iff.1 hget
    have hcount : (s.stops.set id after).countP Stop.isEnded =
        s.stops.countP Stop.isEnded + if after.isEnded then 1 else 0 := by
      rw [List.countP_set hlt, hstop]
      rfl
    refine ⟨_, congrArg Lifecycle.policy hwake, ?_⟩
    rw [hwake]
    cases after with
    | waiting => exact ⟨h.phase, by simpa [hcount, Stop.isEnded, Stop.phase?] using h.durations⟩
    | ended instant outcome =>
      refine ⟨by cases outcome <;> rfl, ?_⟩
      simp [hcount, Stop.isEnded, Stop.phase?, h.durations]

theorem Recorded.move (h : Recorded s c) (hp : s.policy = .drain c) (m : Move) :
    ∃ c', (s.move m).policy = .drain c' ∧ Recorded (s.move m) c' := by
  cases m with
  | start monitor =>
    exact ⟨_, by simp [Lifecycle.move, Lifecycle.start, hp], h.start hp monitor⟩
  | beginStop => exact ⟨_, (beginStop_waiting hp).1, h.beginStop hp⟩
  | probe origin =>
    refine ⟨c.note (s.reading c.clock) c.verdict origin, ?_, ?_, ?_⟩
    · simp [Lifecycle.move, Lifecycle.probe, hp, Coordinator.handle]
    · simpa [Lifecycle.move, Lifecycle.probe, hp] using h.phase
    · simpa [Lifecycle.move, Lifecycle.probe, hp] using h.durations
  | enter | leave | addMonitor | pass => exact ⟨c, hp, h.phase, h.durations⟩
  | advanceClock | setClock =>
    simp only [Lifecycle.move, onClock_getD]
    exact ⟨c, hp, h.phase, h.durations⟩
  | wake id => exact h.wake hp id

theorem Recorded.follow (h : Recorded s c) (hp : s.policy = .drain c) (moves : List Move) :
    ∃ c', (s.follow moves).policy = .drain c' ∧ Recorded (s.follow moves) c' := by
  induction moves generalizing s c with
  | nil => exact ⟨c, hp, h⟩
  | cons m rest ih =>
    obtain ⟨c₁, hp₁, h₁⟩ := h.move hp m
    exact ih h₁ hp₁

/-- Starts and stops end the initial phase. -/
def Event.isBeginning : Event → Bool
  | start _ | stop => true
  | _ => false

theorem Recalls.phase_eq_init_iff {past : List Event} (h : Recalls s c past) :
    c.phase = .init ↔ past.any Event.isBeginning = false := by
  have hany : past.any Event.isBeginning = true ↔
      .stop ∈ past ∨ ∃ monitor, .start monitor ∈ past := by
    rw [List.any_eq_true]
    constructor
    · rintro ⟨e, he, hbegins⟩
      cases e with
      | start monitor => exact .inr ⟨monitor, he⟩
      | stop => exact .inl he
      | _ => cases hbegins
    · rintro (he | ⟨monitor, he⟩)
      · exact ⟨_, he, rfl⟩
      · exact ⟨_, he, rfl⟩
  rw [← Bool.not_eq_true, hany, ← isSome_findSome?_started?, ← h.attached]
  by_cases hstop : .stop ∈ past
  · simp [hstop, (h.stopped hstop).1]
  · rw [h.phase hstop]
    cases c.attached <;> simp [hstop]

end Lifecycle

namespace Service
open Routing Lifecycle

/-- Starts of either kind and stops. -/
def Step.isBeginning : Step → Bool
  | start | startOther _ | stop => true
  | _ => false

theorem any_isBeginning_probes (origin? : Option Origin) :
    (probes origin?).any Event.isBeginning = false := by
  cases origin? <;> rfl

theorem any_isBeginning_events (s : Service) (step : Step) :
    (s.events step).any Event.isBeginning = step.isBeginning := by
  cases step with
  | request r =>
    rw [events, List.cons_append, List.any_cons, List.any_append, any_isBeginning_probes]
    rfl
  | mountedRequest r => exact any_isBeginning_probes _
  | release | crash | cancel =>
    rw [events]
    split <;> rfl
  | _ => rfl

theorem any_isBeginning_history (s : Service) (steps : List TimedStep) :
    (s.history steps).any Event.isBeginning = steps.any fun t => t.step.isBeginning := by
  induction steps generalizing s with
  | nil => rfl
  | cons t rest ih =>
    rw [history, List.any_append, ih, timedEvents, List.any_append, any_isBeginning_events,
      List.any_cons]
    cases t.instant <;> rfl

/-- As what the probe handler is asked in a step. -/
def asked? (s : Service) : Step → Option Origin
  | .request r => probed? s.routes r
  | .mountedRequest r => s.mounted.bind (probed? · r)
  | _ => none

/-- The status of an answer of the probe handler, and whether a deployment tool asked. -/
def probeCall? (s : Service) (step : Step) : Option (Nat × Bool) :=
  match s.asked? step, (s.step step).1 with
  | some origin, .response response => some (response.status, origin.deployer)
  | _, _ => none

/-- All answers of the probe handler in a run. -/
def probeCalls (s : Service) : List TimedStep → List (Nat × Bool)
  | [] => []
  | t :: rest =>
    ((s.elapseTo t.instant).probeCall? t.step).toList ++ (s.timedStep t).2.probeCalls rest

variable {s : Service}

theorem status_route {t : Table Handler} {r : Http.Request} {origin : Origin}
    (h : probed? t r = some origin) : (s.route t r).1.status = s.lifecycle.verdict.status := by
  unfold probed? at h
  unfold route
  split at h
  · next hroute =>
    rw [hroute]
    exact (status_headers_forMethod r.method _).1
  · cases h

theorem probes_route (s : Service) (t : Table Handler) (r : Http.Request) :
    (s.route t r).2.metrics.probes = ((probed? t r).map fun origin =>
      s.metrics.probes.note s.lifecycle.verdict origin.deployer).getD s.metrics.probes := by
  rw [route_snd]
  cases probed? t r <;> rfl

/-- What a step answers to a probe, and what it notes of it. -/
theorem probes_step (s : Service) (step : Step) :
    (s.probeCall? step = (s.asked? step).map fun origin =>
      (s.lifecycle.verdict.status, origin.deployer)) ∧
    (s.step step).2.metrics.probes = ((s.asked? step).map fun origin =>
      s.metrics.probes.note s.lifecycle.verdict origin.deployer).getD s.metrics.probes := by
  cases step with
  | request r =>
    refine ⟨?_, probes_route s.beginRequest s.routes r⟩
    simp only [probeCall?, asked?]
    cases h : probed? s.routes r with
    | none => rfl
    | some origin =>
      have hstatus : (s.serve r).1.status = s.lifecycle.verdict.status :=
        status_route (s := s.beginRequest) h
      simp [Service.step, hstatus]
  | mountedRequest r =>
    rcases Option.eq_none_or_eq_some s.mounted with hnone | ⟨t, hsome⟩
    · rw [probeCall?, step_mountedRequest_of_none hnone, asked?, hnone]
      exact ⟨rfl, rfl⟩
    · rw [probeCall?, step_mountedRequest_of_some hsome, asked?, hsome, Option.bind_some]
      refine ⟨?_, probes_route s t r⟩
      cases h : probed? t r with
      | none => rfl
      | some origin => simp [status_route h]
  | join | advanceClock | setClock =>
    simp only [probeCall?, asked?, Service.step]
    split <;> exact ⟨rfl, rfl⟩
  | release | crash | cancel =>
    simp only [probeCall?, asked?, Service.step, close]
    split <;> exact ⟨rfl, rfl⟩
  | wait | start | startOther | enter | leave | probe | stop | openRequest | metrics =>
    exact ⟨rfl, rfl⟩

theorem status_inj {v w : Verdict} (h : v.status = w.status) : v = w := by
  cases v <;> cases w <;> first | rfl | cases h

theorem get_probes_step (s : Service) (step : Step) (v : Verdict) (deployer : Bool) :
    (s.step step).2.metrics.probes.get v deployer = s.metrics.probes.get v deployer +
      (s.probeCall? step).toList.count (v.status, deployer) := by
  obtain ⟨hcall, hnoted⟩ := probes_step s step
  rw [hcall, hnoted]
  cases s.asked? step with
  | none => rfl
  | some origin =>
    simp only [Option.map_some, Option.getD_some, Option.toList_some, ProbeCounts.get_note,
      List.count_singleton, beq_iff_eq, Prod.mk.injEq]
    congr 1
    refine if_congr (and_congr ⟨fun h => by rw [h], fun h => (status_inj h).symm⟩ eq_comm) rfl rfl

theorem get_probes_run (s : Service) (steps : List TimedStep) (v : Verdict) (deployer : Bool) :
    (s.run steps).metrics.probes.get v deployer = s.metrics.probes.get v deployer +
      (s.probeCalls steps).count (v.status, deployer) := by
  induction steps generalizing s with
  | nil => rfl
  | cons t rest ih =>
    have helapsed : (s.elapseTo t.instant).metrics = s.metrics := by cases t.instant <;> rfl
    rw [run_cons, ih, timedStep, get_probes_step, helapsed, probeCalls, List.count_append,
      Nat.add_assoc]
    rfl

/-- What counts from zero is shown from its first increment. -/
def counted (n : Nat) : Option Nat := if n = 0 then none else some n

/-- Sample lines show the answers of the probe handler, the phase once it is not the initial one,
the requests in flight and the stops that have ended. -/
structure Exported (lines : List String) (s : Service) (calls : List (Nat × Bool)) (begun : Bool)
    (live? : Option Nat) : Prop where
  probes : ∀ v deployer, (Series.probes v deployer).Shows lines
    (counted (calls.count (v.status, deployer)))
  phase : Series.phase.Shows lines (if begun then some s.lifecycle.policy.phase.code else none)
  inflight : Series.inflight.Shows lines live?
  durations : Series.durationCount.Shows lines (counted (s.lifecycle.stops.countP Stop.isEnded))

theorem exported_sampleLines {c : Coordinator} {calls : List (Nat × Bool)} {begun : Bool}
    (hp : s.lifecycle.policy = .drain c) (hrecorded : Recorded s.lifecycle c)
    (hbegun : c.phase = .init ↔ begun = false)
    (hprobes : ∀ v deployer,
      s.metrics.probes.get v deployer = calls.count (v.status, deployer)) :
    Exported s.sampleLines s calls begun s.metrics.inflight := by
  constructor
  · intro v deployer text
    rw [sampleLines, Metrics.sample_mem_lines_iff, Metrics.value?_probes, hprobes, counted]
    split <;> rfl
  · intro text
    rw [sampleLines, Metrics.sample_mem_lines_iff, Metrics.value?, hrecorded.phase, hp,
      Policy.phase]
    cases begun with
    | false => simp [hbegun.2 rfl]
    | true =>
      have hphase : c.phase ≠ .init := fun hinit => by simpa using hbegun.1 hinit
      simp [hphase]
  · intro text
    rw [sampleLines, Metrics.sample_mem_lines_iff, Metrics.value?]
  · intro text
    rw [sampleLines, Metrics.sample_mem_lines_iff, Metrics.value?, ← hrecorded.durations, counted]
    cases s.lifecycle.record.durations <;> simp

theorem recorded_initial {settings : DrainSettings} {clock : ClockSource} {c : Coordinator}
    (hc : Coordinator.create settings clock = .ok c) (manual : Option ManualClock) :
    Recorded (initial (.drain c) manual) c := by
  unfold Coordinator.create at hc
  split at hc
  · cases hc
  · cases hc
    exact ⟨rfl, rfl⟩

theorem exists_recorded_run {config : AppConfig} {clock : ClockSource}
    {manual : Option ManualClock} {rendersMetrics : Bool} {mount : Option (List String)}
    {s₀ : Service} (hmode : config.health.mode = .drain)
    (hs₀ : create config clock manual rendersMetrics mount = .ok s₀) (past : List TimedStep) :
    ∃ c, (s₀.run past).lifecycle.policy = .drain c ∧ Recorded (s₀.run past).lifecycle c ∧
      (c.phase = .init ↔ (past.any fun t => t.step.isBeginning) = false) := by
  obtain ⟨policy, hpolicy, -, hlifecycle, -⟩ := initial_of_create hs₀
  obtain ⟨c₀, rfl, hc⟩ := Policy.ofHealth_drain hmode hpolicy
  rw [lifecycle_run, hlifecycle]
  obtain ⟨c, hp, hrecalls⟩ := exists_recalls_run hc manual (s₀.history past)
  obtain ⟨moves, hrun, -⟩ := exists_follow_eq_run (initial (.drain c₀) manual) (s₀.history past)
  obtain ⟨c', hp', hrecorded⟩ := (recorded_initial hc manual).follow rfl moves
  rw [← hrun] at hp' hrecorded
  obtain rfl : c = c' := Policy.drain.inj (hp.symm.trans hp')
  exact ⟨c, hp, hrecorded, by rw [hrecalls.phase_eq_init_iff, any_isBeginning_history]⟩

/-- Time passes before a step as it does in a step that waits. -/
theorem elapseTo_run (s : Service) (past : List TimedStep) (instant : Option Nat) :
    (s.run past).elapseTo instant = s.run (past ++ [⟨instant, .wait⟩]) := by
  rw [run_append]
  rfl

theorem probeCalls_wait (s : Service) (past : List TimedStep) (instant : Option Nat) :
    s.probeCalls (past ++ [⟨instant, .wait⟩]) = s.probeCalls past := by
  induction past generalizing s with
  | nil => rfl
  | cons t rest ih => rw [List.cons_append, probeCalls, probeCalls, ih]

theorem step_metricsRequest (hrenders : s.rendersMetrics = true)
    (hlines : s.beginRequest.sampleLines ≠ []) {r : Http.Request}
    {captures : List (String × List Char)}
    (h : s.routes.dispatch r.method r.uri.path = .handler .metrics captures) :
    (s.step (.request r)).1 = .response ((Http.Response.plainText 200
      (.samples s.beginRequest.sampleLines)).forMethod r.method) := by
  have hbegun : s.beginRequest.rendersMetrics = true := hrenders
  have hbody : s.beginRequest.metricsBody = .samples s.beginRequest.sampleLines := by
    rw [metricsBody, if_neg (by simpa using hlines)]
  simp only [Service.step, serve, route, h, Service.handle, answerMetrics, hbegun, hbody, if_true]

/-- Whenever the metrics are rendered, for the recorder or for a client whose request then counts
itself, they show how often the probe handler has answered what to whom, the phase since the first
start or stop, the requests in flight once there was one, and how many stops have ended. -/
theorem exported_metrics_agree {config : AppConfig} {clock : ClockSource}
    {manual : Option ManualClock} {mount : Option (List String)} {s₀ : Service}
    (hmode : config.health.mode = .drain)
    (hs₀ : create config clock manual true mount = .ok s₀) (past : List TimedStep)
    (instant : Option Nat) :
    let s := (s₀.run past).elapseTo instant
    let calls := s₀.probeCalls past
    let begun := past.any fun t => t.step.isBeginning
    let live := (tally past).running.length
    (∃ lines, ((s₀.run past).timedStep ⟨instant, .metrics⟩).1 = .samples lines ∧
      Exported lines s calls begun (if (tally past).tracked then some live else none)) ∧
    ∀ r captures, s₀.routes.dispatch r.method r.uri.path = .handler .metrics captures →
      ∃ lines, ((s₀.run past).timedStep ⟨instant, .request r⟩).1 = .response
          ((Http.Response.plainText 200 (.samples lines)).forMethod r.method) ∧
        Exported lines s calls begun (some (live + 1)) := by
  intro s calls begun live
  have hs : s = s₀.run (past ++ [⟨instant, .wait⟩]) := elapseTo_run s₀ past instant
  obtain ⟨policy, -, -, -, hmetrics, hopened, hrenders⟩ := initial_of_create hs₀
  obtain ⟨c, hp, hrecorded, hbegun⟩ := exists_recorded_run hmode hs₀ (past ++ [⟨instant, .wait⟩])
  have hbegun' : c.phase = .init ↔ begun = false := by
    rw [hbegun, List.any_append]
    simp [Step.isBeginning, begun]
  have hprobes (v : Verdict) (deployer : Bool) :
      s.metrics.probes.get v deployer = calls.count (v.status, deployer) := by
    rw [hs, get_probes_run, probeCalls_wait, hmetrics]
    cases v <;> cases deployer <;> exact Nat.zero_add _
  have hgauged : s.Gauged (tally past) :=
    ((gauged_initial hopened hmetrics).run past).elapseTo instant
  rw [← hs] at hp hrecorded
  refine ⟨⟨s.sampleLines, rfl, ?_⟩, fun r captures hroute => ?_⟩
  · rw [← hgauged.gauge]
    exact exported_sampleLines hp hrecorded hbegun' hprobes
  · have hexported : Exported s.beginRequest.sampleLines s.beginRequest calls begun
        (some (live + 1)) := by
      have hgauge : s.beginRequest.metrics.inflight = some (live + 1) := by
        simp [beginRequest, Metrics.beginRequest, hgauged.getD_inflight, live]
      rw [← hgauge]
      exact exported_sampleLines hp ⟨hrecorded.phase, hrecorded.durations⟩ hbegun' hprobes
    have hlines : s.beginRequest.sampleLines ≠ [] := by
      intro hnone
      have hmem := (hexported.inflight (toString (live + 1))).2 rfl
      simp [hnone] at hmem
    have hsetup : s₀.SameSetup s := hs ▸ sameSetup_run s₀ _
    refine ⟨_, step_metricsRequest (hsetup.rendersMetrics.trans hrenders) hlines
      (hsetup.routes ▸ hroute), hexported.probes, hexported.phase, hexported.inflight,
      hexported.durations⟩

/-- A load balancer was told first "ready" and then "unavailable", and a deployment tool "ready".
Long after the stop has ended, metrics are asked for while another request is open. -/
theorem exported_metrics_agree_drained :
    let lb := getFrom "10.0.0.1" "/status.txt" none
    let past : List TimedStep := [⟨none, .start⟩, ⟨none, .request lb⟩,
      ⟨none, .mountedRequest (getFrom "10.0.0.2" "/lb/10.0.0.3/status" (some "deployer"))⟩,
      ⟨none, .stop⟩, ⟨none, .request lb⟩, ⟨some 40000000000, .openRequest⟩]
    ∃ lines, ((standard.run past).timedStep
        ⟨some 60000000000, .request (getFrom "10.0.0.9" "/metrics" none)⟩).1 =
          .response (.plainText 200 (.samples lines)) ∧
      (Series.probes .ready false).Shows lines (some 1) ∧
      (Series.probes .ready true).Shows lines (some 1) ∧
      (Series.probes .unavailable false).Shows lines (some 1) ∧
      (Series.probes .unavailable true).Shows lines none ∧
      Series.phase.Shows lines (some 3) ∧ Series.inflight.Shows lines (some 2) ∧
      Series.durationCount.Shows lines (some 1) := by
  intro lb past
  have hcalls : standard.probeCalls past = [(200, false), (200, true), (503, false)] := by
    decide +kernel
  have hphase :
      ((standard.run past).elapseTo (some 60000000000)).lifecycle.policy.phase = .done := by
    decide +kernel
  have hstops : ((standard.run past).elapseTo (some 60000000000)).lifecycle.stops =
      [.ended 15000000000 .quiet] := by
    decide +kernel
  have hroute : standard.routes.dispatch "GET" "/metrics" = .handler .metrics [] := rfl
  obtain ⟨lines, hanswer, hprobes, hshown, hlive, hended⟩ :=
    (exported_metrics_agree rfl create_default past (some 60000000000)).2
      (getFrom "10.0.0.9" "/metrics" none) [] hroute
  rw [hcalls] at hprobes
  rw [hphase] at hshown
  rw [hstops] at hended
  exact ⟨lines, hanswer, hprobes .ready false, hprobes .ready true, hprobes .unavailable false,
    hprobes .unavailable true, hshown, hlive, hended⟩

end Service

end GracefulDrain
