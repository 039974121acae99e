import GracefulDrain.Proofs.DirectProbes
import GracefulDrain.Proofs.PhaseOrder
import GracefulDrain.Proofs.Readiness
import GracefulDrain.Proofs.ServingTasks
import GracefulDrain.Service.Server

/-! Whatever the policy, a server starts it first, calls for one stop when it is told to shut down,
and closes only after that stop has returned. With a coordinator, every probe in between is
answered, and is told that the service is unavailable. -/
namespace GracefulDrain

/-- What a stop returns with this outcome. -/
def Outcome.result (o : Outcome) : Except DrainError Unit :=
  match o.error? with
  | none => .ok ()
  | some e => .error e

def Stop.returned? : Stop → Option (Except DrainError Unit)
  | waiting _ _ _ => none
  | ended _ outcome => some outcome.result

/-- A service as the host of a server: its policy of either kind, and the handlers of its main
table. -/
def Service.host : Host Service Lifecycle.Move where
  start s monitor := s.onLifecycle (.start monitor)
  stop s := { s with lifecycle := s.lifecycle.beginStop }
  nextStop s := s.lifecycle.stops.length
  returned? s id := (s.lifecycle.stops[id]?).bind Stop.returned?
  beginRequest := Service.beginRequest
  handle s r := s.route s.routes r
  endRequest := Service.endRequest
  move s m := { s with lifecycle := s.lifecycle.move m }

namespace Serving

/-- The marks of a server come in this order, as far as it has got. -/
structure InOrder (marks : List Mark) : Prop where
  control : ∃ id result, marks.filter Mark.isControl <+:
    [.started Lifecycle.ownMonitor, .shutdown, .stopCalled id, .stopReturned id result, .closing,
      .returned (.ok ())]
  /-- No request is answered before the start. -/
  first : ∀ m ∈ marks.head?, m = .started Lifecycle.ownMonitor
  stopCalled : .shutdown ∈ marks ↔ ∃ id, .stopCalled id ∈ marks

variable {σ μ : Type} {s : Serving σ}

theorem OnCourse.inOrder (hs : s.OnCourse) : InOrder s.marks := by
  refine ⟨?_, fun m hm => ?_, shutdown_mem_iff hs⟩
  · have hcourse := hs.course
    revert hcourse
    generalize s.marks.filter Mark.isControl = marks
    unfold course?
    split <;> rintro ⟨⟩
    · exact ⟨0, .ok (), by simp⟩
    · exact ⟨0, .ok (), by simp⟩
    · next id _ _ => exact ⟨id, .ok (), by simp⟩
    · next id result _ _ => exact ⟨id, result, by simp⟩
    · next id result _ _ => exact ⟨id, result, by simp⟩
    · next id result _ _ => exact ⟨id, result, by simp⟩
  · by_cases hstage : s.stage = .launching
    · rw [(hs.idle hstage).1] at hm
      cases hm
    · rw [hs.first hstage] at hm
      exact (Option.some.inj hm).symm

/-- From the shutdown until it closes a server accepts requests. -/
theorem OnCourse.accepting_of_marks (hs : s.OnCourse) (hshutdown : .shutdown ∈ s.marks)
    (hclosing : .closing ∉ s.marks) : s.stage = .accepting ∧ s.drainer ≠ .awaitingShutdown := by
  have hshutdown' : .shutdown ∈ s.marks.filter Mark.isControl := by
    simpa [Mark.isControl] using hshutdown
  have hclosing' : .closing ∉ s.marks.filter Mark.isControl := by
    simpa [Mark.isControl] using hclosing
  have hcourse := hs.course
  revert hcourse hshutdown' hclosing'
  generalize s.marks.filter Mark.isControl = marks
  unfold course?
  split <;> rintro hshutdown' hclosing' ⟨⟩ <;> simp_all

end Serving

namespace Service
open Routing Lifecycle Serving

/-- What every move keeps of the lifecycle, the host keeps. -/
theorem host_keeps {I : Lifecycle → Prop} (hI : ∀ l m, I l → I (l.move m)) :
    host.Keeps fun s => I s.lifecycle where
  start s monitor := hI s.lifecycle (.start monitor)
  stop s := hI s.lifecycle .beginStop
  beginRequest s := hI s.lifecycle (.enter ownMonitor 1)
  handle s r h := by
    change I (s.route s.routes r).2.lifecycle
    rw [lifecycle_route]
    cases probed? s.routes r with
    | none => exact h
    | some origin => exact hI s.lifecycle (.probe origin) h
  endRequest s := hI s.lifecycle (.leave ownMonitor 1)
  move s m := hI s.lifecycle m

theorem host_keeps_routes (t : Table Handler) : host.Keeps fun s => s.routes = t where
  start _ _ := id
  stop _ := id
  beginRequest _ := id
  handle s r h := (sameSetup_route s s.routes r).routes.trans h
  endRequest _ := id
  move _ _ := id

/-- A stop has begun, and the coordinator is not ready again. -/
def Refuses (l : Lifecycle) : Prop :=
  (∃ c, l.policy = .drain c) ∧ l.policy.phase ≠ .init ∧ l.policy.phase ≠ .ready

theorem drain_move (l : Lifecycle) (m : Lifecycle.Move) (h : ∃ c, l.policy = .drain c) :
    ∃ c, (l.move m).policy = .drain c := by
  obtain ⟨c, hp⟩ := h
  obtain ⟨c', hp', -⟩ := exists_drain_move hp m
  exact ⟨c', hp'⟩

theorem refuses_beginStop {l : Lifecycle} (h : ∃ c, l.policy = .drain c) : Refuses l.beginStop := by
  obtain ⟨c, hp⟩ := h
  simp [Refuses, beginStop, hp, Policy.phase, Coordinator.beginStop]

theorem refuses_move (l : Lifecycle) (m : Lifecycle.Move) (h : Refuses l) : Refuses (l.move m) := by
  obtain ⟨⟨c, hp⟩, hinit, hready⟩ := h
  refine ⟨drain_move l m ⟨c, hp⟩, ?_⟩
  rcases phase_move hp m with ⟨-, -, hphase⟩ | ⟨-, p, hfinal, -, hphase⟩ |
    ⟨-, -, hphase | ⟨hphase, -⟩⟩
  · rw [hphase]
    exact ⟨nofun, nofun⟩
  · rw [hphase]
    rcases hfinal with rfl | rfl <;> exact ⟨nofun, nofun⟩
  · rw [hphase]
    exact ⟨hinit, hready⟩
  · exact absurd hphase hinit

theorem verdict_of_refuses {l : Lifecycle} (h : Refuses l) : l.verdict = .unavailable := by
  obtain ⟨⟨c, hp⟩, -, hready⟩ := h
  rw [hp] at hready
  rw [Lifecycle.verdict, hp]
  exact Coordinator.verdict_of_ne hready

/-- Once the shutdown was asked for, the coordinator refuses. -/
theorem refuses_run {s₀ : Service} (h : ∃ c, s₀.lifecycle.policy = .drain c)
    (moves : List (Serving.Move Lifecycle.Move)) :
    (∃ c, ((launch s₀).run host moves).host.lifecycle.policy = .drain c) ∧
      (((launch s₀).run host moves).drainer ≠ .awaitingShutdown →
        Refuses ((launch s₀).run host moves).host.lifecycle) := by
  induction moves using List.reverseRecOn with
  | nil => exact ⟨h, fun hne => absurd rfl hne⟩
  | append_singleton moves m ih =>
    obtain ⟨hdrain, hrefuses⟩ := ih
    rw [Serving.run_append]
    refine ⟨host_step (host_keeps drain_move) hdrain m, fun hd => ?_⟩
    by_cases hbefore : ((launch s₀).run host moves).drainer = .awaitingShutdown
    · -- only the shutdown itself ends the waiting for it
      cases m with
      | shutdown =>
        simp only [Serving.run_cons, Serving.run_nil, Serving.step, Serving.shutdown, hbefore] at hd ⊢
        split at hd
        · exact refuses_beginStop hdrain
        · exact absurd hbefore hd
      | start | accept | turn | drop | join | close | finish | other =>
        refine absurd ?_ hd
        simp only [Serving.run_cons, Serving.run_nil, Serving.step, Serving.start, Serving.accept, Serving.turn,
          Serving.drop, Serving.join, Serving.close, Serving.finish]
        grind
    · exact host_step (host_keeps refuses_move) (hrefuses hbefore) m

/-- A request that reaches the probe is answered 503 by a host that refuses. -/
theorem handle_of_refuses {t : Table Handler} {r : Http.Request} {origin : Origin}
    (h : probed? t r = some origin) (s : Service) (hs : s.routes = t ∧ Refuses s.lifecycle) :
    (host.handle s r).1 = answerTo r.method .unavailable := by
  obtain ⟨rfl, hrefuses⟩ := hs
  unfold probed? at h
  split at h
  · next captures hdispatch =>
    rw [← verdict_of_refuses hrefuses]
    exact route_fst_of_dispatch hdispatch
  · cases h

/-- A probe that arrives between the shutdown and the close is accepted, and answered 503. -/
theorem probe_answered {s₀ : Service} (hdrain : ∃ c, s₀.lifecycle.policy = .drain c)
    (moves : List (Serving.Move Lifecycle.Move)) :
    let s := (launch s₀).run host moves
    .shutdown ∈ s.marks → .closing ∉ s.marks →
    ∀ r origin, probed? s₀.routes r = some origin →
    ∀ later : List (Serving.Move Lifecycle.Move),
      (∀ m ∈ later, m.dropped? ≠ some s.exchanges.length) →
      3 ≤ later.countP (·.turned? = some s.exchanges.length) →
      ((s.step host (.accept r)).run host later).exchanges[s.exchanges.length]? =
        some ⟨r, .answered (answerTo r.method .unavailable)⟩ := by
  intro s hshutdown hclosing r origin hprobed later hdrop hturns
  have hcourse : s.OnCourse := (onCourse_launch s₀).run moves
  obtain ⟨haccepting, hd⟩ := hcourse.accepting_of_marks hshutdown hclosing
  have hrefuses : Refuses s.host.lifecycle := (refuses_run hdrain moves).2 hd
  have hroutes : s.host.routes = s₀.routes := host_run (host_keeps_routes s₀.routes) rfl moves
  have hkeeps : host.Keeps fun s => s.routes = s₀.routes ∧ Refuses s.lifecycle :=
    (host_keeps_routes s₀.routes).and (host_keeps refuses_move)
  refine answered_run hkeeps (handle_of_refuses hprobed)
    (host_step hkeeps ⟨hroutes, hrefuses⟩ (.accept r)) (p := .accepted) ?_
    (promises_accepted _) hdrop hturns
  simp only [Serving.step, Serving.accept, haccepting, List.getElem?_concat_length]

theorem run_other (s : Serving Service) (moves : List Lifecycle.Move) :
    s.run host (moves.map .other) =
      { s with host := { s.host with lifecycle := s.host.lifecycle.follow moves } } := by
  induction moves generalizing s with
  | nil => rfl
  | cons m rest ih =>
    rw [List.map_cons, Serving.run_cons, ih]
    rfl

/-- A request that is accepted and has all its turns at once. -/
def atOnce (s : Serving Service) (r : Http.Request) : List (Serving.Move Lifecycle.Move) :=
  .accept r :: List.replicate 3 (.turn s.exchanges.length)

theorem run_atOnce {s : Serving Service} (h : s.stage = .accepting) (r : Http.Request) :
    s.run host (atOnce s r) =
      { s with
        host := (s.host.serve r).2
        exchanges := s.exchanges ++ [⟨r, .answered (s.host.serve r).1⟩]
        marks := s.marks ++ [.answered s.exchanges.length] } := by
  have hnew (e : Exchange) : (s.exchanges ++ [e])[s.exchanges.length]? = some e := by simp
  have hset (e e' : Exchange) :
      (s.exchanges ++ [e]).set s.exchanges.length e' = s.exchanges ++ [e'] := by simp
  have hroutes : s.host.beginRequest.routes = s.host.routes := rfl
  simp only [atOnce, List.replicate, Serving.run_cons, Serving.run_nil, Serving.step,
    Serving.accept, h, Serving.turn, hnew, hset, Host.turn, Progress.next, Progress.turns]
  simp [serve, host, hroutes]

end Service

namespace Server
open Lifecycle Serving

/-- The exchange that an event of a server is, if it is answered. -/
def Event.exchange? (response? : Option Http.Response) : Event → Option Exchange
  | .request r => response?.map fun response => ⟨r, .answered response⟩
  | .shutdown | .elapseTo _ => none

/-- The requests of a run that are answered, with their answers. -/
def exchanges (a : Server) : List Event → List Exchange
  | [] => []
  | e :: rest => (e.exchange? (a.step e).1).toList ++ (a.step e).2.exchanges rest

/-- The tasks of a server are where the server is. -/
structure Matches (a : Server) (s : Serving Service) : Prop where
  host : s.host = a.service
  stage :
    match a.stage with
    | .serving => s.stage = .accepting ∧ s.drainer = .awaitingShutdown
    | .draining id => s.stage = .accepting ∧ s.drainer = .awaitingStop id ∧
      id < a.service.lifecycle.stops.length
    | .closed => s.stage = .closing

variable {a : Server} {s : Serving Service}

theorem matches_launch (s₀ : Service) :
    (Server.launch s₀).Matches ((Serving.launch s₀).run Service.host [.start]) :=
  ⟨rfl, rfl, rfl⟩

theorem length_stops_move (n : Nat) (l : Lifecycle) (m : Lifecycle.Move) (h : n < l.stops.length) :
    n < (l.move m).stops.length := by
  cases m with
  | start | probe =>
    simp only [move, Lifecycle.start, Lifecycle.probe]
    split <;> exact h
  | beginStop =>
    simp only [move, beginStop]
    split <;> simp only [List.length_append, List.length_singleton] <;> omega
  | wake id =>
    simp only [move, wake]
    split
    · simpa using h
    · exact h
  | enter | leave | addMonitor | pass => exact h
  | advanceClock | setClock => simpa [move] using h

/-- Moves that leave the tasks of the server where they are. -/
theorem Matches.of_run (h : a.Matches s) (moves : List (Serving.Move Lifecycle.Move))
    (hstage : (s.run Service.host moves).stage = s.stage)
    (hdrainer : (s.run Service.host moves).drainer = s.drainer) :
    ({ a with service := (s.run Service.host moves).host } : Server).Matches
      (s.run Service.host moves) := by
  obtain ⟨service, stage⟩ := a
  obtain ⟨rfl, hs⟩ := h
  refine ⟨rfl, ?_⟩
  rw [hstage, hdrainer]
  cases stage with
  | serving | closed => exact hs
  | draining id =>
    obtain ⟨haccepting, hd, hlt⟩ := hs
    exact ⟨haccepting, hd,
      host_run (Service.host_keeps (length_stops_move id)) (s := s) hlt moves⟩

theorem Matches.others (h : a.Matches s) (moves : List Lifecycle.Move) :
    ({ a with service := { a.service with lifecycle := a.service.lifecycle.follow moves } } :
      Server).Matches (s.run Service.host (moves.map .other)) := by
  have hrun := Service.run_other s moves
  have hmatches := h.of_run (moves.map .other) (by rw [hrun]) (by rw [hrun])
  rw [hrun] at hmatches ⊢
  rw [← h.host]
  exact hmatches

theorem Matches.settle (h : a.Matches s) : ∃ moves, a.settle.Matches (s.run Service.host moves) ∧
    (s.run Service.host moves).exchanges = s.exchanges := by
  obtain ⟨service, stage⟩ := a
  cases stage with
  | serving | closed => exact ⟨[], h, rfl⟩
  | draining id =>
    obtain ⟨rfl, haccepting, hd, hlt⟩ := h
    simp only [Server.settle]
    split
    · next hended =>
      obtain ⟨stop, hstop⟩ : ∃ stop, s.host.lifecycle.stops[id]? = some stop :=
        ⟨_, List.getElem?_eq_getElem hlt⟩
      rw [hstop, Option.all_some] at hended
      cases stop with
      | waiting => cases hended
      | ended instant outcome =>
        have hreturned : Service.host.returned? s.host id = some outcome.result := by
          simp only [Service.host, hstop, Option.bind_some, Stop.returned?]
        have hrun := run_join_close haccepting hd hreturned
        exact ⟨[.join, .close], ⟨by rw [hrun], by rw [hrun]⟩, by rw [hrun]⟩
    · exact ⟨[], ⟨rfl, haccepting, hd, hlt⟩, rfl⟩

/-- While it is not closed, a server serves requests. -/
theorem Matches.request (h : a.Matches s) (r : Http.Request) :
    ∃ moves, (a.request r).2.Matches (s.run Service.host moves) ∧
      (s.run Service.host moves).exchanges =
        s.exchanges ++ ((Event.request r).exchange? (a.request r).1).toList := by
  by_cases hclosed : a.stage = .closed
  · have hrefused : a.request r = (none, a) := by simp only [Server.request, hclosed]
    exact ⟨[], by rwa [hrefused], by rw [hrefused]; exact (List.append_nil _).symm⟩
  · have haccepting : s.stage = .accepting := by
      have hstage := h.stage
      split at hstage
      · exact hstage.1
      · exact hstage.1
      · next hstage' => exact absurd hstage' hclosed
    have hserved : a.request r =
        (some (s.host.serve r).1, { a with service := (s.host.serve r).2 }) := by
      rw [h.host]
      unfold Server.request
      split
      · next hstage' => exact absurd hstage' hclosed
      · rfl
    have hrun := Service.run_atOnce haccepting r
    have hmatches := h.of_run (Service.atOnce s r) (by rw [hrun]) (by rw [hrun])
    refine ⟨Service.atOnce s r, ?_, ?_⟩
    · rw [hrun] at hmatches ⊢
      rw [hserved]
      exact hmatches
    · rw [hrun, hserved]
      rfl

/-- The shutdown begins a stop, and what is due for it at once happens. -/
theorem Matches.shutdown (h : a.Matches s) : ∃ moves,
    a.shutdown.Matches (s.run Service.host moves) ∧
      (s.run Service.host moves).exchanges = s.exchanges := by
  by_cases hserving : a.stage = .serving
  · obtain ⟨service, stage⟩ := a
    obtain rfl : stage = .serving := hserving
    obtain ⟨rfl, haccepting, hd⟩ := h
    obtain ⟨ids, hids⟩ := exists_settle s.host.lifecycle.beginStop
    have hbegun : ({ service := { s.host with lifecycle := s.host.lifecycle.beginStop }
                     stage := .draining s.host.lifecycle.stops.length } : Server).Matches
        (s.shutdown Service.host) := by
      simp only [Serving.shutdown, haccepting, hd]
      refine ⟨rfl, rfl, rfl, ?_⟩
      simp only [beginStop]
      split <;> simp
    have hexchanges : (s.shutdown Service.host).exchanges = s.exchanges := by
      simp only [Serving.shutdown, haccepting, hd]
    have hwoken := hbegun.others (ids.map .wake)
    obtain ⟨closing, hsettled, hkept⟩ := hwoken.settle
    refine ⟨.shutdown :: ((ids.map .wake).map .other ++ closing), ?_, ?_⟩
    · rw [Serving.run_cons, Serving.run_append]
      rw [← hids, ← stop_eq] at hsettled
      exact hsettled
    · rw [Serving.run_cons, Serving.run_append]
      refine hkept.trans ?_
      rw [Service.run_other]
      exact hexchanges
  · have hsame : a.shutdown = a := by
      unfold Server.shutdown
      split
      · next hstage => exact absurd hstage hserving
      · rfl
    exact ⟨[], by rwa [hsame], rfl⟩

theorem Matches.elapseTo (h : a.Matches s) (instant : Nat) : ∃ moves,
    (a.elapseTo instant).Matches (s.run Service.host moves) ∧
      (s.run Service.host moves).exchanges = s.exchanges := by
  obtain ⟨moves, hmoves, -⟩ := exists_step a.service.lifecycle (.elapseTo instant)
  obtain ⟨closing, hsettled, hkept⟩ := (h.others moves).settle
  refine ⟨moves.map .other ++ closing, ?_, ?_⟩
  · rw [Serving.run_append]
    rw [← hmoves] at hsettled
    exact hsettled
  · rw [Serving.run_append, hkept, Service.run_other]

/-- Every step of a server is a sequence of turns of its tasks. -/
theorem Matches.step (h : a.Matches s) (e : Event) :
    ∃ moves, (a.step e).2.Matches (s.run Service.host moves) ∧
      (s.run Service.host moves).exchanges =
        s.exchanges ++ (e.exchange? (a.step e).1).toList := by
  cases e with
  | request r => exact h.request r
  | shutdown =>
    obtain ⟨moves, hmatches, hkept⟩ := h.shutdown
    exact ⟨moves, hmatches, hkept.trans (List.append_nil _).symm⟩
  | elapseTo instant =>
    obtain ⟨moves, hmatches, hkept⟩ := h.elapseTo instant
    exact ⟨moves, hmatches, hkept.trans (List.append_nil _).symm⟩

theorem Matches.run (h : a.Matches s) (events : List Event) :
    ∃ moves, (a.run events).Matches (s.run Service.host moves) ∧
      (s.run Service.host moves).exchanges = s.exchanges ++ a.exchanges events := by
  induction events generalizing a s with
  | nil => exact ⟨[], h, (List.append_nil _).symm⟩
  | cons e rest ih =>
    obtain ⟨first, hstep, hfirst⟩ := h.step e
    obtain ⟨later, hrun, hlater⟩ := ih hstep
    refine ⟨first ++ later, ?_, ?_⟩
    · rw [Serving.run_append]
      exact hrun
    · rw [Serving.run_append, hlater, hfirst, exchanges, List.append_assoc]

/-- Every run of a server is a sequence of turns of its tasks, with the same answers. -/
theorem exists_run_eq (s₀ : Service) (events : List Event) :
    ∃ moves, ((Server.launch s₀).run events).Matches ((Serving.launch s₀).run Service.host moves) ∧
      ((Serving.launch s₀).run Service.host moves).exchanges =
        (Server.launch s₀).exchanges events := by
  obtain ⟨moves, hmatches, hexchanges⟩ := (matches_launch s₀).run events
  refine ⟨.start :: moves, hmatches, hexchanges.trans (List.nil_append _)⟩

/-- A server starts its policy before it answers any request, calls for one stop when it is shut down,
closes only after that stop has returned, and then returns without an error, whatever the stop
returned. If the policy is a coordinator, every probe from the shutdown to the close is accepted, and
answered 503 once it has had its turns. The runs of a server are among these. -/
theorem outlives_drain :
    (∀ (σ μ : Type) (h : Host σ μ) (host : σ) (moves : List (Serving.Move μ)),
      let s := (Serving.launch host).run h moves
      InOrder s.marks ∧
      (∀ id result, .stopReturned id result ∈ s.marks → ∃ past rest, moves = past ++ .join :: rest ∧
        h.returned? ((Serving.launch host).run h past).host id = some result) ∧
      ∀ id result, s.drainer = .awaitingStop id → h.returned? s.host id = some result →
        ∀ later last : List (Serving.Move μ),
        let closed := ((s.step h .join).run h later).step h .close
        (∀ i < closed.exchanges.length, 3 ≤ last.countP (·.turned? = some i)) →
          ((closed.run h last).step h .finish).stage = .returned (.ok ())) ∧
    (∀ s₀ : Service, (∃ c, s₀.lifecycle.policy = .drain c) →
      ∀ moves : List (Serving.Move Lifecycle.Move),
      let s := (Serving.launch s₀).run Service.host moves
      .shutdown ∈ s.marks → .closing ∉ s.marks →
      ∀ r origin, Service.probed? s₀.routes r = some origin →
      ∀ later : List (Serving.Move Lifecycle.Move),
        (∀ m ∈ later, m.dropped? ≠ some s.exchanges.length) →
        3 ≤ later.countP (·.turned? = some s.exchanges.length) →
        ((s.step Service.host (.accept r)).run Service.host later).exchanges[s.exchanges.length]? =
          some ⟨r, .answered (Service.answerTo r.method .unavailable)⟩) ∧
    ∀ (s₀ : Service) (events : List Event), ∃ moves,
      ((Server.launch s₀).run events).Matches ((Serving.launch s₀).run Service.host moves) ∧
        ((Serving.launch s₀).run Service.host moves).exchanges =
          (Server.launch s₀).exchanges events := by
  refine ⟨fun σ μ h host moves => ?_, fun s₀ hdrain moves => Service.probe_answered hdrain moves,
    exists_run_eq⟩
  intro s
  have hcourse : s.OnCourse := (onCourse_launch host).run moves
  exact ⟨hcourse.inOrder, fun id result => exists_join_of_stopReturned,
    fun id result hd hreturned => hcourse.returns hd hreturned⟩

/-- A drain that times out while the load balancer is told 503, with a server that returns without an
error. -/
theorem outlives_drain_timed_out :
    let c : Coordinator := ⟨⟨"/status.txt", 2, 1, 1⟩, by decide, .steady, .init, none, .empty⟩
    let s₀ : Service := { Service.standard with lifecycle := .initial (.drain c) none }
    let lb := Service.getFrom "10.0.0.1" "/status.txt" none
    let before : List (Serving.Move Lifecycle.Move) := [.start, .accept lb, .turn 0, .turn 0,
      .turn 0, .shutdown, .other (.wake 0), .other (.pass 1), .other (.wake 0)]
    let later : List (Serving.Move Lifecycle.Move) :=
      [.turn 1, .other (.pass 2), .turn 1, .other (.wake 0), .turn 1]
    let last : List (Serving.Move Lifecycle.Move) :=
      List.replicate 3 (.turn 0) ++ List.replicate 3 (.turn 1)
    let all := before ++ .accept lb :: later
    let closed := ((((Serving.launch s₀).run Service.host all).step Service.host .join).run
      Service.host [.other (.pass 3)]).step Service.host .close
    .shutdown ∈ ((Serving.launch s₀).run Service.host before).marks ∧
      .closing ∉ ((Serving.launch s₀).run Service.host before).marks ∧
      Service.probed? s₀.routes lb = some ⟨some "10.0.0.1", false⟩ ∧
      ((Serving.launch s₀).run Service.host all).exchanges[1]? =
        some ⟨lb, .answered (Service.answerTo "GET" .unavailable)⟩ ∧
      ((Serving.launch s₀).run Service.host all).drainer = .awaitingStop 0 ∧
      Service.host.returned? ((Serving.launch s₀).run Service.host all).host 0 =
        some (.error (.timeout 1 true)) ∧
      ((closed.run Service.host last).step Service.host .finish).stage = .returned (.ok ()) := by
  intro c s₀ lb before later last all closed
  have hshutdown : .shutdown ∈ ((Serving.launch s₀).run Service.host before).marks := by
    decide +kernel
  have hclosing : .closing ∉ ((Serving.launch s₀).run Service.host before).marks := by
    decide +kernel
  have hprobed : Service.probed? s₀.routes lb = some ⟨some "10.0.0.1", false⟩ := by decide +kernel
  have hanswered := outlives_drain.2.1 s₀ ⟨c, rfl⟩ before hshutdown hclosing lb _ hprobed later
    (by decide +kernel) (by decide +kernel)
  have hlength : ((Serving.launch s₀).run Service.host before).exchanges.length = 1 := by
    decide +kernel
  rw [hlength, ← Serving.run_cons, ← Serving.run_append] at hanswered
  have hd : ((Serving.launch s₀).run Service.host all).drainer = .awaitingStop 0 := by
    decide +kernel
  have hreturned : Service.host.returned? ((Serving.launch s₀).run Service.host all).host 0 =
      some (.error (.timeout 1 true)) := by
    decide +kernel
  have hturns : ∀ i < closed.exchanges.length, 3 ≤ last.countP (·.turned? = some i) := by
    decide +kernel
  have hreturns := (outlives_drain.1 Service Lifecycle.Move Service.host s₀ all).2.2 0 _ hd hreturned
    [.other (.pass 3)] last hturns
  exact ⟨hshutdown, hclosing, hprobed, hanswered, hd, hreturned, hreturns⟩

end Server

end GracefulDrain
