import Mathlib
import GracefulDrain.Drain.Error
import GracefulDrain.Drain.Lifecycle
import GracefulDrain.Http.Request
import GracefulDrain.Http.Response

/-! The future that tells the server to close waits for the shutdown, calls for a stop and waits for
that in turn. Every request is a task of its own. The tasks take turns in any order, and between any
two turns the policy may change by itself. -/
namespace GracefulDrain

/-- What a server needs of its policy and of the handlers around it. Moves are what happens to them
without the server. -/
structure Host (σ μ : Type) where
  /-- Starts the policy with a monitor. -/
  start : σ → Nat → σ
  /-- Calls for a stop. -/
  stop : σ → σ
  /-- The number of the stop that is called for next. -/
  nextStop : σ → Nat
  /-- What a stop has returned, once it has. -/
  returned? : σ → Nat → Option (Except DrainError Unit)
  beginRequest : σ → σ
  handle : σ → Http.Request → Http.Response × σ
  endRequest : σ → σ
  move : σ → μ → σ

/-- How far a request has got. -/
inductive Progress
  | accepted
  /-- In flight, and not handled yet. -/
  | counted
  /-- In flight, with its response ready. -/
  | handled (response : Http.Response)
  | answered (response : Http.Response)
  /-- Its client is gone, or its handler has failed. -/
  | dropped
  deriving DecidableEq, Repr

namespace Progress

/-- One turn further, where the handlers would respond with `response`. -/
def next (response : Http.Response) : Progress → Progress
  | accepted => counted
  | counted => handled response
  | handled response => answered response
  | p => p

/-- What is dropped is not answered, unless it was before. -/
def drop : Progress → Progress
  | answered response => answered response
  | _ => dropped

/-- How many turns are left. -/
def turns : Progress → Nat
  | accepted => 3
  | counted => 2
  | handled _ => 1
  | answered _ | dropped => 0

def response? : Progress → Option Http.Response
  | handled response | answered response => some response
  | accepted | counted | dropped => none

end Progress

structure Exchange where
  request : Http.Request
  progress : Progress
  deriving DecidableEq, Repr

/-- How far the server itself has got. -/
inductive ServingStage
  | launching
  | accepting
  | closing
  | returned (result : Except AppError Unit)
  deriving DecidableEq, Repr

/-- How far the future has got that tells the server to close. -/
inductive Drainer
  | awaitingShutdown
  | awaitingStop (id : Nat)
  | resolved (id : Nat) (result : Except DrainError Unit)
  deriving DecidableEq, Repr

inductive Mark
  | started (monitor : Nat)
  | shutdown
  | stopCalled (id : Nat)
  | stopReturned (id : Nat) (result : Except DrainError Unit)
  | closing
  | returned (result : Except AppError Unit)
  | answered (i : Nat)
  deriving DecidableEq, Repr

/-- A mark of the server itself and not of a request. -/
def Mark.isControl : Mark → Bool
  | answered _ => false
  | _ => true

namespace Host
variable {σ μ : Type}

/-- A request's turn. -/
def turn (h : Host σ μ) (host : σ) (e : Exchange) : σ :=
  match e.progress with
  | .accepted => h.beginRequest host
  | .counted => (h.handle host e.request).2
  | .handled _ => h.endRequest host
  | .answered _ | .dropped => host

/-- A request is dropped; one in flight no longer is. -/
def abandon (h : Host σ μ) (host : σ) (e : Exchange) : σ :=
  match e.progress with
  | .counted | .handled _ => h.endRequest host
  | .accepted | .answered _ | .dropped => host

end Host

structure Serving (σ : Type) where
  host : σ
  stage : ServingStage
  drainer : Drainer
  exchanges : List Exchange
  marks : List Mark

namespace Serving

inductive Move (μ : Type)
  | start
  | accept (r : Http.Request)
  | turn (i : Nat)
  | drop (i : Nat)
  /-- The shutdown is asked for. -/
  | shutdown
  /-- The future is polled that waits for the stop. -/
  | join
  | close
  | finish
  | other (m : μ)

namespace Move
variable {μ : Type}

/-- The request whose turn it is. -/
def turned? : Move μ → Option Nat
  | turn i => some i
  | _ => none

def dropped? : Move μ → Option Nat
  | drop i => some i
  | _ => none

end Move

variable {σ μ : Type}

def launch (host : σ) : Serving σ := ⟨host, .launching, .awaitingShutdown, [], []⟩

/-- The policy is started with the service's own monitor, and the server accepts requests. -/
def start (h : Host σ μ) (s : Serving σ) : Serving σ :=
  match s.stage with
  | .launching =>
    { s with
      host := h.start s.host Lifecycle.ownMonitor
      stage := .accepting
      marks := s.marks ++ [.started Lifecycle.ownMonitor] }
  | _ => s

def accept (s : Serving σ) (r : Http.Request) : Serving σ :=
  match s.stage with
  | .accepting => { s with exchanges := s.exchanges ++ [⟨r, .accepted⟩] }
  | _ => s

def turn (h : Host σ μ) (s : Serving σ) (i : Nat) : Serving σ :=
  match s.exchanges[i]? with
  | none => s
  | some e =>
    { s with
      host := h.turn s.host e
      exchanges := s.exchanges.set i
        { e with progress := e.progress.next (h.handle s.host e.request).1 }
      marks := s.marks ++ if e.progress.turns = 1 then [.answered i] else [] }

def drop (h : Host σ μ) (s : Serving σ) (i : Nat) : Serving σ :=
  match s.exchanges[i]? with
  | none => s
  | some e =>
    { s with
      host := h.abandon s.host e
      exchanges := s.exchanges.set i { e with progress := e.progress.drop } }

/-- The future that was waiting for the shutdown calls for the stop at once. -/
def shutdown (h : Host σ μ) (s : Serving σ) : Serving σ :=
  match s.stage, s.drainer with
  | .accepting, .awaitingShutdown =>
    { s with
      host := h.stop s.host
      drainer := .awaitingStop (h.nextStop s.host)
      marks := s.marks ++ [.shutdown, .stopCalled (h.nextStop s.host)] }
  | _, _ => s

/-- Whatever the stop has returned, the future has resolved. -/
def join (h : Host σ μ) (s : Serving σ) : Serving σ :=
  match s.drainer with
  | .awaitingStop id =>
    match h.returned? s.host id with
    | some result =>
      { s with drainer := .resolved id result, marks := s.marks ++ [.stopReturned id result] }
    | none => s
  | _ => s

/-- The server accepts no more requests once its future has resolved. -/
def close (s : Serving σ) : Serving σ :=
  match s.stage, s.drainer with
  | .accepting, .resolved _ _ => { s with stage := .closing, marks := s.marks ++ [.closing] }
  | _, _ => s

/-- The server returns when no request is left. -/
def finish (s : Serving σ) : Serving σ :=
  match s.stage with
  | .closing =>
    if s.exchanges.all (·.progress.turns = 0) then
      { s with stage := .returned (.ok ()), marks := s.marks ++ [.returned (.ok ())] }
    else s
  | _ => s

def step (h : Host σ μ) (s : Serving σ) : Move μ → Serving σ
  | .start => s.start h
  | .accept r => s.accept r
  | .turn i => s.turn h i
  | .drop i => s.drop h i
  | .shutdown => s.shutdown h
  | .join => s.join h
  | .close => s.close
  | .finish => s.finish
  | .other m => { s with host := h.move s.host m }

def run (h : Host σ μ) (s : Serving σ) (moves : List (Move μ)) : Serving σ := moves.foldl (step h) s

@[simp] theorem run_nil (h : Host σ μ) (s : Serving σ) : s.run h [] = s := rfl

@[simp] theorem run_cons (h : Host σ μ) (s : Serving σ) (m : Move μ) (rest : List (Move μ)) :
    s.run h (m :: rest) = (s.step h m).run h rest := rfl

theorem run_append (h : Host σ μ) (s : Serving σ) (moves rest : List (Move μ)) :
    s.run h (moves ++ rest) = (s.run h moves).run h rest := by
  simp [run]

/-- What a server that has got that far has done, if it can have. -/
def course? : ServingStage → Drainer → Option (List Mark)
  | .launching, .awaitingShutdown => some []
  | .accepting, .awaitingShutdown => some [.started Lifecycle.ownMonitor]
  | .accepting, .awaitingStop id =>
    some [.started Lifecycle.ownMonitor, .shutdown, .stopCalled id]
  | .accepting, .resolved id result =>
    some [.started Lifecycle.ownMonitor, .shutdown, .stopCalled id, .stopReturned id result]
  | .closing, .resolved id result =>
    some [.started Lifecycle.ownMonitor, .shutdown, .stopCalled id, .stopReturned id result,
      .closing]
  | .returned (.ok ()), .resolved id result =>
    some [.started Lifecycle.ownMonitor, .shutdown, .stopCalled id, .stopReturned id result,
      .closing, .returned (.ok ())]
  | _, _ => none

/-- The server is where its marks say, and no request came before its start. -/
structure OnCourse (s : Serving σ) : Prop where
  course : course? s.stage s.drainer = some (s.marks.filter Mark.isControl)
  idle : s.stage = .launching → s.marks = [] ∧ s.exchanges = []
  first : s.stage ≠ .launching → s.marks.head? = some (.started Lifecycle.ownMonitor)

variable {h : Host σ μ} {s : Serving σ}

theorem onCourse_launch (host : σ) : (launch host).OnCourse :=
  ⟨rfl, fun _ => ⟨rfl, rfl⟩, fun hne => absurd rfl hne⟩

theorem head?_append_of_head? {α : Type} {l : List α} {a : α} (h : l.head? = some a) (more : List α) :
    (l ++ more).head? = some a := by
  rw [List.head?_append, h]
  rfl

/-- What leaves the server itself where it is leaves it on its course. -/
theorem OnCourse.of_same (hs : s.OnCourse) {s' : Serving σ} (hstage : s'.stage = s.stage)
    (hdrainer : s'.drainer = s.drainer) {more : List Mark} (hmarks : s'.marks = s.marks ++ more)
    (hmore : more.filter Mark.isControl = [])
    (hidle : s.stage = .launching → more = [] ∧ s'.exchanges = []) : s'.OnCourse := by
  refine ⟨?_, fun hlaunching => ?_, fun hne => ?_⟩
  · rw [hstage, hdrainer, hmarks, List.filter_append, hmore, List.append_nil]
    exact hs.course
  · rw [hstage] at hlaunching
    obtain ⟨hnone, hempty⟩ := hidle hlaunching
    rw [hmarks, hnone, (hs.idle hlaunching).1]
    exact ⟨rfl, hempty⟩
  · rw [hmarks]
    exact head?_append_of_head? (hs.first (hstage ▸ hne)) more

theorem OnCourse.of_next (hs : s.OnCourse) (hstage : s.stage ≠ .launching) {s' : Serving σ}
    (hstage' : s'.stage ≠ .launching) {more : List Mark} (hmarks : s'.marks = s.marks ++ more)
    (hcourse : course? s'.stage s'.drainer =
      some (s.marks.filter Mark.isControl ++ more.filter Mark.isControl)) : s'.OnCourse := by
  refine ⟨?_, fun hlaunching => absurd hlaunching hstage', fun _ => ?_⟩
  · rw [hcourse, hmarks, List.filter_append]
  · rw [hmarks]
    exact head?_append_of_head? (hs.first hstage) more

/-- A stop is waited for only while requests are accepted. -/
theorem OnCourse.accepting (hs : s.OnCourse) {id : Nat} (hd : s.drainer = .awaitingStop id) :
    s.stage = .accepting := by
  have hcourse := hs.course
  rw [hd] at hcourse
  cases hstage : s.stage with
  | accepting => rfl
  | launching | closing => simp [course?, hstage] at hcourse
  | returned result => cases result <;> simp [course?, hstage] at hcourse

/-- The server closes only after its future has resolved. -/
theorem OnCourse.resolved (hs : s.OnCourse) (hclosing : s.stage = .closing) :
    ∃ id result, s.drainer = .resolved id result := by
  have hcourse := hs.course
  rw [hclosing] at hcourse
  cases hd : s.drainer with
  | resolved id result => exact ⟨id, result, rfl⟩
  | awaitingShutdown | awaitingStop => simp [course?, hd] at hcourse

theorem OnCourse.start (hs : s.OnCourse) : (s.start h).OnCourse := by
  unfold Serving.start
  split
  · next hlaunching =>
    have hcourse := hs.course
    rw [hlaunching] at hcourse
    have hd : s.drainer = .awaitingShutdown := by
      cases hd : s.drainer with
      | awaitingShutdown => rfl
      | awaitingStop | resolved => simp [course?, hd] at hcourse
    rw [hd, (hs.idle hlaunching).1]
    exact ⟨rfl, nofun, fun _ => rfl⟩
  · exact hs

theorem OnCourse.accept (hs : s.OnCourse) (r : Http.Request) : (s.accept r).OnCourse := by
  unfold Serving.accept
  split
  · next haccepting =>
    exact hs.of_same rfl rfl (List.append_nil _).symm rfl fun hl =>
      absurd (haccepting.symm.trans hl) nofun
  · exact hs

theorem OnCourse.turn (hs : s.OnCourse) (i : Nat) : (s.turn h i).OnCourse := by
  unfold Serving.turn
  split
  · exact hs
  · next e he =>
    refine hs.of_same rfl rfl rfl (by split <;> rfl) fun hlaunching => ?_
    rw [(hs.idle hlaunching).2] at he
    cases he

theorem OnCourse.drop (hs : s.OnCourse) (i : Nat) : (s.drop h i).OnCourse := by
  unfold Serving.drop
  split
  · exact hs
  · next e he =>
    refine hs.of_same rfl rfl (List.append_nil _).symm rfl fun hlaunching => ?_
    rw [(hs.idle hlaunching).2] at he
    cases he

theorem OnCourse.shutdown (hs : s.OnCourse) : (s.shutdown h).OnCourse := by
  unfold Serving.shutdown
  split
  · next haccepting hd =>
    have hcourse := hs.course
    rw [haccepting, hd] at hcourse
    refine hs.of_next (haccepting ▸ nofun) (haccepting ▸ nofun) rfl ?_
    rw [← Option.some.inj hcourse, haccepting]
    rfl
  · exact hs

theorem OnCourse.join (hs : s.OnCourse) : (s.join h).OnCourse := by
  unfold Serving.join
  split
  · next id hd =>
    have haccepting := hs.accepting hd
    have hcourse := hs.course
    rw [haccepting, hd] at hcourse
    split
    · refine hs.of_next (haccepting ▸ nofun) (haccepting ▸ nofun) rfl ?_
      rw [← Option.some.inj hcourse, haccepting]
      rfl
    · exact hs
  · exact hs

theorem OnCourse.close (hs : s.OnCourse) : s.close.OnCourse := by
  unfold Serving.close
  split
  · next haccepting hd =>
    have hcourse := hs.course
    rw [haccepting, hd] at hcourse
    refine hs.of_next (haccepting ▸ nofun) nofun rfl ?_
    rw [← Option.some.inj hcourse, hd]
    rfl
  · exact hs

theorem OnCourse.finish (hs : s.OnCourse) : s.finish.OnCourse := by
  unfold Serving.finish
  split
  · next hclosing =>
    obtain ⟨id, result, hd⟩ := hs.resolved hclosing
    have hcourse := hs.course
    rw [hclosing, hd] at hcourse
    split
    · refine hs.of_next (hclosing ▸ nofun) nofun rfl ?_
      rw [← Option.some.inj hcourse, hd]
      rfl
    · exact hs
  · exact hs

theorem OnCourse.step (hs : s.OnCourse) (m : Move μ) : (s.step h m).OnCourse := by
  cases m with
  | start => exact hs.start
  | accept r => exact hs.accept r
  | turn i => exact hs.turn i
  | drop i => exact hs.drop i
  | shutdown => exact hs.shutdown
  | join => exact hs.join
  | close => exact hs.close
  | finish => exact hs.finish
  | other m =>
    exact hs.of_same rfl rfl (List.append_nil _).symm rfl fun hlaunching =>
      ⟨rfl, (hs.idle hlaunching).2⟩

theorem OnCourse.run (hs : s.OnCourse) (moves : List (Move μ)) : (s.run h moves).OnCourse := by
  induction moves generalizing s with
  | nil => exact hs
  | cons m rest ih => exact ih (hs.step m)

/-- A stop is called for exactly when the server is shut down. -/
theorem shutdown_mem_iff (hs : s.OnCourse) :
    .shutdown ∈ s.marks ↔ ∃ id, .stopCalled id ∈ s.marks := by
  have hcontrol (m : Mark) (hm : m.isControl = true) :
      m ∈ s.marks ↔ m ∈ s.marks.filter Mark.isControl := by simp [hm]
  have hcourse := hs.course
  rw [hcontrol _ rfl]
  simp only [hcontrol (.stopCalled _) rfl]
  revert hcourse
  generalize s.marks.filter Mark.isControl = marks
  unfold course?
  split <;> rintro ⟨⟩ <;> simp

theorem stopReturned_step {id : Nat} {result : Except DrainError Unit} {m : Move μ}
    (hmark : .stopReturned id result ∈ (s.step h m).marks) :
    .stopReturned id result ∈ s.marks ∨ m = .join ∧ h.returned? s.host id = some result := by
  cases m with
  | join =>
    simp only [Serving.step, Serving.join] at hmark
    split at hmark
    · split at hmark
      · next hreturned =>
        rcases List.mem_append.1 hmark with hold | hnew
        · exact .inl hold
        · cases List.mem_singleton.1 hnew
          exact .inr ⟨rfl, hreturned⟩
      · exact .inl hmark
    · exact .inl hmark
  | turn i =>
    simp only [Serving.step, Serving.turn] at hmark
    split at hmark
    · exact .inl hmark
    · refine .inl ((List.mem_append.1 hmark).resolve_right ?_)
      split <;> simp
  | start | accept | drop | shutdown | close | finish =>
    simp only [Serving.step, Serving.start, Serving.accept, Serving.drop, Serving.shutdown,
      Serving.close, Serving.finish] at hmark
    grind
  | other m => exact .inl hmark

/-- A stop is marked as returned only once it has returned. -/
theorem exists_join_of_stopReturned {host : σ} {moves : List (Move μ)} {id : Nat}
    {result : Except DrainError Unit}
    (hmark : .stopReturned id result ∈ ((launch host).run h moves).marks) :
    ∃ past rest, moves = past ++ .join :: rest ∧
      h.returned? ((launch host).run h past).host id = some result := by
  induction moves using List.reverseRecOn with
  | nil => cases hmark
  | append_singleton moves m ih =>
    rw [run_append] at hmark
    rcases stopReturned_step hmark with hold | ⟨rfl, hreturned⟩
    · obtain ⟨past, rest, rfl, hpast⟩ := ih hold
      exact ⟨past, rest ++ [m], by simp, hpast⟩
    · exact ⟨moves, [], rfl, hreturned⟩

/-- All that a step can do to a request. -/
theorem exchange_step {i : Nat} {e : Exchange} (he : s.exchanges[i]? = some e) (m : Move μ) :
    (m.turned? = some i ∧ (s.step h m).exchanges[i]? =
      some { e with progress := e.progress.next (h.handle s.host e.request).1 }) ∨
    (m.dropped? = some i ∧ (s.step h m).exchanges[i]? =
      some { e with progress := e.progress.drop }) ∨
    (m.turned? ≠ some i ∧ m.dropped? ≠ some i ∧ (s.step h m).exchanges[i]? = some e) := by
  have hlt := (List.getElem?_eq_some_iff.1 he).1
  cases m with
  | turn j =>
    by_cases hj : j = i
    · subst hj
      refine .inl ⟨rfl, ?_⟩
      simp only [Serving.step, Serving.turn, he, List.getElem?_set_self hlt]
    · refine .inr (.inr ⟨by simpa [Move.turned?] using hj, nofun, ?_⟩)
      simp only [Serving.step, Serving.turn]
      split
      · exact he
      · rwa [List.getElem?_set_ne hj]
  | drop j =>
    by_cases hj : j = i
    · subst hj
      refine .inr (.inl ⟨rfl, ?_⟩)
      simp only [Serving.step, Serving.drop, he, List.getElem?_set_self hlt]
    · refine .inr (.inr ⟨nofun, by simpa [Move.dropped?] using hj, ?_⟩)
      simp only [Serving.step, Serving.drop]
      split
      · exact he
      · rwa [List.getElem?_set_ne hj]
  | accept r =>
    refine .inr (.inr ⟨nofun, nofun, ?_⟩)
    simp only [Serving.step, Serving.accept]
    split
    · rwa [List.getElem?_append_left hlt]
    · exact he
  | start | shutdown | join | close | finish | other =>
    refine .inr (.inr ⟨nofun, nofun, ?_⟩)
    simp only [Serving.step, Serving.start, Serving.shutdown, Serving.join, Serving.close,
      Serving.finish]
    grind

theorem turns_next (response : Http.Response) (p : Progress) :
    (p.next response).turns = p.turns - 1 := by
  cases p <;> rfl

theorem turns_drop (p : Progress) : p.drop.turns = 0 := by
  cases p <;> rfl

theorem turns_le (p : Progress) : p.turns ≤ 3 := by
  cases p <;> simp [Progress.turns]

/-- A request has no turns left once it has had enough of them. -/
theorem turns_run {i : Nat} {e : Exchange} (he : s.exchanges[i]? = some e)
    (moves : List (Move μ)) : ∃ e', (s.run h moves).exchanges[i]? = some e' ∧
      e'.progress.turns ≤ e.progress.turns - moves.countP (·.turned? = some i) := by
  induction moves generalizing s e with
  | nil => exact ⟨e, he, le_rfl⟩
  | cons m rest ih =>
    rcases exchange_step (h := h) he m with ⟨hturn, he'⟩ | ⟨-, he'⟩ | ⟨hno, -, he'⟩
    · obtain ⟨e', hrun, hle⟩ := ih he'
      rw [turns_next] at hle
      refine ⟨e', hrun, ?_⟩
      simp only [List.countP_cons, hturn, decide_true, if_true]
      omega
    · obtain ⟨e', hrun, hle⟩ := ih he'
      rw [turns_drop] at hle
      exact ⟨e', hrun, by omega⟩
    · obtain ⟨e', hrun, hle⟩ := ih he'
      refine ⟨e', hrun, ?_⟩
      simpa [List.countP_cons, hno] using hle

end Serving

/-- Whatever happens, the property stays. -/
structure Host.Keeps {σ μ : Type} (h : Host σ μ) (I : σ → Prop) : Prop where
  start : ∀ host monitor, I host → I (h.start host monitor)
  stop : ∀ host, I host → I (h.stop host)
  beginRequest : ∀ host, I host → I (h.beginRequest host)
  handle : ∀ host r, I host → I (h.handle host r).2
  endRequest : ∀ host, I host → I (h.endRequest host)
  move : ∀ host m, I host → I (h.move host m)

theorem Host.Keeps.and {σ μ : Type} {h : Host σ μ} {I J : σ → Prop} (hI : h.Keeps I)
    (hJ : h.Keeps J) : h.Keeps fun host => I host ∧ J host where
  start host monitor := And.imp (hI.start host monitor) (hJ.start host monitor)
  stop host := And.imp (hI.stop host) (hJ.stop host)
  beginRequest host := And.imp (hI.beginRequest host) (hJ.beginRequest host)
  handle host r := And.imp (hI.handle host r) (hJ.handle host r)
  endRequest host := And.imp (hI.endRequest host) (hJ.endRequest host)
  move host m := And.imp (hI.move host m) (hJ.move host m)

namespace Serving
variable {σ μ : Type} {h : Host σ μ} {s : Serving σ} {I : σ → Prop}

theorem host_step (hkeeps : h.Keeps I) (hI : I s.host) (m : Move μ) : I (s.step h m).host := by
  cases m with
  | start =>
    simp only [Serving.step, Serving.start]
    split
    · exact hkeeps.start _ _ hI
    · exact hI
  | turn i =>
    simp only [Serving.step, Serving.turn]
    split
    · exact hI
    · unfold Host.turn
      split
      · exact hkeeps.beginRequest _ hI
      · exact hkeeps.handle _ _ hI
      · exact hkeeps.endRequest _ hI
      · exact hI
      · exact hI
  | drop i =>
    simp only [Serving.step, Serving.drop]
    split
    · exact hI
    · unfold Host.abandon
      split <;> first | exact hkeeps.endRequest _ hI | exact hI
  | shutdown =>
    simp only [Serving.step, Serving.shutdown]
    split
    · exact hkeeps.stop _ hI
    · exact hI
  | accept | join | close | finish =>
    simp only [Serving.step, Serving.accept, Serving.join, Serving.close, Serving.finish]
    grind
  | other m => exact hkeeps.move _ _ hI

theorem host_run (hkeeps : h.Keeps I) (hI : I s.host) (moves : List (Move μ)) :
    I (s.run h moves).host := by
  induction moves generalizing s with
  | nil => exact hI
  | cons m rest ih => exact ih (host_step hkeeps hI m)

/-- Not dropped, and if there is a response already, it is this one. -/
def Promises (response : Http.Response) (p : Progress) : Prop :=
  p ≠ .dropped ∧ ∀ r ∈ p.response?, r = response

theorem promises_accepted (response : Http.Response) : Promises response .accepted :=
  ⟨nofun, nofun⟩

theorem Promises.next {response : Http.Response} {p : Progress} (hp : Promises response p) :
    Promises response (p.next response) := by
  cases p with
  | accepted => exact ⟨nofun, nofun⟩
  | counted => exact ⟨nofun, by simp [Progress.next, Progress.response?]⟩
  | handled r => exact ⟨nofun, hp.2⟩
  | answered r => exact hp
  | dropped => exact absurd rfl hp.1

theorem Promises.answered {response : Http.Response} {p : Progress} (hp : Promises response p)
    (hturns : p.turns = 0) : p = .answered response := by
  cases p with
  | answered r => rw [hp.2 r rfl]
  | dropped => exact absurd rfl hp.1
  | accepted | counted | handled => simp [Progress.turns] at hturns

/-- A request is answered once it has had enough turns, unless it is dropped. -/
theorem answered_run (hkeeps : h.Keeps I) {r : Http.Request} {response : Http.Response}
    (hhandle : ∀ host, I host → (h.handle host r).1 = response) (hI : I s.host) {i : Nat}
    {p : Progress} (he : s.exchanges[i]? = some ⟨r, p⟩) (hp : Promises response p)
    {moves : List (Move μ)} (hdrop : ∀ m ∈ moves, m.dropped? ≠ some i)
    (hturns : p.turns ≤ moves.countP (·.turned? = some i)) :
    (s.run h moves).exchanges[i]? = some ⟨r, .answered response⟩ := by
  induction moves generalizing s p with
  | nil =>
    rw [hp.answered (Nat.le_zero.1 hturns)] at he
    exact he
  | cons m rest ih =>
    have hI' := host_step hkeeps hI m
    have hdrop' : ∀ m' ∈ rest, m'.dropped? ≠ some i := fun m' hm' =>
      hdrop m' (List.mem_cons_of_mem _ hm')
    rcases exchange_step (h := h) he m with ⟨hturn, he'⟩ | ⟨hdropped, -⟩ | ⟨hno, -, he'⟩
    · rw [hhandle s.host hI] at he'
      have hleft : (p.next response).turns = p.turns - 1 := turns_next response p
      refine ih hI' (p := p.next response) he' hp.next hdrop' ?_
      simp only [List.countP_cons, hturn, decide_true, if_true] at hturns
      omega
    · exact absurd hdropped (hdrop m List.mem_cons_self)
    · refine ih hI' he' hp hdrop' ?_
      simpa [List.countP_cons, hno] using hturns

theorem drainer_step {id : Nat} {result : Except DrainError Unit}
    (hd : s.drainer = .resolved id result) (m : Move μ) :
    (s.step h m).drainer = .resolved id result := by
  cases m with
  | other => exact hd
  | start | accept | turn | drop | shutdown | join | close | finish =>
    simp only [Serving.step, Serving.start, Serving.accept, Serving.turn, Serving.drop,
      Serving.shutdown, Serving.join, Serving.close, Serving.finish]
    grind

theorem drainer_run {id : Nat} {result : Except DrainError Unit}
    (hd : s.drainer = .resolved id result) (moves : List (Move μ)) :
    (s.run h moves).drainer = .resolved id result := by
  induction moves generalizing s with
  | nil => exact hd
  | cons m rest ih => exact ih (drainer_step hd m)

/-- The future and the listener have their turns after the stop has returned. -/
theorem run_join_close (haccepting : s.stage = .accepting) {id : Nat}
    (hd : s.drainer = .awaitingStop id) {result : Except DrainError Unit}
    (hreturned : h.returned? s.host id = some result) :
    s.run h [.join, .close] =
      { s with
        stage := .closing
        drainer := .resolved id result
        marks := s.marks ++ [.stopReturned id result] ++ [.closing] } := by
  obtain ⟨host, stage, drainer, exchanges, marks⟩ := s
  obtain rfl : stage = .accepting := haccepting
  obtain rfl : drainer = .awaitingStop id := hd
  simp only [run_cons, run_nil, Serving.step, Serving.join, hreturned, Serving.close]

/-- The server accepts nothing more. -/
def IsClosed (s : Serving σ) : Prop := s.stage = .closing ∨ s.stage = .returned (.ok ())

theorem OnCourse.isClosed_close (hs : s.OnCourse) {id : Nat} {result : Except DrainError Unit}
    (hd : s.drainer = .resolved id result) : s.close.IsClosed := by
  have hcourse := hs.course
  rw [hd] at hcourse
  unfold Serving.close
  cases hstage : s.stage with
  | accepting =>
    rw [hd]
    exact .inl rfl
  | closing => exact .inl hstage
  | launching => simp [course?, hstage] at hcourse
  | returned r =>
    cases r with
    | ok => exact .inr hstage
    | error => simp [course?, hstage] at hcourse

theorem IsClosed.step (hs : s.IsClosed) (m : Move μ) :
    (s.step h m).IsClosed ∧ (s.step h m).exchanges.length = s.exchanges.length := by
  cases m with
  | finish =>
    simp only [Serving.step, Serving.finish]
    split
    · split
      · exact ⟨.inr rfl, rfl⟩
      · exact ⟨hs, rfl⟩
    · exact ⟨hs, rfl⟩
  | start | accept | shutdown | close =>
    simp only [Serving.step, Serving.start, Serving.accept, Serving.shutdown, Serving.close]
    rcases hs with hstage | hstage <;> simp only [hstage] <;> first
      | exact ⟨.inl hstage, trivial⟩
      | exact ⟨.inr hstage, trivial⟩
  | turn | drop =>
    simp only [Serving.step, Serving.turn, Serving.drop]
    split
    · exact ⟨hs, rfl⟩
    · exact ⟨hs, by simp⟩
  | join =>
    simp only [Serving.step, Serving.join]
    split
    · split <;> exact ⟨hs, rfl⟩
    · exact ⟨hs, rfl⟩
  | other m => exact ⟨hs, rfl⟩

theorem IsClosed.run (hs : s.IsClosed) (moves : List (Move μ)) :
    (s.run h moves).IsClosed ∧ (s.run h moves).exchanges.length = s.exchanges.length := by
  induction moves generalizing s with
  | nil => exact ⟨hs, rfl⟩
  | cons m rest ih =>
    obtain ⟨hclosed, hlength⟩ := hs.step (h := h) m
    obtain ⟨hclosed', hlength'⟩ := ih hclosed
    exact ⟨hclosed', hlength'.trans hlength⟩

/-- Once the stop has returned, whatever it was, the server returns without an error as soon as its
future, its listener and its requests have had their turns. -/
theorem OnCourse.returns (hs : s.OnCourse) {id : Nat} (hd : s.drainer = .awaitingStop id)
    {result : Except DrainError Unit} (hreturned : h.returned? s.host id = some result)
    (later last : List (Move μ)) :
    let closed := ((s.step h .join).run h later).step h .close
    (∀ i < closed.exchanges.length, 3 ≤ last.countP (·.turned? = some i)) →
      ((closed.run h last).step h .finish).stage = .returned (.ok ()) := by
  intro closed hturns
  have hjoined : (s.step h .join).drainer = .resolved id result := by
    simp only [Serving.step, Serving.join, hd, hreturned]
  have hclosed : closed.IsClosed :=
    ((hs.step .join).run later).isClosed_close (drainer_run hjoined later)
  obtain ⟨hstage, hlength⟩ := hclosed.run (h := h) last
  rcases hstage with hclosing | hreturned
  · have hall : (closed.run h last).exchanges.all (·.progress.turns = 0) = true := by
      refine List.all_eq_true.2 fun e he => ?_
      obtain ⟨i, hi⟩ := List.mem_iff_getElem?.1 he
      have hlt : i < closed.exchanges.length := by
        rw [← hlength]
        exact (List.getElem?_eq_some_iff.1 hi).1
      obtain ⟨e', he', hle⟩ := turns_run (h := h) (List.getElem?_eq_getElem hlt) last
      obtain rfl : e' = e := Option.some.inj (he'.symm.trans hi)
      have hmax := turns_le closed.exchanges[i].progress
      have henough := hturns i hlt
      simp only [decide_eq_true_eq]
      omega
    simp only [Serving.step, Serving.finish, hclosing, hall, if_true]
  · simp only [Serving.step, Serving.finish, hreturned]

end Serving

end GracefulDrain
