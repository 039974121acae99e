import GracefulDrain.Proofs.History

namespace GracefulDrain.Lifecycle

/-- What a look shows. -/
def sight (s : Lifecycle) : Observation :=
  match s.policy with
  | .simple _ => ⟨0, false⟩
  | .drain c => s.observe c

/-- Something is due now for one stop. -/
def isDue (s : Lifecycle) (id : Nat) : Bool :=
  match s.policy, s.stops[id]? with
  | .drain c, some stop => (stop.wake? c.settings).any (· ≤ s.now)
  | _, _ => false

/-- The states in which one stop looks, in order. -/
def ticks (s : Lifecycle) (id : Nat) : List Move → List Lifecycle
  | [] => []
  | m :: rest =>
    if m = .wake id ∧ s.isDue id = true then s :: (s.move m).ticks id rest
    else (s.move m).ticks id rest

/-- Waking a stop ends it here and now. -/
structure EndsWith (tick : Lifecycle) (id : Nat) (outcome : Outcome) : Prop where
  stop : (tick.wake id).stops[id]? = some (.ended tick.now outcome)
  phase : ∃ c, (tick.wake id).policy = .drain c ∧ c.phase = outcome.phase
  recorded : (tick.wake id).record.phase = some outcome.phase

/-- How a stop can go on from its look number `looks`: what it sees, and the state that is left. -/
inductive Course (settings : DrainSettings) (begun reading id : Nat) :
    Nat → List Lifecycle → Lifecycle → Prop
  | waiting {looks : Nat} {final : Lifecycle}
      (stop : final.stops[id]? = some (.waiting begun reading looks))
      (now : final.now ≤ begun + min (looks * settings.pollInterval) settings.shutdownTimeout) :
      Course settings begun reading id looks [] final
  | again {looks : Nat} {tick final : Lifecycle} {later : List Lifecycle}
      (now : tick.now = begun + looks * settings.pollInterval)
      (early : looks * settings.pollInterval < settings.shutdownTimeout)
      (busy : tick.sight.isQuiet = false)
      (rest : Course settings begun reading id (looks + 1) later final) :
      Course settings begun reading id looks (tick :: later) final
  | quiet {looks : Nat} {tick final : Lifecycle}
      (now : tick.now = begun + looks * settings.pollInterval)
      (early : looks * settings.pollInterval < settings.shutdownTimeout)
      (quiet : tick.sight.isQuiet = true) (ends : tick.EndsWith id .quiet)
      (stop : final.stops[id]? = some (.ended tick.now .quiet)) :
      Course settings begun reading id looks [tick] final
  | limit {looks : Nat} {tick final : Lifecycle}
      (now : tick.now = begun + settings.shutdownTimeout)
      (late : settings.shutdownTimeout ≤ looks * settings.pollInterval)
      (ends : tick.EndsWith id (.timedOut tick.sight.inflight tick.sight.lbActive))
      (stop : final.stops[id]? =
        some (.ended tick.now (.timedOut tick.sight.inflight tick.sight.lbActive))) :
      Course settings begun reading id looks [tick] final

variable {s : Lifecycle} {c : Coordinator} {id : Nat}

theorem sight_eq (hp : s.policy = .drain c) : s.sight = s.observe c := by
  simp [sight, hp]

theorem exists_nextWake?_le (hp : s.policy = .drain c) {stop : Stop}
    (h : s.stops[id]? = some stop) {w : Nat} (hw : stop.wake? c.settings = some w) :
    ∃ first, s.nextWake? = some first ∧ first ≤ w := by
  have hmem : w ∈ s.stops.filterMap (·.wake? c.settings) :=
    List.mem_filterMap.2 ⟨stop, List.mem_of_getElem? h, hw⟩
  obtain ⟨first, hfirst⟩ := Option.isSome_iff_exists.1 (List.isSome_min?_of_mem hmem)
  exact ⟨first, by simpa [nextWake?, hp] using hfirst, (List.min?_eq_some_iff.1 hfirst).2 w hmem⟩

/-- Time does not pass an instant at which something is due. -/
theorem now_move_le (hp : s.policy = .drain c) {stop : Stop} (h : s.stops[id]? = some stop)
    {w : Nat} (hw : stop.wake? c.settings = some w) (hnow : s.now ≤ w) (m : Move) :
    (s.move m).now ≤ w := by
  cases m with
  | pass instant =>
    obtain ⟨first, hfirst, hle⟩ := exists_nextWake?_le hp h hw
    simp only [move, pass, hfirst, Option.map_some, Option.getD_some]
    omega
  | start | beginStop | probe => simpa [move, start, beginStop, probe, hp] using hnow
  | enter | leave | addMonitor | advanceClock | setClock =>
    simpa [move, onMonitor, addMonitor] using hnow
  | wake other =>
    simp only [move, wake, hp]
    split <;> exact hnow

/-- Once a stop has ended, its waking does nothing, and the end stays. -/
theorem follow_of_ended (hp : s.policy = .drain c) {instant : Nat} {outcome : Outcome}
    (h : s.stops[id]? = some (.ended instant outcome)) (moves : List Move) :
    (s.follow moves).stops[id]? = some (.ended instant outcome) ∧ s.ticks id moves = [] ∧
      s.follow moves = s.follow (moves.filter (· ≠ .wake id)) := by
  induction moves generalizing s c with
  | nil => exact ⟨h, rfl, rfl⟩
  | cons m rest ih =>
    have hdue : s.isDue id = false := by simp [isDue, hp, h, Stop.wake?]
    obtain ⟨c', hp', -⟩ := exists_drain_move hp m
    by_cases hm : m = .wake id
    · subst hm
      have hsame : s.move (.wake id) = s := wake_ended h
      simpa [ticks, hdue, hsame] using ih hp h
    · simpa [ticks, hm] using ih hp' (getElem?_stops_move hp h hm)

theorem now_wake (s : Lifecycle) (id : Nat) : (s.wake id).now = s.now := by
  unfold wake
  split <;> rfl

theorem endsWith_of_settle (hp : s.policy = .drain c) {begun reading looks : Nat}
    (h : s.stops[id]? = some (.waiting begun reading looks)) {outcome : Outcome}
    (hs : (Stop.waiting begun reading looks).settle c.settings s.now (s.observe c) =
      .ended s.now outcome) : s.EndsWith id outcome := by
  have hw := wake_waiting hp h _ hs
  have hlt := (List.getElem?_eq_some_iff.1 h).1
  exact ⟨by rw [hw, List.getElem?_set_self hlt], ⟨_, by rw [hw], rfl⟩, by rw [hw]; rfl⟩

/-- The look that is due happens, and the stop ends or goes on waiting for the next one. -/
theorem course_wake (hp : s.policy = .drain c) {begun reading looks : Nat}
    (h : s.stops[id]? = some (.waiting begun reading looks))
    (hnow : s.now = begun + min (looks * c.settings.pollInterval) c.settings.shutdownTimeout)
    {rest : List Move}
    (hrest : (s.wake id).stops[id]? = some (.waiting begun reading (looks + 1)) →
      looks * c.settings.pollInterval < c.settings.shutdownTimeout →
      Course c.settings begun reading id (looks + 1) ((s.wake id).ticks id rest)
        ((s.wake id).follow rest)) :
    Course c.settings begun reading id looks (s :: (s.wake id).ticks id rest)
      ((s.wake id).follow rest) := by
  obtain ⟨c', hp', -⟩ := exists_drain_move hp (.wake id)
  by_cases hlate : c.settings.shutdownTimeout ≤ looks * c.settings.pollInterval
  · rw [min_eq_right hlate] at hnow
    have hexpires : (Stop.waiting begun reading looks).expires c.settings s.now = true := by
      simp [Stop.expires, Stop.deadline, hnow]
    have hends := endsWith_of_settle hp h (settle_of_expires hexpires)
    rw [← sight_eq hp] at hends
    obtain ⟨hstop, hticks, -⟩ := follow_of_ended hp' hends.stop rest
    rw [show (s.wake id).ticks id rest = [] from hticks]
    exact .limit hnow hlate hends hstop
  · have hearly := not_le.1 hlate
    rw [min_eq_left hearly.le] at hnow
    have hlooks : (Stop.waiting begun reading looks).looks c.settings s.now = true := by
      simp [Stop.looks, Stop.nextLook, Stop.deadline, hnow, hearly]
    cases hq : s.sight.isQuiet with
    | true =>
      have hs := settle_of_looks hlooks (sight_eq hp ▸ hq)
      have hends := endsWith_of_settle hp h hs
      obtain ⟨hstop, hticks, -⟩ := follow_of_ended hp' hends.stop rest
      rw [show (s.wake id).ticks id rest = [] from hticks]
      exact .quiet hnow hearly hq hends hstop
    | false =>
      refine .again hnow hearly hq (hrest ?_ hearly)
      have hs : (Stop.waiting begun reading looks).settle c.settings s.now (s.observe c) =
          .waiting begun reading (looks + 1) := by
        have hbusy : (s.observe c).isQuiet = false := sight_eq hp ▸ hq
        simp [Stop.settle, Stop.nextLook, Stop.deadline, hnow, hearly, hbusy]
      rw [wake_waiting hp h _ hs, List.getElem?_set_self (List.getElem?_eq_some_iff.1 h).1]

/-- Whatever else happens in between, a waiting stop takes its course. -/
theorem course_follow (hp : s.policy = .drain c) {begun reading looks : Nat}
    (h : s.stops[id]? = some (.waiting begun reading looks))
    (hnow : s.now ≤ begun + min (looks * c.settings.pollInterval) c.settings.shutdownTimeout)
    (moves : List Move) :
    Course c.settings begun reading id looks (s.ticks id moves) (s.follow moves) := by
  induction moves generalizing s c looks with
  | nil => exact .waiting h hnow
  | cons m rest ih =>
    obtain ⟨c', hp', hsettings, -⟩ := exists_drain_move hp m
    have hwake : (Stop.waiting begun reading looks).wake? c.settings =
        some (begun + min (looks * c.settings.pollInterval) c.settings.shutdownTimeout) := by
      simp [Stop.wake?, Stop.nextLook, Stop.deadline, Nat.add_min_add_left]
    have hnext := now_move_le hp h hwake hnow m
    -- a look is due exactly when time has come up to the bound that the invariant gives
    by_cases hm : m = .wake id
    · subst hm
      by_cases hdue : s.isDue id = true
      · rw [ticks, if_pos ⟨rfl, hdue⟩]
        have hat := hnow.antisymm (by simpa [isDue, hp, h, hwake] using hdue)
        refine course_wake hp h hat fun hstop hearly => ?_
        have hlater : (s.wake id).now ≤ begun +
            min ((looks + 1) * c.settings.pollInterval) c.settings.shutdownTimeout := by
          rw [now_wake, Nat.succ_mul]
          omega
        exact hsettings ▸ ih hp' hstop (hsettings ▸ hlater)
      · rw [ticks, if_neg (by simp [hdue])]
        have hidle : s.now < begun +
            min (looks * c.settings.pollInterval) c.settings.shutdownTimeout := by
          simpa [isDue, hp, h, hwake] using hdue
        have hexpires : (Stop.waiting begun reading looks).expires c.settings s.now = false := by
          rw [Stop.expires, Stop.deadline, decide_eq_false_iff_not]
          omega
        have hlooks : (Stop.waiting begun reading looks).looks c.settings s.now = false := by
          rw [Stop.looks, Stop.nextLook, Bool.and_eq_false_iff, decide_eq_false_iff_not]
          omega
        have hstop : (s.wake id).stops[id]? = some (.waiting begun reading looks) := by
          rw [wake_waiting hp h _ (settle_of_idle hexpires hlooks),
            List.getElem?_set_self (List.getElem?_eq_some_iff.1 h).1]
        exact hsettings ▸ ih hp' hstop (hsettings ▸ hnext)
    · rw [ticks, if_neg (by simp [hm])]
      exact hsettings ▸ ih hp' (getElem?_stops_move hp h hm) (hsettings ▸ hnext)

theorem exists_of_mem_ticks {moves : List Move} {tick : Lifecycle} (h : tick ∈ s.ticks id moves) :
    ∃ past rest, moves = past ++ .wake id :: rest ∧ s.follow past = tick := by
  induction moves generalizing s with
  | nil => simp [ticks] at h
  | cons m rest ih =>
    have later (hl : tick ∈ (s.move m).ticks id rest) :
        ∃ past rest', m :: rest = past ++ .wake id :: rest' ∧ s.follow past = tick := by
      obtain ⟨past, rest', rfl, hpast⟩ := ih hl
      exact ⟨m :: past, rest', rfl, hpast⟩
    unfold ticks at h
    split at h
    · next hm =>
      rcases List.mem_cons.1 h with rfl | hl
      · exact ⟨[], rest, by rw [hm.1, List.nil_append], rfl⟩
      · exact later hl
    · exact later h

namespace Course

variable {settings : DrainSettings} {begun reading looks : Nat} {ticks : List Lifecycle}
  {tick final : Lifecycle}

/-- Looks are due at the multiples of the poll interval and at the limit. -/
theorem now_eq (h : Course settings begun reading id looks ticks final) {k : Nat}
    (hk : ticks[k]? = some tick) : tick.now =
      begun + min ((looks + k) * settings.pollInterval) settings.shutdownTimeout := by
  induction h generalizing k with
  | waiting => simp at hk
  | again now early _ _ ih =>
    cases k with
    | zero =>
      cases hk
      rw [now, Nat.add_zero, min_eq_left early.le]
    | succ k => rw [ih hk, Nat.add_right_comm, Nat.add_assoc]
  | quiet now early =>
    cases k with
    | zero =>
      cases hk
      rw [now, Nat.add_zero, min_eq_left early.le]
    | succ k => simp at hk
  | limit now late =>
    cases k with
    | zero =>
      cases hk
      rw [now, Nat.add_zero, min_eq_right late]
    | succ k => simp at hk

/-- A look before the limit that finds quiet is the end. -/
theorem ended_quiet (h : Course settings begun reading id looks ticks final) {k : Nat}
    (hk : ticks[k]? = some tick)
    (hearly : (looks + k) * settings.pollInterval < settings.shutdownTimeout)
    (hq : tick.sight.isQuiet = true) :
    tick.EndsWith id .quiet ∧ final.stops[id]? = some (.ended tick.now .quiet) := by
  induction h generalizing k with
  | waiting => simp at hk
  | again _ _ busy _ ih =>
    cases k with
    | zero =>
      cases hk
      rw [busy] at hq
      contradiction
    | succ k =>
      exact ih hk (by rwa [Nat.add_right_comm, Nat.add_assoc])
  | quiet _ _ _ ends stop =>
    cases k with
    | zero =>
      cases hk
      exact ⟨ends, stop⟩
    | succ k => simp at hk
  | limit _ late =>
    cases k with
    | zero => exact absurd hearly (not_lt.2 late)
    | succ k => simp at hk

/-- Without such a look the stop waits for the next one, or has ended at the limit. -/
theorem waiting_or_timedOut (h : Course settings begun reading id looks ticks final)
    (hbusy : ∀ k tick, ticks[k]? = some tick →
      (looks + k) * settings.pollInterval < settings.shutdownTimeout →
      tick.sight.isQuiet = false) :
    (final.stops[id]? = some (.waiting begun reading (looks + ticks.length)) ∧
      final.now ≤ begun +
        min ((looks + ticks.length) * settings.pollInterval) settings.shutdownTimeout) ∨
    ∃ k tick, ticks[k]? = some tick ∧
      settings.shutdownTimeout ≤ (looks + k) * settings.pollInterval ∧
      tick.EndsWith id (.timedOut tick.sight.inflight tick.sight.lbActive) ∧
      final.stops[id]? =
        some (.ended tick.now (.timedOut tick.sight.inflight tick.sight.lbActive)) := by
  induction h with
  | waiting stop now => exact .inl ⟨stop, now⟩
  | @again looks tick final later _ _ _ _ ih =>
    have hshift (k : Nat) : looks + 1 + k = looks + (k + 1) := by omega
    rcases ih fun k tick hk => hshift k ▸ hbusy (k + 1) tick hk with hwait | ⟨k, tick, hk, hend⟩
    · rw [hshift] at hwait
      exact .inl hwait
    · exact .inr ⟨k + 1, tick, hk, hshift k ▸ hend⟩
  | @quiet looks tick _ _ early quiet =>
    rw [hbusy 0 tick rfl early] at quiet
    contradiction
  | limit _ late ends stop => exact .inr ⟨0, _, rfl, late, ends, stop⟩

theorem instant_le (h : Course settings begun reading id looks ticks final) {instant : Nat}
    {outcome : Outcome} (hs : final.stops[id]? = some (.ended instant outcome)) :
    instant ≤ begun + settings.shutdownTimeout := by
  induction h with
  | waiting stop => simp [stop] at hs
  | again _ _ _ _ ih => exact ih hs
  | quiet now early _ _ stop =>
    simp only [stop, Option.some.injEq, Stop.ended.injEq] at hs
    omega
  | limit now _ _ stop =>
    simp only [stop, Option.some.injEq, Stop.ended.injEq] at hs
    omega

theorem waiting_or_ended (h : Course settings begun reading id looks ticks final) :
    (∃ looks, final.stops[id]? = some (.waiting begun reading looks) ∧ final.now ≤ begun +
      min (looks * settings.pollInterval) settings.shutdownTimeout) ∨
    ∃ instant outcome, final.stops[id]? = some (.ended instant outcome) := by
  induction h with
  | waiting stop now => exact .inl ⟨_, stop, now⟩
  | again _ _ _ _ ih => exact ih
  | quiet _ _ _ _ stop | limit _ _ _ stop => exact .inr ⟨_, _, stop⟩

end Course

theorem exists_ended_join (hp : s.policy = .drain c) {begun reading looks : Nat}
    (h : s.stops[id]? = some (.waiting begun reading looks))
    (hnow : s.now ≤ begun + min (looks * c.settings.pollInterval) c.settings.shutdownTimeout) :
    ∃ instant outcome, (s.join id).stops[id]? = some (.ended instant outcome) := by
  obtain ⟨moves, -, hjoin⟩ := exists_runUntil s (s.lastInstant id)
    fun s => (s.stops[id]?).all Stop.isEnded
  obtain ⟨c', hp', hsettings, -⟩ := exists_drain_follow hp moves
  rw [← hjoin] at hp'
  rcases (course_follow hp h hnow moves).waiting_or_ended with ⟨later, hstop, -⟩ | hended
  · rw [← hjoin] at hstop
    exfalso
    rcases enough_runUntil_or_lt s (s.lastInstant id)
      (fun s => (s.stops[id]?).all Stop.isEnded) with henough | hlate
    · simp [hstop, Stop.isEnded] at henough
    · have hwake : (Stop.waiting begun reading later).wake? c'.settings =
          some (min (Stop.nextLook c'.settings begun later) (Stop.deadline c'.settings begun)) := rfl
      obtain ⟨first, hfirst, hle⟩ := exists_nextWake?_le hp' hstop hwake
      have hlast : s.lastInstant id = Stop.deadline c.settings begun := by simp [lastInstant, hp, h]
      have hlt := hlate first hfirst
      rw [hlast, ← hsettings] at hlt
      omega
  · rw [join, hjoin]
    exact hended

theorem beginStop_waiting (hp : s.policy = .drain c) :
    s.beginStop.policy = .drain c.beginStop ∧ s.beginStop.now = s.now ∧
      s.beginStop.stops[s.stops.length]? = some (.waiting s.now (s.reading c.clock) 0) := by
  simp [beginStop, hp]

/-- A stop that is waited for ends. However its looks interleave with anything else, the first one
before the limit to find quiet ends it in quiet, and otherwise it times out exactly at the limit with
what is seen there; after its end it does nothing. -/
theorem stop_outcome {s : Lifecycle} {c : Coordinator} (hp : s.policy = .drain c) :
    let id := s.stops.length
    let begun := s.beginStop
    let poll := c.settings.pollInterval
    let limit := c.settings.shutdownTimeout
    (∀ events,
      (∃ moves, s.stop.run events = begun.follow moves ∧
        moves.filterMap Move.event? = events.filter Event.isOutward) ∧
      ∃ instant outcome,
        ((s.stop.run events).join id).stops[id]? = some (.ended instant outcome)) ∧
    ∀ moves,
      let looks := begun.ticks id moves
      let final := begun.follow moves
      (∀ k, ∀ tick ∈ looks[k]?, tick.now = s.now + min (k * poll) limit ∧
        ∃ past rest, moves = past ++ .wake id :: rest ∧ begun.follow past = tick) ∧
      (∀ k, IsLeast {k | k * poll < limit ∧ ∃ tick ∈ looks[k]?, tick.sight.isQuiet = true} k →
        ∃ tick ∈ looks[k]?, tick.now = s.now + k * poll ∧ tick.EndsWith id .quiet ∧
          final.stops[id]? = some (.ended (s.now + k * poll) .quiet)) ∧
      ((∀ k, k * poll < limit → ∀ tick ∈ looks[k]?, tick.sight.isQuiet = false) →
        (final.stops[id]? = some (.waiting s.now (s.reading c.clock) looks.length) ∧
          final.now ≤ s.now + min (looks.length * poll) limit) ∨
        ∃ k, limit ≤ k * poll ∧ ∃ tick ∈ looks[k]?, tick.now = s.now + limit ∧
          tick.EndsWith id (.timedOut tick.sight.inflight tick.sight.lbActive) ∧
          final.stops[id]? = some (.ended (s.now + limit)
            (.timedOut tick.sight.inflight tick.sight.lbActive))) ∧
      ∀ instant outcome, final.stops[id]? = some (.ended instant outcome) →
        instant ≤ s.now + limit ∧ ∀ more,
          (final.follow more).stops[id]? = some (.ended instant outcome) ∧
          final.follow more = final.follow (more.filter (· ≠ .wake id)) := by
  intro id begun poll limit
  obtain ⟨hbegun, hnow, hstop⟩ := beginStop_waiting hp
  have hcourse (moves : List Move) : Course c.settings s.now (s.reading c.clock) id 0
      (begun.ticks id moves) (begun.follow moves) :=
    course_follow hbegun hstop (by rw [hnow]; exact Nat.le_add_right _ _) moves
  refine ⟨fun events => ?_, fun moves => ?_⟩
  · obtain ⟨ids, hids⟩ := exists_settle begun
    obtain ⟨moves, hrun, houtward⟩ := exists_follow_eq_run (begun.follow (ids.map .wake)) events
    rw [← follow_append, ← hids, ← stop_eq] at hrun
    refine ⟨⟨_, hrun, ?_⟩, ?_⟩
    · rw [List.filterMap_append, silent_wakes, List.nil_append, houtward]
    · obtain ⟨c', hp', hsettings, -⟩ := exists_drain_follow hbegun (ids.map .wake ++ moves)
      rw [← hrun] at hp'
      rcases (hcourse (ids.map .wake ++ moves)).waiting_or_ended with
        ⟨looks, hwaiting, hle⟩ | ⟨instant, outcome, hended⟩
      · rw [← hrun] at hwaiting hle
        exact exists_ended_join hp' hwaiting (hsettings ▸ hle)
      · rw [← hrun] at hended
        obtain ⟨later, -, hjoin⟩ := exists_runUntil (s.stop.run events)
          ((s.stop.run events).lastInstant id) fun s => (s.stops[id]?).all Stop.isEnded
        rw [join, hjoin]
        exact ⟨instant, outcome, (follow_of_ended hp' hended later).1⟩
  · intro looks final
    obtain ⟨c', hp', hsettings, -⟩ := exists_drain_follow hbegun moves
    refine ⟨fun k tick hk => ⟨?_, ?_⟩, fun k hleast => ?_, fun hbusy => ?_,
      fun instant outcome hended => ⟨(hcourse moves).instant_le hended, fun more => ?_⟩⟩
    · rw [(hcourse moves).now_eq hk, Nat.zero_add]
    · exact exists_of_mem_ticks (List.mem_of_getElem? hk)
    · obtain ⟨hearly, tick, hk, hq⟩ := hleast.1
      have htick := (hcourse moves).now_eq hk
      rw [Nat.zero_add, min_eq_left (le_of_lt hearly)] at htick
      obtain ⟨hends, hfinal⟩ :=
        (hcourse moves).ended_quiet hk (by rw [Nat.zero_add]; exact hearly) hq
      exact ⟨tick, hk, htick, hends, htick ▸ hfinal⟩
    · rcases (hcourse moves).waiting_or_timedOut fun k tick hk hearly =>
          hbusy k (by rw [Nat.zero_add] at hearly; exact hearly) tick hk with
        hwaiting | ⟨k, tick, hk, hlate, hends, hfinal⟩
      · rw [Nat.zero_add] at hwaiting
        exact .inl hwaiting
      · have htick := (hcourse moves).now_eq hk
        rw [min_eq_right hlate] at htick
        rw [Nat.zero_add] at hlate
        exact .inr ⟨k, hlate, tick, hk, htick, hends, htick ▸ hfinal⟩
    · obtain ⟨hstays, -, hskip⟩ := follow_of_ended hp' hended more
      exact ⟨hstays, hskip⟩

/-- A request is in flight until the instant of the third look. -/
theorem stop_outcome_third_look :
    let c : Coordinator := ⟨⟨"/", 10, 1, 2⟩, by decide, .steady, .ready, some 0, .empty⟩
    let s : Lifecycle := ⟨.drain c, [⟨1⟩], 5, none, [], ⟨some .ready, []⟩⟩
    let moves : List Move := [.wake 0, .pass 6, .wake 0, .pass 7, .leave 0 1, .wake 0]
    s.policy = .drain c ∧ (s.beginStop.ticks 0 moves).length = 3 ∧
      (s.beginStop.follow moves).stops[0]? = some (.ended 7 .quiet) := by
  intro c s moves
  have hp : s.policy = .drain c := rfl
  have hleast : IsLeast {k | k * 1 < 10 ∧
      ∃ tick ∈ (s.beginStop.ticks 0 moves)[k]?, tick.sight.isQuiet = true} 2 := by
    refine ⟨⟨by decide, _, rfl, by decide⟩, fun k hk => ?_⟩
    obtain ⟨-, tick, htick, hquiet⟩ := hk
    by_contra hlt
    have hbusy : ∀ k < 2, ((s.beginStop.ticks 0 moves)[k]?).all (!·.sight.isQuiet) = true := by
      decide
    have htick' := hbusy k (by omega)
    simp [Option.mem_def.1 htick, hquiet] at htick'
  obtain ⟨tick, -, -, -, hend⟩ := ((stop_outcome hp).2 moves).2.1 2 hleast
  exact ⟨hp, by decide, hend⟩

end GracefulDrain.Lifecycle
