import HostScript.Proofs.Evolution.Operations

/-!
# When a suspension resumes

A suspended script handles queued events before it looks at what it waits for, and no
limit is put on their number. Time is no obstacle: the host has finitely many things left
to do, and each passage of time uses up one of them or reaches the end of the wait. So a
suspension resumes exactly if every handler that it begins ends and if it begins only so
many. A handler that emits the event it handles keeps a suspension going forever.

## Implementation notes

The measure of a suspension has three parts: the handlers it may still run, the passages
of time it may still need, and the length of the queue. An event whose handler does not
start shortens the queue and leaves the other two as they are.
-/

namespace HostScript

/-- What a suspended machine does next. -/
inductive Turn where
  /-- An event was taken for its handler. -/
  | event (fired : Fired) (m : Machine)
  /-- An ending has come. -/
  | ending (r : Reply) (m : Machine)
  /-- Time passes, if anything is to come. -/
  | time (later : Option Machine) (m : Machine)

/-- A machine on whose screen the question is that waits to appear. -/
def Machine.showing (m : Machine) : Machine := ⟨m.engine, m.world.showQuestion⟩

/-- The next turn of a machine that waits. -/
def Machine.turn (a : Awaited) (m : Machine) : Turn :=
  match m.nextFired? with
  | some (fired, m) => .event fired m
  | none =>
    match a.ready? m.showing.world.now with
    | some r => .ending r m.showing
    | none => .time (m.showing.passTime? a) m.showing

/-- The number of handlers that a suspension runs in its first `rounds` turns, if each of
them has ended. -/
def handlersRun? (sv : Services) (a : Awaited) : (rounds : Nat) → Machine → Option Nat
  | 0, _ => some 0
  | rounds + 1, m =>
    match m.turn a with
    | .event fired m =>
      match runHandler sv fired m with
      | .done ran m => (handlersRun? sv a rounds m).map (ran.toNat + ·)
      | _ => none
    | .time (some m) _ => handlersRun? sv a rounds m
    | _ => some 0

section Turns

variable {sv : Services} {a : Awaited} {rounds : Nat} {m m' : Machine}

/-- Waiting goes turn by turn. -/
theorem awaitWithin_succ :
    awaitWithin sv a (rounds + 1) m =
      match m.turn a with
      | .event fired m => Run.andThen (runHandler sv fired) (fun _ => awaitWithin sv a rounds) m
      | .ending r m => .done r m
      | .time (some m) _ => awaitWithin sv a rounds m
      | .time none m => .cut .allowance m := by
  obtain ⟨e, w⟩ := m
  simp only [awaitWithin, Machine.turn, Machine.showing]
  cases hn : Machine.nextFired? ⟨e, w⟩ with
  | some taken =>
      obtain ⟨fired, m₁⟩ := taken
      simp only [Run.andThen]
      cases runHandler sv fired m₁ with
      | _ => rfl
  | none =>
      cases hr : a.ready? w.showQuestion.now with
      | some r => rfl
      | none =>
          cases ht : Machine.passTime? ⟨e, w.showQuestion⟩ a with
          | some later => rfl
          | none => rfl

theorem turn_eq_event {fired : Fired} (h : m.turn a = .event fired m') :
    m.nextFired? = some (fired, m') := by
  unfold Machine.turn at h
  split at h
  · next taken => cases h; exact taken
  · split at h
    · cases h
    · cases h

/-- Time passes only when no ending has come, and it does pass if there is any ending. -/
theorem turn_eq_time {later : Option Machine} (h : m.turn a = .time later m') :
    m' = m.showing ∧ a.ready? m'.world.now = none ∧ later = m'.passTime? a := by
  unfold Machine.turn at h
  split at h
  · cases h
  · split at h
    · cases h
    · next waiting =>
      cases h
      exact ⟨rfl, waiting, rfl⟩

end Turns

/-! ### How often time passes -/

section Time

variable {a : Awaited} {m m' : Machine}

/-- How often time can pass before an ending comes, if no event comes in between: twice for
each thing the host has to do, once to reach its time and once to do it, and once to reach
the ending. -/
def Machine.passages (a : Awaited) (m : Machine) : Nat :=
  2 * m.world.timeline.length +
    if (a.ready? m.world.now).isSome ∨ ∃ move ∈ m.world.timeline.head?, move.1 ≤ m.world.now
    then 0 else 1

theorem Awaited.ready?_of_wakeTime? {now time : Nat} (wake : a.wakeTime? = some time)
    (le : time ≤ now) : (a.ready? now).isSome := by
  obtain ⟨ending, mem, rfl⟩ := List.mem_map.mp (List.min?_mem wake)
  simp only [Awaited.ready?, Option.isSome_map, List.find?_isSome]
  exact ⟨ending, mem, by simpa using le⟩

theorem Awaited.exists_wakeTime? (some_ending : a ≠ []) : ∃ time, a.wakeTime? = some time := by
  cases hw : a.wakeTime? with
  | some time => exact ⟨time, rfl⟩
  | none =>
      rw [Awaited.wakeTime?, List.min?_eq_none_iff, List.map_eq_nil_iff] at hw
      exact absurd hw some_ending

theorem timeline_performDue (m : Machine) (moves : List (Nat × HostMove)) :
    (m.performDue moves).world.timeline <:+ moves := by
  induction moves generalizing m with
  | nil => exact List.suffix_rfl
  | cons first rest ih =>
      obtain ⟨time, mv⟩ := first
      simp only [Machine.performDue]
      split
      · exact (ih _).trans (List.suffix_cons _ _)
      · exact List.suffix_rfl

/-- What is due is done and leaves the timeline. -/
theorem length_timeline_performDue {time : Nat} {mv : HostMove} {rest : List (Nat × HostMove)}
    (due : time ≤ m.world.now) :
    (m.performDue ((time, mv) :: rest)).world.timeline.length ≤ rest.length := by
  simp only [Machine.performDue, if_pos due]
  exact (timeline_performDue _ _).length_le

/-- When the time has come to resume or to do something, the next passage is one less. -/
theorem Machine.passages_of_due
    (due : (a.ready? m.world.now).isSome ∨
      ∃ move ∈ m.world.timeline.head?, move.1 ≤ m.world.now) :
    m.passages a = 2 * m.world.timeline.length := by
  rw [Machine.passages, if_pos due, Nat.add_zero]

theorem Machine.passages_of_early {timeline : List (Nat × HostMove)}
    (waiting : a.ready? m.world.now = none) (htimeline : m.world.timeline = timeline)
    (early : ∀ move ∈ timeline.head?, m.world.now < move.1) :
    m.passages a = 2 * timeline.length + 1 := by
  rw [Machine.passages, htimeline, if_neg]
  rintro (ready | ⟨move, mem, due⟩)
  · simp [waiting] at ready
  · exact absurd due (Nat.not_le.mpr (early move mem))

/-- Each passage of time uses up one. -/
theorem Machine.passages_lt (waiting : a.ready? m.world.now = none)
    (passed : m.passTime? a = some m') : m'.passages a < m.passages a := by
  unfold Machine.passTime? at passed
  split at passed
  · next time mv rest timeline =>
    split at passed
    · next due =>
      -- The host does what is due.
      cases passed
      have left : (m.performDue ((time, mv) :: rest)).world.timeline.length ≤ rest.length :=
        length_timeline_performDue due
      have before : m.passages a = 2 * (rest.length + 1) := by
        rw [Machine.passages_of_due (.inr ⟨(time, mv), by simp [timeline], due⟩), timeline]
        rfl
      rw [before, Machine.passages]
      split <;> omega
    · next early =>
      -- Time moves on to the ending or to what the host does next.
      cases passed
      have before : m.passages a = 2 * (rest.length + 1) + 1 := by
        refine Machine.passages_of_early waiting timeline ?_
        simpa using early
      rw [before, Machine.passages_of_due ?_]
      · simp [timeline]
      · cases hw : a.wakeTime? with
        | none => exact .inr ⟨(time, mv), by simp [timeline], by simp⟩
        | some wake =>
            rcases Nat.le_total wake time with le | le
            · exact .inl (Awaited.ready?_of_wakeTime? hw (by simp [le]))
            · exact .inr ⟨(time, mv), by simp [timeline], by simp [le]⟩
  · next timeline =>
    split at passed
    · cases passed
    · next wake hwake =>
      cases passed
      have before : m.passages a = 1 := Machine.passages_of_early waiting timeline (by simp)
      rw [before, Machine.passages_of_due ?_]
      · simp [timeline]
      · exact .inl (Awaited.ready?_of_wakeTime? hwake (Nat.le_max_right _ _))

theorem Machine.passages_showing (a : Awaited) (m : Machine) :
    m.showing.passages a = m.passages a := by
  have alike := World.alike_showQuestion m.world
  simp only [Machine.passages, Machine.showing, alike.now, alike.timeline]

/-- If there is any ending, something is to come. -/
theorem Machine.exists_passTime? (some_ending : a ≠ []) (m : Machine) :
    ∃ m', m.passTime? a = some m' := by
  obtain ⟨wake, hwake⟩ := Awaited.exists_wakeTime? some_ending
  unfold Machine.passTime?
  split
  · split
    · exact ⟨_, rfl⟩
    · exact ⟨_, rfl⟩
  · rw [hwake]
    exact ⟨_, rfl⟩

end Time

/-! ### Resuming -/

section Resuming

variable {sv : Services} {a : Awaited} {m m' : Machine}

/-- An event whose handler does not start changes nothing but the queue. -/
theorem eq_of_runHandler_eq_false {fired : Fired} (h : runHandler sv fired m = .done false m') :
    m' = m := by
  unfold runHandler at h
  split at h
  · cases h; rfl
  · split at h
    · cases h; rfl
    · dsimp only at h
      split at h <;> cases h

theorem length_queue_of_nextFired? {fired : Fired} (h : m.nextFired? = some (fired, m')) :
    m'.engine.queue.toList.length < m.engine.queue.toList.length ∧ m'.world = m.world := by
  obtain ⟨e, w⟩ := m
  obtain ⟨_, e', taken, rfl⟩ := nextFired?_eq_some h
  have first := Engine.queue_of_dequeue? taken
  simp [first]

/-- A suspension in which every handler ends and no more than `cap` of them run resumes. -/
theorem exists_awaitWithin (some_ending : a ≠ []) (cap : Nat) (m : Machine)
    (bounded : ∀ rounds, ∃ ran ≤ cap, handlersRun? sv a rounds m = some ran) :
    ∃ rounds r m', awaitWithin sv a rounds m = .done r m' := by
  cases ht : m.turn a with
  | ending r m₁ => exact ⟨1, r, m₁, by rw [awaitWithin_succ, ht]⟩
  | time later m₁ =>
      obtain ⟨rfl, waiting, rfl⟩ := turn_eq_time ht
      obtain ⟨m₂, passed⟩ := m.showing.exists_passTime? some_ending
      rw [passed] at ht
      have fewer : m₂.passages a < m.passages a := by
        rw [← Machine.passages_showing a m]
        exact Machine.passages_lt waiting passed
      have rest : ∀ rounds, ∃ ran ≤ cap, handlersRun? sv a rounds m₂ = some ran := by
        intro rounds
        obtain ⟨ran, le, count⟩ := bounded (rounds + 1)
        rw [handlersRun?, ht] at count
        exact ⟨ran, le, count⟩
      obtain ⟨rounds, r, m', resumed⟩ := exists_awaitWithin some_ending cap m₂ rest
      exact ⟨rounds + 1, r, m', by rw [awaitWithin_succ, ht]; exact resumed⟩
  | event fired m₁ =>
      have taken := turn_eq_event ht
      obtain ⟨shorter, world⟩ := length_queue_of_nextFired? taken
      have counted : ∀ rounds, ∃ ran ≤ cap, (match runHandler sv fired m₁ with
          | .done ran m => (handlersRun? sv a rounds m).map (ran.toNat + ·)
          | _ => none) = some ran := by
        intro rounds
        have count := bounded (rounds + 1)
        rwa [handlersRun?, ht] at count
      cases hr : runHandler sv fired m₁ with
      | fault f m₂ => simp [hr] at counted
      | cut why m₂ => simp [hr] at counted
      | done ran m₂ =>
          simp only [hr, Option.map_eq_some_iff] at counted
          have continued : ∃ rounds r m', awaitWithin sv a rounds m₂ = .done r m' := by
            cases ran with
            | true =>
                have some_left : 0 < cap := by
                  obtain ⟨_, le, n, _, rfl⟩ := counted 0
                  simp only [Bool.toNat_true] at le
                  omega
                have rest : ∀ rounds, ∃ ran ≤ cap - 1,
                    handlersRun? sv a rounds m₂ = some ran := by
                  intro rounds
                  obtain ⟨_, le, n, count, rfl⟩ := counted rounds
                  simp only [Bool.toNat_true] at le
                  exact ⟨n, by omega, count⟩
                exact exists_awaitWithin some_ending (cap - 1) m₂ rest
            | false =>
                obtain rfl := eq_of_runHandler_eq_false hr
                have rest : ∀ rounds, ∃ ran ≤ cap, handlersRun? sv a rounds m₂ = some ran := by
                  intro rounds
                  obtain ⟨_, le, n, count, rfl⟩ := counted rounds
                  simp only [Bool.toNat_false, Nat.zero_add] at le
                  exact ⟨n, le, count⟩
                have same : m₂.passages a = m.passages a := by
                  rw [Machine.passages, Machine.passages, world]
                exact exists_awaitWithin some_ending cap m₂ rest
          obtain ⟨rounds, r, m', resumed⟩ := continued
          refine ⟨rounds + 1, r, m', ?_⟩
          rw [awaitWithin_succ, ht]
          simp only [Run.andThen, hr]
          exact resumed
termination_by (cap, m.passages a, m.engine.queue.toList.length)
decreasing_by
  · rw [same]
    exact Prod.Lex.right _ (Prod.Lex.right _ shorter)
  · exact Prod.Lex.left _ _ (Nat.sub_lt some_left Nat.one_pos)
  · exact Prod.Lex.right _ (Prod.Lex.left _ _ fewer)

/-- After a suspension has resumed, looking at it for another number of turns shows no other
handlers. -/
theorem handlersRun?_of_awaitWithin {rounds ran : Nat} {r : Reply}
    (resumed : awaitWithin sv a rounds m = .done r m')
    (count : handlersRun? sv a rounds m = some ran) (others : Nat) :
    ∃ ran' ≤ ran, handlersRun? sv a others m = some ran' := by
  induction rounds generalizing m ran others with
  | zero => cases resumed
  | succ rounds ih =>
      cases others with
      | zero => exact ⟨0, Nat.zero_le _, rfl⟩
      | succ others =>
          rw [awaitWithin_succ] at resumed
          rw [handlersRun?] at count ⊢
          cases ht : m.turn a with
          | ending r' m₁ => exact ⟨0, Nat.zero_le _, rfl⟩
          | time later m₁ =>
              rw [ht] at resumed count
              cases later with
              | none => cases resumed
              | some m₂ => exact ih resumed count others
          | event fired m₁ =>
              rw [ht] at resumed count
              simp only [Run.andThen] at resumed
              cases hr : runHandler sv fired m₁ with
              | fault f m₂ => rw [hr] at resumed; cases resumed
              | cut why m₂ => rw [hr] at resumed; cases resumed
              | done started m₂ =>
                  rw [hr] at resumed
                  simp only [hr, Option.map_eq_some_iff] at count ⊢
                  obtain ⟨rest, hrest, rfl⟩ := count
                  obtain ⟨rest', le, hrest'⟩ := ih resumed hrest others
                  exact ⟨started.toNat + rest', by omega, rest', hrest', rfl⟩

/-- Where the limit of nesting is reached a suspension takes no event. -/
theorem handlersRun?_of_nested (nested : maxHandlerNesting ≤ m.engine.handlerDepth)
    (rounds : Nat) : handlersRun? sv a rounds m = some 0 := by
  induction rounds generalizing m with
  | zero => rfl
  | succ rounds ih =>
      rw [handlersRun?]
      cases ht : m.turn a with
      | ending r m₁ => rfl
      | event fired m₁ =>
          obtain ⟨room, _⟩ := nextFired?_eq_some (turn_eq_event ht)
          exact absurd room (Nat.not_lt.mpr nested)
      | time later m₁ =>
          obtain ⟨rfl, waiting, rfl⟩ := turn_eq_time ht
          cases hp : m.showing.passTime? a with
          | none => rfl
          | some m₂ =>
              have evolved : Evolves 0 ∅ m.showing m₂ := (asides_passTime? waiting hp).evolves
              have depth := evolved.restored.handlerDepth
              exact ih (by rw [depth]; exact nested)

end Resuming

/-- A suspension for which some ending is to come resumes, having run at most `cap` handlers,
exactly if for however many turns one looks at it every handler that it has begun has ended
and at most `cap` have run. Where the limit of nesting is reached it always resumes, having
run none; nothing else limits the handlers that it runs. -/
theorem suspension_resumes_iff (sv : Services) {a : Awaited} (some_ending : a ≠ [])
    (cap : Nat) (m : Machine) :
    ((∃ rounds r m', awaitWithin sv a rounds m = .done r m' ∧
        ∃ ran ≤ cap, handlersRun? sv a rounds m = some ran) ↔
      ∀ rounds, ∃ ran ≤ cap, handlersRun? sv a rounds m = some ran) ∧
    (maxHandlerNesting ≤ m.engine.handlerDepth →
      ∃ rounds r m', awaitWithin sv a rounds m = .done r m' ∧
        handlersRun? sv a rounds m = some 0) := by
  refine ⟨⟨?_, ?_⟩, ?_⟩
  · rintro ⟨rounds, r, m', resumed, ran, le, count⟩ others
    obtain ⟨ran', le', count'⟩ := handlersRun?_of_awaitWithin resumed count others
    exact ⟨ran', le'.trans le, count'⟩
  · intro bounded
    obtain ⟨rounds, r, m', resumed⟩ := exists_awaitWithin some_ending cap m bounded
    exact ⟨rounds, r, m', resumed, bounded rounds⟩
  · intro nested
    have none_run (rounds : Nat) : handlersRun? sv a rounds m = some 0 :=
      handlersRun?_of_nested nested rounds
    obtain ⟨rounds, r, m', resumed⟩ :=
      exists_awaitWithin some_ending 0 m fun rounds => ⟨0, le_rfl, none_run rounds⟩
    exact ⟨rounds, r, m', resumed, none_run rounds⟩

/-- A machine whose loops may have one round, with two events in the queue. -/
def crowdedMachine : Machine where
  engine := {
    limits := { maxLoopIterations := 1 }
    handlers := { handlers := [⟨0, "x", [], 0, none⟩], nextId := 1 }
    queue := { front := [⟨0, .null⟩, ⟨0, .null⟩] } }

/-- The suspension of a machine resumes after it has run the handlers of both events, one more
than its loops may have rounds. -/
theorem crowdedMachine_resumes :
    Awaited.timer 5 ≠ [] ∧
      (∃ rounds r m', awaitWithin (servicesWithin 1) (.timer 5) rounds crowdedMachine =
        .done r m') ∧
      (∀ rounds, ∃ ran ≤ 2,
        handlersRun? (servicesWithin 1) (.timer 5) rounds crowdedMachine = some ran) ∧
      handlersRun? (servicesWithin 1) (.timer 5) 4 crowdedMachine = some 2 := by
  have some_ending : Awaited.timer 5 ≠ [] := by simp [Awaited.timer]
  have ended :
      (awaitWithin (servicesWithin 1) (.timer 5) 4 crowdedMachine).done?.isSome = true := by
    decide +kernel
  have count : handlersRun? (servicesWithin 1) (.timer 5) 4 crowdedMachine = some 2 := by
    decide +kernel
  obtain ⟨⟨r, m'⟩, resumed⟩ := Option.isSome_iff_exists.mp ended
  have resumed := Outcome.done?_eq_some_iff.mp resumed
  have bounded := (suspension_resumes_iff (servicesWithin 1) some_ending 2 crowdedMachine).1.mp
    ⟨4, r, m', resumed, 2, le_rfl, count⟩
  exact ⟨some_ending, ⟨4, r, m', resumed⟩, bounded, count⟩

/-! ### A handler that emits its own event -/

/-- The body of a handler that emits the event it handles. -/
def echoing : List Stmt := [.host {} (.emit (.lit {} (.text "x")) none)]

/-- A machine without a bus whose only handler emits its own event. -/
structure Machine.Echoes (m : Machine) : Prop where
  bus : m.world.bus = none
  handlers : ∃ h, m.engine.handlers.handlers = [h] ∧ h.id = 0 ∧ h.event = "x" ∧ h.body = echoing
  events : ∀ fired ∈ m.engine.queue.toList, fired.handler = 0
  running : m.engine.stopping = false

/-- The machine at which nothing more begins, because the budget is used up. -/
def Machine.overdue (m : Machine) : Machine :=
  m.record (.checked m.world.now (m.engine.clock.elapsed m.world.now) false)

/-- A machine at the beginning of a statement. -/
def Machine.atStatement (m : Machine) (loc : Location) : Machine :=
  (m.record (.checked m.world.now (m.engine.clock.elapsed m.world.now) true)).record
    (.statement loc)

section Echo

variable {sv : Services} {m m' : Machine} {loc : Location}

/-- A statement is executed while no stop is pending and the budget lasts. -/
theorem statement_eq (body : Run Signal) (running : m.engine.stopping = false)
    (inTime : m.timeoutFault? = none) :
    Run.statement loc body m = Run.located loc body (m.atStatement loc) := by
  simp only [Run.statement, running, Bool.false_eq_true, if_false, Run.located, bind,
    Run.andThen, Run.checkTime, inTime, Run.change, Machine.atStatement]

theorem statement_eq_barred (body : Run Signal) (stopping : m.engine.stopping = true) :
    Run.statement loc body m = .fault .cancelled (m.record (.barred loc)) := by
  simp only [Run.statement, stopping, if_true, Run.bar]

theorem statement_eq_overdue (body : Run Signal) {f : Fault} (running : m.engine.stopping = false)
    (late : m.timeoutFault? = some f) :
    Run.statement loc body m = .fault (f.located loc) m.overdue := by
  simp only [Run.statement, running, Bool.false_eq_true, if_false, Run.located, bind,
    Run.andThen, Run.checkTime, late, Machine.overdue]

theorem exec_emit {name : String} (running : m.engine.stopping = false)
    (inTime : m.timeoutFault? = none) :
    exec sv (.host loc (.emit (.lit loc (.text name)) none)) m =
      .done .next ((m.atStatement loc).emit name .null) := by
  rw [exec, statement_eq _ running inTime]
  rfl

/-- A handler is registered if there is room for it. -/
theorem exec_on {name : String} {body : List Stmt} (running : m.engine.stopping = false)
    (inTime : m.timeoutFault? = none)
    (room : (m.atStatement loc).engine.limits.allowsHandler
      (m.atStatement loc).engine.handlers.size = true) :
    exec sv (.on loc (.lit loc (.text name)) body) m =
      .done .next ((m.atStatement loc).register name body) := by
  rw [exec, statement_eq _ running inTime]
  have added : Run.addHandler name body (m.atStatement loc) =
      .done () ((m.atStatement loc).register name body) := by
    simp only [Run.addHandler, room, if_true]
  have gone : (Run.addHandler name body).thenNext (m.atStatement loc) =
      .done .next ((m.atStatement loc).register name body) := by
    rw [Run.thenNext, Run.bind_done added]
    rfl
  change Run.located loc (Run.addHandler name body).thenNext (m.atStatement loc) = _
  simp only [Run.located, gone]

/-- A wait that does not end leaves its statement unfinished. -/
theorem exec_wait {duration : Float} (running : m.engine.stopping = false)
    (inTime : m.timeoutFault? = none)
    (endless : ∀ a, ∃ m', sv.await a (m.atStatement loc).suspend = .cut .allowance m') :
    ∃ m', exec sv (.host loc (.wait (.lit loc (.number duration)))) m = .cut .allowance m' := by
  rw [exec, statement_eq _ running inTime]
  obtain ⟨m', waiting⟩ :=
    endless (.timer ((m.atStatement loc).world.now + waitTime duration))
  have suspended : sv.suspend (.timer ((m.atStatement loc).world.now + waitTime duration))
      (m.atStatement loc) = .cut .allowance m' := by
    simp only [Services.suspend, Run.ensuring, waiting]
  have requested : request sv (.wait (.lit loc (.number duration))) (m.atStatement loc) =
      .cut .allowance m' := by
    rw [request, Run.bind_done (rfl : eval sv _ _ = .done (.number duration) _),
      Run.bind_done (rfl : Run.view _ _ = .done _ _)]
    exact Run.bind_cut suspended
  refine ⟨m', ?_⟩
  simp only [Run.located]
  rw [Run.thenNext, Run.bind_cut requested]

theorem Machine.Echoes.record (h : m.Echoes) (s : Step) : (m.record s).Echoes := by
  obtain ⟨e, w⟩ := m
  simp only [Machine.record, Engine.record_eq]
  exact ⟨h.bus, h.handlers, h.events, h.running⟩

theorem Machine.Echoes.atStatement (h : m.Echoes) : (m.atStatement loc).Echoes :=
  (h.record _).record _

/-- The emission queues one more event for the handler. -/
theorem Machine.Echoes.emit_eq (h : m.Echoes) :
    m.emit "x" .null = ⟨m.engine.enqueue ⟨0, .null⟩, m.world⟩ := by
  obtain ⟨e, w⟩ := m
  obtain ⟨k, handlers, number, event, body⟩ := h.handlers
  have bus : w.bus = none := h.bus
  have ids : e.handlers.forEvent "x" = [0] := by
    have handlers : e.handlers.handlers = [k] := handlers
    simp [Registry.forEvent, handlers, event, number]
  simp [Machine.emit, bus, ids]

theorem Machine.Echoes.emit (h : m.Echoes) : (m.emit "x" .null).Echoes := by
  have events : ∀ fired ∈ (m.engine.enqueue ⟨0, .null⟩).queue.toList, fired.handler = 0 := by
    intro fired mem
    rw [Engine.queue_enqueue, List.mem_append, List.mem_singleton] at mem
    rcases mem with old | rfl
    · exact h.events fired old
    · rfl
  rw [h.emit_eq]
  rw [Engine.enqueue, Engine.record_eq] at events ⊢
  exact ⟨h.bus, h.handlers, events, h.running⟩

/-- A handler begins with its whole budget. -/
theorem timeoutFault?_enterHandler (m : Machine) (h : Handler) (payload : Value) :
    (m.enterHandler h payload).timeoutFault? = none := by
  simp [Machine.enterHandler, Machine.enterChild, Engine.record_eq, Machine.timeoutFault?,
    Limits.timeoutFault?, RunClock.started, RunClock.elapsed]

theorem Machine.Echoes.enterHandler (h : m.Echoes) (k : Handler) (payload : Value) :
    (m.enterHandler k payload).Echoes := by
  obtain ⟨e, w⟩ := m
  simp only [Machine.enterHandler, Machine.enterChild, Engine.record_eq]
  exact ⟨h.bus, h.handlers, h.events, h.running⟩

theorem Machine.Echoes.leaveHandler (h : m.Echoes) (scope : ScopeId) (callStack : List String)
    (clock : RunClock) : (m.leaveHandler scope callStack clock).Echoes := by
  obtain ⟨e, w⟩ := m
  simp only [Machine.leaveHandler, Engine.record_eq]
  exact ⟨h.bus, h.handlers, h.events, h.running⟩

/-- Handling the event leaves a machine that has the event to handle again. -/
theorem Machine.Echoes.exists_runHandler (h : m.Echoes) {fired : Fired} (own : fired.handler = 0)
    (sv : Services) :
    ∃ m', runHandler sv fired m = .done true m' ∧ m'.Echoes ∧ m'.engine.queue.toList ≠ [] ∧
      m'.engine.handlerDepth = m.engine.handlerDepth := by
  obtain ⟨k, handlers, number, event, body⟩ := h.handlers
  have found : m.engine.handlers.get? fired.handler = some k := by
    simp [Registry.get?, handlers, own, number]
  have going : ¬ m.engine.stopping = true := by simp [h.running]
  have began := h.enterHandler k fired.payload
  have ran : execAll sv echoing (m.enterHandler k fired.payload) =
      .done .next (((m.enterHandler k fired.payload).atStatement {}).emit "x" .null) := by
    rw [echoing, execAll,
      Run.bind_done (exec_emit began.running (timeoutFault?_enterHandler m k _))]
    rfl
  simp only [runHandler, found, if_neg going, body, ran]
  refine ⟨_, rfl, (began.atStatement.emit).leaveHandler _ _ _, ?_, ?_⟩
  · rw [began.atStatement.emit_eq]
    simp [Machine.leaveHandler, Engine.record_eq]
  · rw [began.atStatement.emit_eq]
    simp [Machine.leaveHandler, Engine.record_eq, Engine.enqueue, Machine.atStatement,
      Machine.record, Machine.enterHandler, Machine.enterChild]

/-- As long as the machine waits it handles its event, and never resumes. -/
theorem Machine.Echoes.exists_awaitWithin (h : m.Echoes) (some_event : m.engine.queue.toList ≠ [])
    (room : m.engine.handlerDepth < maxHandlerNesting) (sv : Services) (a : Awaited)
    (rounds : Nat) : ∃ m', awaitWithin sv a rounds m = .cut .allowance m' := by
  induction rounds generalizing m with
  | zero => exact ⟨m, rfl⟩
  | succ rounds ih =>
      cases hn : m.nextFired? with
      | none => exact absurd (Machine.queue_of_nextFired?_eq_none room hn) some_event
      | some first =>
          obtain ⟨fired, m₁⟩ := first
          obtain ⟨e, w⟩ := m
          obtain ⟨_, e', taken, rfl⟩ := nextFired?_eq_some hn
          have queue := Engine.queue_of_dequeue? taken
          have own : fired.handler = 0 := h.events fired (by rw [queue]; exact List.mem_cons_self)
          have rest : Machine.Echoes ⟨e', w⟩ := by
            have events : ∀ other ∈ e'.queue.toList, other.handler = 0 := by
              intro other mem
              exact h.events other (by rw [queue]; exact List.mem_cons_of_mem _ mem)
            obtain ⟨_, _, rfl⟩ := Engine.eq_of_dequeue? taken
            exact ⟨h.bus, h.handlers, events, h.running⟩
          have depth : e'.handlerDepth = e.handlerDepth := by
            obtain ⟨_, _, rfl⟩ := Engine.eq_of_dequeue? taken
            rfl
          obtain ⟨m₂, ran, again, another, same⟩ := rest.exists_runHandler own sv
          obtain ⟨m', waiting⟩ := ih again another (by rw [same, depth]; exact room)
          refine ⟨m', ?_⟩
          rw [awaitWithin_succ, Machine.turn, hn]
          simp only [Run.andThen, ran, waiting]

theorem Machine.Echoes.exists_await (h : m.Echoes) (some_event : m.engine.queue.toList ≠ [])
    (room : m.engine.handlerDepth < maxHandlerNesting) (allowance : Nat) (a : Awaited) :
    ∃ m', (servicesWithin allowance).await a m = .cut .allowance m' := by
  cases allowance with
  | zero => exact ⟨m, rfl⟩
  | succ allowance => exact h.exists_awaitWithin some_event room _ a allowance

end Echo

/-- A program that registers a handler for an event that it emits, emits the event, and
waits. -/
def starvingProgram (duration : Float) : Program :=
  [.on {} (.lit {} (.text "x")) echoing, .host {} (.emit (.lit {} (.text "x")) none),
    .host {} (.wait (.lit {} (.number duration)))]

/-- On a new engine the program stays in its wait, for however long the wait is and however
much is allowed. -/
theorem execute_starvingProgram (allowance : Nat) (duration : Float) :
    Machine.execute allowance {} (starvingProgram duration) = none := by
  let m₀ : Machine := Machine.beginRun {}
  let m₁ : Machine := (m₀.atStatement {}).register "x" echoing
  let m₂ : Machine := (m₁.atStatement {}).emit "x" .null
  have registered : exec (servicesWithin allowance) (.on {} (.lit {} (.text "x")) echoing) m₀ =
      .done .next m₁ := exec_on rfl rfl rfl
  have echoes : m₁.Echoes := ⟨rfl, ⟨_, rfl, rfl, rfl, rfl⟩, nofun, rfl⟩
  have emitted : exec (servicesWithin allowance)
      (.host {} (.emit (.lit {} (.text "x")) none)) m₁ = .done .next m₂ := exec_emit rfl rfl
  have suspended : (m₂.atStatement {}).suspend.Echoes :=
    echoes.atStatement.emit.atStatement.record _
  have endless : ∀ a, ∃ m',
      (servicesWithin allowance).await a (m₂.atStatement {}).suspend = .cut .allowance m' :=
    suspended.exists_await (by decide) (by decide) allowance
  have waiting : ∃ m', exec (servicesWithin allowance)
      (.host {} (.wait (.lit {} (.number duration)))) m₂ = .cut .allowance m' :=
    exec_wait rfl rfl endless
  obtain ⟨m', waiting⟩ := waiting
  have ran : execAll (servicesWithin allowance) (starvingProgram duration) m₀ =
      .cut .allowance m' := by
    rw [starvingProgram, execAll, Run.bind_done registered]
    change execAll (servicesWithin allowance) (_ :: _) m₁ = _
    rw [execAll, Run.bind_done emitted]
    change execAll (servicesWithin allowance) (_ :: _) m₂ = _
    rw [execAll, Run.bind_cut waiting]
  simp only [Machine.execute, Run.execute]
  rw [ran]
  rfl

/-- Some allowance is enough for the machine to execute the program to its end. -/
def Machine.Finishes (m : Machine) (program : Program) : Prop :=
  ∃ allowance result m', m.execute allowance program = some (result, m')

/-- A wait of ten milliseconds need not end. -/
theorem starvingProgram_not_finishes : ¬ Machine.Finishes {} (starvingProgram 10) := by
  rintro ⟨allowance, result, m', finished⟩
  rw [execute_starvingProgram] at finished
  cases finished

end HostScript
