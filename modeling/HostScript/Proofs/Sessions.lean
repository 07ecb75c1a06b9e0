import HostScript.Proofs.Calls
import HostScript.Proofs.Delivery
import HostScript.Proofs.FrameLaw

/-!
# Sessions

A session begins with a new engine that keeps a journal. The host makes calls, one after the
other, and in between does what it likes with its own world, the limits and the variables.
Between calls no frame is open: no call is active, no handler runs, and the clock stands
still. Each call begins its frames anew and ends all of them, so the moments of one call tell
which frames are open at each of them.
-/

namespace HostScript

/-- The machines between the calls of a host. -/
inductive Idle : Machine → Prop
  | new (party : Party) (limits : Limits) (world : World) : Idle (.new party limits world)
  | call {m m' : Machine} {allowance : Nat} {call : EngineCall} {answer : Answer}
      (before : Idle m) (performed : call.perform allowance m = some (answer, m')) : Idle m'
  | host {e : Engine} {w : World} (before : Idle ⟨e, w⟩) (world : World) : Idle ⟨e, world⟩
  | limit {e : Engine} {w : World} (before : Idle ⟨e, w⟩) (limits : Limits) :
      Idle ⟨{ e with limits }, w⟩
  | deliver {m : Machine} (before : Idle m) (payload : Value) (s : Subscriber) :
      Idle (m.deliver payload s)
  | emit {m : Machine} (before : Idle m) (event : String) (payload : Value) :
      Idle (m.emitOnBus event payload)
  | stop {m : Machine} (before : Idle m) : Idle m.requestStop
  | setVar {m : Machine} (before : Idle m) (name : String) (v : Value) : Idle (m.setVar name v)

section Operations

variable {α β : Type} {limits : Limits} {past : List Moment} {frames : List OpenFrame}
  {m : Machine} {sv : Services}

/-! ### Calls leave no frame open -/

theorem Outcome.Stays.bind {x : Run α} {next : α → Run β} (h : (x m).Stays limits past frames)
    (hnext : ∀ a {m : Machine}, m.Framed limits past frames →
      (next a m).Stays limits past frames) : ((x >>= next) m).Stays limits past frames := by
  cases hm : x m with
  | done a m' =>
      rw [hm] at h
      rw [Run.bind_done hm]
      exact hnext a h
  | fault e m' => rw [hm] at h; exact h.elim
  | cut why m' =>
      rw [hm] at h
      rw [Run.bind_cut hm]
      exact h

theorem Machine.Framed.handlerDepth (framed : m.Framed limits past []) :
    m.engine.handlerDepth < maxHandlerNesting := by
  have depth : m.engine.handlerDepth = 0 := framed.shows.handlerDepth
  rw [depth]
  exact Nat.zero_lt_succ 7

theorem dispatchWithin_stays (hsv : sv.Keep limits past) (steps left ran : Nat)
    (framed : m.Framed limits past []) :
    (Run.dispatchWithin sv steps left ran m).Stays limits past [] := by
  induction steps generalizing left ran m with
  | zero => exact ⟨[], framed⟩
  | succ steps ih =>
      cases left with
      | zero => exact framed
      | succ left =>
          obtain ⟨e, w⟩ := m
          simp only [Run.dispatchWithin]
          split
          · exact framed
          · split
            · exact framed
            · next fired e' taken =>
              have before := framed.dequeue taken
              have handled := runHandler_stays hsv fired (List.forall_mem_nil _) before.handlerDepth
                before
              cases hr : runHandler sv fired ⟨e', w⟩ with
              | fault f m₁ => rw [hr] at handled; exact handled
              | cut why m₁ => rw [hr] at handled; exact handled
              | done b m₁ =>
                  rw [hr] at handled
                  cases b with
                  | true => exact ih left (ran + 1) handled
                  | false => exact ih (left + 1) ran handled

theorem fireEach_stays (hsv : sv.Keep limits past) (payload : Value) (ids : List HandlerId)
    (ran : Nat) (framed : m.Framed limits past []) :
    (Run.fireEach sv payload ids ran m).Stays limits past [] := by
  induction ids generalizing ran m with
  | nil => exact framed
  | cons id rest ih =>
      have handled := runHandler_stays hsv ⟨id, payload⟩ (List.forall_mem_nil _)
        framed.handlerDepth framed
      simp only [Run.fireEach]
      cases hr : runHandler sv ⟨id, payload⟩ m with
      | fault f m₁ => rw [hr] at handled; exact handled
      | cut why m₁ => rw [hr] at handled; exact handled
      | done b m₁ =>
          rw [hr] at handled
          cases b with
          | true => exact ih (ran + 1) handled
          | false => exact ih ran handled

/-- The ways in which a run at the top level ends, by how its statements have ended. -/
theorem Outcome.concluded_cases {o : Outcome Signal} {r : Except Fault Value} {m' : Machine}
    (h : o.concluded = .done r m') :
    (∃ signal m₁, o = .done signal m₁ ∧ r = .ok signal.returned ∧ m' = m₁.endRun .completed) ∨
    (∃ m₁, o = .fault .cancelled m₁ ∧ r = .ok .undefined ∧ m' = m₁.endRun .stopped) ∨
    ∃ k d m₁, o = .fault (.failure k d) m₁ ∧ r = .error (.failure k d) ∧
      m' = m₁.endRun .errored := by
  cases o with
  | cut why m₁ => cases h
  | done signal m₁ =>
      refine .inl ⟨signal, m₁, rfl, ?_⟩
      cases signal with
      | _ => cases h; exact ⟨rfl, rfl⟩
  | fault f m₁ =>
      cases f with
      | cancelled => cases h; exact .inr (.inl ⟨m₁, rfl, rfl, rfl⟩)
      | failure k d => cases h; exact .inr (.inr ⟨k, d, m₁, rfl, rfl, rfl⟩)

/-- How the statements of a run at the top level keep its frame. -/
theorem keeps_program (allowance : Nat) (program : Program) (framed : m.Framed limits past []) :
    ∃ number, (execAll (servicesWithin allowance) program m.beginRun).Keeps limits past
      { number, fired := none, begun := m.world.now } [] := by
  obtain ⟨number, begun⟩ := framed.beginRun
  have services := servicesWithin_keep limits past allowance
  exact ⟨number, keepsFrames_execAll program _ services rfl begun⟩

/-- A run at the top level ends its frame. -/
theorem execute_stays (allowance : Nat) (program : Program) (framed : m.Framed limits past []) :
    (Run.execute allowance program m).Stays limits past [] := by
  obtain ⟨number, body⟩ := keeps_program allowance program framed
  have ended {m' : Machine} (state : RunState)
      (kept : ∃ g, OpenFrame.GoesOn { number, fired := none, begun := m.world.now } g ∧
        m'.Framed limits past [g]) : (m'.endRun state).Framed limits past [] := by
    obtain ⟨g, goes, inside⟩ := kept
    exact inside.endRun goes.asleep (congrArg Option.isSome goes.fired) goes.calls state
  rw [Run.execute_eq]
  cases hb : execAll (servicesWithin allowance) program m.beginRun with
  | cut why m' => rw [hb] at body; exact body
  | done signal m' =>
      rw [hb] at body
      cases signal with
      | _ => exact ended .completed body
  | fault f m' =>
      rw [hb] at body
      cases f with
      | cancelled => exact ended .stopped body.1
      | failure k d => exact ended .errored body.1

/-- If a run at the top level ends because a call was refused, the fault carries the calls that
were active in its frame then. -/
theorem refused_of_execute {allowance : Nat} {program : Program} {e : Fault} {m' : Machine}
    {active : List String} (framed : m.Framed limits past [])
    (h : Run.execute allowance program m = .done (.error e) m')
    (carried : e.refused? = some active) :
    ∃ number registers during,
      m'.engine.journal = some (⟨.left, registers⟩ :: during ++ past) ∧
        RefusedIn limits number [] active during := by
  obtain ⟨number, body⟩ := keeps_program allowance program framed
  rw [Run.execute_eq] at h
  rcases Outcome.concluded_cases h with ⟨_, _, -, ⟨⟩, -⟩ | ⟨_, -, ⟨⟩, -⟩ | ⟨k, d, m₁, hb, same, rfl⟩
  cases same
  rw [hb] at body
  obtain ⟨during, journal, refusal⟩ := body.2 active carried
  have written : ∃ registers, (m₁.endRun .errored).engine.journal =
      m₁.engine.journal.map (⟨.left, registers⟩ :: ·) := by
    simp only [Machine.endRun, Engine.record_eq]
    exact ⟨_, rfl⟩
  obtain ⟨registers, written⟩ := written
  refine ⟨number, registers, during, ?_, refusal⟩
  rw [written, journal]
  rfl

theorem Machine.Framed.cleanup (framed : m.Framed limits past []) :
    m.cleanup.Framed limits past [] :=
  framed.of_eq rfl framed.shows.callStack.symm

/-- A call leaves no frame open when it ends. -/
theorem EngineCall.start_stays (allowance : Nat) (call : EngineCall)
    (framed : m.Framed limits past []) : (call.start allowance m).Stays limits past [] := by
  have services := servicesWithin_keep limits past allowance
  have executed (program : Program) :
      ((Run.execute allowance program >>= fun r => Run.result (Answer.result r)) m).Stays
        limits past [] :=
    (execute_stays allowance program framed).bind fun _ _ framed => framed
  cases call with
  | execute program => exact executed program
  | run source =>
      simp only [EngineCall.start]
      cases Source.parse source with
      | ok program => exact executed program
      | error f =>
          have marked : (m.withState .errored).Framed limits past [] := framed.of_eq
          exact marked
  | dispatch =>
      have batch := dispatchWithin_stays services allowance m.engine.limits.maxLoopIterations 0
        framed
      have dispatched : (Run.dispatch allowance m).Stays limits past [] :=
        Outcome.Stays.bind (x := Run.dispatchWithin _ _ _ _) batch fun ran m framed =>
          (framed.of_eq : m.clearStop.Framed limits past [])
      exact dispatched.bind fun _ _ framed => framed
  | fire event payload =>
      have each := fireEach_stays services payload (m.engine.handlers.forEvent event) 0 framed
      have fired : (Run.fire allowance event payload m).Stays limits past [] :=
        Outcome.Stays.bind (x := Run.fireEach _ _ _ _) each fun ran m framed =>
          (framed.of_eq : m.clearStop.Framed limits past [])
      exact fired.bind fun _ _ framed => framed
  | pump ms =>
      have pumped : (Run.pump allowance ms m).Stays limits past [] := by
        refine Outcome.Stays.bind (x := Run.view _) framed fun now m framed => ?_
        have waited : ((servicesWithin allowance).suspend (.timer (now + ms)) m).Stays
            limits past [] := services.suspend _ framed (by rintro _ ⟨⟩)
        refine waited.bind fun _ m framed => ?_
        exact (framed.of_eq : m.clearStop.Framed limits past [])
      exact pumped.bind fun _ _ framed => framed
  | cleanup => exact framed.cleanup

end Operations

/-! ### Between calls -/

/-- No call is active, no handler runs and the clock stands still. The engine keeps a journal. -/
structure Machine.AtRest (m : Machine) : Prop where
  callStack : m.engine.callStack = []
  clock : m.engine.clock = .stopped
  handlerDepth : m.engine.handlerDepth = 0
  journal : ∃ past, m.engine.journal = some past

section Idle

variable {limits : Limits} {past : List Moment} {m : Machine}

/-- A machine at rest has no open frame, however its journal is divided. -/
theorem Machine.AtRest.framed (rest : m.AtRest) (journal : m.engine.journal = some past) :
    m.Framed m.engine.limits past [] where
  fixed := rfl
  shows := ⟨rest.callStack, rest.clock, rest.handlerDepth⟩
  timely := List.forall_mem_nil _
  journal := ⟨[], journal, rfl, Proper.nil⟩

theorem Machine.Framed.atRest (framed : m.Framed limits past []) : m.AtRest := by
  obtain ⟨during, journal, -⟩ := framed.journal
  exact ⟨framed.shows.callStack, framed.shows.clock, framed.shows.handlerDepth, _, journal⟩

theorem Machine.Framed.deliver (framed : m.Framed limits past []) (payload : Value)
    (s : Subscriber) : (m.deliver payload s).Framed limits past [] := by
  simp only [Machine.deliver]
  split
  · exact framed.note (.queued _) fun _ => rfl
  · exact framed.of_eq

/-- Between the calls of a host the engine is at rest. -/
theorem Idle.atRest (idle : Idle m) : m.AtRest := by
  induction idle with
  | new party limits world => exact ⟨rfl, rfl, rfl, [], rfl⟩
  | @call m m' allowance call answer before performed rest =>
      obtain ⟨past, journal⟩ := rest.journal
      have ended := call.start_stays allowance (rest.framed journal)
      rw [EngineCall.perform_eq, Outcome.done?_eq_some_iff] at performed
      rw [performed] at ended
      exact Machine.Framed.atRest ended
  | host before world rest => exact ⟨rest.callStack, rest.clock, rest.handlerDepth, rest.journal⟩
  | limit before limits rest => exact ⟨rest.callStack, rest.clock, rest.handlerDepth, rest.journal⟩
  | deliver before payload s rest =>
      obtain ⟨past, journal⟩ := rest.journal
      exact ((rest.framed journal).deliver payload s).atRest
  | emit before event payload rest =>
      obtain ⟨past, journal⟩ := rest.journal
      exact ((rest.framed journal).asides (asides_emitOnBus _ event payload)).atRest
  | stop before rest =>
      obtain ⟨past, journal⟩ := rest.journal
      exact ((rest.framed journal).asides (.single (.stop _))).atRest
  | setVar before name v rest => exact ⟨rest.callStack, rest.clock, rest.handlerDepth, rest.journal⟩

/-- The moments of a call, finished or not, tell which frames are open at each of them and at
the end. -/
theorem Idle.exists_moments (idle : Idle m) (allowance : Nat) (call : EngineCall) :
    ∃ past during, m.engine.journal = some past ∧
      (call.start allowance m).machine.engine.journal = some (during ++ past) ∧
      (call.start allowance m).machine.engine.registers.Show (framesIn during) ∧
      Proper m.engine.limits during := by
  obtain ⟨past, journal⟩ := idle.atRest.journal
  have stays := call.start_stays allowance (idle.atRest.framed journal)
  have framed : ∃ frames,
      (call.start allowance m).machine.Framed m.engine.limits past frames := by
    cases ho : call.start allowance m with
    | done answer m' => rw [ho] at stays; exact ⟨[], stays⟩
    | fault e m' => rw [ho] at stays; exact stays.elim
    | cut why m' => rw [ho] at stays; exact stays
  obtain ⟨frames, framed⟩ := framed
  obtain ⟨during, written, rfl, proper⟩ := framed.journal
  exact ⟨past, during, journal, written, framed.shows, proper⟩

end Idle

end HostScript
