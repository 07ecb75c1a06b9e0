import HostScript.Proofs.Names
import HostScript.Proofs.Sessions

/-!
# Registers are given back

A statement can be left by its end, by a jump, by a failure or by a stop, through loops,
attempts, calls and handlers. Whichever way it is left, the engine executes again where it
did before: in the same scope, with the same active calls and handlers, and in the same
state. So a run at the top level ends with the registers at rest, and the state of the
engine says how the run has ended.
-/

namespace HostScript

/-- How a run at the top level ends: the registers are at rest, and the state of the engine
agrees with the result. -/
structure Machine.Concludes (allowance : Nat) (program : Program) (m : Machine)
    (result : Except Fault Value) (m' : Machine) : Prop where
  scope : m'.engine.scope = m'.engine.globals
  globals : m'.engine.globals = m.engine.globals
  callStack : m'.engine.callStack = []
  handlerDepth : m'.engine.handlerDepth = 0
  clock : m'.engine.clock.isRunning = false
  stopping : m'.engine.stopping = false
  errored : m'.engine.state = .errored ↔ ∃ f, result = .error f
  stopped : m'.engine.state = .stopped → result = .ok .undefined
  /-- Otherwise the statements have ended by themselves, and the value is that of a `return`. -/
  completed : m'.engine.state ≠ .errored → m'.engine.state ≠ .stopped →
    m'.engine.state = .completed ∧ ∃ signal m₁,
      execAll (servicesWithin allowance) program m.beginRun = .done signal m₁ ∧
        result = .ok signal.returned

section Restoration

variable {α : Type} {limit : Nat} {names : Set String} {m m' : Machine}

theorem Outcome.Follows.restored {o : Outcome α} (h : o.Follows limit names m) :
    o.Ends m.Restored := by
  cases o with
  | done a m' => exact Evolves.restored h
  | fault f m' => exact Evolves.restored h
  | cut why m' => trivial

/-- The registers at the end of a run, however its statements have left them. -/
theorem Machine.AtRest.endRun (rest : m.AtRest) (restored : m.beginRun.Restored m')
    (state : RunState) :
    (m'.endRun state).engine.scope = (m'.endRun state).engine.globals ∧
      (m'.endRun state).engine.globals = m.engine.globals ∧
      (m'.endRun state).engine.callStack = [] ∧ (m'.endRun state).engine.handlerDepth = 0 ∧
      (m'.endRun state).engine.clock.isRunning = false ∧
      (m'.endRun state).engine.stopping = false ∧ (m'.endRun state).engine.state = state := by
  have globals := restored.globals
  have callStack := restored.callStack
  have handlerDepth := restored.handlerDepth
  simp only [Machine.beginRun, Engine.record_eq] at globals callStack handlerDepth
  simp only [Machine.endRun, Engine.record_eq]
  exact ⟨trivial, globals, callStack, handlerDepth.trans rest.handlerDepth, rfl, trivial, trivial⟩

theorem Machine.AtRest.concludes {allowance : Nat} {program : Program}
    {result : Except Fault Value} (rest : m.AtRest)
    (h : m.execute allowance program = some (result, m')) :
    m.Concludes allowance program result m' := by
  have services := servicesWithin_follow (le_refl maxHandlerNesting) allowance
  have body := (execAll_follows services program m.beginRun).restored
  rw [Machine.execute, Outcome.done?_eq_some_iff, Run.execute_eq] at h
  rcases Outcome.concluded_cases h with
    ⟨signal, m₁, hb, rfl, rfl⟩ | ⟨m₁, hb, rfl, rfl⟩ | ⟨k, d, m₁, hb, rfl, rfl⟩
  · rw [hb] at body
    obtain ⟨scope, globals, calls, depth, clock, stop, state⟩ := rest.endRun body .completed
    refine ⟨scope, globals, calls, depth, clock, stop, ?_, ?_, ?_⟩
    · simp [state]
    · simp [state]
    · exact fun _ _ => ⟨state, signal, m₁, hb, rfl⟩
  · rw [hb] at body
    obtain ⟨scope, globals, calls, depth, clock, stop, state⟩ := rest.endRun body .stopped
    refine ⟨scope, globals, calls, depth, clock, stop, ?_, fun _ => rfl, ?_⟩
    · simp [state]
    · exact fun _ other => absurd state other
  · rw [hb] at body
    obtain ⟨scope, globals, calls, depth, clock, stop, state⟩ := rest.endRun body .errored
    refine ⟨scope, globals, calls, depth, clock, stop, ?_, ?_, ?_⟩
    · simp [state]
    · simp [state]
    · exact fun other => absurd state other

end Restoration

/-- However a statement ends, in whatever machine it began, the scope, the active calls, the
number of active handlers and the state are those that it began with. A run at the top level
that begins between calls of the host ends in the global scope with everything at rest; its
state says whether it failed, was stopped or has completed. -/
theorem registers_restored (allowance : Nat) :
    (∀ (m : Machine) (s : Stmt), (exec (servicesWithin allowance) s m).Ends fun m' =>
      m'.engine.scope = m.engine.scope ∧ m'.engine.callStack = m.engine.callStack ∧
        m'.engine.handlerDepth = m.engine.handlerDepth ∧ m'.engine.state = m.engine.state) ∧
    ∀ m : Machine, Idle m → ∀ (program : Program) (result : Except Fault Value) (m' : Machine),
      m.execute allowance program = some (result, m') →
        m.Concludes allowance program result m' := by
  constructor
  · intro m s
    have services := servicesWithin_follow (le_refl maxHandlerNesting) allowance
    have restored := (exec_follows services s m).restored
    cases ho : exec (servicesWithin allowance) s m with
    | done signal m' =>
        rw [ho] at restored
        exact ⟨restored.scope, restored.callStack, restored.handlerDepth, restored.state⟩
    | fault f m' =>
        rw [ho] at restored
        exact ⟨restored.scope, restored.callStack, restored.handlerDepth, restored.state⟩
    | cut why m' => trivial
  · intro m idle program result m' executed
    exact idle.atRest.concludes executed

/-- A function that fails inside a loop, called in an attempt that returns the message. -/
def failingProgram : Program :=
  [.define {} "f" [] [.while {} (.lit {} (.bool true)) [.expr {} (.var {} "x")]],
    .attempt {} [.expr {} (.call {} "f" [])] "e" [.return {} (some (.var {} "e"))]]

/-- The failure leaves the loop, the call and the attempt, and the run completes at rest with
the message as its value. -/
theorem failingProgram_restores : Idle (.new 0 {} {}) ∧
    ∃ m', Machine.execute 2 (.new 0 {} {}) failingProgram =
        some (.ok (.text "variable 'x' is not defined"), m') ∧
      Machine.Concludes 2 failingProgram (.new 0 {} {})
        (.ok (.text "variable 'x' is not defined")) m' := by
  have idle : Idle (.new 0 {} {}) := .new 0 {} {}
  have value : ((Machine.execute 2 (.new 0 {} {}) failingProgram).bind fun p => p.1.toOption) =
      some (.text "variable 'x' is not defined") := by decide +kernel
  obtain ⟨⟨result, m'⟩, executed, returned⟩ := Option.bind_eq_some_iff.mp value
  cases result with
  | error f => cases returned
  | ok v =>
      cases returned
      exact ⟨idle, m', executed, (registers_restored 2).2 _ idle _ _ _ executed⟩

end HostScript
