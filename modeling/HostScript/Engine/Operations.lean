import HostScript.Engine.Frames
import HostScript.Source.Grammar.Statement

/-! # Operations of an engine

What an embedding host can ask an engine to do. Each operation that runs script
code is a computation for an allowance; on a machine it gives nothing when it
is cut off, as it is when the allowance was too small. -/

namespace HostScript

namespace Machine

/-- Set the state of the engine. -/
def withState (m : Machine) (state : RunState) : Machine :=
  match m with
  | ⟨e, w⟩ => ⟨{ e with state }, w⟩

/-- Withdraw a stop request. -/
def clearStop (m : Machine) : Machine :=
  match m with
  | ⟨e, w⟩ => ⟨{ e with stopping := false }, w⟩

/-- Begin a run at the top level. -/
def beginRun (m : Machine) : Machine :=
  match m with
  | ⟨e, w⟩ =>
    ⟨{ e with
        stopping := false
        state := .running
        scope := e.globals
        callStack := []
        clock := .started w.now }.record (.entered w.now none), w⟩

/-- End a run at the top level. -/
def endRun (m : Machine) (state : RunState) : Machine :=
  match m with
  | ⟨e, w⟩ =>
    ⟨{ e with stopping := false, scope := e.globals, clock := .stopped, state }.record .left, w⟩

end Machine

namespace Run

/-- Execute a program at the top level. The result is the value of a `return`, or
`undefined`; a stop ends the run without a fault. -/
def execute (allowance : Nat) (program : Program) : Run (Except Fault Value) := fun m =>
  match execAll (servicesWithin allowance) program m.beginRun with
  | .done (.return v) m => .done (.ok v) (m.endRun .completed)
  | .done _ m => .done (.ok .undefined) (m.endRun .completed)
  | .fault .cancelled m => .done (.ok .undefined) (m.endRun .stopped)
  | .fault f m => .done (.error f) (m.endRun .errored)
  | .cut why m => .cut why m

/-- Read and execute a source text. -/
def script (allowance : Nat) (source : String) : Run (Except Fault Value) := fun m =>
  match Source.parse source with
  | .ok program => execute allowance program m
  | .error f => .done (.error f) (m.withState .errored)

/-- Run queued handlers until the queue is empty, `left` of them have run, or a stop is
requested; `ran` have run before. Events of handlers that are gone do not count. -/
def dispatchWithin (sv : Services) : (steps left ran : Nat) → Run Nat
  | 0, _, _, m => .cut .allowance m
  | _ + 1, 0, ran, m => .done ran m
  | steps + 1, left + 1, ran, m =>
    if m.engine.stopping then .done ran m
    else match m with
      | ⟨e, w⟩ =>
        match e.dequeue? .batch with
        | none => .done ran ⟨e, w⟩
        | some (fired, e) =>
          match runHandler sv fired ⟨e, w⟩ with
          | .done true m => dispatchWithin sv steps left (ran + 1) m
          | .done false m => dispatchWithin sv steps (left + 1) ran m
          | .fault f m => .fault f m
          | .cut why m => .cut why m

/-- Run queued handlers, at most as many as a loop has rounds. The result is the number of
handlers that ran. A stop request ends the batch and is withdrawn. -/
def dispatch (allowance : Nat) : Run Nat := do
  let limit ← view fun m => m.engine.limits.maxLoopIterations
  let ran ← dispatchWithin (servicesWithin allowance) allowance limit 0
  change Machine.clearStop
  return ran

/-- Run handlers one after the other with one payload; `ran` have run before. -/
def fireEach (sv : Services) (payload : Value) : (ids : List HandlerId) → (ran : Nat) → Run Nat
  | [], ran, m => .done ran m
  | id :: rest, ran, m =>
    match runHandler sv ⟨id, payload⟩ m with
    | .done true m => fireEach sv payload rest (ran + 1) m
    | .done false m => fireEach sv payload rest ran m
    | .fault f m => .fault f m
    | .cut why m => .cut why m

/-- Run the handlers of an event directly. The result is the number of handlers that ran. -/
def fire (allowance : Nat) (event : String) (payload : Value) : Run Nat := do
  let ids ← view fun m => m.engine.handlers.forEvent event
  let ran ← fireEach (servicesWithin allowance) payload ids 0
  change Machine.clearStop
  return ran

/-- Handle events for a number of milliseconds. -/
def pump (allowance ms : Nat) : Run Unit := do
  let now ← view fun m => m.world.now
  let _ ← (servicesWithin allowance).suspend (.timer (now + ms))
  change Machine.clearStop

end Run

namespace Machine

/-- Execute a program at the top level. -/
def execute (allowance : Nat) (m : Machine) (program : Program) :
    Option (Except Fault Value × Machine) :=
  (Run.execute allowance program m).done?

/-- Read and execute a source text. -/
def run (allowance : Nat) (m : Machine) (source : String) :
    Option (Except Fault Value × Machine) :=
  (Run.script allowance source m).done?

/-- A source text is executed if it is a program. -/
theorem run_eq (allowance : Nat) (m : Machine) (source : String) :
    m.run allowance source =
      match Source.parse source with
      | .ok program => m.execute allowance program
      | .error f => some (.error f, m.withState .errored) := by
  simp only [run, Run.script]
  cases Source.parse source with
  | ok program => rfl
  | error f => rfl

/-- Run queued handlers. -/
def dispatchPending (allowance : Nat) (m : Machine) : Option (Nat × Machine) :=
  (Run.dispatch allowance m).done?

/-- Run the handlers of an event directly. -/
def fire (allowance : Nat) (m : Machine) (event : String) (payload : Value) :
    Option (Nat × Machine) :=
  (Run.fire allowance event payload m).done?

/-- Handle events for a number of milliseconds. -/
def pump (allowance : Nat) (m : Machine) (ms : Nat) : Option Machine :=
  ((Run.pump allowance ms m).done?).map Prod.snd

/-- Forget all that scripts have made: handlers, functions, variables and queued events. -/
def cleanup (m : Machine) : Machine :=
  match m.unsubscribeAll with
  | ⟨e, w⟩ =>
    ⟨{ e with
        functions := []
        scopes := e.scopes.clear e.globals
        scope := e.globals
        callStack := []
        queue := {}
        state := .idle }, w⟩

/-- End the life of the engine: nothing on the bus leads to it any more. -/
def retire (m : Machine) : Machine := m.unsubscribeAll

/-- The value of a global variable. -/
def getVar (m : Machine) (name : String) : Option Value :=
  m.engine.scopes.lookup m.engine.globals name

/-- Set a global variable. -/
def setVar (m : Machine) (name : String) (v : Value) : Machine :=
  match m with
  | ⟨e, w⟩ => ⟨{ e with scopes := e.scopes.set e.globals name v }, w⟩

/-- Forget what was printed, reported, noted and emitted. -/
def clearOutput (m : Machine) : Machine :=
  match m with
  | ⟨e, w⟩ =>
    ⟨{ e with output := #[], errors := #[] },
      { w with notes := [], bus := w.bus.map Bus.clearEmitted }⟩

/-- Put what the host will do by itself on the timeline; times count from now. -/
def schedule (m : Machine) (moves : List (Nat × HostMove)) : Machine :=
  match m with
  | ⟨e, w⟩ => ⟨e, { w with timeline := moves.map fun p => (w.now + p.1, p.2) }⟩

end Machine

end HostScript
