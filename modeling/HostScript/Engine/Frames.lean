import HostScript.Engine.Execution

/-! # Frames: calls, handlers and suspension

A call of a function runs in a child of the scope in which the function was
defined. A handler runs in a frame of its own: with a child of the scope in
which it was registered, no active calls and a fresh budget. What the frame
replaced is put back however the handler ends, and its errors go to the host.

While a script is suspended, queued events are handled first, in their order.
Only when there are none is the awaited thing looked at; if it is not there, the
host does what is due, and otherwise time moves on to what comes next.

Calls and handlers can nest without bound as far as the syntax goes, so they are
defined for an allowance that falls with each level. An allowance that is too
small shows as `Cut.allowance`, with the machine as far as it came, and as
nothing else. -/

namespace HostScript

/-- The number of handlers that nest before suspended handlers stop taking events. -/
def maxHandlerNesting : Nat := 8

/-- The bindings of parameters: missing arguments are `undefined`, and of two parameters with
one name the later counts. -/
def bindParams : (params : List String) → (args : List Value) → Bindings → Bindings
  | [], _, vars => vars
  | p :: params, args, vars =>
    bindParams params (args.drop 1) (vars.insert p (args.headD .undefined))

namespace Machine

/-- Note that a call of a function is active. -/
def pushCall (m : Machine) (name : String) : Machine :=
  match m with
  | ⟨e, w⟩ => ⟨{ e with callStack := name :: e.callStack }.record (.called name), w⟩

/-- Note that the innermost call has ended. -/
def popCall (m : Machine) : Machine :=
  match m with
  | ⟨e, w⟩ => ⟨{ e with callStack := e.callStack.tail }.record .returned, w⟩

/-- Begin the frame of a handler. -/
def enterHandler (m : Machine) (h : Handler) (payload : Value) : Machine :=
  match m.enterChild h.closure [("event", payload)] with
  | ⟨e, w⟩ =>
    ⟨{ e with
        callStack := []
        clock := .started w.now
        handlerDepth := e.handlerDepth + 1 }.record (.entered w.now (some ⟨h.id, payload⟩)), w⟩

/-- End the frame of a handler: scope, active calls and clock are again those of the engine
before the frame. -/
def leaveHandler (m : Machine) (scope : ScopeId) (callStack : List String) (clock : RunClock) :
    Machine :=
  match m with
  | ⟨e, w⟩ =>
    ⟨{ e with scope, callStack, clock, handlerDepth := e.handlerDepth - 1 }.record .left, w⟩

/-- Report the error of a handler. -/
def report (m : Machine) (message : String) : Machine :=
  match m with
  | ⟨e, w⟩ =>
    ⟨{ e with errors := e.errors.push message },
      if w.hasSink then w.note (.error message) else w⟩

/-- Take the next event that a suspended script may handle. -/
def nextFired? (m : Machine) : Option (Fired × Machine) :=
  if m.engine.handlerDepth < maxHandlerNesting then
    match m with
    | ⟨e, w⟩ => (e.dequeue? .suspension).map fun p => (p.1, ⟨p.2, w⟩)
  else none

/-- Let time pass for a suspended script: the host does what is due, or else the time of
what comes next is reached. Nothing at all may come. -/
def passTime? (m : Machine) (a : Awaited) : Option Machine :=
  match m.world.timeline with
  | (time, mv) :: rest =>
    if time ≤ m.world.now then some (m.performDue ((time, mv) :: rest))
    else match m with
      | ⟨e, w⟩ => some ⟨e, { w with now := ((a.wakeTime?).map (min time)).getD time }⟩
  | [] =>
    match a.wakeTime? with
    | none => none
    | some time =>
      match m with
      | ⟨e, w⟩ => some ⟨e, { w with now := max w.now time }⟩

end Machine

/-- Call a function that a script defined. -/
def callUser (sv : Services) (f : UserFunction) (args : List Value) : Run Value := fun m =>
  if m.engine.limits.allowsCall m.engine.callStack.length then
    let body := (Run.inChildOf f.closure (bindParams f.params args []) (execAll sv f.body))
    match body.ensuring Machine.popCall (m.pushCall f.name) with
    | .done (.return v) m => .done v m
    | .done _ m => .done .undefined m
    | .fault e m => .fault e m
    | .cut why m => .cut why m
  else .fault (.recursion m.engine.limits.maxRecursionDepth m.engine.activeCalls)
    (m.record (.refused f.name))

/-- Run one handler invocation. The result says whether the handler ran: it did not if it is
gone or a stop is requested. -/
def runHandler (sv : Services) (fired : Fired) : Run Bool := fun m =>
  match m.engine.handlers.get? fired.handler with
  | none => .done false m
  | some h =>
    if m.engine.stopping then .done false m
    else
      let scope := m.engine.scope
      let callStack := m.engine.callStack
      let clock := m.engine.clock
      match execAll sv h.body (m.enterHandler h fired.payload) with
      | .done _ m => .done true (m.leaveHandler scope callStack clock)
      | .fault .cancelled m => .done true (m.leaveHandler scope callStack clock)
      | .fault (.failure k d) m =>
        .done true ((m.leaveHandler scope callStack clock).report (Fault.failure k d).describe)
      | .cut why m => .cut why m

/-- Wait until an ending has come, in at most `rounds` steps. -/
def awaitWithin (sv : Services) (a : Awaited) : (rounds : Nat) → Run Reply
  | 0, m => .cut .allowance m
  | rounds + 1, m =>
    match m.nextFired? with
    | some (fired, m) =>
      match runHandler sv fired m with
      | .done _ m => awaitWithin sv a rounds m
      | .fault f m => .fault f m
      | .cut why m => .cut why m
    | none =>
      match m with
      | ⟨e, w⟩ =>
        let m : Machine := ⟨e, w.showQuestion⟩
        match a.ready? m.world.now with
        | some r => .done r m
        | none =>
          match m.passTime? a with
          | some m => awaitWithin sv a rounds m
          | none => .cut .allowance m

/-- Calls and waiting for an allowance of levels and steps. -/
def servicesWithin : (allowance : Nat) → Services
  | 0 => { call := fun _ _ m => .cut .allowance m, await := fun _ m => .cut .allowance m }
  | allowance + 1 =>
    { call := fun f args m => callUser (servicesWithin allowance) f args m
      await := fun a m => awaitWithin (servicesWithin allowance) a allowance m }

end HostScript
