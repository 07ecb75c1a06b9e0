import HostScript.Engine.Machine

/-! # Events on a machine

Emitting, subscribing and unsubscribing. With a bus, an emission goes to its
listeners in their order: those of this engine queue the event, and deliveries
to other parties are put into the outbox. Without a bus, an emission goes to the
engine's own handlers. -/

namespace HostScript.Machine

/-- Record a step of the engine. -/
def record (m : Machine) (s : Step) : Machine :=
  match m with
  | ⟨e, w⟩ => ⟨e.record s, w⟩

/-- Hand an event to a listener on the bus. -/
def deliver (m : Machine) (payload : Value) (s : Subscriber) : Machine :=
  match m with
  | ⟨e, w⟩ =>
    if s.party = e.party then ⟨e.enqueue ⟨s.tag, payload⟩, w⟩
    else ⟨e, { w with outbox := (s, payload) :: w.outbox }⟩

/-- Emit an event on the bus; without a bus nothing happens. -/
def emitOnBus (m : Machine) (event : String) (payload : Value) : Machine :=
  match m with
  | ⟨e, w⟩ =>
    match w.bus with
    | none => ⟨e, w⟩
    | some bus =>
      let (listeners, bus) := bus.emit event payload
      listeners.foldl (fun m s => m.deliver payload s) ⟨e, { w with bus := some bus }⟩

/-- Emit an event: on the bus, or without one to the engine's own handlers. -/
def emit (m : Machine) (event : String) (payload : Value) : Machine :=
  match m with
  | ⟨e, w⟩ =>
    match w.bus with
    | some _ => Machine.emitOnBus ⟨e, w⟩ event payload
    | none =>
      ⟨(e.handlers.forEvent event).foldl (fun e id => e.enqueue ⟨id, payload⟩) e, w⟩

/-- Register a handler in the current scope and subscribe it on the bus. -/
def register (m : Machine) (event : String) (body : List Stmt) : Machine :=
  match m with
  | ⟨e, w⟩ =>
    let (id, handlers) := e.handlers.register event body e.scope
    match w.bus with
    | none => ⟨{ e with handlers }, w⟩
    | some bus =>
      let (listener, bus) := bus.on event ⟨e.party, id⟩
      ⟨{ e with handlers := handlers.setListener id listener }, { w with bus := some bus }⟩

/-- End the subscriptions of handlers. -/
def unsubscribe (bus : Bus Subscriber) : List Handler → Bus Subscriber
  | [] => bus
  | h :: rest =>
    unsubscribe (match h.listener with
      | some id => bus.off h.event id
      | none => bus) rest

/-- Remove every handler and its subscription. -/
def unsubscribeAll (m : Machine) : Machine :=
  match m with
  | ⟨e, w⟩ =>
    let (removed, handlers) := e.handlers.drain
    ⟨{ e with handlers }, { w with bus := w.bus.map fun bus => unsubscribe bus removed }⟩

/-- Request a stop. -/
def requestStop (m : Machine) : Machine :=
  match m with
  | ⟨e, w⟩ => ⟨e.requestStop, w⟩

/-- What a host function does besides giving a result. -/
def act (m : Machine) : HostAct → Machine
  | .stop => m.requestStop
  | .spend ms =>
    match m with
    | ⟨e, w⟩ => ⟨e, { w with now := w.now + ms }⟩
  | .emit event payload => m.emitOnBus event payload

/-- What the host does by itself. -/
def move (m : Machine) : HostMove → Machine
  | .emit event payload => m.emitOnBus event payload
  | .stop => m.requestStop

/-- Let the host do what is due. -/
def performDue (m : Machine) : List (Nat × HostMove) → Machine
  | [] =>
    match m with
    | ⟨e, w⟩ => ⟨e, { w with timeline := [] }⟩
  | (time, mv) :: rest =>
    if time ≤ m.world.now then (m.move mv).performDue rest
    else match m with
      | ⟨e, w⟩ => ⟨e, { w with timeline := (time, mv) :: rest }⟩

/-- Let the host do what is left of its timeline, each thing at its time. -/
def performAll (m : Machine) : List (Nat × HostMove) → Machine
  | [] =>
    match m with
    | ⟨e, w⟩ => ⟨e, { w with timeline := [] }⟩
  | (time, mv) :: rest =>
    match m with
    | ⟨e, w⟩ => (Machine.move ⟨e, { w with now := max w.now time }⟩ mv).performAll rest

/-- Finish the timeline of the host. -/
def finishTimeline (m : Machine) : Machine := m.performAll m.world.timeline

end HostScript.Machine
