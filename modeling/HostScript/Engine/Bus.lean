import HostScript.Value.Basic

/-! # The event bus

A bus keeps listeners by event in the order in which they subscribed. An
emission goes to the listeners that are subscribed when it begins. A bus may
record its most recent emissions. Numbers of listeners are never used again.

The bus does not say what a listener does: an emission returns the listeners to
be called, and whoever emits calls them. Main statements: `Bus.listening_on` and
`Bus.listening_off`, a subscription comes last among those to its event, and
ending one leaves all others in their order. -/

namespace HostScript

/-- A subscription to an event. -/
structure Subscription (α : Type) where
  event : String
  id : Nat
  listener : α

/-- An event bus with listeners of a given type. -/
structure Bus (α : Type) where
  subscriptions : List (Subscription α) := []
  nextId : Nat := 0
  /-- The number of emissions that are recorded. -/
  recordLimit : Nat := 0
  /-- The recorded emissions, oldest first. -/
  emitted : List (String × Value) := []

namespace Bus

variable {α : Type}

/-- The subscriptions to an event. -/
def listening (b : Bus α) (event : String) : List (Subscription α) :=
  b.subscriptions.filter fun s => s.event == event

/-- Subscribe to an event. -/
def on (b : Bus α) (event : String) (listener : α) : Nat × Bus α :=
  (b.nextId, { b with subscriptions := b.subscriptions ++ [⟨event, b.nextId, listener⟩]
                      nextId := b.nextId + 1 })

/-- End a subscription to an event. -/
def off (b : Bus α) (event : String) (id : Nat) : Bus α :=
  { b with subscriptions := b.subscriptions.filter fun s => !(s.event == event && s.id == id) }

/-- A new subscription comes last among those to its event. -/
theorem listening_on (b : Bus α) (event e : String) (listener : α) :
    (b.on event listener).2.listening e =
      b.listening e ++ if event == e then [⟨event, b.nextId, listener⟩] else [] := by
  simp [on, listening, List.filter_append, List.filter_cons]

/-- Ending a subscription removes it and leaves all others in their order. -/
theorem listening_off (b : Bus α) (event e : String) (id : Nat) :
    (b.off event id).listening e =
      (b.listening e).filter fun s => !(s.event == event && s.id == id) := by
  simp only [off, listening, List.filter_filter]
  congr 1
  funext s
  exact Bool.and_comm _ _

/-- The recorded emissions with one more, at most `limit` of them. -/
def recorded (limit : Nat) (emitted : List (String × Value)) (e : String × Value) :
    List (String × Value) :=
  if limit = 0 then emitted
  else (if emitted.length = limit then emitted.drop 1 else emitted) ++ [e]

/-- Begin an emission: record it and return the listeners to be called. -/
def emit (b : Bus α) (event : String) (payload : Value) : List α × Bus α :=
  ((b.listening event).map Subscription.listener,
    { b with emitted := recorded b.recordLimit b.emitted (event, payload) })

/-- The number of listeners of an event. -/
def listenerCount (b : Bus α) (event : String) : Nat := (b.listening event).length

/-- The number of listeners of all events. -/
def totalListeners (b : Bus α) : Nat := b.subscriptions.length

/-- The recorded payloads of an event. -/
def emittedFor (b : Bus α) (event : String) : List Value :=
  (b.emitted.filter fun e => e.1 == event).map Prod.snd

/-- Forget the recorded emissions. -/
def clearEmitted (b : Bus α) : Bus α := { b with emitted := [] }

end Bus

/-! ### Listeners that act on their bus -/

/-- What a listener does to the bus after it was called. -/
inductive Reaction where
  | off (event : String) (id : Nat)
  | emit (event : String) (payload : Value)
  /-- Subscribe a listener that only notes its calls. -/
  | on (event : String) (label : String)

/-- A listener that notes its calls under a label and may then act on the bus. -/
structure Observer where
  label : String
  reaction : Option Reaction := none

/-- A bus with observers and the calls they noted, newest first. -/
structure Observatory where
  bus : Bus Observer := {}
  calls : List (String × Value) := []

namespace Observatory

/-- What an observer does after it has noted its call; `emitInner` carries out an emission
that it makes. -/
def react (emitInner : String → Value → Observatory → Option Observatory) (o : Observatory) :
    Option Reaction → Option Observatory
  | none => some o
  | some (.off event id) => some { o with bus := o.bus.off event id }
  | some (.on event label) => some { o with bus := (o.bus.on event { label }).2 }
  | some (.emit event payload) => emitInner event payload o

/-- Call observers one after the other. -/
def callAll (emitInner : String → Value → Observatory → Option Observatory) (payload : Value) :
    List Observer → Observatory → Option Observatory
  | [], o => some o
  | l :: rest, o =>
    let noted := { o with calls := (l.label, payload) :: o.calls }
    (noted.react emitInner l.reaction).bind (callAll emitInner payload rest)

/-- Emit an event. There is no result if the emissions that observers make nest more than
`depth` deep. -/
def emitWithin : (depth : Nat) → String → Value → Observatory → Option Observatory
  | 0, _, _, _ => none
  | depth + 1, event, payload, o =>
    let (targets, bus) := o.bus.emit event payload
    callAll (emitWithin depth) payload targets { o with bus }

end Observatory

end HostScript
