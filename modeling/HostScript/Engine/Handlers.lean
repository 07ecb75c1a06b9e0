import HostScript.Engine.Scopes
import HostScript.Text.Quoted

/-! # Event handlers

Handlers are kept in the order in which they were registered. Their numbers are
never used again, so an event for a handler that is gone finds nothing. -/

namespace HostScript

/-- The number of a handler. -/
abbrev HandlerId := Nat

/-- A handler registered by an `on` statement. -/
structure Handler where
  id : HandlerId
  event : String
  body : List Stmt
  /-- The scope in which the statement ran. -/
  closure : ScopeId
  /-- The subscription on the bus, if there is a bus. -/
  listener : Option Nat := none

/-- A handler invocation that waits in the queue. -/
structure Fired where
  handler : HandlerId
  payload : Value
  deriving DecidableEq

/-- The handlers of an engine. -/
structure Registry where
  handlers : List Handler := []
  nextId : HandlerId := 0

namespace Registry

/-- Add a handler. -/
def register (r : Registry) (event : String) (body : List Stmt) (closure : ScopeId) :
    HandlerId × Registry :=
  (r.nextId, { handlers := r.handlers ++ [{ id := r.nextId, event, body, closure }]
               nextId := r.nextId + 1 })

/-- Note the subscription of a handler. -/
def setListener (r : Registry) (id : HandlerId) (listener : Nat) : Registry :=
  { r with handlers := r.handlers.map fun h =>
      if h.id = id then { h with listener := some listener } else h }

/-- The handler with a number. -/
def get? (r : Registry) (id : HandlerId) : Option Handler :=
  r.handlers.find? fun h => h.id == id

/-- The numbers of the handlers of an event. -/
def forEvent (r : Registry) (event : String) : List HandlerId :=
  (r.handlers.filter fun h => h.event == event).map Handler.id

/-- The number of handlers. -/
def size (r : Registry) : Nat := r.handlers.length

/-- Remove every handler. -/
def drain (r : Registry) : List Handler × Registry :=
  (r.handlers, { r with handlers := [] })

end Registry

/-- The events that statements send to the host. -/
inductive HostEvent where
  | dialogAlert | notificationShow | audioPlay | audioStop | videoPlay
  deriving DecidableEq, Repr

namespace HostEvent

/-- The name of an event. -/
def name : HostEvent → String
  | .dialogAlert => "dialog:alert"
  | .notificationShow => "notification:show"
  | .audioPlay => "audio:play"
  | .audioStop => "audio:stop"
  | .videoPlay => "video:play"

/-- Every event. -/
def all : List HostEvent := [.dialogAlert, .notificationShow, .audioPlay, .audioStop, .videoPlay]

/-- The event with a name. -/
def ofName? (s : String) : Except String HostEvent :=
  match all.find? fun e => e.name == s with
  | some e => .ok e
  | none => .error s!"unknown host event {Text.quoted s}"

@[simp] theorem ofName?_name (e : HostEvent) : ofName? e.name = .ok e := by
  cases e <;> rfl

end HostEvent

/-- Events of commands with a colon in their name start with this text. -/
def commandEventStart : String := "command:"

end HostScript
