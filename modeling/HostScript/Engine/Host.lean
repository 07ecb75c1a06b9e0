import HostScript.Engine.Bus
import HostScript.Engine.Handlers
import HostScript.Files.Root

/-! # The host

What lies outside an engine: time, the heap that values refer to, and what the
host offers to scripts. Every capability may be missing. Time moves when
everything waits, and inside host functions that spend it. -/

namespace HostScript

/-! ### Host functions -/

/-- A call of a host function, as the function sees it. -/
structure HostCall where
  args : List Value
  heap : Heap
  /-- Milliseconds since the session began. -/
  now : Nat
  /-- The number of earlier calls of this function. -/
  earlier : Nat

/-- What a host function does besides giving a result. -/
inductive HostAct where
  /-- Request that the engine stops. -/
  | stop
  /-- Let time pass without suspending the script. -/
  | spend (ms : Nat)
  /-- Emit an event on the bus. -/
  | emit (event : String) (payload : Value)

/-- The value of a host function. -/
inductive HostValue where
  | value (v : Value)
  /-- A new array of values. -/
  | newArray (items : List Value)

/-- How a host function answers a call. -/
structure HostReply where
  /-- What the host does at once, in order. -/
  acts : List HostAct := []
  /-- A deferred answer comes after this many milliseconds. -/
  delay : Option Nat := none
  result : Except String HostValue

/-- A function that the host offers to scripts. -/
structure HostFunction where
  name : String
  answer : HostCall → HostReply
  /-- How often the function was called. -/
  calls : Nat := 0

/-! ### Dialogs -/

/-- How a dialog is answered. -/
inductive DialogReply where
  /-- A value, after a number of milliseconds. -/
  | answer (v : Value) (delay : Nat)
  /-- A line that the user types. -/
  | line (text : String)
  /-- The dialog is closed without an answer, after a number of milliseconds. -/
  | dropped (delay : Nat)
  /-- The dialog stays open. -/
  | never
  deriving DecidableEq

/-- The dialogs of a host. -/
structure Dialogs where
  /-- The replies to questions, in the order in which they are used. -/
  replies : List DialogReply := []
  /-- The reply when no other is left. -/
  afterwards : DialogReply := .never
  /-- A question appears only when the script waits for its answer. -/
  showsLate : Bool := false

/-! ### What the host notes -/

/-- What the capabilities of a host were asked to do. -/
inductive HostNote where
  | print (text : String)
  | error (message : String)
  | alert (message : String)
  | confirm (message : String)
  | prompt (message default : String)
  /-- A command with its payload and the heap at that moment. -/
  | command (name : String) (payload : Value) (heap : Heap)

/-! ### Several parties on one bus -/

/-- The number of an engine, or of the host itself, on a bus that they share. -/
abbrev Party := Nat

/-- Who listens on the bus: a party, and what it tells its listeners apart by. -/
structure Subscriber where
  party : Party
  tag : Nat
  deriving DecidableEq, Repr

/-- What the host does by itself at some time. -/
inductive HostMove where
  | emit (event : String) (payload : Value)
  | stop

/-- The host of an engine. -/
structure World where
  /-- Milliseconds since the session began. -/
  now : Nat := 0
  /-- The wall-clock time when the session began. -/
  epoch : Nat := 0
  heap : Heap := {}
  bus : Option (Bus Subscriber) := none
  /-- Deliveries to other parties on the bus, newest first. -/
  outbox : List (Subscriber × Value) := []
  /-- The commands that the host refuses, with the messages. -/
  commands : Option (List (String × String)) := none
  files : Option Files.Root := none
  /-- The active window, if the host knows about windows. -/
  window : Option (Option String) := none
  /-- The host takes printed lines and handler errors. -/
  hasSink : Bool := false
  dialogs : Option Dialogs := none
  functions : List HostFunction := []
  /-- What the host will do by itself, in order of time. -/
  timeline : List (Nat × HostMove) := []
  /-- A question that appears when the script waits. -/
  asking : Option HostNote := none
  /-- What the capabilities were asked to do and when, newest first. -/
  notes : List (Nat × HostNote) := []

namespace World

/-- Note what a capability was asked to do. -/
def note (w : World) (n : HostNote) : World := { w with notes := (w.now, n) :: w.notes }

/-- The host function with a name. -/
def function? (w : World) (name : String) : Option HostFunction :=
  w.functions.find? fun f => f.name == name

/-- Offer a function to scripts, in place of one with the same name. -/
def offer (w : World) (f : HostFunction) : World :=
  { w with functions := f :: w.functions.filter fun g => g.name != f.name }

/-- Count a call of a host function. -/
def countCall (w : World) (name : String) : World :=
  { w with functions := w.functions.map fun f =>
      if f.name == name then { f with calls := f.calls + 1 } else f }

/-- Put the value of a host function on the heap. -/
def receive (w : World) : HostValue → Value × World
  | .value v => (v, w)
  | .newArray items =>
    let (v, heap) := w.heap.newArray items.toArray
    (v, { w with heap })

/-- Show the question that waits to appear. -/
def showQuestion (w : World) : World :=
  match w.asking with
  | some n => { w with asking := none }.note n
  | none => w

/-- Take the reply to the next question. -/
def nextReply (w : World) : DialogReply × World :=
  match w.dialogs with
  | none => (.never, w)
  | some d =>
    match d.replies with
    | r :: rest => (r, { w with dialogs := some { d with replies := rest } })
    | [] => (d.afterwards, w)

/-- The names of the capabilities and whether they are there. -/
def capabilities (w : World) : List (String × Bool) :=
  [("bus", w.bus.isSome), ("commands", w.commands.isSome), ("fs", w.files.isSome),
    ("state", w.window.isSome), ("output", w.hasSink), ("dialogs", w.dialogs.isSome)]

/-- One line that says which capabilities are there. -/
def describe (w : World) : String :=
  let fields := w.capabilities.map fun c => c.1 ++ ": " ++ (if c.2 then "true" else "false")
  "HostContext \x7b " ++ String.intercalate ", " fields ++ " \x7d"

end World

end HostScript
