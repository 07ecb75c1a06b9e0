import HostScript.Engine.Host
import HostScript.Engine.Limits
import HostScript.Engine.Queue

/-! # The machine

An engine together with its host, and computations on them. A computation ends
with a result or with a fault, or it is cut off and shows the machine as far as
it came. It is cut off by a bound that was chosen too small, which is no outcome
of a script, or by an assignment that the engine does not survive.

An engine may keep a journal of what it did, with its registers right after each
step. The journal plays no part in what the engine does: `Engine.record_eq` says
that recording changes nothing else.
Main statements: `Run.bind_done`, `Run.bind_fault` and `Run.bind_cut`, how
computations go on; `Engine.queue_enqueue` and `Engine.queue_of_dequeue?`, what
events do to the queue. -/

namespace HostScript

/-- A function that a script defined. -/
structure UserFunction where
  name : String
  params : List String
  body : List Stmt
  /-- The scope in which it was defined. -/
  closure : ScopeId

/-- What an engine is doing, or how its last run ended. -/
inductive RunState where
  | idle | running | completed | stopped | errored
  deriving DecidableEq, Repr

/-- Who takes events from the queue. -/
inductive Taker where
  /-- A batch of events that the host asked for. -/
  | batch
  /-- A suspended script. -/
  | suspension
  deriving DecidableEq

/-- What an engine did. -/
inductive Step where
  /-- An event was queued for a handler. -/
  | queued (fired : Fired)
  /-- An event was taken from the queue. -/
  | taken (taker : Taker) (fired : Fired)
  /-- A frame began: the top level, or the invocation of a handler for an event. -/
  | entered (now : Nat) (fired : Option Fired)
  | left
  /-- The time charged to the frame was checked. -/
  | checked (now elapsed : Nat) (passed : Bool)
  | statement (loc : Location)
  /-- A statement was reached and did not begin, because a stop is requested. -/
  | barred (loc : Location)
  /-- A round of a loop began, in a `while` loop with its test. -/
  | round
  | called (name : String)
  | returned
  /-- A call was refused: too many are active. -/
  | refused (name : String)
  /-- The frame was suspended, or went on. -/
  | suspended (now : Nat)
  | resumed (now : Nat)
  /-- A stop was requested. -/
  | stopped
  deriving DecidableEq

/-- The registers of an engine: where it executes, and what it has still to do. -/
structure Registers where
  scope : ScopeId
  callStack : List String
  /-- The queued events, first one first. -/
  queue : List Fired
  clock : RunClock
  state : RunState
  stopping : Bool
  handlerDepth : Nat
  deriving DecidableEq

/-- A moment in the life of an engine: what it did, and its registers right after that. -/
structure Moment where
  step : Step
  registers : Registers
  deriving DecidableEq

/-- An engine. -/
structure Engine where
  /-- The number of the engine on a bus. -/
  party : Party := 0
  limits : Limits := {}
  /-- Printed lines, when the host takes none. -/
  output : Array String := #[]
  /-- The errors of handlers. -/
  errors : Array String := #[]
  scopes : Scopes := ⟨#[{}]⟩
  /-- The scope of the top level. -/
  globals : ScopeId := 0
  /-- The scope of what is executing. -/
  scope : ScopeId := 0
  functions : List (String × UserFunction) := []
  /-- The functions whose calls are active in the current frame, innermost first. -/
  callStack : List String := []
  handlers : Registry := {}
  queue : Queue Fired := {}
  clock : RunClock := .stopped
  state : RunState := .idle
  /-- A stop is requested. -/
  stopping : Bool := false
  /-- The number of handler invocations that are active. -/
  handlerDepth : Nat := 0
  /-- The moments so far, newest first, if the engine keeps a journal. -/
  journal : Option (List Moment) := none

/-- An engine and its host. -/
structure Machine where
  engine : Engine := {}
  world : World := {}

/-- Why a computation is cut off. -/
inductive Cut where
  /-- The allowance is used up, or none would do, because what is waited for cannot come. -/
  | allowance
  /-- The key under which an object should get a value is the text of something that holds the
  object, and the object cannot be looked into while it is open for the assignment. Nothing
  that the program does comes after this. -/
  | entangled (object : Address) (index : Value)
  deriving DecidableEq

/-- How a computation ends. -/
inductive Outcome (α : Type) where
  | done (a : α) (m : Machine)
  | fault (f : Fault) (m : Machine)
  /-- The computation was cut off at this machine. -/
  | cut (why : Cut) (m : Machine)

namespace Outcome

variable {α : Type}

/-- The machine at the end. -/
def machine : Outcome α → Machine
  | .done _ m => m
  | .fault _ m => m
  | .cut _ m => m

/-- The result and the machine, if there is a result. -/
def done? : Outcome α → Option (α × Machine)
  | .done a m => some (a, m)
  | .fault _ _ => none
  | .cut _ _ => none

theorem done?_eq_some_iff {o : Outcome α} {a : α} {m : Machine} :
    o.done? = some (a, m) ↔ o = .done a m := by
  cases o with
  | done b m' => simp [done?]
  | fault f m' => simp [done?]
  | cut why m' => simp [done?]

end Outcome

/-- A computation on a machine. -/
def Run (α : Type) := Machine → Outcome α

namespace Run

variable {α β : Type}

/-- A result without effect. -/
def result (a : α) : Run α := fun m => .done a m

/-- Go on with the result of a computation. -/
@[inline] def andThen (x : Run α) (f : α → Run β) : Run β := fun m =>
  match x m with
  | .done a m => f a m
  | .fault e m => .fault e m
  | .cut why m => .cut why m

/-- A fault. -/
def raise (f : Fault) : Run α := fun m => .fault f m

/-- The result or fault of something that has no effect. -/
def ofExcept : Except Fault α → Run α
  | .ok a => result a
  | .error f => raise f

/-- Something about the machine. -/
@[inline] def view (f : Machine → α) : Run α := fun m => .done (f m) m

/-- Change the machine. -/
@[inline] def change (f : Machine → Machine) : Run Unit := fun m => .done () (f m)

/-- Change the machine and give a result. -/
@[inline] def update (f : Machine → α × Machine) : Run α := fun m =>
  let (a, m) := f m
  .done a m

/-- Give the faults of a computation a position, unless they have one. -/
@[inline] def located (loc : Location) (x : Run α) : Run α := fun m =>
  match x m with
  | .fault f m => .fault (f.located loc) m
  | o => o

/-- Do something to the machine after a computation, however it ends. -/
@[inline] def ensuring (x : Run α) (f : Machine → Machine) : Run α := fun m =>
  match x m with
  | .done a m => .done a (f m)
  | .fault e m => .fault e (f m)
  | .cut why m => .cut why m

end Run

instance : Monad Run where
  pure := Run.result
  bind := Run.andThen

namespace Run

variable {α β : Type} {x : Run α} {f : α → Run β} {m m' : Machine}

theorem bind_done {a : α} (h : x m = .done a m') : (x >>= f) m = f a m' := by
  change andThen x f m = f a m'
  simp only [andThen, h]

theorem bind_fault {e : Fault} (h : x m = .fault e m') : (x >>= f) m = .fault e m' := by
  change andThen x f m = .fault e m'
  simp only [andThen, h]

theorem bind_cut {why : Cut} (h : x m = .cut why m') : (x >>= f) m = .cut why m' := by
  change andThen x f m = .cut why m'
  simp only [andThen, h]

theorem bind_assoc {γ : Type} (x : Run α) (f : α → Run β) (g : β → Run γ) :
    (x >>= f) >>= g = x >>= fun a => f a >>= g := by
  funext m
  change andThen (andThen x f) g m = andThen x (fun a => andThen (f a) g) m
  simp only [andThen]
  cases x m <;> rfl

/-- A computation that goes on after another has a result when both have. -/
theorem bind_eq_done_iff {b : β} :
    (x >>= f) m = .done b m' ↔ ∃ a m₁, x m = .done a m₁ ∧ f a m₁ = .done b m' := by
  cases h : x m with
  | done a m₁ =>
    rw [bind_done h]
    constructor
    · intro hf
      exact ⟨a, m₁, rfl, hf⟩
    · rintro ⟨a', m₂, heq, hf⟩
      cases heq
      exact hf
  | fault e m₁ => simp [bind_fault h]
  | cut why m₁ => simp [bind_cut h]

end Run

namespace Engine

/-- The registers. -/
def registers (e : Engine) : Registers where
  scope := e.scope
  callStack := e.callStack
  queue := e.queue.toList
  clock := e.clock
  state := e.state
  stopping := e.stopping
  handlerDepth := e.handlerDepth

/-- Add a step to the journal, if there is one. -/
def record (e : Engine) (s : Step) : Engine :=
  match e.journal with
  | none => e
  | some past => { e with journal := some (⟨s, e.registers⟩ :: past) }

/-- Recording changes nothing but the journal. -/
theorem record_eq (e : Engine) (s : Step) :
    e.record s = { e with journal := e.journal.map (⟨s, e.registers⟩ :: ·) } := by
  obtain ⟨⟩ := e
  simp only [record]
  split <;> simp_all

/-- Queue an event for a handler. -/
def enqueue (e : Engine) (fired : Fired) : Engine :=
  { e with queue := e.queue.push fired }.record (.queued fired)

/-- Take the first queued event. -/
def dequeue? (e : Engine) (taker : Taker) : Option (Fired × Engine) :=
  match e.queue.pop? with
  | none => none
  | some (fired, queue) => some (fired, { e with queue }.record (.taken taker fired))

/-- A queued event comes after those that are queued already. -/
@[simp] theorem queue_enqueue (e : Engine) (fired : Fired) :
    (e.enqueue fired).queue.toList = e.queue.toList ++ [fired] := by
  simp [enqueue, record_eq]

/-- The event that is taken is the first one. -/
theorem queue_of_dequeue? {e e' : Engine} {taker : Taker} {fired : Fired}
    (h : e.dequeue? taker = some (fired, e')) : e.queue.toList = fired :: e'.queue.toList := by
  unfold dequeue? at h
  split at h
  · cases h
  · next f q hq =>
    simp only [Option.some.injEq, Prod.mk.injEq] at h
    obtain ⟨rfl, rfl⟩ := h
    simpa [record_eq] using Queue.toList_of_pop? hq

/-- Request a stop. -/
def requestStop (e : Engine) : Engine := { e with stopping := true }.record .stopped

/-- The function that a script defined under a name. -/
def function? (e : Engine) (name : String) : Option UserFunction := e.functions.lookup name

/-- Define a function, in place of one with the same name. -/
def define (e : Engine) (f : UserFunction) : Engine :=
  { e with functions := (f.name, f) :: e.functions.filter fun g => g.1 != f.name }

/-- The functions whose calls are active in the current frame, outermost first. -/
def activeCalls (e : Engine) : List String := e.callStack.reverse

end Engine

end HostScript
