import HostScript.Engine.Requests

/-! # Execution of statements

Before a statement the engine looks for a stop request and checks the time that
is charged to the frame. Bodies run in scopes of their own, and the scope that
was current before them is current after them, however they end.

Loops are recursions on their own counts; everything else is a recursion on the
statement. -/

namespace HostScript

/-- How a statement ends: by going on, or by a jump that leaves statements around it. -/
inductive Signal where
  | next
  | break
  | continue
  | return (v : Value)
  deriving DecidableEq

namespace Machine

/-- Enter a new child of a scope. -/
def enterChild (m : Machine) (parent : ScopeId) (vars : Bindings) : Machine :=
  match m with
  | ⟨e, w⟩ =>
    let (id, scopes) := e.scopes.extendWith parent vars
    ⟨{ e with scopes, scope := id }, w⟩

/-- Make a scope the current one. -/
def withScope (m : Machine) (scope : ScopeId) : Machine :=
  match m with
  | ⟨e, w⟩ => ⟨{ e with scope }, w⟩

/-- The fault of the frame if its budget is used up. -/
def timeoutFault? (m : Machine) : Option Fault :=
  m.engine.limits.timeoutFault? m.engine.clock m.world.now

/-- Print a line: to the host, or to the output of the engine. -/
def print (m : Machine) (text : String) : Machine :=
  match m with
  | ⟨e, w⟩ =>
    if w.hasSink then ⟨e, w.note (.print text)⟩
    else ⟨{ e with output := e.output.push text }, w⟩

end Machine

namespace Run

/-- Run a computation in a new child of a scope. -/
def inChildOf {α : Type} (parent : ScopeId) (vars : Bindings) (x : Run α) : Run α := fun m =>
  let saved := m.engine.scope
  x.ensuring (fun m => m.withScope saved) (m.enterChild parent vars)

/-- Run a computation in a new child of the current scope. -/
def inChild {α : Type} (vars : Bindings) (x : Run α) : Run α := fun m =>
  x.inChildOf m.engine.scope vars m

/-- Check the time that is charged to the frame. -/
def checkTime : Run Unit := fun m =>
  match m.timeoutFault? with
  | some f => .fault f (m.record (.checked m.world.now (m.engine.clock.elapsed m.world.now) false))
  | none => .done () (m.record (.checked m.world.now (m.engine.clock.elapsed m.world.now) true))

/-- Leave a statement undone, because a stop is requested. -/
def bar (loc : Location) : Run Signal := fun m => .fault .cancelled (m.record (.barred loc))

/-- Execute a statement, unless a stop is requested or the budget is used up. -/
def statement (loc : Location) (body : Run Signal) : Run Signal := fun m =>
  if m.engine.stopping then bar loc m
  else located loc (do checkTime; change fun m => m.record (.statement loc); body) m

/-- Begin a round of a loop, unless the budget is used up. -/
def beginRound : Run Unit := do
  checkTime
  change fun m => m.record .round

/-- Go through the rounds of a loop whose rounds are known beforehand. A round may end the
loop by `break`, and a `return` in it ends more than the loop. -/
def forRounds {α : Type} (body : α → Run Signal) : List α → Run Signal
  | [], m => .done .next m
  | a :: rest, m =>
    match beginRound m with
    | .fault f m => .fault f m
    | .cut why m => .cut why m
    | .done () m =>
      match body a m with
      | .done .next m => forRounds body rest m
      | .done .continue m => forRounds body rest m
      | .done .break m => .done .next m
      | .done (.return v) m => .done (.return v) m
      | .fault f m => .fault f m
      | .cut why m => .cut why m

/-- Go through `left` rounds of a loop, numbered from `i`. -/
def countRounds (body : Nat → Run Signal) : (left i : Nat) → Run Signal
  | 0, _, m => .done .next m
  | left + 1, i, m =>
    match beginRound m with
    | .fault f m => .fault f m
    | .cut why m => .cut why m
    | .done () m =>
      match body i m with
      | .done .next m => countRounds body left (i + 1) m
      | .done .continue m => countRounds body left (i + 1) m
      | .done .break m => .done .next m
      | .done (.return v) m => .done (.return v) m
      | .fault f m => .fault f m
      | .cut why m => .cut why m

/-- The fault of a `while` loop with too many rounds. -/
def tooManyRounds (limit : Nat) : Fault :=
  (Fault.runtime s!"while loop exceeded {limit} iterations").withHint
    "make sure the loop condition eventually becomes false"

/-- Go through rounds of a loop while a test holds, with its body at most `left` times. The test
belongs to the round that it begins. -/
def whileRounds (limit : Nat) (test : Run Value) (body : Run Signal) : (left : Nat) → Run Signal
  | left, m =>
    match (do beginRound; test : Run Value) m with
    | .fault f m => .fault f m
    | .cut why m => .cut why m
    | .done v m =>
      if v.isTruthy then
        match left with
        | 0 => .fault (tooManyRounds limit) m
        | left + 1 =>
          match body m with
          | .done .next m => whileRounds limit test body left m
          | .done .continue m => whileRounds limit test body left m
          | .done .break m => .done .next m
          | .done (.return v) m => .done (.return v) m
          | .fault f m => .fault f m
          | .cut why m => .cut why m
      else .done .next m

/-- Run a computation, and after a failure another one with its message. A stop passes. -/
def attempt (x : Run Signal) (otherwise : String → Run Signal) : Run Signal := fun m =>
  match x m with
  | .fault .cancelled m => .fault .cancelled m
  | .fault (.failure k d) m => otherwise (Fault.failure k d).message m
  | o => o

/-- Bind a name in the current scope. -/
def declareName (name : String) (v : Value) : Run Unit := change fun
  | ⟨e, w⟩ => ⟨{ e with scopes := e.scopes.set e.scope name v }, w⟩

/-- The value that an assignment writes, given the old one and the right-hand side. -/
def combined (op : AssignOp) (old : Machine → Except Fault Value) (v : Value) : Run Value :=
  match op.operator? with
  | none => .result v
  | some o => check fun m => do
    let before ← old m
    m.world.heap.binary o before v

/-- Open a container for an assignment at an index. The text of the index, which is the key in an
object, cannot be written any more if that looks into the object. -/
def openAt (base index : Value) : Run Unit := fun m =>
  match base with
  | .object a =>
    if m.world.heap.looksInto a index then .cut (.entangled a index) m else .done () m
  | _ => .done () m

/-- Opening a container changes nothing, and cuts off what looks into an object while it is open. -/
theorem openAt_cases (base index : Value) (m : Machine) :
    openAt base index m = .done () m ∨
      ∃ a, base = .object a ∧ m.world.heap.looksInto a index = true ∧
        openAt base index m = .cut (.entangled a index) m := by
  cases base with
  | object a =>
    simp only [openAt]
    split
    · next looks => exact .inr ⟨a, rfl, looks, rfl⟩
    · exact .inl rfl
  | _ => exact .inl rfl

/-- Write a value to a place on the heap. -/
def writeSlot (slot : Machine → Except Fault Heap.Slot) (v : Value) : Run Unit := fun m =>
  match slot m with
  | .error f => .fault f m
  | .ok s =>
    match m with
    | ⟨e, w⟩ => .done () ⟨e, { w with heap := w.heap.write s v }⟩

/-- Define a function, unless its name is taken by the host or a builtin. -/
def define (name : String) (params : List String) (body : List Stmt) : Run Unit := fun m =>
  if (Builtin.ofName? name).isSome || (m.world.function? name).isSome then
    .fault ((Fault.runtime s!"cannot redefine builtin function '{name}'").withHint
      "choose a different function name") m
  else match m with
    | ⟨e, w⟩ => .done () ⟨e.define { name, params, body, closure := e.scope }, w⟩

/-- Register a handler, unless there are too many. -/
def addHandler (event : String) (body : List Stmt) : Run Unit := fun m =>
  if m.engine.limits.allowsHandler m.engine.handlers.size then .done () (m.register event body)
  else .fault ((Fault.runtime
      s!"too many event handlers (limit {m.engine.limits.maxEventHandlers})").withHint
    "remove unused handlers or raise `max_event_handlers`") m

/-- The elements that a loop visits. -/
def elementsOf (v : Value) : Run (List Value) := check fun m =>
  match m.world.heap.elements? v with
  | some items => .ok items.toList
  | none => .error (.runtime s!"cannot iterate over {v.typeName}")

/-- Go on after a computation without a result. -/
@[inline] def thenNext (x : Run Unit) : Run Signal := do x; return .next

end Run

/-- Assign a value to a target. -/
def assign (sv : Services) (op : AssignOp) (v : Value) : Target → Run Unit
  | .var name => do
    let v ← Run.combined op (fun m => m.engine.scopes.get m.engine.scope name) v
    Run.assignName name v
  | .member base key => do
    let b ← eval sv base
    let v ← Run.combined op (fun m => m.world.heap.member b key) v
    Run.writeSlot (fun _ => Heap.memberSlot b key) v
  | .index base position => do
    let b ← eval sv base
    let i ← eval sv position
    let v ← Run.combined op (fun m => .ok (m.world.heap.index b i)) v
    Run.openAt b i
    Run.writeSlot (fun m => m.world.heap.indexSlot b i) v

mutual

/-- Execute a statement. -/
def exec (sv : Services) : Stmt → Run Signal
  | .block loc body => .statement loc (.inChild [] (execAll sv body))
  | .set loc target op value => .statement loc do
    let v ← eval sv value
    (assign sv op v target).thenNext
  | .declare loc name value => .statement loc do
    let v ← eval sv value
    (Run.declareName name v).thenNext
  | .print loc value => .statement loc do
    let text ← evalText sv value
    Run.thenNext (.change fun m => m.print text)
  | .cond loc test thenBody elseBody => .statement loc do
    let v ← eval sv test
    if v.isTruthy then Run.inChild [] (execAll sv thenBody)
    else match elseBody with
      | some body => Run.inChild [] (execAll sv body)
      | none => return .next
  | .loop loc count body => .statement loc do
    let v ← eval sv count
    let n ← Run.view fun m => m.engine.limits.clampIterations v.toNumber
    Run.countRounds (fun i => .inChild [("i", .number (Number.ofNat i))] (execAll sv body)) n 0
  | .while loc test body => .statement loc do
    let limit ← Run.view fun m => m.engine.limits.maxLoopIterations
    Run.whileRounds limit (eval sv test) (.inChild [] (execAll sv body)) limit
  | .foreach loc var items body => .statement loc do
    let v ← eval sv items
    let elements ← Run.elementsOf v
    Run.forRounds (fun x => .inChild [(var, x)] (execAll sv body)) elements
  | .break loc => .statement loc (.result .break)
  | .continue loc => .statement loc (.result .continue)
  | .return loc value => .statement loc do
    let v ← evalOr sv .undefined value
    return .return v
  | .define loc name params body => .statement loc (Run.define name params body).thenNext
  | .expr loc value => .statement loc do
    let _ ← eval sv value
    return .next
  | .attempt loc body var handler => .statement loc <|
    .attempt (.inChild [] (execAll sv body)) fun message =>
      .inChild [(var, .text message)] (execAll sv handler)
  | .on loc event body => .statement loc do
    let name ← evalText sv event
    (Run.addHandler name body).thenNext
  | .host loc r => .statement loc (request sv r).thenNext

/-- Execute statements in order, up to the first that jumps. -/
def execAll (sv : Services) : List Stmt → Run Signal
  | [] => .result .next
  | s :: rest => do
    match ← exec sv s with
    | .next => execAll sv rest
    | signal => return signal

end

end HostScript
