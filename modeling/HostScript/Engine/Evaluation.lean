import HostScript.Builtin
import HostScript.Engine.Events
import HostScript.Value.Operators

/-! # Evaluation of expressions

Operands are evaluated from left to right. A call looks for a function of the
host, then for a builtin, then for a function that the script defined.

Calls of such functions and waiting lead out of the expression, so evaluation
takes both as `Services`, and is itself a recursion on the expression. -/

namespace HostScript

/-- What a suspended script gets: a value of the host, or an error text. -/
abbrev Reply := Except String HostValue

/-- What a suspended script waits for: possible endings with their times. Of those whose
time has come, the first in the list counts. -/
abbrev Awaited := List (Nat × Reply)

namespace Awaited

/-- The ending that has come. -/
def ready? (a : Awaited) (now : Nat) : Option Reply :=
  (a.find? fun e => e.1 ≤ now).map Prod.snd

/-- The time of the earliest ending. -/
def wakeTime? (a : Awaited) : Option Nat := (a.map Prod.fst).min?

/-- Waiting until a time. -/
def timer (deadline : Nat) : Awaited := [(deadline, .ok (.value .undefined))]

end Awaited

/-- What leads out of a syntax tree. -/
structure Services where
  /-- Call a function that a script defined. -/
  call : UserFunction → List Value → Run Value
  /-- Wait, handling events meanwhile. -/
  await : Awaited → Run Reply

namespace Run

/-- The result or fault of something that depends on the machine but does not change it. -/
@[inline] def check {α : Type} (f : Machine → Except Fault α) : Run α := fun m =>
  match f m with
  | .ok a => .done a m
  | .error e => .fault e m

/-- The text of a value. -/
def textOf (v : Value) : Run String := view fun m => m.world.heap.display v

/-- The value of a name. -/
def readName (name : String) : Run Value :=
  check fun m => m.engine.scopes.get m.engine.scope name

/-- A new array. -/
def newArray (items : List Value) : Run Value := update fun
  | ⟨e, w⟩ =>
    let (v, heap) := w.heap.newArray items.toArray
    (v, ⟨e, { w with heap }⟩)

/-- A new object. -/
def newObject (entries : List (String × Value)) : Run Value := update fun
  | ⟨e, w⟩ =>
    let (v, heap) := w.heap.newObject entries
    (v, ⟨e, { w with heap }⟩)

/-- The value of a host function that has answered. -/
def receive (name : String) : Reply → Run Value
  | .ok v => update fun
    | ⟨e, w⟩ =>
      let (v, w) := w.receive v
      (v, ⟨e, w⟩)
  | .error message => raise (.runtime s!"{name}: {message}")

end Run

namespace Machine

/-- The text of a template; a name without a binding stays as it is written. -/
def templateText (m : Machine) : List TemplatePart → String
  | [] => ""
  | .text s :: rest => s ++ m.templateText rest
  | .var name :: rest =>
    (match m.engine.scopes.lookup m.engine.scope name with
      | some v => m.world.heap.display v
      | none => "$" ++ name) ++ m.templateText rest

/-- Begin a suspension. -/
def suspend (m : Machine) : Machine := m.record (.suspended m.world.now)

/-- End a suspension that began at `started`: its time is not charged. -/
def resume (m : Machine) (started : Nat) : Machine :=
  match m with
  | ⟨e, w⟩ =>
    ⟨{ e with clock := e.clock.exclude (w.now - started) }.record (.resumed w.now), w⟩

end Machine

namespace Services

/-- Suspend the script until an ending has come. -/
def suspend (sv : Services) (a : Awaited) : Run Reply := fun m =>
  let started := m.world.now
  (sv.await a).ensuring (fun m => m.resume started) m.suspend

/-- Call a function of the host. -/
def callHost (sv : Services) (f : HostFunction) (args : List Value) : Run Value := fun m =>
  let reply := f.answer
    { args, heap := m.world.heap, now := m.world.now, earlier := f.calls }
  let m := match m with
    | ⟨e, w⟩ => reply.acts.foldl Machine.act ⟨e, w.countCall f.name⟩
  match reply.delay with
  | none => Run.receive f.name reply.result m
  | some ms =>
    Run.andThen (sv.suspend [(m.world.now + ms, reply.result)]) (Run.receive f.name) m

/-- Call a builtin. -/
def callBuiltin (b : Builtin) (args : List Value) : Run Value := fun
  | ⟨e, w⟩ =>
    match b.call (w.epoch + w.now) args w.heap with
    | (.ok v, heap) => .done v ⟨e, { w with heap }⟩
    | (.error message, heap) => .fault (.runtime message) ⟨e, { w with heap }⟩

/-- The fault of a call of a function that does not exist. -/
def unknownFunction (name : String) : Fault :=
  (Fault.runtime s!"unknown function '{name}'").withHint
    ("define it first with `def " ++ name ++ "(...) \x7b ... \x7d`")

/-- Call a function by name. -/
def callByName (sv : Services) (name : String) (args : List Value) : Run Value := fun m =>
  match m.world.function? name with
  | some f => sv.callHost f args m
  | none =>
    match Builtin.ofName? name with
    | some b => callBuiltin b args m
    | none =>
      match m.engine.function? name with
      | some f => sv.call f args m
      | none => .fault (unknownFunction name) m

end Services

/-- The value of a base that is indexed: `undefined` and `null` cannot be. -/
def indexable (base : Value) : Except Fault Unit :=
  match base with
  | .undefined | .null => .error (.runtime s!"cannot index into {base.typeName}")
  | _ => .ok ()

mutual

/-- Evaluate an expression. -/
def eval (sv : Services) : Expr → Run Value
  | .lit _ v => .result v.toValue
  | .var loc name => .located loc (.readName name)
  | .group loc e => .located loc (eval sv e)
  | .template _ parts => .view fun m => .text (m.templateText parts)
  | .unary loc op e => .located loc do
    let v ← eval sv e
    return Heap.unary op v
  | .binary loc .both l r => .located loc do
    let v ← eval sv l
    if v.isTruthy then eval sv r else return v
  | .binary loc .either l r => .located loc do
    let v ← eval sv l
    if v.isTruthy then return v else eval sv r
  | .binary loc op l r => .located loc do
    let a ← eval sv l
    let b ← eval sv r
    Run.check fun m => m.world.heap.binary op a b
  | .array loc items => .located loc do
    let values ← evalAll sv items
    Run.newArray values
  | .object loc entries => .located loc do
    let values ← evalEntries sv entries
    Run.newObject values
  | .member loc base key => .located loc do
    let b ← eval sv base
    Run.check fun m => m.world.heap.member b key
  | .index loc base position => .located loc do
    let b ← eval sv base
    let i ← eval sv position
    Run.ofExcept (indexable b)
    Run.view fun m => m.world.heap.index b i
  | .call loc name args => .located loc do
    let values ← evalAll sv args
    sv.callByName name values

/-- Evaluate expressions from left to right. -/
def evalAll (sv : Services) : List Expr → Run (List Value)
  | [] => .result []
  | e :: rest => do
    let v ← eval sv e
    let vs ← evalAll sv rest
    return v :: vs

/-- Evaluate the entries of an object from left to right. -/
def evalEntries (sv : Services) : List (String × Expr) → Run (List (String × Value))
  | [] => .result []
  | (k, e) :: rest => do
    let v ← eval sv e
    let vs ← evalEntries sv rest
    return (k, v) :: vs

end

/-- Evaluate an expression if there is one. -/
def evalOr (sv : Services) (otherwise : Value) : Option Expr → Run Value
  | some e => eval sv e
  | none => .result otherwise

/-- Evaluate an expression to a text. -/
def evalText (sv : Services) (e : Expr) : Run String := do
  let v ← eval sv e
  Run.textOf v

end HostScript
