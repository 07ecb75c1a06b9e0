import HostScript.Engine.Operations
import HostScript.Proofs.Storage.Growth
import Mathlib.Data.Set.Insert

/-!
# The evolution of a machine

Whatever a script does, the machine changes by a few kinds of moves and by frames:
a body in a scope of its own, a call, a suspension, the invocation of a handler.
A frame opens, the machine evolves inside it, and closing it puts back what was
replaced. `Evolves` holds of a machine and what it becomes after a whole number of
moves and frames, and `Passes` of a machine and what it is at a moment within them.

## Implementation notes

Both relations allow more than any one script does. Laws of the engine are proved
for all evolutions; that every computation is one is proved once, for all laws.
The relations name the variables that the current scope itself may get, so that
names which are bound in inner frames stay apart from them.
-/

namespace HostScript

/-- Worlds that agree in time, in the heap, in what the host will do, and in who listens. What
was delivered to other parties in between went to somebody who listens. -/
structure World.Alike (w w' : World) : Prop where
  now : w'.now = w.now
  heap : w'.heap = w.heap
  timeline : w'.timeline = w.timeline
  listeners : w'.bus.map Bus.subscriptions = w.bus.map Bus.subscriptions
  nextIds : w'.bus.map Bus.nextId = w.bus.map Bus.nextId
  delivered : ∀ d ∈ w'.outbox, d ∈ w.outbox ∨
    ∃ bus ∈ w.bus, ∃ s ∈ bus.subscriptions, s.listener = d.1

theorem World.Alike.of_bus_eq {w w' : World} (now : w'.now = w.now) (heap : w'.heap = w.heap)
    (timeline : w'.timeline = w.timeline) (bus : w'.bus = w.bus)
    (outbox : w'.outbox = w.outbox := by rfl) : w.Alike w' :=
  ⟨now, heap, timeline, by rw [bus], by rw [bus], fun d hd => .inl (outbox ▸ hd)⟩

/-- Emissions reach the handler: through the bus, or without one because it is there. -/
def Machine.Reaches (m : Machine) (id : HandlerId) : Prop :=
  match m.world.bus with
  | some bus => ∃ s ∈ bus.subscriptions, s.listener = ⟨m.engine.party, id⟩
  | none => ∃ h ∈ m.engine.handlers.handlers, h.id = id

/-- The least that a computation can do to a machine; `names` are the variables that the
current scope may get. -/
inductive Move (names : Set String) : Machine → Machine → Prop
  | host {e : Engine} {w w' : World} (alike : w.Alike w') : Move names ⟨e, w⟩ ⟨e, w'⟩
  | heap {e : Engine} {w : World} {heap : Heap} (advances : w.heap.Advances heap) :
      Move names ⟨e, w⟩ ⟨e, { w with heap }⟩
  | time {e : Engine} {w : World} {now : Nat} (later : w.now ≤ now) :
      Move names ⟨e, w⟩ ⟨e, { w with now }⟩
  | timeline {e : Engine} {w : World} {rest : List (Nat × HostMove)}
      (suffix : rest <:+ w.timeline) : Move names ⟨e, w⟩ ⟨e, { w with timeline := rest }⟩
  | output (e : Engine) (w : World) (output : Array String) :
      Move names ⟨e, w⟩ ⟨{ e with output }, w⟩
  | errors (e : Engine) (w : World) (errors : Array String) :
      Move names ⟨e, w⟩ ⟨{ e with errors }, w⟩
  | checked (m : Machine) : Move names m
      (m.record (.checked m.world.now (m.engine.clock.elapsed m.world.now)
        m.timeoutFault?.isNone))
  | statement {m : Machine} (loc : Location) (running : m.engine.stopping = false)
      (inTime : m.timeoutFault? = none) : Move names m (m.record (.statement loc))
  | bar {m : Machine} (loc : Location) (pending : m.engine.stopping = true) :
      Move names m (m.record (.barred loc))
  | round (m : Machine) : Move names m (m.record .round)
  | refuseCall {m : Machine} (name : String)
      (full : m.engine.limits.allowsCall m.engine.callStack.length = false) :
      Move names m (m.record (.refused name))
  | declare {e : Engine} {w : World} {name : String} (v : Value) (mem : name ∈ names) :
      Move names ⟨e, w⟩ ⟨{ e with scopes := e.scopes.set e.scope name v }, w⟩
  | assign {e : Engine} {w : World} {name : String} (v : Value) (mem : name ∈ names) :
      Move names ⟨e, w⟩ ⟨{ e with scopes := e.scopes.assign e.scope name v }, w⟩
  | define (e : Engine) (w : World) (name : String) (params : List String) (body : List Stmt) :
      Move names ⟨e, w⟩ ⟨e.define { name, params, body, closure := e.scope }, w⟩
  | register {m : Machine} (event : String) (body : List Stmt)
      (room : m.engine.limits.allowsHandler m.engine.handlers.size = true) :
      Move names m (m.register event body)
  | enqueue {e : Engine} {w : World} (fired : Fired)
      (reached : Machine.Reaches ⟨e, w⟩ fired.handler) : Move names ⟨e, w⟩ ⟨e.enqueue fired, w⟩
  | stop (m : Machine) : Move names m m.requestStop
  | refuse {e e' : Engine} {w : World} {taker : Taker} {fired : Fired}
      (taken : e.dequeue? taker = some (fired, e'))
      (refused : e'.handlers.get? fired.handler = none ∨
        taker = .suspension ∧ e'.stopping = true) :
      Move names ⟨e, w⟩ ⟨e', w⟩

/-- A frame that can open: the variables that the scope current inside it may get, the
machine right inside it, and what closing it does. At most `limit` handlers nest. -/
inductive Frame (limit : Nat) :
    Set String → Machine → (inside : Machine) → (close : Machine → Machine) → Prop
  | child {names : Set String} (m : Machine) (vars : Bindings) :
      Frame limit names m (m.enterChild m.engine.scope vars) (·.withScope m.engine.scope)
  | call {names : Set String} {m : Machine} {name : String} {f : UserFunction}
      (args : List Value) (found : m.engine.function? name = some f)
      (room : m.engine.limits.allowsCall m.engine.callStack.length = true) :
      Frame limit names m
        ((m.pushCall f.name).enterChild f.closure (bindParams f.params args []))
        (fun m' => (m'.withScope m.engine.scope).popCall)
  | suspension (m : Machine) : Frame limit ∅ m m.suspend (·.resume m.world.now)
  | handler {names : Set String} {e e' : Engine} {w : World} {taker : Taker} {fired : Fired}
      {h : Handler} (room : e.handlerDepth < limit) (taken : e.dequeue? taker = some (fired, e'))
      (found : e'.handlers.get? fired.handler = some h) (running : e'.stopping = false) :
      Frame limit names ⟨e, w⟩ (Machine.enterHandler ⟨e', w⟩ h fired.payload)
        (·.leaveHandler e'.scope e'.callStack e'.clock)

/-- What a machine can become by moves and frames that have closed. -/
inductive Evolves (limit : Nat) : Set String → Machine → Machine → Prop
  | refl {names : Set String} (m : Machine) : Evolves limit names m m
  | trans {names : Set String} {m₁ m₂ m₃ : Machine} (first : Evolves limit names m₁ m₂)
      (then_ : Evolves limit names m₂ m₃) : Evolves limit names m₁ m₃
  | move {names : Set String} {m m' : Machine} (step : Move names m m') :
      Evolves limit names m m'
  | frame {names inner : Set String} {m inside m' : Machine} {close : Machine → Machine}
      (opened : Frame limit inner m inside close) (body : Evolves limit inner inside m') :
      Evolves limit names m (close m')

/-- What a machine can be at a moment when frames may be open. -/
inductive Passes (limit : Nat) : Machine → Machine → Prop
  | here {names : Set String} {m m' : Machine} (done : Evolves limit names m m') :
      Passes limit m m'
  | inside {names inner : Set String} {m m₁ inside m' : Machine} {close : Machine → Machine}
      (done : Evolves limit names m m₁) (opened : Frame limit inner m₁ inside close)
      (body : Passes limit inside m') : Passes limit m m'

section Laws

variable {limit : Nat} {names : Set String} {m m₁ m' : Machine}

theorem Move.mono {wider : Set String} (sub : names ⊆ wider) (h : Move names m m') :
    Move wider m m' := by
  cases h with
  | host alike => exact .host alike
  | heap advances => exact .heap advances
  | time later => exact .time later
  | timeline suffix => exact .timeline suffix
  | output e w output => exact .output e w output
  | errors e w errors => exact .errors e w errors
  | checked => exact .checked m
  | statement loc running inTime => exact .statement loc running inTime
  | bar loc pending => exact .bar loc pending
  | round => exact .round m
  | refuseCall name full => exact .refuseCall name full
  | declare v mem => exact .declare v (sub mem)
  | assign v mem => exact .assign v (sub mem)
  | define e w name params body => exact .define e w name params body
  | register event body room => exact .register event body room
  | enqueue fired reached => exact .enqueue fired reached
  | stop => exact .stop m
  | refuse taken refused => exact .refuse taken refused

theorem Evolves.mono {wider : Set String} (sub : names ⊆ wider) (h : Evolves limit names m m') :
    Evolves limit wider m m' := by
  induction h with
  | refl m => exact .refl m
  | trans _ _ first then_ => exact (first sub).trans (then_ sub)
  | move step => exact .move (step.mono sub)
  | frame opened body _ => exact .frame opened body

theorem Passes.after (first : Evolves limit names m m₁) (h : Passes limit m₁ m') :
    Passes limit m m' := by
  cases h with
  | here done =>
      exact .here ((first.mono (Set.subset_univ _)).trans (done.mono (Set.subset_univ _)))
  | inside done opened body =>
      exact .inside ((first.mono (Set.subset_univ _)).trans (done.mono (Set.subset_univ _)))
        opened body

theorem Passes.opened {inner : Set String} {inside : Machine} {close : Machine → Machine}
    (opened : Frame limit inner m inside close) (h : Passes limit inside m') :
    Passes limit m m' :=
  .inside (.refl m : Evolves limit ∅ m m) opened h

/-- A property that every move keeps, and every opening and closing of a frame. -/
structure Steady (limit : Nat) (I : Machine → Prop) : Prop where
  move : ∀ {names : Set String} {m m' : Machine}, Move names m m' → I m → I m'
  opens : ∀ {names : Set String} {m inside : Machine} {close : Machine → Machine},
    Frame limit names m inside close → I m → I inside
  closes : ∀ {names : Set String} {m inside m' : Machine} {close : Machine → Machine},
    Frame limit names m inside close → I m' → I (close m')

/-- A steady property holds after an evolution if it holds before it. -/
theorem Steady.evolves {I : Machine → Prop} (steady : Steady limit I)
    (h : Evolves limit names m m') (before : I m) : I m' := by
  induction h with
  | refl m => exact before
  | trans _ _ first then_ => exact then_ (first before)
  | move step => exact steady.move step before
  | frame opened _ body =>
      have inside := steady.opens opened before
      exact steady.closes opened (body inside)

/-- A steady property holds at every moment if it holds at first. -/
theorem Steady.passes {I : Machine → Prop} (steady : Steady limit I)
    (h : Passes limit m m') (before : I m) : I m' := by
  induction h with
  | here done => exact steady.evolves done before
  | inside done opened _ body =>
      have at_opening := steady.evolves done before
      exact body (steady.opens opened at_opening)

end Laws

/-! ### What is given back -/

/-- The registers and settings that are again as they were. -/
structure Machine.Restored (m m' : Machine) : Prop where
  scope : m'.engine.scope = m.engine.scope
  callStack : m'.engine.callStack = m.engine.callStack
  handlerDepth : m'.engine.handlerDepth = m.engine.handlerDepth
  state : m'.engine.state = m.engine.state
  globals : m'.engine.globals = m.engine.globals
  limits : m'.engine.limits = m.engine.limits
  party : m'.engine.party = m.engine.party

/-- Taking an event changes the queue and the journal, and nothing else. -/
theorem Engine.eq_of_dequeue? {e e' : Engine} {taker : Taker} {fired : Fired}
    (h : e.dequeue? taker = some (fired, e')) :
    ∃ queue journal, e' = { e with queue, journal } := by
  unfold Engine.dequeue? at h
  split at h
  · cases h
  · simp only [Option.some.injEq, Prod.mk.injEq] at h
    rw [Engine.record_eq] at h
    exact ⟨_, _, h.2.symm⟩

theorem Machine.restored_register (m : Machine) (event : String) (body : List Stmt) :
    m.Restored (m.register event body) := by
  obtain ⟨e, w⟩ := m
  simp only [Machine.register]
  split
  · exact ⟨rfl, rfl, rfl, rfl, rfl, rfl, rfl⟩
  · exact ⟨rfl, rfl, rfl, rfl, rfl, rfl, rfl⟩

theorem Machine.restored_of_journal {e e' : Engine} {w w' : World}
    (h : ∃ queue stopping journal, e' = { e with queue, stopping, journal }) :
    Machine.Restored ⟨e, w⟩ ⟨e', w'⟩ := by
  obtain ⟨queue, stopping, journal, rfl⟩ := h
  exact ⟨rfl, rfl, rfl, rfl, rfl, rfl, rfl⟩

section Restored

variable {limit : Nat} {names : Set String} {m m' inside : Machine} {close : Machine → Machine}

theorem Move.restored (h : Move names m m') : m.Restored m' := by
  cases h with
  | register event body room => exact m.restored_register event body
  | refuse taken refused =>
      obtain ⟨queue, journal, rfl⟩ := Engine.eq_of_dequeue? taken
      exact ⟨rfl, rfl, rfl, rfl, rfl, rfl, rfl⟩
  | checked | statement | bar | round | refuseCall =>
      exact Machine.restored_of_journal ⟨_, _, _, Engine.record_eq _ _⟩
  | enqueue | stop =>
      exact Machine.restored_of_journal ⟨_, _, _, Engine.record_eq _ _⟩
  | _ => exact ⟨rfl, rfl, rfl, rfl, rfl, rfl, rfl⟩

/-- Closing a frame gives back what opening it replaced. -/
theorem Frame.restored (opened : Frame limit names m inside close) (body : inside.Restored m') :
    m.Restored (close m') := by
  cases opened with
  | child vars =>
      exact ⟨rfl, body.callStack, body.handlerDepth, body.state, body.globals, body.limits,
        body.party⟩
  | call args found room =>
      simp only [Machine.pushCall, Machine.enterChild, Engine.record_eq] at body
      simp only [Machine.popCall, Machine.withScope, Engine.record_eq]
      exact ⟨rfl, by simp [body.callStack], body.handlerDepth, body.state, body.globals,
        body.limits, body.party⟩
  | suspension =>
      simp only [Machine.suspend, Machine.record, Engine.record_eq] at body
      simp only [Machine.resume, Engine.record_eq]
      exact ⟨body.scope, body.callStack, body.handlerDepth, body.state, body.globals,
        body.limits, body.party⟩
  | handler room taken found running =>
      obtain ⟨queue, journal, rfl⟩ := Engine.eq_of_dequeue? taken
      simp only [Machine.enterHandler, Machine.enterChild, Engine.record_eq] at body
      simp only [Machine.leaveHandler, Engine.record_eq]
      exact ⟨rfl, rfl, by simp [body.handlerDepth], body.state, body.globals, body.limits,
        body.party⟩

theorem Evolves.restored (h : Evolves limit names m m') : m.Restored m' := by
  induction h with
  | refl m => exact ⟨rfl, rfl, rfl, rfl, rfl, rfl, rfl⟩
  | trans _ _ first then_ =>
      exact ⟨then_.scope.trans first.scope, then_.callStack.trans first.callStack,
        then_.handlerDepth.trans first.handlerDepth, then_.state.trans first.state,
        then_.globals.trans first.globals, then_.limits.trans first.limits,
        then_.party.trans first.party⟩
  | move step => exact step.restored
  | frame opened _ body => exact opened.restored body

end Restored

end HostScript
