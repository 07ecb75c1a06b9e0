import HostScript.Proofs.Chains
import HostScript.Proofs.Evolution.Execution

/-!
# Handlers are isolated

The invocation of a handler ends without a fault, gives back the registers of the
execution that it interrupts, and changes the bindings of no scope except those that a
handler or a function had captured before.

## Implementation notes

The proof follows a set of scopes that an execution cannot leave. The set has the
current scope and every captured scope, it has the parents of its scopes, and it has
whatever scope is made later. Nothing is bound outside it.
-/

namespace HostScript

/-- The scope lies on the chain of the closure of a handler or of a function. -/
def Engine.Captured (e : Engine) (id : ScopeId) : Prop :=
  (∃ h ∈ e.handlers.handlers, e.scopes.OnChain h.closure id) ∨
    ∃ f ∈ e.functions, e.scopes.OnChain f.2.closure id

/-- An engine that cannot leave the scopes of `S`. -/
structure Engine.Confined (S : Set ScopeId) (e : Engine) : Prop where
  scope : e.scope ∈ S
  handlers : ∀ h ∈ e.handlers.handlers, h.closure ∈ S
  functions : ∀ f ∈ e.functions, f.2.closure ∈ S
  parents : ∀ id ∈ S, ∀ p, e.scopes.parent? id = some p → p ∈ S
  later : ∀ id, e.scopes.cells.size ≤ id → id ∈ S

/-- The change from one engine to the next stays within the scopes of `S`. -/
structure Engine.Within (S : Set ScopeId) (e e' : Engine) : Prop where
  confined : e'.Confined S
  locals : ∀ id ∉ S, e'.scopes.locals id = e.scopes.locals id

section Confinement

variable {limit : Nat} {names : Set String} {S : Set ScopeId} {e e' : Engine}

/-- An engine in which nothing about scopes has changed is confined as before. -/
theorem Engine.Confined.within_of_eq (h : e.Confined S) (scope : e'.scope = e.scope)
    (handlers : e'.handlers = e.handlers) (functions : e'.functions = e.functions)
    (scopes : e'.scopes = e.scopes) : Engine.Within S e e' := by
  refine ⟨⟨?_, ?_, ?_, ?_, ?_⟩, ?_⟩
  · rw [scope]; exact h.scope
  · rw [handlers]; exact h.handlers
  · rw [functions]; exact h.functions
  · rw [scopes]; exact h.parents
  · rw [scopes]; exact h.later
  · intro id _
    rw [scopes]

theorem Engine.Confined.within_record (h : e.Confined S) (s : Step) :
    Engine.Within S e (e.record s) := by
  rw [Engine.record_eq]
  exact h.within_of_eq rfl rfl rfl rfl

theorem Engine.Confined.within_set (h : e.Confined S) {id : ScopeId} (mem : id ∈ S)
    (name : String) (v : Value) :
    Engine.Within S e { e with scopes := e.scopes.set id name v } := by
  refine ⟨⟨h.scope, h.handlers, h.functions, ?_, ?_⟩, ?_⟩
  · intro other hother p up
    exact h.parents other hother p (by simpa using up)
  · intro other le
    exact h.later other (by simpa using le)
  · intro other hother
    apply Scopes.locals_set_of_ne
    rintro rfl
    exact hother mem

/-- The scope that an assignment binds in is one that the engine cannot leave. -/
theorem Engine.Confined.within_assign (h : e.Confined S) (name : String) (v : Value) :
    Engine.Within S e { e with scopes := e.scopes.assign e.scope name v } := by
  apply h.within_set
  cases howner : e.scopes.owner? e.scope name with
  | none => exact h.scope
  | some owner => exact Scopes.ownerWithin_mem h.parents h.scope howner

theorem Engine.Confined.within_enterChild (h : e.Confined S) {parent : ScopeId}
    (mem : parent ∈ S) (vars : Bindings) (w : World) :
    Engine.Within S e (Machine.enterChild ⟨e, w⟩ parent vars).engine := by
  refine ⟨⟨h.later _ le_rfl, h.handlers, h.functions, ?_, ?_⟩, ?_⟩
  · intro id hid p up
    have up : (e.scopes.extendWith parent vars).2.parent? id = some p := up
    rw [Scopes.parent?_extendWith] at up
    split at up
    · cases up
      exact mem
    · exact h.parents id hid p up
  · intro id le
    have le : e.scopes.cells.size + 1 ≤ id := by
      simpa [Machine.enterChild, Scopes.extendWith] using le
    exact h.later id (by omega)
  · intro id hid
    apply Scopes.locals_extendWith
    rintro rfl
    exact hid (h.later _ le_rfl)

theorem Engine.Confined.within_define (h : e.Confined S) (name : String) (params : List String)
    (body : List Stmt) :
    Engine.Within S e (e.define { name, params, body, closure := e.scope }) := by
  refine ⟨⟨h.scope, h.handlers, ?_, h.parents, h.later⟩, fun _ _ => rfl⟩
  intro f hf
  rcases List.mem_cons.mp hf with rfl | hf
  · exact h.scope
  · exact h.functions f (List.mem_filter.mp hf).1

/-- A new handler captures the current scope, and the others keep what they captured. -/
theorem Machine.closure_mem_register {m : Machine} (h : m.engine.Confined S) (event : String)
    (body : List Stmt) :
    ∀ k ∈ (m.register event body).engine.handlers.handlers, k.closure ∈ S := by
  obtain ⟨e, w⟩ := m
  have added : ∀ k ∈ (e.handlers.register event body e.scope).2.handlers, k.closure ∈ S := by
    intro k hk
    simp only [Registry.register, List.mem_append, List.mem_singleton] at hk
    rcases hk with hk | rfl
    · exact h.handlers k hk
    · exact h.scope
  simp only [Machine.register]
  split
  · exact added
  · intro k hk
    obtain ⟨k', hk', rfl⟩ := List.mem_map.mp hk
    split
    · exact added k' hk'
    · exact added k' hk'

theorem Engine.Confined.within_register {m : Machine} (h : m.engine.Confined S) (event : String)
    (body : List Stmt) : Engine.Within S m.engine (m.register event body).engine := by
  have closures := m.closure_mem_register h event body
  have same : (m.register event body).engine.scope = m.engine.scope ∧
      (m.register event body).engine.functions = m.engine.functions ∧
      (m.register event body).engine.scopes = m.engine.scopes := by
    simp only [Machine.register]
    split
    · exact ⟨rfl, rfl, rfl⟩
    · exact ⟨rfl, rfl, rfl⟩
  obtain ⟨scope, functions, scopes⟩ := same
  refine ⟨⟨?_, closures, ?_, ?_, ?_⟩, ?_⟩
  · rw [scope]; exact h.scope
  · rw [functions]; exact h.functions
  · rw [scopes]; exact h.parents
  · rw [scopes]; exact h.later
  · intro id _
    rw [scopes]

theorem Engine.Confined.within_withScope (h : e.Confined S) {scope : ScopeId} (mem : scope ∈ S)
    (w : World) : Engine.Within S e (Machine.withScope ⟨e, w⟩ scope).engine :=
  ⟨⟨mem, h.handlers, h.functions, h.parents, h.later⟩, fun _ _ => rfl⟩

theorem Engine.Within.trans {e₁ e₂ e₃ : Engine} (first : Engine.Within S e₁ e₂)
    (then_ : Engine.Within S e₂ e₃) : Engine.Within S e₁ e₃ :=
  ⟨then_.confined, fun id hid => (then_.locals id hid).trans (first.locals id hid)⟩

/-- A handler begins in a child of a scope that it captured. -/
theorem Engine.Confined.within_enterHandler (h : e.Confined S) {id : HandlerId} {k : Handler}
    (found : e.handlers.get? id = some k) (payload : Value) (w : World) :
    Engine.Within S e (Machine.enterHandler ⟨e, w⟩ k payload).engine := by
  have captured : k.closure ∈ S := h.handlers k (List.mem_of_find?_eq_some found)
  have child := h.within_enterChild captured [("event", payload)] w
  have begun : Engine.Within S (Machine.enterChild ⟨e, w⟩ k.closure [("event", payload)]).engine
      { (Machine.enterChild ⟨e, w⟩ k.closure [("event", payload)]).engine with
        callStack := []
        clock := .started w.now
        handlerDepth := e.handlerDepth + 1 } :=
    child.confined.within_of_eq rfl rfl rfl rfl
  exact (child.trans begun).trans (begun.confined.within_record _)

theorem Engine.Confined.within_leaveHandler (h : e.Confined S) {scope : ScopeId}
    (mem : scope ∈ S) (callStack : List String) (clock : RunClock) (w : World) :
    Engine.Within S e (Machine.leaveHandler ⟨e, w⟩ scope callStack clock).engine := by
  have left : Engine.Within S e
      { e with scope, callStack, clock, handlerDepth := e.handlerDepth - 1 } :=
    ⟨⟨mem, h.handlers, h.functions, h.parents, h.later⟩, fun _ _ => rfl⟩
  exact left.trans (left.confined.within_record _)

theorem Move.within {m m' : Machine} (step : Move names m m') (h : m.engine.Confined S) :
    Engine.Within S m.engine m'.engine := by
  cases step with
  | checked | statement | bar | round | refuseCall => exact h.within_record _
  | declare v mem => exact h.within_set h.scope _ v
  | assign v mem => exact h.within_assign _ v
  | define e w name params body => exact h.within_define name params body
  | register event body room => exact h.within_register event body
  | @enqueue e w fired reached =>
      have queued : Engine.Within S e { e with queue := e.queue.push fired } :=
        h.within_of_eq rfl rfl rfl rfl
      exact queued.trans (queued.confined.within_record _)
  | stop =>
      have stopping : Engine.Within S m.engine { m.engine with stopping := true } :=
        h.within_of_eq rfl rfl rfl rfl
      exact stopping.trans (stopping.confined.within_record _)
  | refuse taken refused =>
      obtain ⟨queue, journal, rfl⟩ := Engine.eq_of_dequeue? taken
      exact h.within_of_eq rfl rfl rfl rfl
  | _ => exact h.within_of_eq rfl rfl rfl rfl

/-- A frame opens in a scope that the engine cannot leave. -/
theorem Frame.within {m inside : Machine} {close : Machine → Machine}
    (opened : Frame limit names m inside close) (h : m.engine.Confined S) :
    Engine.Within S m.engine inside.engine := by
  cases opened with
  | child => exact h.within_enterChild h.scope _ _
  | @call _ _ name f args found room =>
      have captured : f.closure ∈ S := by
        obtain ⟨before, after, hfunctions, _⟩ := List.lookup_eq_some_iff.mp found
        exact h.functions (name, f) (by rw [hfunctions]; simp)
      have active : Engine.Within S m.engine
          { m.engine with callStack := f.name :: m.engine.callStack } :=
        h.within_of_eq rfl rfl rfl rfl
      have called := active.trans (active.confined.within_record (.called f.name))
      exact called.trans (called.confined.within_enterChild captured _ m.world)
  | suspension => exact h.within_record _
  | @handler _ e e' w taker fired k room taken found running =>
      have dequeued : Engine.Within S e e' := by
        obtain ⟨queue, journal, rfl⟩ := Engine.eq_of_dequeue? taken
        exact h.within_of_eq rfl rfl rfl rfl
      exact dequeued.trans (dequeued.confined.within_enterHandler found fired.payload w)

/-- Closing a frame makes a scope current again in which the engine was confined. -/
theorem Frame.confined_close {m inside m' : Machine} {close : Machine → Machine}
    (opened : Frame limit names m inside close) (h : m.engine.Confined S)
    (body : m'.engine.Confined S) : Engine.Within S m'.engine (close m').engine := by
  cases opened with
  | child => exact body.within_withScope h.scope m'.world
  | call args found room =>
      have current := body.within_withScope h.scope m'.world
      have popped : Engine.Within S (m'.withScope m.engine.scope).engine
          { (m'.withScope m.engine.scope).engine with
            callStack := (m'.withScope m.engine.scope).engine.callStack.tail } :=
        current.confined.within_of_eq rfl rfl rfl rfl
      exact (current.trans popped).trans (popped.confined.within_record _)
  | suspension =>
      have excluded : Engine.Within S m'.engine { m'.engine with
          clock := m'.engine.clock.exclude (m'.world.now - m.world.now) } :=
        body.within_of_eq rfl rfl rfl rfl
      exact excluded.trans (excluded.confined.within_record _)
  | handler room taken found running =>
      obtain ⟨queue, journal, rfl⟩ := Engine.eq_of_dequeue? taken
      exact body.within_leaveHandler h.scope _ _ m'.world

theorem Evolves.within {m m' : Machine} (h : Evolves limit names m m')
    (before : m.engine.Confined S) : Engine.Within S m.engine m'.engine := by
  induction h with
  | refl m => exact ⟨before, fun _ _ => rfl⟩
  | trans _ _ first then_ =>
      have middle := first before
      exact middle.trans (then_ middle.confined)
  | move step => exact step.within before
  | frame opened _ body =>
      have inside := opened.within before
      have after := body inside.confined
      exact (inside.trans after).trans (opened.confined_close before after.confined)

end Confinement

/-- The scopes that were captured, and all scopes made later, confine a handler. -/
theorem Engine.confined_captured (e : Engine) {id : HandlerId} {k : Handler}
    (found : e.handlers.get? id = some k) :
    Engine.Confined {id | e.Captured id ∨ e.scopes.cells.size ≤ id}
      { e with scope := k.closure } where
  scope := .inl (.inl ⟨k, List.mem_of_find?_eq_some found, .start⟩)
  handlers := fun h hh => .inl (.inl ⟨h, hh, .start⟩)
  functions := fun f hf => .inl (.inr ⟨f, hf, .start⟩)
  later := fun _ le => .inr le
  parents := by
    rintro id (captured | later) p up
    · left
      rcases captured with ⟨h, hh, below⟩ | ⟨f, hf, below⟩
      · exact .inl ⟨h, hh, below.parent up⟩
      · exact .inr ⟨f, hf, below.parent up⟩
    · exact absurd (Scopes.parent?_eq_some_lt up) (Nat.not_lt.mpr later)

/-- What an interrupted execution finds as it left it: its registers, and the bindings of
every scope that no handler and no function had captured. -/
structure Machine.Undisturbed (m m' : Machine) : Prop where
  scope : m'.engine.scope = m.engine.scope
  callStack : m'.engine.callStack = m.engine.callStack
  handlerDepth : m'.engine.handlerDepth = m.engine.handlerDepth
  state : m'.engine.state = m.engine.state
  clock : m'.engine.clock = m.engine.clock
  locals : ∀ id < m.engine.scopes.cells.size, ¬ m.engine.Captured id →
    m'.engine.scopes.locals id = m.engine.scopes.locals id

/-- The execution of a handler's body, from the beginning of its frame to its end. -/
theorem Machine.undisturbed_leaveHandler {limit : Nat} {names : Set String} {m m₁ : Machine}
    {id : HandlerId} {k : Handler} {payload : Value}
    (found : m.engine.handlers.get? id = some k)
    (body : Evolves limit names (m.enterHandler k payload) m₁) :
    m.Undisturbed (m₁.leaveHandler m.engine.scope m.engine.callStack m.engine.clock) := by
  obtain ⟨e, w⟩ := m
  have restored := body.restored
  have entered : Engine.Within _ { e with scope := k.closure }
      (Machine.enterHandler ⟨e, w⟩ k payload).engine :=
    (e.confined_captured found).within_enterHandler found payload w
  have within := entered.trans (body.within entered.confined)
  simp only [Machine.enterHandler, Machine.enterChild, Engine.record_eq] at restored
  simp only [Machine.leaveHandler, Engine.record_eq]
  refine ⟨rfl, rfl, by simp [restored.handlerDepth], restored.state, rfl, ?_⟩
  intro id old free
  apply within.locals
  rintro (captured | later)
  · exact free captured
  · exact absurd old (Nat.not_lt.mpr later)

theorem Machine.Undisturbed.report {m m' : Machine} (h : m.Undisturbed m') (message : String) :
    m.Undisturbed (m'.report message) :=
  ⟨h.scope, h.callStack, h.handlerDepth, h.state, h.clock, h.locals⟩

/-- Whatever a handler does and however it ends, its invocation raises no fault and leaves
the execution that it interrupts undisturbed. Only a body that has not ended yet has no such
end. -/
theorem runHandler_isolated (allowance : Nat) (fired : Fired) (m : Machine) :
    (∃ k why m', m.engine.handlers.get? fired.handler = some k ∧
      execAll (servicesWithin allowance) k.body (m.enterHandler k fired.payload) =
        .cut why m') ∨
      ∃ ran m', runHandler (servicesWithin allowance) fired m = .done ran m' ∧
        m.Undisturbed m' := by
  have untouched : m.Undisturbed m := ⟨rfl, rfl, rfl, rfl, rfl, fun _ _ _ => rfl⟩
  cases found : m.engine.handlers.get? fired.handler with
  | none => exact .inr ⟨false, m, by simp only [runHandler, found], untouched⟩
  | some k =>
      by_cases stopping : m.engine.stopping = true
      · exact .inr ⟨false, m, by simp only [runHandler, found, if_pos stopping], untouched⟩
      · simp only [runHandler, found, if_neg stopping]
        have services := servicesWithin_follow (le_refl maxHandlerNesting) allowance
        have body := execAll_follows services k.body (m.enterHandler k fired.payload)
        cases hb : execAll (servicesWithin allowance) k.body
            (m.enterHandler k fired.payload) with
        | cut why m₁ => exact .inl ⟨k, why, m₁, rfl, hb⟩
        | done signal m₁ =>
            rw [hb] at body
            exact .inr ⟨true, _, rfl, Machine.undisturbed_leaveHandler found body⟩
        | fault f m₁ =>
            rw [hb] at body
            have left := Machine.undisturbed_leaveHandler found body
            cases f with
            | cancelled => exact .inr ⟨true, _, rfl, left⟩
            | failure c d => exact .inr ⟨true, _, rfl, left.report _⟩

end HostScript
