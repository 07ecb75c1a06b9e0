import HostScript.Proofs.Chains
import HostScript.Proofs.Evolution.Execution

/-!
# Names stay in their scopes

A scope gets a name only from a statement that binds it while the scope is the current
one. Whatever an expression or a statement does on the way, and however it ends, all scopes
that were there before bind the names that they bound, except that the current scope may
have got the name that the statement itself binds. So a name that was bound in a body, in a
function or in a handler is visible in no scope around it.

## Implementation notes

An assignment looks for the nearest binding along the whole chain. If it finds one, the
scope that holds it has the name already; if it finds none, the current scope gets it. Every
frame but a suspension makes a new scope current, and a suspension binds nothing itself.
-/

namespace HostScript

/-! ### The names of a scope -/

namespace Bindings

theorem mem_names_insert (b : Bindings) (name other : String) (v : Value) :
    other ∈ (b.insert name v).names ↔ other = name ∨ other ∈ b.names := by
  induction b with
  | nil => simp [insert, names]
  | cons first rest ih =>
      obtain ⟨n, w⟩ := first
      simp only [names] at ih
      simp only [insert]
      split
      · next same => simp [names, same]
      · simp [names, ih, or_left_comm]

theorem isSome_get?_iff (b : Bindings) (name : String) :
    (b.get? name).isSome = true ↔ name ∈ b.names := by
  induction b with
  | nil => simp [get?, names]
  | cons first rest ih =>
      obtain ⟨n, w⟩ := first
      simp only [names] at ih
      simp only [get?]
      split
      · next same => simp [names, same]
      · next other => simp [names, ih, Ne.symm other]

end Bindings

namespace Scopes

/-- The names that a scope itself binds. -/
def boundNames (s : Scopes) (id : ScopeId) : Set String := {name | name ∈ (s.locals id).names}

theorem isSome_getLocal?_iff (s : Scopes) (id : ScopeId) (name : String) :
    (s.getLocal? id name).isSome = true ↔ name ∈ s.boundNames id :=
  Bindings.isSome_get?_iff _ _

theorem boundNames_set_self {s : Scopes} {id : ScopeId} (name : String) (v : Value)
    (old : id < s.cells.size) :
    (s.set id name v).boundNames id = insert name (s.boundNames id) := by
  ext other
  simp only [boundNames, Set.mem_ofPred_eq, Set.mem_insert_iff]
  rw [locals_set_self name v old, Bindings.mem_names_insert]

theorem boundNames_set_of_ne (s : Scopes) {id other : ScopeId} (name : String) (v : Value)
    (ne : other ≠ id) : (s.set id name v).boundNames other = s.boundNames other := by
  simp only [boundNames, locals_set_of_ne s name v ne]

/-- The scope with the nearest binding of a name binds it. -/
theorem mem_boundNames_of_ownerWithin {s : Scopes} {name : String} {fuel : Nat}
    {id owner : ScopeId} (h : s.ownerWithin name fuel id = some owner) :
    name ∈ s.boundNames owner := by
  induction fuel generalizing id with
  | zero => cases h
  | succ fuel ih =>
      simp only [ownerWithin] at h
      split at h
      · next found =>
        cases h
        exact (s.isSome_getLocal?_iff _ name).mp found
      · split at h
        · exact ih h
        · cases h

end Scopes

/-! ### What becomes of names -/

/-- What becomes of the names that scopes bind: the scopes that were there keep their parents
and their names, and only the current one may get more, from among `names`. -/
structure Engine.Retains (names : Set String) (e e' : Engine) : Prop where
  size : e.scopes.cells.size ≤ e'.scopes.cells.size
  parents : ∀ id < e.scopes.cells.size, e'.scopes.parent? id = e.scopes.parent? id
  kept : ∀ id < e.scopes.cells.size, e.scopes.boundNames id ⊆ e'.scopes.boundNames id
  added : ∀ id < e.scopes.cells.size, ∀ name ∈ e'.scopes.boundNames id,
    name ∈ e.scopes.boundNames id ∨ id = e.scope ∧ name ∈ names

section Retaining

variable {limit : Nat} {names : Set String} {e e₁ e' : Engine} {m m' inside : Machine}
  {close : Machine → Machine}

theorem Engine.retains_of_eq (scopes : e'.scopes = e.scopes) : e.Retains names e' := by
  refine ⟨?_, ?_, ?_, ?_⟩
  · rw [scopes]
  · intro id _
    rw [scopes]
  · intro id _
    rw [scopes]
  · intro id _ name mem
    rw [scopes] at mem
    exact .inl mem

/-- What is retained twice is retained, as long as the same scope is current. -/
theorem Engine.Retains.trans (first : e.Retains names e₁) (then_ : e₁.Retains names e')
    (scope : e₁.scope = e.scope) : e.Retains names e' := by
  refine ⟨first.size.trans then_.size, ?_, ?_, ?_⟩
  · intro id old
    rw [then_.parents id (Nat.lt_of_lt_of_le old first.size), first.parents id old]
  · intro id old
    exact (first.kept id old).trans (then_.kept id (Nat.lt_of_lt_of_le old first.size))
  · intro id old name mem
    rcases then_.added id (Nat.lt_of_lt_of_le old first.size) name mem with before | ⟨here, new⟩
    · exact first.added id old name before
    · exact .inr ⟨here.trans scope, new⟩

/-- A binding in a scope that has the name, or in the current one, which may get it. -/
theorem Engine.retains_set {id : ScopeId} {name : String} (v : Value)
    (fits : name ∈ e.scopes.boundNames id ∨ id = e.scope ∧ name ∈ names) :
    e.Retains names { e with scopes := e.scopes.set id name v } := by
  refine ⟨by simp, fun other _ => by simp, ?_, ?_⟩
  · intro other old x mem
    by_cases same : other = id
    · subst same
      rw [Scopes.boundNames_set_self name v old]
      exact Set.mem_insert_of_mem name mem
    · rwa [Scopes.boundNames_set_of_ne _ name v same]
  · intro other old x mem
    by_cases same : other = id
    · subst same
      rw [Scopes.boundNames_set_self name v old, Set.mem_insert_iff] at mem
      rcases mem with rfl | before
      · exact fits
      · exact .inl before
    · rw [Scopes.boundNames_set_of_ne _ name v same] at mem
      exact .inl mem

theorem Engine.retains_assign {name : String} (v : Value) (mem : name ∈ names) :
    e.Retains names { e with scopes := e.scopes.assign e.scope name v } := by
  apply Engine.retains_set
  cases howner : e.scopes.owner? e.scope name with
  | none => exact .inr ⟨rfl, mem⟩
  | some owner => exact .inl (Scopes.mem_boundNames_of_ownerWithin howner)

theorem Move.retains (step : Move names m m') : m.engine.Retains names m'.engine := by
  cases step with
  | declare v mem => exact Engine.retains_set v (.inr ⟨rfl, mem⟩)
  | assign v mem => exact Engine.retains_assign v mem
  | register event body room =>
      apply Engine.retains_of_eq
      simp only [Machine.register]
      split
      · rfl
      · rfl
  | refuse taken refused =>
      obtain ⟨queue, journal, rfl⟩ := Engine.eq_of_dequeue? taken
      exact Engine.retains_of_eq rfl
  | checked | statement | bar | round | refuseCall | enqueue | stop =>
      apply Engine.retains_of_eq
      simp only [Machine.record, Engine.enqueue, Machine.requestStop, Engine.requestStop,
        Engine.record_eq]
  | _ => exact Engine.retains_of_eq rfl

/-- A frame opens in a new scope and retains all names, or leaves the scopes as they are. -/
theorem Frame.retains_open (opened : Frame limit names m inside close) :
    m.engine.Retains ∅ inside.engine ∧
      (m.engine.scopes.cells.size ≤ inside.engine.scope ∨ names = ∅) := by
  have child (parent : ScopeId) (vars : Bindings) (e : Engine) (w : World) :
      e.Retains ∅ (Machine.enterChild ⟨e, w⟩ parent vars).engine := by
    refine ⟨by simp [Machine.enterChild, Scopes.extendWith], ?_, ?_, ?_⟩
    · intro id old
      simp only [Machine.enterChild, Scopes.parent?_extendWith, if_neg (Nat.ne_of_lt old)]
    · intro id old
      simp only [Machine.enterChild, Scopes.boundNames,
        Scopes.locals_extendWith vars (Nat.ne_of_lt old)]
      exact subset_rfl
    · intro id old name mem
      simp only [Machine.enterChild, Scopes.boundNames,
        Scopes.locals_extendWith vars (Nat.ne_of_lt old)] at mem
      exact .inl mem
  cases opened with
  | child => exact ⟨child _ _ _ m.world, .inl le_rfl⟩
  | @call _ _ _ f args found room =>
      have entered := child f.closure (bindParams f.params args [])
        { m.engine with callStack := f.name :: m.engine.callStack } m.world
      simp only [Machine.pushCall, Engine.record_eq]
      exact ⟨⟨entered.size, entered.parents, entered.kept, entered.added⟩, .inl le_rfl⟩
  | suspension =>
      refine ⟨Engine.retains_of_eq ?_, .inr rfl⟩
      simp only [Machine.suspend, Machine.record, Engine.record_eq]
  | @handler _ e e' w taker fired h room taken found running =>
      obtain ⟨queue, journal, rfl⟩ := Engine.eq_of_dequeue? taken
      have entered := child h.closure [("event", fired.payload)] e w
      simp only [Machine.enterHandler, Machine.enterChild, Engine.record_eq]
      exact ⟨⟨entered.size, entered.parents, entered.kept, entered.added⟩, .inl le_rfl⟩

theorem Frame.scopes_close (opened : Frame limit names m inside close) (m' : Machine) :
    (close m').engine.scopes = m'.engine.scopes := by
  cases opened with
  | child => rfl
  | call => simp only [Machine.popCall, Machine.withScope, Engine.record_eq]
  | suspension => simp only [Machine.resume, Engine.record_eq]
  | handler => simp only [Machine.leaveHandler, Engine.record_eq]

/-- What a frame binds in the scope current inside it is bound in no scope from before. -/
theorem Frame.retains {outer : Set String} (opened : Frame limit names m inside close)
    (body : inside.engine.Retains names m'.engine) :
    m.engine.Retains outer (close m').engine := by
  obtain ⟨entered, apart⟩ := opened.retains_open
  have closed := opened.scopes_close m'
  refine ⟨?_, ?_, ?_, ?_⟩
  · rw [closed]
    exact entered.size.trans body.size
  · intro id old
    rw [closed, body.parents id (Nat.lt_of_lt_of_le old entered.size), entered.parents id old]
  · intro id old
    rw [closed]
    exact (entered.kept id old).trans (body.kept id (Nat.lt_of_lt_of_le old entered.size))
  · intro id old name mem
    rw [closed] at mem
    rcases body.added id (Nat.lt_of_lt_of_le old entered.size) name mem with before | ⟨here, new⟩
    · rcases entered.added id old name before with before | ⟨_, new⟩
      · exact .inl before
      · cases new
    · rcases apart with later | rfl
      · exact absurd old (Nat.not_lt.mpr (here ▸ later))
      · cases new

theorem Evolves.retains (h : Evolves limit names m m') : m.engine.Retains names m'.engine := by
  induction h with
  | refl m => exact Engine.retains_of_eq rfl
  | trans first _ before after => exact before.trans after first.restored.scope
  | move step => exact step.retains
  | frame opened _ body => exact opened.retains body

end Retaining

/-! ### What is visible -/

/-- The names bound along the chain of a scope are visible in it. They stay the same if no
scope of the chain gets the name. -/
theorem Engine.Retains.has_eq {names : Set String} {e e' : Engine} (h : e.Retains names e')
    {id : ScopeId} {name : String}
    (chain : ∀ o, e.scopes.OnChain id o → o < e.scopes.cells.size)
    (apart : name ∈ names → ¬ e.scopes.OnChain id e.scope) :
    e'.scopes.has id name = e.scopes.has id name := by
  have same (o : ScopeId) (on : e.scopes.OnChain id o) :
      (e'.scopes.getLocal? o name).isSome = (e.scopes.getLocal? o name).isSome := by
    rw [Bool.eq_iff_iff, Scopes.isSome_getLocal?_iff, Scopes.isSome_getLocal?_iff]
    constructor
    · intro mem
      rcases h.added o (chain o on) name mem with before | ⟨rfl, new⟩
      · exact before
      · exact absurd on (apart new)
    · intro mem
      exact h.kept o (chain o on) mem
  -- The search goes up the same chain before and after.
  have owners (fuel : Nat) (o : ScopeId) (on : e.scopes.OnChain id o) :
      (e'.scopes.ownerWithin name fuel o).isSome = (e.scopes.ownerWithin name fuel o).isSome := by
    induction fuel generalizing o with
    | zero => rfl
    | succ fuel ih =>
        simp only [Scopes.ownerWithin, same o on, h.parents o (chain o on)]
        split
        · rfl
        · cases up : e.scopes.parent? o with
          | none => rfl
          | some p => exact ih p (on.parent up)
  exact owners (id + 1) id .start

/-- No name leaks: scopes retain what they bound, and a scope sees other names than before
only if the current one lies on its chain and has got one of `names`. -/
structure Engine.Contains (names : Set String) (e e' : Engine) : Prop
    extends e.Retains names e' where
  visible : ∀ id, (∀ o, e.scopes.OnChain id o → o < e.scopes.cells.size) →
    ∀ name, (name ∈ names → ¬ e.scopes.OnChain id e.scope) →
      e'.scopes.has id name = e.scopes.has id name

theorem Engine.Retains.contains {names : Set String} {e e' : Engine} (h : e.Retains names e') :
    e.Contains names e' :=
  ⟨h, fun _ chain _ apart => h.has_eq chain apart⟩

/-- A computation that has ended, with a result or with a fault, has ended at a machine with
the property. -/
def Outcome.Ends {α : Type} (P : Machine → Prop) : Outcome α → Prop
  | .done _ m => P m
  | .fault _ m => P m
  | .cut _ _ => True

theorem Outcome.Follows.contains {α : Type} {limit : Nat} {names : Set String} {m : Machine}
    {o : Outcome α} (h : o.Follows limit names m) :
    o.Ends fun m' => m.engine.Contains names m'.engine := by
  cases o with
  | done a m' => exact (Evolves.retains h).contains
  | fault f m' => exact (Evolves.retains h).contains
  | cut why m' => trivial

/-- However an expression ends, no scope from before binds other names; and however a statement
ends, only the current scope may have got a name, and only the one that the statement itself
binds. This includes all that functions and handlers do meanwhile. -/
theorem names_stay_in_scope (allowance : Nat) (m : Machine) :
    (∀ e : Expr, (eval (servicesWithin allowance) e m).Ends fun m' =>
      m.engine.Contains ∅ m'.engine) ∧
    ∀ s : Stmt, (exec (servicesWithin allowance) s m).Ends fun m' =>
      m.engine.Contains s.binds m'.engine := by
  have services := servicesWithin_follow (le_refl maxHandlerNesting) allowance
  constructor
  · intro e
    exact (eval_follows services e m).contains
  · intro s
    exact (exec_follows services s m).contains

end HostScript
