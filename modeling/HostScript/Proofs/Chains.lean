import HostScript.Engine.Scopes

/-!
# Chains of scopes

The chain of a scope goes from it to its parent, to the parent of that, and so on.
The nearest binding of a name lies on the chain. Binding a name leaves all chains as
they are, and a new scope leaves the chains of the scopes before it.
-/

namespace HostScript.Scopes

/-- The scope `id` lies on the chain of `start`. -/
inductive OnChain (s : Scopes) (start : ScopeId) : ScopeId → Prop
  | start : OnChain s start start
  | parent {id p : ScopeId} (below : OnChain s start id) (up : s.parent? id = some p) :
      OnChain s start p

/-- A set of scopes that has the parents of its scopes has the owners of names in them. -/
theorem ownerWithin_mem {s : Scopes} {S : ScopeId → Prop}
    (parents : ∀ id, S id → ∀ p, s.parent? id = some p → S p) {name : String} {fuel : Nat}
    {id owner : ScopeId} (mem : S id) (h : s.ownerWithin name fuel id = some owner) :
    S owner := by
  induction fuel generalizing id with
  | zero => cases h
  | succ fuel ih =>
      simp only [ownerWithin] at h
      split at h
      · cases h
        exact mem
      · split at h
        · next p up => exact ih (parents id mem p up) h
        · cases h

@[simp] theorem size_set (s : Scopes) (id : ScopeId) (name : String) (v : Value) :
    (s.set id name v).cells.size = s.cells.size := by
  simp [set]

@[simp] theorem parent?_set (s : Scopes) (id other : ScopeId) (name : String) (v : Value) :
    (s.set id name v).parent? other = s.parent? other := by
  obtain ⟨cells⟩ := s
  simp only [set, parent?, Array.getElem?_modify]
  split
  · cases h : cells[other]? with
    | none => simp
    | some c => simp
  · rfl

theorem parent?_eq_some_lt {s : Scopes} {id p : ScopeId} (h : s.parent? id = some p) :
    id < s.cells.size := by
  obtain ⟨c, hc, _⟩ := Option.bind_eq_some_iff.mp h
  exact (Array.getElem?_eq_some_iff.mp hc).1

theorem parent?_extendWith (s : Scopes) (parent id : ScopeId) (vars : Bindings) :
    (s.extendWith parent vars).2.parent? id =
      if id = s.cells.size then some parent else s.parent? id := by
  simp only [extendWith, parent?, Array.getElem?_push]
  split
  · rfl
  · rfl

theorem locals_extendWith {s : Scopes} {parent id : ScopeId} (vars : Bindings)
    (old : id ≠ s.cells.size) : (s.extendWith parent vars).2.locals id = s.locals id := by
  simp only [extendWith, locals, Array.getElem?_push, if_neg old]

end HostScript.Scopes
