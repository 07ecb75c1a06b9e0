import HostScript.Fault
import HostScript.Value.Basic

/-! # Scopes

Scopes form a forest: each scope binds names and may have a parent, which was
there before it. A name means its nearest binding on the way from a scope to
its root. Every operation on the chain goes through `owner?`, the scope that
holds the nearest binding.

Main statements: `Scopes.getLocal?_set_self`, `Scopes.getLocal?_set_of_ne` and
`Scopes.locals_set_of_ne`, a binding is read back and changes no other name and
no other scope. -/

namespace HostScript

/-- The place of a scope in the forest. -/
abbrev ScopeId := Nat

/-- The names bound in one scope. -/
abbrev Bindings := List (String × Value)

namespace Bindings

/-- The value of a name. -/
def get? (b : Bindings) (name : String) : Option Value :=
  match b with
  | [] => none
  | (n, v) :: rest => if n = name then some v else get? rest name

/-- Bind a name, replacing its value if it is bound. -/
def insert (b : Bindings) (name : String) (v : Value) : Bindings :=
  match b with
  | [] => [(name, v)]
  | (n, w) :: rest => if n = name then (n, v) :: rest else (n, w) :: insert rest name v

/-- The names that are bound. -/
def names (b : Bindings) : List String := b.map Prod.fst

@[simp] theorem get?_insert_self (b : Bindings) (name : String) (v : Value) :
    (b.insert name v).get? name = some v := by
  fun_induction insert b name v <;> simp_all [get?]

theorem get?_insert_of_ne (b : Bindings) {name other : String} (v : Value) (h : other ≠ name) :
    (b.insert name v).get? other = b.get? other := by
  fun_induction insert b name v <;> simp_all [get?, Ne.symm h]

end Bindings

/-- A scope: its own bindings and its parent. -/
structure Scope where
  vars : Bindings := []
  parent : Option ScopeId := none
  deriving Inhabited

/-- The forest of scopes, in order of creation. -/
structure Scopes where
  cells : Array Scope := #[]

namespace Scopes

/-- A new root scope. -/
def newRoot (s : Scopes) : ScopeId × Scopes :=
  (s.cells.size, ⟨s.cells.push {}⟩)

/-- A new child of a scope. -/
def extend (s : Scopes) (parent : ScopeId) : ScopeId × Scopes :=
  (s.cells.size, ⟨s.cells.push { parent := some parent }⟩)

/-- A new child of a scope with bindings of its own. -/
def extendWith (s : Scopes) (parent : ScopeId) (vars : Bindings) : ScopeId × Scopes :=
  (s.cells.size, ⟨s.cells.push { vars, parent := some parent }⟩)

/-- The parent of a scope. -/
def parent? (s : Scopes) (id : ScopeId) : Option ScopeId :=
  (s.cells[id]?).bind Scope.parent

/-- The bindings of a scope itself. -/
def locals (s : Scopes) (id : ScopeId) : Bindings :=
  match s.cells[id]? with
  | some c => c.vars
  | none => []

/-- The value that a scope itself binds to a name. -/
def getLocal? (s : Scopes) (id : ScopeId) (name : String) : Option Value :=
  (s.locals id).get? name

/-- The nearest scope that binds a name, at most `fuel` steps up the chain. -/
def ownerWithin (s : Scopes) (name : String) : (fuel : Nat) → ScopeId → Option ScopeId
  | 0, _ => none
  | fuel + 1, id =>
    if (s.getLocal? id name).isSome then some id
    else match s.parent? id with
      | some p => ownerWithin s name fuel p
      | none => none

/-- The nearest scope on the chain of `id` that binds a name. Parents are created before
their children, so a chain has no more scopes than its first one has predecessors. -/
def owner? (s : Scopes) (id : ScopeId) (name : String) : Option ScopeId :=
  s.ownerWithin name (id + 1) id

/-- The value of the nearest binding of a name. -/
def lookup (s : Scopes) (id : ScopeId) (name : String) : Option Value :=
  (s.owner? id name).bind fun o => s.getLocal? o name

/-- The value of the nearest binding of a name, or the fault that there is none. -/
def get (s : Scopes) (id : ScopeId) (name : String) : Except Fault Value :=
  match s.lookup id name with
  | some v => .ok v
  | none => .error (.reference name)

/-- The name is bound on the chain. -/
def has (s : Scopes) (id : ScopeId) (name : String) : Bool :=
  (s.owner? id name).isSome

/-- Bind a name in a scope itself. -/
def set (s : Scopes) (id : ScopeId) (name : String) (v : Value) : Scopes :=
  match s with
  | ⟨cells⟩ => ⟨cells.modify id fun c => { c with vars := c.vars.insert name v }⟩

/-- A binding changes only its own scope. -/
theorem locals_set_of_ne (s : Scopes) {id other : ScopeId} (name : String) (v : Value)
    (h : other ≠ id) : (s.set id name v).locals other = s.locals other := by
  obtain ⟨cells⟩ := s
  simp only [set, locals, Array.getElem?_modify, if_neg (Ne.symm h)]

theorem locals_set_self {s : Scopes} {id : ScopeId} (name : String) (v : Value)
    (h : id < s.cells.size) : (s.set id name v).locals id = (s.locals id).insert name v := by
  obtain ⟨cells⟩ := s
  simp only at h
  simp [set, locals, h, Array.getElem_modify]

/-- A binding is read back. -/
theorem getLocal?_set_self {s : Scopes} {id : ScopeId} (name : String) (v : Value)
    (h : id < s.cells.size) : (s.set id name v).getLocal? id name = some v := by
  rw [getLocal?, locals_set_self name v h, Bindings.get?_insert_self]

/-- A binding changes no other name. -/
theorem getLocal?_set_of_ne {s : Scopes} {id : ScopeId} {name other : String} (v : Value)
    (h : id < s.cells.size) (ne : other ≠ name) :
    (s.set id name v).getLocal? id other = s.getLocal? id other := by
  rw [getLocal?, locals_set_self name v h, Bindings.get?_insert_of_ne _ v ne, getLocal?]

/-- Overwrite the nearest binding of a name. -/
def update (s : Scopes) (id : ScopeId) (name : String) (v : Value) : Except Fault Scopes :=
  match s.owner? id name with
  | some o => .ok (s.set o name v)
  | none => .error (.reference name)

/-- Overwrite the nearest binding of a name, or bind it in the scope itself. -/
def assign (s : Scopes) (id : ScopeId) (name : String) (v : Value) : Scopes :=
  let target := (s.owner? id name).getD id
  s.set target name v

/-- Drop the bindings of a scope. -/
def clear (s : Scopes) (id : ScopeId) : Scopes :=
  match s with
  | ⟨cells⟩ => ⟨cells.modify id fun c => { c with vars := [] }⟩

/-- The names that a scope itself binds, in their order as texts. -/
def localNames (s : Scopes) (id : ScopeId) : List String :=
  (s.locals id).names.mergeSort fun a b => decide (a ≤ b)

end Scopes

end HostScript
