import HostScript.Proofs.Starvation
import HostScript.Proofs.Storage.Evaluation

/-!
# Compound assignments

An assignment with an operator evaluates its right-hand side before the parts of its target, and
those parts once. The assignment that it abbreviates evaluates the parts before the right-hand side,
and once more for writing. Without calls both come to the same: they leave the same values in the
same scopes and collections, or fail for the same reason.

## Implementation notes

Both assignments are compared with a plan, which is what the parts of the target come to before
anything else is evaluated: a fault, or a place to write to and a value for it, or a key whose text
looks into the object that it is for. Collections that are made on the way have different addresses
in the two runs. No name leads to them, since arithmetic gives no collections.
-/

namespace HostScript

open Relation

variable {α : Type}

/-! ### What arithmetic sees of a value -/

/-- The value is a text. -/
def Value.isText : Value → Bool
  | .text _ => true
  | _ => false

/-- What an arithmetic operator sees of an operand. -/
structure Face where
  isText : Bool
  number : Float
  text : String

namespace Heap

variable {h g : Heap} {f : Address → Address} {v : Value}

/-- What an arithmetic operator sees of a value. -/
def face (h : Heap) (v : Value) : Face := ⟨v.isText, v.toNumber, h.display v⟩

theorem Renames.face (related : h.Renames f g) (within : h.Within v) :
    g.face (v.rename f) = h.face v := by
  have text : (v.rename f).isText = v.isText := by cases v <;> rfl
  simp only [Heap.face, text, Value.toNumber_rename, related.display within]

theorem binary_add (h : Heap) (l r : Value) :
    h.binary .add l r = .ok (if l.isText || r.isText then .text (h.display l ++ h.display r)
      else .number (l.toNumber + r.toNumber)) := by
  cases l <;> cases r <;> rfl

end Heap

/-- Beside a right operand of this face, the operator gives what is said of the face of the left
one. -/
def Computes (o : BinaryOp) (right : Face) (result : Face → Value) : Prop :=
  ∀ (h : Heap) (l r : Value), h.face r = right → h.binary o l r = .ok (result (h.face l))

/-- The operator of a compound assignment has a scalar result that depends on the faces of its
operands. -/
theorem exists_computes {op : AssignOp} {o : BinaryOp} (compound : op.operator? = some o)
    (right : Face) :
    ∃ result : Face → Value, (∀ left, (result left).address? = none) ∧ Computes o right result := by
  have numeric {o : BinaryOp} (num : Float → Float → Float)
      (defined : ∀ (h : Heap) (l r : Value), h.binary o l r =
        .ok (.number (num l.toNumber r.toNumber))) :
      ∃ result : Face → Value, (∀ left, (result left).address? = none) ∧
        Computes o right result := by
    refine ⟨fun left => .number (num left.number right.number), fun _ => rfl, ?_⟩
    rintro h l r rfl
    exact defined h l r
  cases op with
  | set => cases compound
  | add =>
      cases compound
      refine ⟨fun left => if left.isText || right.isText then .text (left.text ++ right.text)
        else .number (left.number + right.number), ?_, ?_⟩
      · intro left
        beta_reduce
        split <;> rfl
      · rintro h l r rfl
        exact h.binary_add l r
  | sub =>
      cases compound
      exact numeric (· - ·) fun _ _ _ => rfl
  | mul =>
      cases compound
      exact numeric (· * ·) fun _ _ _ => rfl
  | div =>
      cases compound
      exact numeric (fun a b => if b == 0.0 then 0.0 else a / b) fun _ _ _ => rfl

/-! ### What names lead to -/

namespace Fault

/-- The fault without its position. -/
def unplaced : Fault → Fault
  | .failure k d => .failure k { d with loc := .unknown }
  | .cancelled => .cancelled

@[simp] theorem unplaced_located (loc : Location) (f : Fault) :
    (f.located loc).unplaced = f.unplaced := by
  cases f with
  | cancelled => rfl
  | failure k d =>
      simp only [located]
      split <;> rfl

end Fault

theorem Heap.Contains.of_keeps {h g : Heap} {v w : Value} (inside : g.Contains v w)
    (within : h.Within v) (keeps : ∀ a < h.cells.size, g.cells[a]? = h.cells[a]?) :
    h.Contains v w := by
  cases v with
  | array a =>
      have same : g.items a = h.items a := by simp only [Heap.items, keeps a (within a rfl)]
      simpa only [Heap.Contains, same] using inside
  | object a =>
      have same : g.fields a = h.fields a := by simp only [Heap.fields, keeps a (within a rfl)]
      simpa only [Heap.Contains, same] using inside
  | _ => exact inside

/-- On a heap that has grown, what was there leads to nothing new. -/
theorem Heap.Closed.within_of_leads {h g : Heap} {v w : Value} (closed : h.Closed)
    (keeps : ∀ a < h.cells.size, g.cells[a]? = h.cells[a]?) (within : h.Within v)
    (leads : ReflTransGen g.Contains v w) : h.Within w := by
  induction leads with
  | refl => exact within
  | tail _ inside ih => exact closed.within_of_contains (inside.of_keeps ih keeps)

namespace Machine

variable {m m' n k : Machine}

/-- The names and the collections refer to no collection that is missing: addresses are what the
heap gave out. -/
structure Closed (m : Machine) : Prop where
  heap : m.world.heap.Closed
  names : ∀ id name v, (name, v) ∈ m.engine.scopes.locals id → m.world.heap.Within v

/-- A name of some scope leads to the collection. -/
def LeadsTo (m : Machine) (a : Address) : Prop :=
  ∃ id name v w, (name, v) ∈ m.engine.scopes.locals id ∧
    ReflTransGen m.world.heap.Contains v w ∧ w.address? = some a

/-- The scopes are the same, and so are the collections that they lead to. -/
structure SameState (m n : Machine) : Prop where
  scopes : n.engine.scopes = m.engine.scopes
  cells : ∀ a, m.LeadsTo a ∨ n.LeadsTo a → n.world.heap.cells[a]? = m.world.heap.cells[a]?

theorem SameState.refl (m : Machine) : m.SameState m := ⟨rfl, fun _ _ => rfl⟩

/-- A state is what the scopes and the heap are. -/
theorem SameState.of_eq (scopes : n.engine.scopes = m.engine.scopes)
    (heap : n.world.heap = m.world.heap) : m.SameState n :=
  ⟨scopes, fun a _ => by rw [heap]⟩

theorem LeadsTo.of_eq {a : Address} (leads : n.LeadsTo a)
    (scopes : n.engine.scopes = m.engine.scopes) (heap : n.world.heap = m.world.heap) :
    m.LeadsTo a := by
  simpa only [LeadsTo, scopes, heap] using leads

theorem SameState.of_start (same : k.SameState n) (scopes : k.engine.scopes = m.engine.scopes)
    (heap : k.world.heap = m.world.heap) : m.SameState n := by
  refine ⟨same.scopes.trans scopes, ?_⟩
  intro a leads
  rw [← heap]
  apply same.cells
  exact leads.imp_left fun leads => leads.of_eq scopes.symm heap.symm

/-- Machines with the scopes of a closed one are in the same state if both their heaps hold one
closed heap, and all the names stay inside it. -/
theorem sameState_of_keeps {h : Heap} (closed : h.Closed)
    (names : ∀ id name v, (name, v) ∈ m.engine.scopes.locals id → h.Within v)
    (scopes : n.engine.scopes = m.engine.scopes)
    (keeps : ∀ a < h.cells.size, m.world.heap.cells[a]? = h.cells[a]?)
    (keeps' : ∀ a < h.cells.size, n.world.heap.cells[a]? = h.cells[a]?) : m.SameState n := by
  refine ⟨scopes, ?_⟩
  rintro a (⟨id, name, v, w, bound, leads, at_⟩ | ⟨id, name, v, w, bound, leads, at_⟩)
  · have below := closed.within_of_leads keeps (names id name v bound) leads a at_
    rw [keeps a below, keeps' a below]
  · rw [scopes] at bound
    have below := closed.within_of_leads keeps' (names id name v bound) leads a at_
    rw [keeps a below, keeps' a below]

theorem Closed.within_lookup (closed : m.Closed) {name : String} {v : Value}
    (found : m.lookup name = some v) : m.world.heap.Within v := by
  obtain ⟨id, -, bound⟩ := Option.bind_eq_some_iff.mp found
  exact closed.names id name v (Bindings.mem_of_get? bound)

/-- A machine that has got collections, and one with another journal, is the same one up to
addresses that nothing refers to. -/
theorem Closed.renames (closed : m.Closed) (scopes : n.engine.scopes = m.engine.scopes)
    (scope : n.engine.scope = m.engine.scope)
    (keeps : ∀ a < m.world.heap.cells.size, n.world.heap.cells[a]? = m.world.heap.cells[a]?) :
    m.Renames id n := by
  refine ⟨Heap.renames_id closed.heap keeps, fun name v => closed.within_lookup, ?_⟩
  intro name
  have unchanged : Value.rename id = id := funext Value.rename_id
  simp only [lookup, scopes, scope, unchanged, Option.map_id_fun, id]

theorem Closed.renames_grown (closed : m.Closed) (grows : m.Grows m') : m.Renames id m' := by
  apply closed.renames
  · rw [grows.engine]
  · rw [grows.engine]
  · intro a below
    exact grows.cells below

theorem Closed.grown (closed : m.Closed) (grows : m.Grows m') (heap : m'.world.heap.Closed) :
    m'.Closed := by
  refine ⟨heap, fun id name v bound => ?_⟩
  rw [grows.engine] at bound
  exact (closed.names id name v bound).mono grows.size_le

theorem Closed.sameState_grown (closed : m.Closed) (grows : m.Grows m') : m.SameState m' := by
  apply sameState_of_keeps closed.heap closed.names
  · rw [grows.engine]
  · intro a below
    rfl
  · intro a below
    exact grows.cells below

end Machine

/-! ### Writing a scalar -/

namespace Heap

variable {h g : Heap} {slot : Slot} {r v : Value} {b : Address}

theorem size_cells_write : (h.write slot r).cells.size = h.cells.size := by
  obtain ⟨cells⟩ := h
  cases slot <;> simp [write, modifyFields, modifyItems]

/-- What a place of a collection becomes depends on this collection only. -/
theorem cells_write_congr (same : g.cells[b]? = h.cells[b]?) :
    (g.write slot r).cells[b]? = (h.write slot r).cells[b]? := by
  obtain ⟨cells⟩ := h
  obtain ⟨cells'⟩ := g
  simp only at same
  cases slot <;> simp [write, modifyFields, modifyItems, Array.getElem?_modify, same]

theorem mem_putItem {items : Array Value} {i : Nat} (mem : v ∈ putItem items i r) :
    v = r ∨ v ∈ items := by
  unfold putItem at mem
  split at mem
  · exact (Array.mem_push.mp mem).symm
  · exact (Array.mem_or_eq_of_mem_setIfInBounds mem).symm

/-- The collections hold nothing new but the value that is written. -/
theorem mem_values_write {c : Collection} (mem : c ∈ (h.write slot r).cells)
    (inside : v ∈ c.values) :
    v = r ∨ ∃ c ∈ h.cells, v ∈ c.values := by
  obtain ⟨b, found⟩ := Array.mem_iff_getElem?.mp mem
  have below : b < h.cells.size :=
    Nat.lt_of_lt_of_le (Array.getElem?_eq_some_iff.mp found).1 size_cells_write.le
  have before := Array.getElem?_eq_getElem below
  have held := Array.getElem_mem below
  generalize h.cells[b] = c₀ at before held
  by_cases elsewhere : b ≠ slot.address
  · rw [cells_write_of_ne elsewhere, before] at found
    cases found
    exact .inr ⟨_, held, inside⟩
  · obtain rfl : b = slot.address := Decidable.not_not.mp elsewhere
    obtain ⟨cells⟩ := h
    cases slot with
    | field a key =>
        simp only [write, modifyFields, Slot.address, Array.getElem?_modify, if_true]
          at found before
        rw [before] at found
        cases c₀ with
        | array items =>
            cases found
            exact .inr ⟨_, held, inside⟩
        | object fields =>
            cases found
            obtain ⟨e, mem, rfl⟩ := List.mem_map.mp inside
            obtain rfl | mem := Fields.mem_of_mem_insert (Array.mem_toList_iff.mp mem)
            · exact .inl rfl
            · exact .inr ⟨_, held, List.mem_map_of_mem (Array.mem_toList_iff.mpr mem)⟩
    | item a i =>
        simp only [write, modifyItems, Slot.address, Array.getElem?_modify, if_true] at found before
        rw [before] at found
        cases c₀ with
        | object fields =>
            cases found
            exact .inr ⟨_, held, inside⟩
        | array items =>
            cases found
            obtain rfl | mem := mem_putItem (Array.mem_toList_iff.mp inside)
            · exact .inl rfl
            · exact .inr ⟨_, held, Array.mem_toList_iff.mpr mem⟩

theorem Closed.write (closed : h.Closed) (scalar : r.address? = none) :
    (h.write slot r).Closed := by
  intro c mem v inside
  obtain rfl | ⟨c, mem, inside⟩ := mem_values_write mem inside
  · exact within_of_scalar scalar
  · exact (closed c mem v inside).mono size_cells_write.ge

/-- Writing under a renaming that keeps the old addresses does to the old collections what writing
does. -/
theorem Renames.cells_write {f : Address → Address} {h₀ : Heap} (related : h.Renames f g)
    (le : h₀.cells.size ≤ h.cells.size) (same : h₀.AgreeOn id f)
    (keeps : ∀ a < h₀.cells.size, g.cells[a]? = h₀.cells[a]?) (below : slot.address < h.cells.size)
    (old : b < h₀.cells.size) :
    (g.write (slot.rename f) r).cells[b]? = (h₀.write slot r).cells[b]? := by
  by_cases here : b = slot.address
  · have fixed : f slot.address = slot.address := by
      rw [← here]
      exact same b old
    have unchanged : slot.rename f = slot := by
      cases slot with
      | field a key => exact congrArg (Slot.field · key) fixed
      | item a i => exact congrArg (Slot.item · i) fixed
    rw [unchanged]
    exact cells_write_congr (keeps b old)
  · have elsewhere : b ≠ (slot.rename f).address := by
      intro eq
      rw [Slot.address_rename] at eq
      apply here
      apply related.apart b slot.address (Nat.lt_of_lt_of_le old le) below
      rw [same b old]
      exact eq
    rw [cells_write_of_ne elsewhere, cells_write_of_ne here, keeps b old]

end Heap

/-! ### Plans -/

/-- Two computations from a machine come to the same: they have the same result and end in the same
state, or they fail for the same reason and leave the state as it was, or both are cut off because
the same text, the key for an object, looks into the object. Apart from their heaps, they end at the
same machine. -/
inductive Outcome.SameEffect (start : Machine) : Outcome α → Outcome α → Prop
  | done {a : α} {m n : Machine} (same : m.SameState n) (rest : ∃ heap, n = m.withHeap heap) :
      SameEffect start (.done a m) (.done a n)
  | fault {f g : Fault} {m n : Machine} (same : f.unplaced = g.unplaced)
      (unchanged : start.SameState m) (unchanged' : start.SameState n)
      (rest : ∃ heap, n = m.withHeap heap) : SameEffect start (.fault f m) (.fault g n)
  | entangled {object object' : Address} {index index' : Value} {m n : Machine}
      (looks : m.world.heap.looksInto object index = true)
      (looks' : n.world.heap.looksInto object' index' = true)
      (same : m.world.heap.display index = n.world.heap.display index')
      (unchanged : start.SameState m) (unchanged' : start.SameState n)
      (rest : ∃ heap, n = m.withHeap heap) :
      SameEffect start (.cut (.entangled object index) m) (.cut (.entangled object' index') n)

/-- What an assignment behind a base is to do. -/
inductive Plan where
  | fail (f : Fault)
  | write (slot : Heap.Slot) (v : Value)
  /-- It comes to a key for an object whose text looks into the object. -/
  | tangle (key : String)

/-- An assignment does what is planned: it fails for the reason of the plan, or writes the value of
the plan to its place, or is cut off at the key of the plan. Besides, it may have made
collections. -/
inductive Outcome.Realizes (k : Machine) : Plan → Outcome Unit → Prop
  | fault {f g : Fault} {m : Machine} (same : f.unplaced = g.unplaced) (grows : k.Grows m) :
      Realizes k (.fail g) (.fault f m)
  | done {slot : Heap.Slot} {r : Value} {heap : Heap} (scalar : r.address? = none)
      (keeps : ∀ a < k.world.heap.cells.size,
        heap.cells[a]? = (k.world.heap.write slot r).cells[a]?) :
      Realizes k (.write slot r) (.done () (k.withHeap heap))
  | entangled {object : Address} {index : Value} {key : String} {m : Machine}
      (looks : m.world.heap.looksInto object index = true)
      (text : m.world.heap.display index = key) (grows : k.Grows m) :
      Realizes k (.tangle key) (.cut (.entangled object index) m)

theorem Machine.Grows.exists_withHeap {k m n : Machine} (grows : k.Grows m) (grows' : k.Grows n) :
    ∃ heap, n = m.withHeap heap := by
  obtain ⟨new, rfl⟩ := grows
  obtain ⟨new', rfl⟩ := grows'
  exact ⟨_, rfl⟩

/-- Assignments with one plan come to the same. -/
theorem Outcome.Realizes.sameEffect {k : Machine} {plan : Plan}
    {o o' : Outcome Unit} (closed : k.Closed) (first : o.Realizes k plan)
    (second : o'.Realizes k plan) : SameEffect k o o' := by
  cases first with
  | fault same grows =>
      cases second with
      | fault same' grows' =>
          exact .fault (same.trans same'.symm) (closed.sameState_grown grows)
            (closed.sameState_grown grows') (grows.exists_withHeap grows')
  | entangled looks text grows =>
      cases second with
      | entangled looks' text' grows' =>
          exact .entangled looks looks' (text.trans text'.symm) (closed.sameState_grown grows)
            (closed.sameState_grown grows') (grows.exists_withHeap grows')
  | @done slot r _ scalar keeps =>
      cases second with
      | done _ keeps' =>
          refine .done ?_ ⟨_, rfl⟩
          have written : (k.world.heap.write slot r).Closed := closed.heap.write scalar
          apply Machine.sameState_of_keeps written
          · intro id name v bound
            exact (closed.names id name v bound).mono Heap.size_cells_write.ge
          · rfl
          · intro a below
            exact keeps a (Nat.lt_of_lt_of_le below Heap.size_cells_write.le)
          · intro a below
            exact keeps' a (Nat.lt_of_lt_of_le below Heap.size_cells_write.le)

/-! ### Targets behind a base -/

/-- A computation gives the same up to addresses on machines that agree up to addresses. -/
def Run.Uniform (R : Correspondence α) (x : Run α) : Prop :=
  ∀ {f : Address → Address} {m n : Machine}, m.Renames f n → Outcome.Alike R f m n (x m) (x n)

/-- Bases with selectors that are the same up to a renaming. -/
def CarriesPlace (f : Address → Address) (h : Heap) (p q : Value × Selector) : Prop :=
  Carries f h p.1 q.1 ∧ q.2 = p.2.rename f ∧ h.WithinSelector p.2

/-- Evaluate the parts of a member. -/
def aimMember (sv : Services) (base : Expr) (key : String) : Run (Value × Selector) := do
  let c ← eval sv base
  return (c, .member key)

/-- Evaluate the parts of an element. -/
def aimIndex (sv : Services) (base position : Expr) : Run (Value × Selector) := do
  let c ← eval sv base
  let i ← eval sv position
  return (c, .index i)

theorem uniform_aimMember (sv : Services) {base : Expr} (free : base.callFree = true)
    (key : String) :
    Run.Uniform CarriesPlace (aimMember sv base key) := by
  intro f m n related
  apply (eval_alike sv base free related).bind
  intro f₁ c c' m₁ n₁ _ _ related₁ value
  exact .result related₁ ⟨value, rfl, trivial⟩

theorem uniform_aimIndex (sv : Services) {base position : Expr} (free : base.callFree = true)
    (free' : position.callFree = true) : Run.Uniform CarriesPlace (aimIndex sv base position) := by
  intro f m n related
  apply (eval_alike sv base free related).bind
  intro f₁ c c' m₁ n₁ _ _ related₁ value
  apply (eval_alike sv position free' related₁).bind
  intro f₂ i i' m₂ n₂ same grows related₂ value'
  apply Outcome.Alike.result related₂
  obtain ⟨rfl, within⟩ := value'
  exact ⟨value.mono same grows.size_le, rfl, within⟩

/-- Whether something can be read behind a base, whatever it is. -/
def readable (c : Value) : Selector → Except Fault Unit
  | .member _ => .ok ()
  | .index _ => indexable c

/-- Read behind a base. -/
def fetch (p : Value × Selector) : Run Value := do
  Run.ofExcept (readable p.1 p.2)
  Run.check fun m => m.world.heap.select p.1 p.2

/-- Write behind a base. -/
def store (op : AssignOp) (v : Value) (p : Value × Selector) : Run Unit := do
  let r ← Run.combined op (fun m => m.world.heap.select p.1 p.2) v
  Run.openFor p.1 p.2
  Run.writeSlot (fun m => m.world.heap.selectSlot p.1 p.2) r

/-- A compound assignment behind a base: the right-hand side comes first. -/
def abbreviated (op : AssignOp) (aim : Run (Value × Selector)) (value : Run Value) : Run Unit := do
  let v ← value
  let p ← aim
  store op v p

/-- The plain assignment that it abbreviates: what stands behind the base is read first, and the
parts of the target are evaluated once more for writing. -/
def expanded (at_ at' : Location) (o : BinaryOp) (aim : Run (Value × Selector))
    (value : Run Value) : Run Unit := do
  let r ← Run.located at_ do
    let l ← Run.located at' (aim >>= fetch)
    let r ← value
    Run.check fun m => m.world.heap.binary o l r
  let p ← aim
  store .set r p

/-- Where nothing can be read, nothing can be written. -/
theorem select_of_unreadable {h : Heap} {c : Value} {s : Selector} {f : Fault}
    (failed : readable c s = .error f) :
    (∃ old, h.select c s = .ok old) ∧ h.selectSlot c s = .error f := by
  cases s with
  | member key => cases failed
  | index i =>
      refine ⟨⟨_, rfl⟩, ?_⟩
      cases c with
      | undefined =>
          cases failed
          rfl
      | null =>
          cases failed
          rfl
      | _ => cases failed

/-- An object that is looked into can be read. -/
theorem readable_of_held {c : Value} {s : Selector} {m m' : Machine} {why : Cut}
    (held : Run.openFor c s m = .cut why m') : readable c s = .ok () := by
  obtain opened | ⟨a, i, rfl, rfl, -⟩ := Run.openFor_cases c s m
  · rw [opened] at held
    cases held
  · rfl

theorem assign_member (sv : Services) (op : AssignOp) (v : Value) (base : Expr) (key : String) :
    assign sv op v (.member base key) = aimMember sv base key >>= store op v := by
  rw [aimMember, Run.bind_assoc]
  rfl

theorem assign_index (sv : Services) (op : AssignOp) (v : Value) (base position : Expr) :
    assign sv op v (.index base position) = aimIndex sv base position >>= store op v := by
  simp only [aimIndex, Run.bind_assoc]
  rfl

theorem eval_member (sv : Services) (loc : Location) (base : Expr) (key : String) :
    eval sv (.member loc base key) = Run.located loc (aimMember sv base key >>= fetch) := by
  rw [aimMember, Run.bind_assoc]
  rfl

theorem eval_index (sv : Services) (loc : Location) (base position : Expr) :
    eval sv (.index loc base position) = Run.located loc (aimIndex sv base position >>= fetch) := by
  simp only [aimIndex, Run.bind_assoc]
  rfl

theorem Heap.address_of_selectSlot {h : Heap} {c : Value} {s : Selector} {slot : Heap.Slot}
    (found : h.selectSlot c s = .ok slot) : c.address? = some slot.address := by
  obtain ⟨a, key, rfl, rfl, -⟩ | ⟨a, i, p, rfl, -, rfl, -⟩ := Heap.selectSlot_cases found
  · rfl
  · rfl

/-- The plan for an assignment behind a base, where `result` gives the value to write for what
stands there. -/
inductive Planned (aim : Run (Value × Selector)) (result : Face → Value) (k : Machine) :
    Plan → Prop
  | astray {f : Fault} {m : Machine} (failed : aim k = .fault f m) : Planned aim result k (.fail f)
  | unread {p : Value × Selector} {m : Machine} {f : Fault} (aimed : aim k = .done p m)
      (failed : m.world.heap.select p.1 p.2 = .error f) : Planned aim result k (.fail f)
  | tangled {p : Value × Selector} {m : Machine} {old : Value} {a : Address} {i : Value}
      (aimed : aim k = .done p m) (read : m.world.heap.select p.1 p.2 = .ok old)
      (held : Run.openFor p.1 p.2 m = .cut (.entangled a i) m) :
      Planned aim result k (.tangle (m.world.heap.display i))
  | unplaced {p : Value × Selector} {m : Machine} {f : Fault} {old : Value}
      (aimed : aim k = .done p m) (read : m.world.heap.select p.1 p.2 = .ok old)
      (opened : Run.openFor p.1 p.2 m = .done () m)
      (failed : m.world.heap.selectSlot p.1 p.2 = .error f) : Planned aim result k (.fail f)
  | placed {p : Value × Selector} {m : Machine} {slot : Heap.Slot} {old : Value}
      (aimed : aim k = .done p m) (read : m.world.heap.select p.1 p.2 = .ok old)
      (opened : Run.openFor p.1 p.2 m = .done () m)
      (found : m.world.heap.selectSlot p.1 p.2 = .ok slot) :
      Planned aim result k (.write slot (result (m.world.heap.face old)))

section Plans

variable {k m n : Machine} {f : Address → Address} {p q : Value × Selector} {r v old : Value}
  {aim : Run (Value × Selector)} {value : Run Value} {result : Face → Value}
  {op : AssignOp} {o : BinaryOp} {plan : Plan}

theorem Run.Uniform.exists_planned (aims : Run.Uniform CarriesPlace aim) (closed : k.Closed)
    (result : Face → Value) : ∃ plan, Planned aim result k plan := by
  have alike := aims (closed.renames_grown (.refl k))
  cases aimed : aim k with
  | cut why m =>
      rw [aimed] at alike
      cases alike
  | fault f m => exact ⟨_, .astray aimed⟩
  | done p m =>
      cases read : m.world.heap.select p.1 p.2 with
      | error f => exact ⟨_, .unread aimed read⟩
      | ok old =>
          obtain opened | ⟨a, i, -, -, -, held⟩ := Run.openFor_cases p.1 p.2 m
          · cases found : m.world.heap.selectSlot p.1 p.2 with
            | error f => exact ⟨_, .unplaced aimed read opened found⟩
            | ok slot => exact ⟨_, .placed aimed read opened found⟩
          · exact ⟨_, .tangled aimed read held⟩

/-- A result on a machine that has got collections is the same one up to addresses. -/
theorem Run.Uniform.exists_done {R : Correspondence α} {x : Run α} {a : α} (uniform : x.Uniform R)
    (closed : k.Closed) (grows : k.Grows n) (ran : x k = .done a m) :
    ∃ f b n', x n = .done b n' ∧ k.world.heap.AgreeOn id f ∧ m.Renames f n' ∧
      R f m.world.heap a b ∧ k.Grows m ∧ n.Grows n' := by
  have alike := uniform (closed.renames_grown grows)
  rw [ran] at alike
  generalize again : x n = o at alike
  cases alike with
  | done same related result grows' grows'' =>
      exact ⟨_, _, _, rfl, same, related, result, grows', grows''⟩

theorem Run.Uniform.exists_fault {R : Correspondence α} {x : Run α} {e : Fault}
    (uniform : x.Uniform R) (closed : k.Closed) (grows : k.Grows n) (failed : x k = .fault e m) :
    ∃ n', x n = .fault e n' ∧ k.Grows m ∧ n.Grows n' := by
  have alike := uniform (closed.renames_grown grows)
  rw [failed] at alike
  generalize again : x n = o at alike
  cases alike with
  | fault grows' grows'' => exact ⟨_, rfl, grows', grows''⟩

theorem Machine.Grows.face (grows : m.Grows n) (closed : m.world.heap.Closed)
    (within : m.world.heap.Within v) : n.world.heap.face v = m.world.heap.face v := by
  have related : m.world.heap.Renames id n.world.heap :=
    Heap.renames_id closed fun a below => grows.cells below
  rw [← related.face within, Value.rename_id]

theorem CarriesPlace.select (related : m.Renames f n) (place : CarriesPlace f m.world.heap p q) :
    n.world.heap.select q.1 q.2 = (m.world.heap.select p.1 p.2).map (Value.rename f) := by
  obtain ⟨⟨eq, within⟩, eq', within'⟩ := place
  rw [eq, eq']
  exact related.heap.select within within'

theorem CarriesPlace.selectSlot (related : m.Renames f n)
    (place : CarriesPlace f m.world.heap p q) :
    n.world.heap.selectSlot q.1 q.2 =
      (m.world.heap.selectSlot p.1 p.2).map (Heap.Slot.rename f) := by
  obtain ⟨⟨eq, within⟩, eq', within'⟩ := place
  rw [eq, eq']
  exact related.heap.selectSlot within within'

/-- Up to addresses the same containers can be opened. -/
theorem CarriesPlace.openFor (related : m.Renames f n) (place : CarriesPlace f m.world.heap p q) :
    (Run.openFor p.1 p.2 m = .done () m ∧ Run.openFor q.1 q.2 n = .done () n) ∨
      ∃ a i, Run.openFor p.1 p.2 m = .cut (.entangled a i) m ∧
        Run.openFor q.1 q.2 n = .cut (.entangled (f a) (i.rename f)) n ∧
        n.world.heap.looksInto (f a) (i.rename f) = true ∧
        n.world.heap.display (i.rename f) = m.world.heap.display i := by
  obtain ⟨c, s⟩ := p
  obtain ⟨⟨eq, within⟩, eq', within'⟩ := place
  dsimp only at within within' ⊢
  rw [eq, eq']
  cases s with
  | member key => exact .inl ⟨rfl, rfl⟩
  | index i =>
      cases c with
      | object a =>
          have same : n.world.heap.looksInto (f a) (i.rename f) = m.world.heap.looksInto a i :=
            related.heap.looksInto (within a rfl) within'
          simp only [Selector.rename, Value.rename_object, Run.openFor, Run.openAt, same]
          cases looks : m.world.heap.looksInto a i with
          | false => exact .inl ⟨rfl, rfl⟩
          | true =>
              exact .inr ⟨a, i, rfl, rfl, same.trans looks, related.heap.display within'⟩
      | _ => exact .inl ⟨rfl, rfl⟩

/-- All that is left of a computation is to write a value behind a base, and up to addresses this is
the base `p` on the machine `m`. -/
inductive Outcome.Writes (k m : Machine) (p : Value × Selector) (r : Value) : Outcome Unit → Prop
  | intro {f : Address → Address} {q : Value × Selector} {n : Machine} (related : m.Renames f n)
      (place : CarriesPlace f m.world.heap p q) (same : k.world.heap.AgreeOn id f)
      (grows : k.Grows m) (grows' : k.Grows n) :
      Writes k m p r ((do
        Run.openFor q.1 q.2
        Run.writeSlot (fun m => m.world.heap.selectSlot q.1 q.2) r : Run Unit) n)

theorem Outcome.Writes.realizes_tangle {a : Address} {i : Value} {out : Outcome Unit}
    (writes : out.Writes k m p r) (held : Run.openFor p.1 p.2 m = .cut (.entangled a i) m) :
    out.Realizes k (.tangle (m.world.heap.display i)) := by
  obtain ⟨related, place, -, -, grows'⟩ := writes
  obtain ⟨opened, -⟩ | ⟨b, j, held', again, looks, text⟩ := place.openFor related
  · rw [held] at opened
    cases opened
  · rw [held] at held'
    cases held'
    rw [Run.bind_cut again]
    exact .entangled looks text grows'

/-- Where the container can be opened, only the writing itself is left. -/
theorem Outcome.Writes.opened {out : Outcome Unit} (writes : out.Writes k m p r)
    (opened : Run.openFor p.1 p.2 m = .done () m) :
    ∃ (f : Address → Address) (q : Value × Selector) (n : Machine), m.Renames f n ∧
      CarriesPlace f m.world.heap p q ∧ k.world.heap.AgreeOn id f ∧ k.Grows m ∧ k.Grows n ∧
      out = Run.writeSlot (fun m => m.world.heap.selectSlot q.1 q.2) r n := by
  obtain ⟨related, place, same, grows, grows'⟩ := writes
  obtain ⟨-, again⟩ | ⟨a, i, held, -⟩ := place.openFor related
  · exact ⟨_, _, _, related, place, same, grows, grows', Run.bind_done again⟩
  · rw [opened] at held
    cases held

theorem Outcome.Writes.realizes {slot : Heap.Slot} {out : Outcome Unit}
    (writes : out.Writes k m p r)
    (opened : Run.openFor p.1 p.2 m = .done () m)
    (found : m.world.heap.selectSlot p.1 p.2 = .ok slot) (scalar : r.address? = none) :
    out.Realizes k (.write slot r) := by
  obtain ⟨f, q, n, related, place, same, grows, grows', rfl⟩ := writes.opened opened
  have slot' : n.world.heap.selectSlot q.1 q.2 = .ok (slot.rename f) := by
    rw [place.selectSlot related, found]
    rfl
  have below := place.1.2 _ (Heap.address_of_selectSlot found)
  rw [writeSlot_eq_done slot']
  obtain ⟨new, rfl⟩ := grows'
  apply Outcome.Realizes.done scalar
  intro a old
  apply related.heap.cells_write grows.size_le same _ below old
  intro b old
  exact Array.getElem?_append_left old

theorem Outcome.Writes.realizes_error {e : Fault} {out : Outcome Unit}
    (writes : out.Writes k m p r) (opened : Run.openFor p.1 p.2 m = .done () m)
    (failed : m.world.heap.selectSlot p.1 p.2 = .error e) : out.Realizes k (.fail e) := by
  obtain ⟨f, q, n, related, place, same, grows, grows', rfl⟩ := writes.opened opened
  have failed' : n.world.heap.selectSlot q.1 q.2 = .error e := by
    rw [place.selectSlot related, failed]
    rfl
  rw [writeSlot_eq_fault failed']
  exact .fault rfl grows'

theorem combined_eq_fault {before : Machine → Except Fault Value} {e : Fault}
    (compound : op.operator? = some o) (failed : before m = .error e) :
    Run.combined op before v m = .fault e m := by
  simp only [Run.combined, compound, Run.check, failed]
  rfl

theorem combined_eq_done {before : Machine → Except Fault Value}
    (compound : op.operator? = some o) (read : before m = .ok old)
    (combined : m.world.heap.binary o old v = .ok r) :
    Run.combined op before v m = .done r m := by
  have both : (do let l ← before m; m.world.heap.binary o l v) = .ok r := by
    rw [read]
    exact combined
  simp only [Run.combined, compound, Run.check, both]

/-- The left operand of an operator fails. -/
theorem operation_eq_fault {at_ at' : Location} {x : Run Value} {e : Fault}
    (failed : x k = .fault e m) :
    Run.located at_ (do
      let l ← Run.located at' x
      let r ← value
      Run.check fun m => m.world.heap.binary o l r) k = .fault ((e.located at').located at_) m := by
  have inner : Run.located at' x k = .fault (e.located at') m := by
    simp only [Run.located, failed]
  simp only [Run.located]
  rw [Run.bind_fault inner]

/-- Both operands of an operator have been evaluated, one after the other. -/
theorem operation_eq_done {at_ at' : Location} {x : Run Value} (first : x k = .done old m)
    (second : value m = .done v n) (computed : n.world.heap.binary o old v = .ok r) :
    Run.located at_ (do
      let l ← Run.located at' x
      let r ← value
      Run.check fun m => m.world.heap.binary o l r) k = .done r n := by
  have inner : Run.located at' x k = .done old m := by
    simp only [Run.located, first]
  have checked : Run.check (fun m => m.world.heap.binary o old v) n = .done r n := by
    simp only [Run.check, computed]
  simp only [Run.located]
  rw [Run.bind_done inner, Run.bind_done second, checked]

/-! ### Both assignments do what is planned -/

/-- What stands behind the base is combined with the right-hand side that was evaluated before. -/
theorem abbreviated_writes {kv : Machine} (closed : k.Closed) (aims : aim.Uniform CarriesPlace)
    (values : value.Uniform Carries) (compound : op.operator? = some o)
    (ran : value k = .done v kv) (computes : Computes o (kv.world.heap.face v) result)
    (aimed : aim k = .done p m) (read : m.world.heap.select p.1 p.2 = .ok old) :
    (abbreviated op aim value k).Writes k m p (result (m.world.heap.face old)) := by
  obtain ⟨_, _, _, _, -, evaluated, ⟨-, within⟩, grows, -⟩ :=
    values.exists_done closed (.refl k) ran
  obtain ⟨f, q, n, aimed', same, related, place, grows', grows''⟩ :=
    aims.exists_done closed grows aimed
  have read' : n.world.heap.select q.1 q.2 = .ok (old.rename f) := by
    rw [place.select related, read]
    rfl
  have left : n.world.heap.face (old.rename f) = m.world.heap.face old :=
    related.heap.face (related.heap.closed.within_select read)
  have right : n.world.heap.face v = kv.world.heap.face v :=
    grows''.face evaluated.heap.closed within
  have computed : n.world.heap.binary o (old.rename f) v =
      .ok (result (m.world.heap.face old)) := by
    rw [computes _ _ _ right, left]
  have combined : Run.combined op (fun m => m.world.heap.select q.1 q.2) v n =
      .done (result (m.world.heap.face old)) n := combined_eq_done compound read' computed
  rw [abbreviated, Run.bind_done ran, Run.bind_done aimed', store, Run.bind_done combined]
  exact .intro related place same grows' (grows.trans grows'')

theorem abbreviated_realizes {kv : Machine} (closed : k.Closed) (aims : aim.Uniform CarriesPlace)
    (values : value.Uniform Carries) (compound : op.operator? = some o)
    (ran : value k = .done v kv) (computes : Computes o (kv.world.heap.face v) result)
    (scalar : ∀ left, (result left).address? = none) (planned : Planned aim result k plan) :
    (abbreviated op aim value k).Realizes k plan := by
  obtain ⟨_, _, _, _, -, -, -, grows, -⟩ := values.exists_done closed (.refl k) ran
  cases planned with
  | astray failed =>
      obtain ⟨n, failed', -, grows'⟩ := aims.exists_fault closed grows failed
      rw [abbreviated, Run.bind_done ran, Run.bind_fault failed']
      exact .fault rfl (grows.trans grows')
  | @unread p m e aimed failed =>
      obtain ⟨f, q, n, aimed', same, related, place, grows', grows''⟩ :=
        aims.exists_done closed grows aimed
      have failed' : n.world.heap.select q.1 q.2 = .error e := by
        rw [place.select related, failed]
        rfl
      rw [abbreviated, Run.bind_done ran, Run.bind_done aimed', store,
        Run.bind_fault (combined_eq_fault compound failed')]
      exact .fault rfl (grows.trans grows'')
  | tangled aimed read held =>
      have writes := abbreviated_writes closed aims values compound ran computes aimed read
      exact writes.realizes_tangle held
  | unplaced aimed read opened failed =>
      have writes := abbreviated_writes closed aims values compound ran computes aimed read
      exact writes.realizes_error opened failed
  | placed aimed read opened found =>
      have writes := abbreviated_writes closed aims values compound ran computes aimed read
      exact writes.realizes opened found (scalar _)

/-- What stands behind the base is read first, and the base is evaluated once more for writing. -/
theorem expanded_writes {kv : Machine} (at_ at' : Location) (closed : k.Closed)
    (aims : aim.Uniform CarriesPlace) (values : value.Uniform Carries) (ran : value k = .done v kv)
    (computes : Computes o (kv.world.heap.face v) result) (aimed : aim k = .done p m)
    (fetched : fetch p m = .done old m) (within : m.world.heap.Within old) :
    (expanded at_ at' o aim value k).Writes k m p (result (m.world.heap.face old)) := by
  obtain ⟨_, _, _, _, -, evaluated, -, grows, -⟩ := aims.exists_done closed (.refl k) aimed
  obtain ⟨f, v', mv, ran', same, related, ⟨rfl, within'⟩, -, grows'⟩ :=
    values.exists_done closed grows ran
  obtain ⟨f', q, n, aimed', same', related', place, -, grows''⟩ :=
    aims.exists_done closed (grows.trans grows') aimed
  have left : mv.world.heap.face old = m.world.heap.face old :=
    grows'.face evaluated.heap.closed within
  have right : mv.world.heap.face (v.rename f) = kv.world.heap.face v :=
    related.heap.face within'
  have computed : mv.world.heap.binary o old (v.rename f) =
      .ok (result (m.world.heap.face old)) := by
    rw [computes _ _ _ right, left]
  have before : (aim >>= fetch) k = .done old m := (Run.bind_done aimed).trans fetched
  rw [expanded, Run.bind_done (operation_eq_done before ran' computed), Run.bind_done aimed']
  exact .intro related' place same' grows ((grows.trans grows').trans grows'')

theorem expanded_eq_fault {at_ at' : Location} {e : Fault}
    (failed : (aim >>= fetch) k = .fault e m) :
    expanded at_ at' o aim value k = .fault ((e.located at').located at_) m :=
  Run.bind_fault (operation_eq_fault failed)

theorem fetch_eq_done (reads : readable p.1 p.2 = .ok ())
    (read : m.world.heap.select p.1 p.2 = .ok old) : fetch p m = .done old m := by
  rw [fetch, reads]
  change Run.check (fun m => m.world.heap.select p.1 p.2) m = .done old m
  simp only [Run.check, read]

theorem fetch_eq_fault {e : Fault} (failed : m.world.heap.select p.1 p.2 = .error e) :
    fetch p m = .fault e m := by
  rw [fetch]
  cases reads : readable p.1 p.2 with
  | error e' =>
      obtain ⟨⟨old, read⟩, -⟩ := select_of_unreadable (h := m.world.heap) reads
      rw [failed] at read
      cases read
  | ok _ =>
      change Run.check (fun m => m.world.heap.select p.1 p.2) m = .fault e m
      simp only [Run.check, failed]

theorem expanded_realizes {kv : Machine} {at_ at' : Location} (closed : k.Closed)
    (aims : aim.Uniform CarriesPlace) (values : value.Uniform Carries) (ran : value k = .done v kv)
    (computes : Computes o (kv.world.heap.face v) result)
    (scalar : ∀ left, (result left).address? = none) (planned : Planned aim result k plan) :
    (expanded at_ at' o aim value k).Realizes k plan := by
  have unlocated (e : Fault) : ((e.located at').located at_).unplaced = e.unplaced := by simp
  cases planned with
  | astray failed =>
      obtain ⟨-, -, grows, -⟩ := aims.exists_fault closed (.refl k) failed
      rw [expanded_eq_fault (Run.bind_fault failed)]
      exact .fault (unlocated _) grows
  | unread aimed failed =>
      obtain ⟨_, _, _, -, -, -, -, grows, -⟩ := aims.exists_done closed (.refl k) aimed
      rw [expanded_eq_fault ((Run.bind_done aimed).trans (fetch_eq_fault failed))]
      exact .fault (unlocated _) grows
  | @tangled p m old a i aimed read held =>
      obtain ⟨_, _, _, -, -, evaluated, -, grows, -⟩ := aims.exists_done closed (.refl k) aimed
      have reads : readable p.1 p.2 = .ok () := readable_of_held held
      have writes := expanded_writes at_ at' closed aims values ran computes
        aimed (fetch_eq_done reads read) (evaluated.heap.closed.within_select read)
      exact writes.realizes_tangle held
  | @unplaced p m e old aimed read opened failed =>
      obtain ⟨_, _, _, -, -, evaluated, -, grows, -⟩ := aims.exists_done closed (.refl k) aimed
      cases reads : readable p.1 p.2 with
      | ok _ =>
          have writes := expanded_writes at_ at' closed aims values ran computes
            aimed (fetch_eq_done reads read) (evaluated.heap.closed.within_select read)
          exact writes.realizes_error opened failed
      | error e' =>
          have fetched : fetch p m = .fault e' m := by
            rw [fetch, reads]
            rfl
          obtain ⟨-, failed'⟩ := select_of_unreadable (h := m.world.heap) reads
          rw [failed] at failed'
          cases failed'
          rw [expanded_eq_fault ((Run.bind_done aimed).trans fetched)]
          exact .fault (unlocated _) grows
  | @placed p m slot old aimed read opened found =>
      obtain ⟨_, _, _, -, -, evaluated, -, grows, -⟩ := aims.exists_done closed (.refl k) aimed
      cases reads : readable p.1 p.2 with
      | ok _ =>
          have writes := expanded_writes at_ at' closed aims values ran computes
            aimed (fetch_eq_done reads read) (evaluated.heap.closed.within_select read)
          exact writes.realizes opened found (scalar _)
      | error e' =>
          obtain ⟨-, failed'⟩ := select_of_unreadable (h := m.world.heap) reads
          rw [found] at failed'
          cases failed'

/-- Behind a base, both assignments come to the same. -/
theorem sameEffect_behind {kv : Machine} {at_ at' : Location} (closed : k.Closed)
    (aims : aim.Uniform CarriesPlace) (values : value.Uniform Carries)
    (compound : op.operator? = some o) (ran : value k = .done v kv) :
    (abbreviated op aim value k).SameEffect k (expanded at_ at' o aim value k) := by
  obtain ⟨result, scalar, computes⟩ := exists_computes compound (kv.world.heap.face v)
  obtain ⟨plan, planned⟩ := aims.exists_planned closed result
  have first := abbreviated_realizes closed aims values compound ran computes scalar planned
  have second : (expanded at_ at' o aim value k).Realizes k plan :=
    expanded_realizes closed aims values ran computes scalar planned
  exact first.sameEffect closed second

end Plans

/-! ### Statements -/

section Statements

variable {m k : Machine} {loc : Location}

theorem Outcome.SameEffect.of_eq {o o' : Outcome α} (same : o.SameEffect k o')
    (scopes : k.engine.scopes = m.engine.scopes) (heap : k.world.heap = m.world.heap) :
    o.SameEffect m o' := by
  cases same with
  | done same rest => exact .done same rest
  | fault same unchanged unchanged' rest =>
      exact .fault same (unchanged.of_start scopes heap) (unchanged'.of_start scopes heap) rest
  | entangled looks looks' same unchanged unchanged' rest =>
      exact .entangled looks looks' same (unchanged.of_start scopes heap)
        (unchanged'.of_start scopes heap) rest

theorem Outcome.SameEffect.thenNext {x y : Run Unit} (same : (x k).SameEffect k (y k)) :
    (x.thenNext k).SameEffect k (y.thenNext k) := by
  generalize hx : x k = o at same
  generalize hy : y k = o' at same
  cases same with
  | done same rest =>
      rw [Run.thenNext, Run.thenNext, Run.bind_done hx, Run.bind_done hy]
      exact .done same rest
  | fault same unchanged unchanged' rest =>
      rw [Run.thenNext, Run.thenNext, Run.bind_fault hx, Run.bind_fault hy]
      exact .fault same unchanged unchanged' rest
  | entangled looks looks' same unchanged unchanged' rest =>
      rw [Run.thenNext, Run.thenNext, Run.bind_cut hx, Run.bind_cut hy]
      exact .entangled looks looks' same unchanged unchanged' rest

theorem Outcome.SameEffect.located {x y : Run α} (same : (x k).SameEffect k (y k)) :
    (Run.located loc x k).SameEffect k (Run.located loc y k) := by
  simp only [Run.located]
  generalize x k = o at same ⊢
  generalize y k = o' at same ⊢
  cases same with
  | done same rest => exact .done same rest
  | fault same unchanged unchanged' rest =>
      refine .fault ?_ unchanged unchanged' rest
      simp only [Fault.unplaced_located, same]
  | entangled looks looks' same unchanged unchanged' rest =>
      exact .entangled looks looks' same unchanged unchanged' rest

@[simp] theorem Machine.scopes_record (m : Machine) (s : Step) :
    (m.record s).engine.scopes = m.engine.scopes := by
  simp only [Machine.record, Engine.record_eq]

@[simp] theorem Machine.scope_record (m : Machine) (s : Step) :
    (m.record s).engine.scope = m.engine.scope := by
  simp only [Machine.record, Engine.record_eq]

@[simp] theorem Machine.world_record (m : Machine) (s : Step) : (m.record s).world = m.world := rfl

/-- Statements whose bodies come to the same come to the same; neither body runs when a stop is
requested or the budget is used up. -/
theorem sameEffect_statement {x y : Run Signal}
    (same : (x (m.atStatement loc)).SameEffect (m.atStatement loc) (y (m.atStatement loc))) :
    (Run.statement loc x m).SameEffect m (Run.statement loc y m) := by
  have recorded (f : Fault) (s : Step) :
      (Outcome.fault f (m.record s) : Outcome Signal).SameEffect m (.fault f (m.record s)) := by
    have unchanged : m.SameState (m.record s) := .of_eq (m.scopes_record s) rfl
    exact .fault rfl unchanged unchanged ⟨_, rfl⟩
  cases stopping : m.engine.stopping with
  | true =>
      rw [statement_eq_barred x stopping, statement_eq_barred y stopping]
      exact recorded _ _
  | false =>
      cases late : m.timeoutFault? with
      | none =>
          rw [statement_eq x stopping late, statement_eq y stopping late]
          apply same.located.of_eq
          · simp only [Machine.atStatement, Machine.scopes_record]
          · simp only [Machine.atStatement, Machine.world_record]
      | some f =>
          rw [statement_eq_overdue x stopping late, statement_eq_overdue y stopping late]
          exact recorded _ _

/-- A statement begins without a change that an expression could see. -/
theorem Machine.Closed.atStatement (closed : m.Closed) (loc : Location) :
    (m.atStatement loc).Closed := by
  refine ⟨closed.heap, ?_⟩
  simp only [Machine.atStatement, Machine.scopes_record, Machine.world_record]
  exact closed.names

theorem exists_eval_atStatement {sv : Services} {e : Expr} (free : e.callFree = true)
    (closed : m.Closed) (loc : Location) (evaluates : ∃ v m', eval sv e m = .done v m') :
    ∃ v m', eval sv e (m.atStatement loc) = .done v m' := by
  obtain ⟨v, m', ran⟩ := evaluates
  have related : m.Renames id (m.atStatement loc) := by
    apply closed.renames
    · simp only [Machine.atStatement, Machine.scopes_record]
    · simp only [Machine.atStatement, Machine.scope_record]
    · intro a below
      rfl
  have alike := eval_alike sv e free related
  rw [ran] at alike
  generalize again : eval sv e (m.atStatement loc) = o at alike
  cases alike with
  | done => exact ⟨_, _, rfl⟩

theorem eval_binary {op : AssignOp} {o : BinaryOp} (compound : op.operator? = some o)
    (sv : Services) (loc : Location) (l r : Expr) :
    eval sv (.binary loc o l r) = Run.located loc (do
      let a ← eval sv l
      let b ← eval sv r
      Run.check fun m => m.world.heap.binary o a b) := by
  cases op with
  | set => cases compound
  | _ =>
      cases compound
      rfl

/-- A name is written at the machine at which the right-hand side was evaluated, in both cases. -/
theorem sameEffect_var {sv : Services} {e : Expr} {op : AssignOp} {o : BinaryOp} {v : Value}
    {kv : Machine} {at_ at' : Location} (name : String) (compound : op.operator? = some o)
    (closed : k.Closed) (ran : eval sv e k = .done v kv) (grows : k.Grows kv) :
    ((eval sv e >>= fun v => assign sv op v (.var name)) k).SameEffect k
      ((eval sv (.binary at_ o (.var at' name) e) >>= fun v =>
        assign sv .set v (.var name)) k) := by
  rw [Run.bind_done ran, eval_binary compound, eval, assign]
  cases read : k.engine.scopes.get k.engine.scope name with
  | error f =>
      have read' : kv.engine.scopes.get kv.engine.scope name = .error f := by
        rw [grows.engine, read]
      have unbound : Run.readName name k = .fault f k := by
        simp only [Run.readName, Run.check, read]
      rw [Run.bind_fault (combined_eq_fault compound read'),
        Run.bind_fault (operation_eq_fault unbound)]
      apply Outcome.SameEffect.fault
      · simp
      · exact closed.sameState_grown grows
      · exact .refl k
      · exact grows.exists_withHeap (.refl k)
  | ok old =>
      have read' : kv.engine.scopes.get kv.engine.scope name = .ok old := by
        rw [grows.engine, read]
      obtain ⟨result, -, computes⟩ := exists_computes compound (kv.world.heap.face v)
      have computed := computes kv.world.heap old v rfl
      have bound : Run.readName name k = .done old k := by
        simp only [Run.readName, Run.check, read]
      rw [Run.bind_done (combined_eq_done compound read' computed),
        Run.bind_done (operation_eq_done bound ran computed)]
      exact .done (.refl _) ⟨_, rfl⟩

/-- An assignment with an operator comes to the same as the assignment that it abbreviates. -/
theorem compound_assignment_expands (sv : Services) (t : Target) (op : AssignOp) (o : BinaryOp)
    (e : Expr) (loc at_ at' : Location) (m : Machine) (compound : op.operator? = some o)
    (target : t.callFree = true) (value : e.callFree = true) (closed : m.Closed)
    (evaluates : ∃ v m', eval sv e m = .done v m') :
    (exec sv (.set loc t op e) m).SameEffect m
      (exec sv (.set loc t .set (.binary at_ o (t.toExpr at') e)) m) := by
  apply sameEffect_statement
  have closed' := closed.atStatement loc
  obtain ⟨v, kv, ran⟩ := exists_eval_atStatement value closed loc evaluates
  have values : Run.Uniform Carries (eval sv e) := eval_alike sv e value
  generalize m.atStatement loc = k at closed' ran ⊢
  have unnested (x : Run Value) (op : AssignOp) : (x >>= fun v => (assign sv op v t).thenNext) =
      (x >>= fun v => assign sv op v t).thenNext := (Run.bind_assoc x _ _).symm
  rw [unnested, unnested]
  apply Outcome.SameEffect.thenNext
  cases t with
  | var name =>
      obtain ⟨_, _, _, -, -, -, -, grows, -⟩ := values.exists_done closed' (.refl k) ran
      exact sameEffect_var name compound closed' ran grows
  | member base key =>
      have both : (abbreviated op (aimMember sv base key) (eval sv e) k).SameEffect k
          (expanded at_ at' o (aimMember sv base key) (eval sv e) k) :=
        sameEffect_behind closed' (uniform_aimMember sv target key) values compound ran
      simpa only [abbreviated, expanded, Target.toExpr, eval_binary compound, eval_member,
        assign_member] using both
  | index base position =>
      have both := Bool.and_eq_true_iff.mp target
      have both : (abbreviated op (aimIndex sv base position) (eval sv e) k).SameEffect k
          (expanded at_ at' o (aimIndex sv base position) (eval sv e) k) :=
        sameEffect_behind closed' (uniform_aimIndex sv both.1 both.2) values compound ran
      simpa only [abbreviated, expanded, Target.toExpr, eval_binary compound, eval_index,
        assign_index] using both

theorem nestedMachine_closed : nestedMachine.Closed := by
  have below (a : Address) (lt : a < 2) : a < nestedMachine.world.heap.cells.size := lt
  constructor
  · intro c mem v inside a at_
    simp only [nestedMachine, List.mem_toArray, List.mem_cons, List.not_mem_nil, or_false] at mem
    obtain rfl | rfl := mem
    · simp only [Collection.values, List.mem_singleton] at inside
      subst inside
      cases at_
    · simp only [Collection.values, List.map_cons, List.map_nil, List.mem_singleton] at inside
      subst inside
      cases at_
      exact below 0 (by decide)
  · intro id name v bound a at_
    have first : id = 0 := by
      by_contra other
      obtain ⟨j, rfl⟩ := Nat.exists_eq_succ_of_ne_zero other
      simp [Scopes.locals, nestedMachine] at bound
    subst first
    simp only [Scopes.locals, nestedMachine, List.getElem?_toArray, List.getElem?_cons_zero,
      List.mem_cons, Prod.mk.injEq, List.not_mem_nil, or_false] at bound
    obtain ⟨-, rfl⟩ | ⟨-, rfl⟩ := bound
    · cases at_
      exact below 0 (by decide)
    · cases at_
      exact below 1 (by decide)

/-- A new array is joined to the field of an object whose key is the text of an array. -/
theorem nestedMachine_expands :
    let target := Target.index (.var .unknown "box") (.var .unknown "list")
    let value := Expr.array .unknown [.var .unknown "list", .lit .unknown (.text "x")]
    target.callFree = true ∧ value.callFree = true ∧ nestedMachine.Closed ∧
      (∃ v m', eval (servicesWithin 1) value nestedMachine = .done v m') ∧
      (exec (servicesWithin 1) (.set .unknown target .add value) nestedMachine).SameEffect
        nestedMachine (exec (servicesWithin 1) (.set .unknown target .set
          (.binary .unknown .add (target.toExpr .unknown) value)) nestedMachine) := by
  have evaluates : ∃ v m', eval (servicesWithin 1)
      (.array .unknown [.var .unknown "list", .lit .unknown (.text "x")]) nestedMachine =
      .done v m' := ⟨_, _, rfl⟩
  refine ⟨rfl, rfl, nestedMachine_closed, evaluates, ?_⟩
  exact compound_assignment_expands _ _ _ _ _ _ _ _ _ rfl rfl rfl nestedMachine_closed evaluates

end Statements

end HostScript
