import HostScript.Engine.Frames
import HostScript.Proofs.Unfolding
import Mathlib.Logic.Relation

/-!
# Writing to a collection

An assignment to a member or an element writes one place of one collection. The value is read back
there through every value that refers to the collection; all other places of the collection, and
all other collections, are what they were. An assignment that fails changes nothing.

## Implementation notes

The place in an object that an index denotes is the text of the index, and the text of a collection
changes when something inside it does. So an index that leads to the object itself need not denote
the same place after the assignment, and reading back is stated for the others.
-/

namespace HostScript

open Relation

/-! ### Fields -/

namespace Bindings

variable {b : Bindings} {name : String} {v : Value}

theorem names_cons (e : String × Value) (b : Bindings) : names (e :: b) = e.1 :: b.names := rfl

/-- A name that is new comes last. -/
theorem names_insert :
    (b.insert name v).names = if name ∈ b.names then b.names else b.names ++ [name] := by
  fun_induction insert b name v with
  | case1 => simp [names]
  | case2 w rest => simp [names_cons]
  | case3 n w rest other ih =>
      simp only [names_cons, ih, List.mem_cons, Ne.symm other, false_or]
      split <;> simp_all

theorem mem_of_mem_insert {e : String × Value} (mem : e ∈ b.insert name v) :
    e = (name, v) ∨ e ∈ b := by
  fun_induction insert b name v with
  | case1 => exact .inl (List.mem_singleton.mp mem)
  | case2 w rest => exact (List.mem_cons.mp mem).imp_right (List.mem_cons_of_mem _)
  | case3 n w rest other ih =>
      obtain rfl | mem := List.mem_cons.mp mem
      · exact .inr List.mem_cons_self
      · exact (ih mem).imp_right (List.mem_cons_of_mem _)

theorem get?_eq_find? : b.get? name = (b.find? fun e => e.1 == name).map Prod.snd := by
  fun_induction get? b name with
  | case1 => rfl
  | case2 v rest => simp
  | case3 n v rest other ih => simp [other, ih]

theorem mem_of_get? (found : b.get? name = some v) : (name, v) ∈ b := by
  rw [get?_eq_find?] at found
  obtain ⟨e, first, rfl⟩ := Option.map_eq_some_iff.mp found
  obtain rfl : e.1 = name := by simpa using List.find?_some first
  exact List.mem_of_find?_eq_some first

theorem insert_eq_elim : b.insert name v =
    (b.findIdx? fun e => e.1 == name).elim (b ++ [(name, v)]) fun i => b.set i (name, v) := by
  fun_induction insert b name v with
  | case1 => rfl
  | case2 w rest => simp [List.findIdx?_cons]
  | case3 n w rest other ih =>
      rw [ih]
      cases found : rest.findIdx? fun e => e.1 == name <;> simp [List.findIdx?_cons, other, found]

end Bindings

namespace Fields

variable {f : Fields} {key other : String} {v : Value}

/-- Fields are bindings that are kept in an array. -/
theorem get?_eq_bindings : f.get? key = Bindings.get? f.toList key := by
  rw [get?, ← Array.find?_toList, Bindings.get?_eq_find?]

theorem toList_insert : (f.insert key v).toList = Bindings.insert f.toList key v := by
  obtain ⟨b⟩ := f
  rw [Bindings.insert_eq_elim, insert, List.findIdx?_toArray]
  cases b.findIdx? fun e => e.1 == key <;> simp

theorem mem_of_mem_insert {e : String × Value} (mem : e ∈ f.insert key v) :
    e = (key, v) ∨ e ∈ f := by
  rw [← Array.mem_toList_iff, toList_insert] at mem
  exact (Bindings.mem_of_mem_insert mem).imp_right Array.mem_toList_iff.mp

@[simp] theorem get?_insert_self : (f.insert key v).get? key = some v := by
  rw [get?_eq_bindings, toList_insert, Bindings.get?_insert_self]

theorem get?_insert_of_ne (ne : other ≠ key) : (f.insert key v).get? other = f.get? other := by
  rw [get?_eq_bindings, toList_insert, Bindings.get?_insert_of_ne _ v ne, ← get?_eq_bindings]

/-- The keys keep their order, and a new one comes last. -/
theorem keys_insert : (f.insert key v).keys = if key ∈ f.keys then f.keys else f.keys ++ [key] := by
  simp only [keys, toList_insert]
  exact Bindings.names_insert

end Fields

/-! ### Places on the heap -/

namespace Heap

variable {h g : Heap} {a b : Address} {c v w : Value} {key : String} {i j : Nat}

/-- The collection that a place belongs to. -/
def Slot.address : Slot → Address
  | .field a _ => a
  | .item a _ => a

/-- Only the collection of the place changes. -/
theorem cells_write_of_ne {slot : Slot} (ne : b ≠ slot.address) :
    (h.write slot v).cells[b]? = h.cells[b]? := by
  obtain ⟨cells⟩ := h
  cases slot with
  | field a key =>
      have ne : a ≠ b := Ne.symm ne
      simp only [write, modifyFields, Array.getElem?_modify, if_neg ne]
  | item a i =>
      have ne : a ≠ b := Ne.symm ne
      simp only [write, modifyItems, Array.getElem?_modify, if_neg ne]

theorem cells_write_field {fields : Fields} (found : h.cells[a]? = some (.object fields))
    (key : String) (v : Value) :
    (h.write (.field a key) v).cells[a]? = some (.object (fields.insert key v)) := by
  obtain ⟨cells⟩ := h
  simp [write, modifyFields, Array.getElem?_modify, found]

theorem cells_write_item {items : Array Value} (found : h.cells[a]? = some (.array items))
    (i : Nat) (v : Value) :
    (h.write (.item a i) v).cells[a]? = some (.array (putItem items i v)) := by
  obtain ⟨cells⟩ := h
  simp [write, modifyItems, Array.getElem?_modify, found]

theorem getElem?_putItem {items : Array Value} (le : i ≤ items.size) :
    (putItem items i v)[j]? = if j = i then some v else items[j]? := by
  unfold putItem
  split
  · next last =>
    subst last
    rw [Array.getElem?_push]
  · next inner =>
    have lt : i < items.size := by omega
    by_cases same : j = i
    · simp [same, lt]
    · simp [same, Ne.symm same]

theorem size_putItem (items : Array Value) (i : Nat) (v : Value) :
    (putItem items i v).size = items.size + if i = items.size then 1 else 0 := by
  unfold putItem
  split
  · next last => simp
  · simp

/-! ### What a text depends on -/

/-- Both heaps hold the same in a collection. -/
def SameInside (h g : Heap) : Value → Prop
  | .array a => g.items a = h.items a
  | .object a => g.fields a = h.fields a
  | _ => True

/-- A document depends only on the collections that the value leads to. -/
theorem documentWithin_congr {room : Nat} {path : List Address}
    (same : ∀ w, ReflTransGen h.Contains v w → h.SameInside g w) :
    g.documentWithin room path v = h.documentWithin room path v := by
  induction room generalizing path v with
  | zero => cases v <;> rfl
  | succ room ih =>
      have here := same v .refl
      have inner (w : Value) (inside : h.Contains v w) (path : List Address) :
          g.documentWithin room path w = h.documentWithin room path w := by
        apply ih
        intro u leads
        exact same u (.head inside leads)
      cases v with
      | array a =>
          simp only [documentWithin, SameInside] at here ⊢
          rw [here]
          congr 2
          apply List.map_congr_left
          intro w mem
          exact inner w (Array.mem_toList_iff.mp mem) _
      | object a =>
          simp only [documentWithin, SameInside] at here ⊢
          rw [here]
          congr 2
          apply List.map_congr_left
          intro e mem
          rw [inner e.2 ⟨e.1, Array.mem_toList_iff.mp mem⟩]
      | _ => rfl

theorem display_congr (same : ∀ w, ReflTransGen h.Contains v w → h.SameInside g w) :
    g.display v = h.display v := by
  have document_ : g.document v = h.document v := documentWithin_congr same
  cases v with
  | bool b => cases b <;> rfl
  | array a => simp only [display, documentText, document_]
  | object a => simp only [display, documentText, document_]
  | _ => rfl

/-- Writing a value looks into no object that the value does not lead to. -/
theorem leads_of_looksIntoWithin {room : Nat} {path : List Address}
    (looks : h.looksIntoWithin a room path v = true) :
    ReflTransGen h.Contains v (.object a) := by
  induction room generalizing path v with
  | zero => cases looks
  | succ room ih =>
      cases v with
      | array b =>
          simp only [looksIntoWithin, Bool.and_eq_true, List.any_eq_true,
            Array.mem_toList_iff] at looks
          obtain ⟨-, w, inside, looks⟩ := looks
          exact .head inside (ih looks)
      | object b =>
          simp only [looksIntoWithin, Bool.and_eq_true, Bool.or_eq_true, beq_iff_eq,
            List.any_eq_true, Array.mem_toList_iff] at looks
          obtain ⟨-, rfl | ⟨e, inside, looks⟩⟩ := looks
          · exact .refl
          · exact .head ⟨e.1, inside⟩ (ih looks)
      | _ => cases looks

end Heap

/-! ### Selectors -/

/-- What stands behind the base of a target: the key of a member, or an index. -/
inductive Selector where
  | member (key : String)
  | index (i : Value)

namespace Heap

variable {h g : Heap} {a b : Address} {c v w : Value} {s : Selector}

/-- What is read behind a base. -/
def select (h : Heap) (c : Value) : Selector → Except Fault Value
  | .member key => h.member c key
  | .index i => .ok (h.index c i)

/-- Where an assignment writes behind a base. -/
def selectSlot (h : Heap) (c : Value) : Selector → Except Fault Slot
  | .member key => memberSlot c key
  | .index i => h.indexSlot c i

/-- The step into a collection that a selector stands for. -/
def access? (h : Heap) : Value → Selector → Option Access
  | .array _, .index i => (position? i).map .item
  | .object _, .member key => some (.field key)
  | .object _, .index i => some (.field (h.display i))
  | _, _ => none

/-- An assignment can write behind the base: to an object at any key, and to an array at a position
that is at most its length. -/
def Writable (h : Heap) : Value → Selector → Prop
  | .object _, _ => True
  | .array a, .index i => ∃ p, position? i = some p ∧ p ≤ (h.items a).size
  | _, _ => False

/-- A scalar, or a collection that is on the heap. -/
def Holds (h : Heap) : Value → Prop
  | .array a => ∃ items, h.cells[a]? = some (.array items)
  | .object a => ∃ fields, h.cells[a]? = some (.object fields)
  | _ => True

/-- What is read behind an object, or behind an array at an index, is what a step into it finds. -/
theorem select_eq_of_access? {step : Access} (at_ : h.access? c s = some step) :
    h.select c s = .ok ((h.enter? c step).getD .undefined) := by
  cases c with
  | array a =>
      cases s with
      | member key => cases at_
      | index i =>
          obtain ⟨p, position, rfl⟩ := Option.map_eq_some_iff.mp at_
          simp only [select, Heap.index, position, Option.bind_some, enter?]
  | object a =>
      cases s with
      | member key =>
          cases at_
          rfl
      | index i =>
          cases at_
          rfl
  | _ => cases at_

/-- The places that assignments write to. -/
theorem selectSlot_cases {slot : Slot} (found : h.selectSlot c s = .ok slot) :
    (∃ a key, c = .object a ∧ slot = .field a key ∧ h.access? c s = some (.field key)) ∨
    ∃ a i p, c = .array a ∧ s = .index i ∧ slot = .item a p ∧ position? i = some p ∧
      p ≤ (h.items a).size := by
  cases s with
  | member key =>
      cases c with
      | object a =>
          cases found
          exact .inl ⟨a, key, rfl, rfl, rfl⟩
      | _ => cases found
  | index i =>
      cases c with
      | object a =>
          cases found
          exact .inl ⟨a, _, rfl, rfl, rfl⟩
      | array a =>
          simp only [selectSlot, indexSlot] at found
          split at found
          · next p inRange =>
            cases found
            obtain ⟨position, le⟩ := Option.filter_eq_some_iff.mp inRange
            exact .inr ⟨a, i, p, rfl, rfl, rfl, position, by simpa using le⟩
          · cases found
      | _ => cases found

theorem exists_selectSlot_iff : (∃ slot, h.selectSlot c s = .ok slot) ↔ h.Writable c s := by
  constructor
  · rintro ⟨slot, found⟩
    obtain ⟨a, key, rfl, -, -⟩ | ⟨a, i, p, rfl, rfl, -, position, le⟩ := selectSlot_cases found
    · trivial
    · exact ⟨p, position, le⟩
  · intro writable
    cases c with
    | object a => cases s <;> exact ⟨_, rfl⟩
    | array a =>
        cases s with
        | member key => cases writable
        | index i =>
            obtain ⟨p, position, le⟩ := writable
            have inRange : (position? i).filter (· ≤ (h.items a).size) = some p :=
              Option.filter_eq_some_iff.mpr ⟨position, by simpa using le⟩
            exact ⟨.item a p, by simp only [selectSlot, indexSlot, inRange]⟩
    | _ => cases writable

/-- What an assignment of a value behind a base makes of a heap. -/
structure Wrote (h g : Heap) (c : Value) (s : Selector) (v : Value) : Prop where
  /-- The value is read back through everything that is the same collection. -/
  readBack : ∀ other : Value, other.strictEq c = true → g.select other s = .ok v
  /-- The other items or fields of the collection are what they were. -/
  steps : ∀ step, h.access? c s ≠ some step → g.enter? c step = h.enter? c step
  /-- The other collections are what they were. -/
  cells : ∀ b, c.address? ≠ some b → g.cells[b]? = h.cells[b]?
  /-- An array gets longer by the item behind its last one. -/
  size : ∀ a i, c = .array a → s = .index i → (g.items a).size =
    (h.items a).size + if position? i = some (h.items a).size then 1 else 0
  /-- The keys of an object keep their order, and a new one comes last. -/
  keys : ∀ a key, c = .object a → h.access? c s = some (.field key) → (g.fields a).keys =
    if key ∈ (h.fields a).keys then (h.fields a).keys else (h.fields a).keys ++ [key]

theorem eq_of_strictEq (collection : c.address? = some a) (same : w.strictEq c = true) : w = c := by
  cases c with
  | array b => cases w <;> simp_all [Value.strictEq]
  | object b => cases w <;> simp_all [Value.strictEq]
  | _ => cases collection

theorem items_of_cells {items : Array Value} (found : h.cells[a]? = some (.array items)) :
    h.items a = items := by
  simp only [Heap.items, found]

theorem fields_of_cells {fields : Fields} (found : h.cells[a]? = some (.object fields)) :
    h.fields a = fields := by
  simp only [Heap.fields, found]

/-- Writing a field changes the inside of no other value than the object. -/
theorem sameInside_write_field (held : h.Holds (.object a)) (key : String) (v : Value)
    (ne : w ≠ .object a) : h.SameInside (h.write (.field a key) v) w := by
  obtain ⟨fields, found⟩ := held
  have elsewhere {b : Address} (apart : b ≠ a) :
      (h.write (.field a key) v).cells[b]? = h.cells[b]? := cells_write_of_ne apart
  cases w with
  | array b =>
      by_cases same : b = a
      · subst same
        simp only [SameInside, Heap.items, cells_write_field found key v, found]
      · simp only [SameInside, Heap.items, elsewhere same]
  | object b =>
      have apart : b ≠ a := fun same => ne (congrArg Value.object same)
      simp only [SameInside, Heap.fields, elsewhere apart]
  | _ => trivial

theorem wrote_field {key : String} (held : h.Holds (.object a))
    (at_ : h.access? (.object a) s = some (.field key))
    (apart : ∀ i, s = .index i → ¬ ReflTransGen h.Contains i (.object a)) :
    h.Wrote (h.write (.field a key) v) (.object a) s v := by
  have inside {w : Value} (ne : w ≠ .object a) := sameInside_write_field held key v ne
  obtain ⟨fields, found⟩ := held
  have written := fields_of_cells (cells_write_field found key v)
  have before := fields_of_cells found
  have access : (h.write (.field a key) v).access? (.object a) s = some (.field key) := by
    cases s with
    | member k => exact at_
    | index i =>
        have text : (h.write (.field a key) v).display i = h.display i := by
          apply display_congr
          rintro w leads
          apply inside
          rintro rfl
          exact apart i rfl leads
        simp only [access?, text] at at_ ⊢
        exact at_
  constructor
  · intro other same
    rw [eq_of_strictEq rfl same, select_eq_of_access? access]
    simp only [enter?, written, Fields.get?_insert_self, Option.getD_some]
  · intro step ne
    cases step with
    | item p => rfl
    | field k =>
        have ne : k ≠ key := by
          rintro rfl
          exact ne at_
        simp only [enter?, written, before, Fields.get?_insert_of_ne ne]
  · intro b ne
    apply cells_write_of_ne
    rintro rfl
    exact ne rfl
  · rintro b i ⟨⟩
  · rintro b k ⟨⟩ at'
    obtain rfl : key = k := by
      rw [at_] at at'
      simpa using at'
    rw [written, before, Fields.keys_insert]

theorem wrote_item {i : Value} {p : Nat} (held : h.Holds (.array a))
    (position : position? i = some p)
    (le : p ≤ (h.items a).size) : h.Wrote (h.write (.item a p) v) (.array a) (.index i) v := by
  obtain ⟨items, found⟩ := held
  have written := items_of_cells (cells_write_item found p v)
  have before := items_of_cells found
  have access (g : Heap) : g.access? (.array a) (.index i) = some (.item p) := by
    simp only [access?, position, Option.map_some]
  rw [before] at le
  constructor
  · intro other same
    rw [eq_of_strictEq rfl same, select_eq_of_access? (access _)]
    simp only [enter?, written, getElem?_putItem le, if_true, Option.getD_some]
  · intro step ne
    cases step with
    | field k => rfl
    | item q =>
        have ne : q ≠ p := by
          rintro rfl
          exact ne (access h)
        simp only [enter?, written, before, getElem?_putItem le, if_neg ne]
  · intro b ne
    apply cells_write_of_ne
    rintro rfl
    exact ne rfl
  · rintro b j ⟨⟩ ⟨⟩
    simp only [written, before, size_putItem, position, Option.some_inj]
  · rintro b k ⟨⟩

end Heap

/-! ### Assignments -/

/-- The parts of a target have been evaluated: they have the value `c` of the base and the selector
behind it, at the machine `m'`. -/
inductive Designates (sv : Services) : Target → Machine → Value → Selector → Machine → Prop
  | member {base : Expr} {key : String} {c : Value} {m m' : Machine}
      (base_ : eval sv base m = .done c m') : Designates sv (.member base key) m c (.member key) m'
  | index {base position : Expr} {c i : Value} {m m₁ m' : Machine}
      (base_ : eval sv base m = .done c m₁) (position_ : eval sv position m₁ = .done i m') :
      Designates sv (.index base position) m c (.index i) m'

variable {sv : Services} {m m' : Machine} {target : Target} {c v : Value} {s : Selector}

/-- Open a container for an assignment at a selector. -/
def Run.openFor (c : Value) : Selector → Run Unit
  | .member _ => Run.result ()
  | .index i => Run.openAt c i

theorem Run.openFor_cases (c : Value) (s : Selector) (m : Machine) :
    Run.openFor c s m = .done () m ∨
      ∃ a i, c = .object a ∧ s = .index i ∧ m.world.heap.looksInto a i = true ∧
        Run.openFor c s m = .cut (.entangled a i) m := by
  cases s with
  | member key => exact .inl rfl
  | index i =>
      obtain opened | ⟨a, rfl, looks, held⟩ := Run.openAt_cases c i m
      · exact .inl opened
      · exact .inr ⟨a, i, rfl, rfl, looks, held⟩

/-- A container can be opened at an index that does not lead to it. -/
theorem Run.openFor_eq_done
    (apart : ∀ a i, c = .object a → s = .index i →
      ¬ ReflTransGen m.world.heap.Contains i (.object a)) :
    Run.openFor c s m = .done () m := by
  obtain opened | ⟨a, i, rfl, rfl, looks, -⟩ := Run.openFor_cases c s m
  · exact opened
  · exact absurd (Heap.leads_of_looksIntoWithin looks) (apart a i rfl rfl)

/-- What is left of an assignment when the parts of its target have been evaluated. -/
theorem Designates.assign_eq (designated : Designates sv target m c s m') (v : Value) :
    assign sv .set v target m = (do
      Run.openFor c s
      Run.writeSlot (fun m => m.world.heap.selectSlot c s) v : Run Unit) m' := by
  cases designated with
  | member base_ => exact Run.bind_done base_
  | index base_ position_ => exact (Run.bind_done base_).trans (Run.bind_done position_)

/-- The machine with another heap. -/
def Machine.withHeap (m : Machine) (heap : Heap) : Machine := ⟨m.engine, { m.world with heap }⟩

theorem writeSlot_eq_done {slot : Machine → Except Fault Heap.Slot} {p : Heap.Slot}
    (found : slot m = .ok p) :
    Run.writeSlot slot v m = .done () (m.withHeap (m.world.heap.write p v)) := by
  simp only [Run.writeSlot, found]
  rfl

theorem writeSlot_eq_fault {slot : Machine → Except Fault Heap.Slot} {f : Fault}
    (failed : slot m = .error f) : Run.writeSlot slot v m = .fault f m := by
  simp only [Run.writeSlot, failed]

/-- A plain assignment behind a collection that is on the heap, at an index that does not lead to
the object itself, either writes one place and nothing else, or changes nothing at all; and it
writes exactly when there is a place for it. -/
theorem assignment_reads_back (sv : Services) (target : Target) (m m' : Machine) (c : Value)
    (s : Selector) (v : Value) (designated : Designates sv target m c s m')
    (held : m'.world.heap.Holds c)
    (apart : ∀ a i, c = .object a → s = .index i →
      ¬ ReflTransGen m'.world.heap.Contains i (.object a)) :
    (∃ heap, assign sv .set v target m = .done () (m'.withHeap heap) ∧
        m'.world.heap.Writable c s ∧ m'.world.heap.Wrote heap c s v) ∨
      ∃ f, assign sv .set v target m = .fault f m' ∧ ¬ m'.world.heap.Writable c s := by
  rw [designated.assign_eq, Run.bind_done (Run.openFor_eq_done apart)]
  cases found : m'.world.heap.selectSlot c s with
  | error f =>
      refine .inr ⟨f, writeSlot_eq_fault found, ?_⟩
      intro writable
      obtain ⟨slot, found'⟩ := Heap.exists_selectSlot_iff.mpr writable
      rw [found] at found'
      cases found'
  | ok slot =>
      refine .inl ⟨_, writeSlot_eq_done found, Heap.exists_selectSlot_iff.mp ⟨slot, found⟩, ?_⟩
      obtain ⟨a, key, rfl, rfl, at_⟩ | ⟨a, i, p, rfl, rfl, rfl, position, le⟩ :=
        Heap.selectSlot_cases found
      · exact Heap.wrote_field held at_ fun i => apart a i rfl
      · exact Heap.wrote_item held position le

/-- An array inside an object, both of them bound to names. -/
def nestedMachine : Machine where
  engine := { scopes := ⟨#[{ vars := [("list", .array 0), ("box", .object 1)] }]⟩ }
  world := { heap := ⟨#[.array #[.null], .object #[("item", .array 0)]]⟩ }

/-- The array does not lead to the object that holds it. -/
theorem nestedMachine_apart :
    ¬ ReflTransGen nestedMachine.world.heap.Contains (.array 0) (.object 1) := by
  intro leads
  obtain same | ⟨w, inside, leads⟩ := leads.cases_head
  · cases same
  · have null_ : w = .null := by
      simpa [Heap.Contains, Heap.items, nestedMachine] using inside
    subst null_
    obtain same | ⟨_, inside, _⟩ := leads.cases_head
    · cases same
    · cases inside

/-- An object is written at the text of an array that it holds. -/
theorem nestedMachine_reads_back :
    Designates (servicesWithin 1) (.index (.var .unknown "box") (.var .unknown "list"))
        nestedMachine (.object 1) (.index (.array 0)) nestedMachine ∧
      nestedMachine.world.heap.Holds (.object 1) ∧
      ¬ ReflTransGen nestedMachine.world.heap.Contains (.array 0) (.object 1) ∧
      ∃ heap, assign (servicesWithin 1) .set (.bool true)
          (.index (.var .unknown "box") (.var .unknown "list")) nestedMachine =
          .done () (nestedMachine.withHeap heap) ∧
        heap.index (.object 1) (.array 0) = .bool true := by
  have designated : Designates (servicesWithin 1)
      (.index (.var .unknown "box") (.var .unknown "list"))
      nestedMachine (.object 1) (.index (.array 0)) nestedMachine := .index rfl rfl
  have held : nestedMachine.world.heap.Holds (.object 1) := ⟨_, rfl⟩
  have apart (a : Address) (i : Value) (object : Value.object 1 = .object a)
      (index : Selector.index (.array 0) = .index i) :
      ¬ ReflTransGen nestedMachine.world.heap.Contains i (.object a) := by
    cases object
    cases index
    exact nestedMachine_apart
  refine ⟨designated, held, nestedMachine_apart, ?_⟩
  obtain ⟨heap, ran, -, wrote⟩ | ⟨f, -, stuck⟩ :=
    assignment_reads_back _ _ _ _ _ _ (.bool true) designated held apart
  · exact ⟨heap, ran, Except.ok.inj (wrote.readBack (.object 1) rfl)⟩
  · exact absurd trivial stuck

end HostScript
