import HostScript.Proofs.Storage.Writing
import Mathlib.Logic.Function.Basic

/-!
# Heaps up to addresses

The address of a collection tells collections apart and does nothing else. If the collections of one
heap stand in another under new addresses, with what they hold renamed accordingly, then reading,
rendering and the choice of a place to write to give the same on both, up to the new addresses.

## Implementation notes

The second heap may hold more than the first. With the identity for a renaming it is an extension
of the first one, so that what is said here about renamed values holds of values on a heap that has
grown, too.
-/

namespace HostScript

/-! ### Renamed values -/

namespace Value

variable {f g : Address → Address} {v w : Value} {a : Address}

/-- The value with another address, if it is a collection. -/
def rename (f : Address → Address) : Value → Value
  | .array a => .array (f a)
  | .object a => .object (f a)
  | v => v

@[simp] theorem rename_array (f : Address → Address) (a : Address) :
    (Value.array a).rename f = .array (f a) := rfl

@[simp] theorem rename_object (f : Address → Address) (a : Address) :
    (Value.object a).rename f = .object (f a) := rfl

@[simp] theorem toNumber_rename (f : Address → Address) (v : Value) :
    (v.rename f).toNumber = v.toNumber := by
  cases v <;> rfl

@[simp] theorem isTruthy_rename (f : Address → Address) (v : Value) :
    (v.rename f).isTruthy = v.isTruthy := by
  cases v <;> rfl

theorem rename_of_scalar (scalar : v.address? = none) : v.rename f = v := by
  cases v with
  | array a => cases scalar
  | object a => cases scalar
  | _ => rfl

theorem rename_congr (same : ∀ a, v.address? = some a → f a = g a) : v.rename f = v.rename g := by
  cases v with
  | array a => exact congrArg Value.array (same a rfl)
  | object a => exact congrArg Value.object (same a rfl)
  | _ => rfl

@[simp] theorem rename_id (v : Value) : v.rename id = v := by
  cases v <;> rfl

/-- Renaming keeps different collections apart. -/
theorem strictEq_rename
    (apart : ∀ a b, v.address? = some a → w.address? = some b → f a = f b → a = b) :
    (v.rename f).strictEq (w.rename f) = v.strictEq w := by
  have same {a b : Address} (ha : v.address? = some a) (hb : w.address? = some b) :
      (f a == f b) = (a == b) := by
    rw [Bool.eq_iff_iff, beq_iff_eq, beq_iff_eq]
    exact ⟨apart a b ha hb, congrArg f⟩
  cases v with
  | array a =>
      cases w with
      | array b => exact same rfl rfl
      | _ => rfl
  | object a =>
      cases w with
      | object b => exact same rfl rfl
      | _ => rfl
  | _ => cases w <;> rfl

end Value

/-! ### Renamed collections -/

namespace Collection

variable {f g : Address → Address} {c : Collection}

/-- The values that a collection holds. -/
def values : Collection → List Value
  | .array items => items.toList
  | .object fields => fields.toList.map Prod.snd

/-- The collection with what it holds renamed. -/
def rename (f : Address → Address) : Collection → Collection
  | .array items => .array (items.map (Value.rename f))
  | .object fields => .object (fields.map fun e => (e.1, e.2.rename f))

theorem rename_congr (same : ∀ v ∈ c.values, v.rename f = v.rename g) :
    c.rename f = c.rename g := by
  cases c with
  | array items =>
      apply congrArg Collection.array
      apply Array.map_congr_left
      intro v mem
      exact same v (Array.mem_toList_iff.mpr mem)
  | object fields =>
      apply congrArg Collection.object
      apply Array.map_congr_left
      intro e mem
      rw [same e.2 (List.mem_map_of_mem (Array.mem_toList_iff.mpr mem))]

theorem rename_id : c.rename id = c := by
  have values : Value.rename id = id := funext Value.rename_id
  cases c with
  | array items => simp [rename, values]
  | object fields => simp [rename]

end Collection

namespace Fields

theorem get?_map (f : Address → Address) (fields : Fields) (key : String) :
    get? (fields.map fun e => (e.1, e.2.rename f)) key =
      (fields.get? key).map (Value.rename f) := by
  simp only [Fields.get?, Array.find?_map, Option.map_map]
  rfl

theorem insert_map (f : Address → Address) (fields : Fields) (key : String) (v : Value) :
    Fields.insert (fields.map fun e => (e.1, e.2.rename f)) key (v.rename f) =
      (fields.insert key v).map fun e => (e.1, e.2.rename f) := by
  have scan (b : Bindings) :
      Bindings.insert (b.map fun e => (e.1, e.2.rename f)) key (v.rename f) =
        (b.insert key v).map fun e => (e.1, e.2.rename f) := by
    fun_induction Bindings.insert b key v with
    | case1 => rfl
    | case2 w rest => simp [Bindings.insert]
    | case3 n w rest other ih => simp [Bindings.insert, other, ih]
  apply Array.toList_inj.mp
  simp only [toList_insert, Array.toList_map, scan]

theorem insertAll_map (f : Address → Address) (es : List (String × Value)) (fields : Fields) :
    Fields.insertAll (fields.map fun e => (e.1, e.2.rename f))
        (es.map fun e => (e.1, e.2.rename f)) =
      (fields.insertAll es).map fun e => (e.1, e.2.rename f) := by
  induction es generalizing fields with
  | nil => rfl
  | cons e es ih =>
      simp only [insertAll, List.map_cons, List.foldl_cons] at ih ⊢
      rw [insert_map, ih]

theorem mem_of_mem_insertAll {es : List (String × Value)} {fields : Fields} {e : String × Value}
    (mem : e ∈ fields.insertAll es) : e ∈ fields ∨ e ∈ es := by
  induction es generalizing fields with
  | nil => exact .inl mem
  | cons first es ih =>
      obtain mem | mem := ih mem
      · obtain rfl | mem := mem_of_mem_insert mem
        · exact .inr List.mem_cons_self
        · exact .inl mem
      · exact .inr (List.mem_cons_of_mem _ mem)

end Fields

namespace Heap

variable {f f' : Address → Address} {h h' g : Heap} {v w c i l r : Value} {a b : Address}
  {s : Selector} {op : BinaryOp} {key : String}

theorem order?_rename (f : Address → Address) (l r : Value) :
    order? (l.rename f) (r.rename f) = order? l r := by
  cases l <;> cases r <;> rfl

theorem position?_rename (f : Address → Address) (i : Value) :
    position? (i.rename f) = position? i := by
  simp only [position?, Value.toNumber_rename]

theorem unary_rename (f : Address → Address) (op : UnaryOp) (v : Value) :
    unary op (v.rename f) = unary op v := by
  cases op with
  | neg => simp only [unary, Value.toNumber_rename]
  | not => simp only [unary, Value.isTruthy_rename]

/-! ### Closed heaps -/

/-- The value refers to no collection that is missing. -/
def Within (h : Heap) (v : Value) : Prop := ∀ a, v.address? = some a → a < h.cells.size

/-- The collections refer to none that is missing. -/
def Closed (h : Heap) : Prop := ∀ c ∈ h.cells, ∀ v ∈ c.values, h.Within v

theorem within_of_scalar (scalar : v.address? = none) : h.Within v := by
  intro a at_
  rw [scalar] at at_
  cases at_

theorem Within.mono (within : h.Within v) (le : h.cells.size ≤ h'.cells.size) : h'.Within v :=
  fun a at_ => Nat.lt_of_lt_of_le (within a at_) le

theorem mem_values_of_mem_items (mem : v ∈ h.items a) : ∃ c ∈ h.cells, v ∈ c.values := by
  unfold items at mem
  split at mem
  · next items found => exact ⟨_, Array.mem_of_getElem? found, Array.mem_toList_iff.mpr mem⟩
  · simp at mem

theorem mem_values_of_mem_fields {e : String × Value} (mem : e ∈ h.fields a) :
    ∃ c ∈ h.cells, e.2 ∈ c.values := by
  unfold fields at mem
  split at mem
  · next fields found =>
    exact ⟨_, Array.mem_of_getElem? found, List.mem_map_of_mem (Array.mem_toList_iff.mpr mem)⟩
  · simp at mem

theorem Closed.within_item (closed : h.Closed) (mem : v ∈ h.items a) : h.Within v := by
  obtain ⟨c, at_, inside⟩ := mem_values_of_mem_items mem
  exact closed c at_ v inside

theorem Closed.within_field (closed : h.Closed) {e : String × Value} (mem : e ∈ h.fields a) :
    h.Within e.2 := by
  obtain ⟨c, at_, inside⟩ := mem_values_of_mem_fields mem
  exact closed c at_ e.2 inside

theorem Closed.within_of_contains (closed : h.Closed) (inside : h.Contains v w) : h.Within w := by
  cases v with
  | array a => exact closed.within_item inside
  | object a =>
      obtain ⟨key, mem⟩ := inside
      exact closed.within_field mem
  | _ => cases inside

/-! ### Renamed heaps -/

/-- The renamings agree on the collections of the heap. -/
def AgreeOn (h : Heap) (f f' : Address → Address) : Prop := ∀ a < h.cells.size, f' a = f a

/-- The collections of the first heap stand in the second under new addresses. -/
structure Renames (f : Address → Address) (h g : Heap) : Prop where
  closed : h.Closed
  apart : ∀ a b, a < h.cells.size → b < h.cells.size → f a = f b → a = b
  cells : ∀ a < h.cells.size, g.cells[f a]? = h.cells[a]?.map (Collection.rename f)

/-- A heap that has grown holds the collections that it held under their own addresses. -/
theorem renames_id (closed : h.Closed) (keeps : ∀ a < h.cells.size, g.cells[a]? = h.cells[a]?) :
    h.Renames id g := by
  refine ⟨closed, fun a b _ _ same => same, fun a below => ?_⟩
  have unchanged : Collection.rename id = id := funext fun c => c.rename_id
  rw [unchanged, Option.map_id_fun]
  exact keeps a below

namespace Renames

/-- Collections stay where they are when the renaming changes only for addresses that are not taken
yet. -/
theorem congr (related : h.Renames f g) (same : h.AgreeOn f f') : h.Renames f' g := by
  refine ⟨related.closed, fun a b ha hb eq => ?_, fun a below => ?_⟩
  · rw [same a ha, same b hb] at eq
    exact related.apart a b ha hb eq
  · rw [same a below, related.cells a below, Array.getElem?_eq_getElem below, Option.map_some,
      Option.map_some]
    apply congrArg some
    apply Collection.rename_congr
    intro v mem
    apply Value.rename_congr
    intro b at_
    exact (same b (related.closed _ (Array.getElem_mem below) v mem b at_)).symm

theorem lt_size (related : h.Renames f g) (below : a < h.cells.size) : f a < g.cells.size := by
  have found := related.cells a below
  rw [Array.getElem?_eq_getElem below, Option.map_some] at found
  exact (Array.getElem?_eq_some_iff.mp found).1

theorem items (related : h.Renames f g) (below : a < h.cells.size) :
    g.items (f a) = (h.items a).map (Value.rename f) := by
  have found := related.cells a below
  rw [Array.getElem?_eq_getElem below, Option.map_some] at found
  simp only [Heap.items, found, Array.getElem?_eq_getElem below]
  cases h.cells[a] with
  | array items => rfl
  | object fields => simp [Collection.rename]

theorem fields (related : h.Renames f g) (below : a < h.cells.size) :
    g.fields (f a) = (h.fields a).map fun e => (e.1, e.2.rename f) := by
  have found := related.cells a below
  rw [Array.getElem?_eq_getElem below, Option.map_some] at found
  simp only [Heap.fields, found, Array.getElem?_eq_getElem below]
  cases h.cells[a] with
  | array items => simp [Collection.rename]
  | object fields => rfl

/-- A new collection on both heaps. -/
theorem push (related : h.Renames f g) {c : Collection} (within : ∀ v ∈ c.values, h.Within v) :
    Renames (Function.update f h.cells.size g.cells.size) ⟨h.cells.push c⟩
      ⟨g.cells.push (c.rename f)⟩ := by
  have old : h.Renames (Function.update f h.cells.size g.cells.size) g := by
    apply related.congr
    intro a below
    exact Function.update_of_ne (Nat.ne_of_lt below) _ _
  have renamed : c.rename (Function.update f h.cells.size g.cells.size) = c.rename f := by
    apply Collection.rename_congr
    intro v mem
    apply Value.rename_congr
    intro a at_
    exact Function.update_of_ne (Nat.ne_of_lt (within v mem a at_)) _ _
  rw [← renamed]
  have last : Function.update f h.cells.size g.cells.size h.cells.size = g.cells.size :=
    Function.update_self _ _ _
  generalize Function.update f h.cells.size g.cells.size = f' at old last ⊢
  refine ⟨?_, ?_, ?_⟩
  · intro c' mem v inside
    have grows : h.cells.size ≤ (h.cells.push c).size := by simp
    obtain mem | rfl := Array.mem_push.mp mem
    · exact (old.closed c' mem v inside).mono grows
    · exact (within v inside).mono grows
  · intro a b ha hb same
    simp only [Array.size_push, Nat.lt_succ_iff_lt_or_eq] at ha hb
    obtain ha | rfl := ha <;> obtain hb | rfl := hb
    · exact old.apart a b ha hb same
    · exact absurd (same.trans last) (Nat.ne_of_lt (old.lt_size ha))
    · exact absurd (same.symm.trans last) (Nat.ne_of_lt (old.lt_size hb))
    · rfl
  · intro a below
    simp only [Array.size_push, Nat.lt_succ_iff_lt_or_eq] at below
    obtain below | rfl := below
    · rw [Array.getElem?_push, if_neg (Nat.ne_of_lt (old.lt_size below)), old.cells a below,
        Array.getElem?_push, if_neg (Nat.ne_of_lt below)]
    · rw [last, Array.getElem?_push_size, Array.getElem?_push_size, Option.map_some]

/-! ### What is seen of renamed values -/

theorem contains_map (related : h.Renames f g) {path : List Address}
    (around : ∀ a ∈ path, a < h.cells.size) (below : a < h.cells.size) :
    (path.map f).contains (f a) = path.contains a := by
  rw [Bool.eq_iff_iff, List.contains_iff_mem, List.contains_iff_mem, List.mem_map]
  constructor
  · rintro ⟨b, mem, same⟩
    rwa [← related.apart b a (around b mem) below same]
  · intro mem
    exact ⟨a, mem, rfl⟩

/-- The document of a value does not show addresses. -/
theorem documentWithin (related : h.Renames f g) {room : Nat} {path : List Address}
    (around : ∀ a ∈ path, a < h.cells.size) (within : h.Within v) :
    g.documentWithin room (path.map f) (v.rename f) = h.documentWithin room path v := by
  induction room generalizing path v with
  | zero =>
      have seen {a : Address} := related.contains_map (a := a) around
      cases v with
      | array a => simp only [Value.rename_array, Heap.documentWithin, seen (within a rfl)]
      | object a => simp only [Value.rename_object, Heap.documentWithin, seen (within a rfl)]
      | _ => rfl
  | succ room ih =>
      have seen {a : Address} := related.contains_map (a := a) around
      have inner {a : Address} (below : a < h.cells.size) {w : Value} (within : h.Within w) :
          g.documentWithin room (f a :: path.map f) (w.rename f) =
            h.documentWithin room (a :: path) w := by
        have around' : ∀ b ∈ a :: path, b < h.cells.size := List.forall_mem_cons.mpr ⟨below, around⟩
        exact ih around' within
      cases v with
      | array a =>
          have below := within a rfl
          simp only [Value.rename_array, Heap.documentWithin, seen below, related.items below,
            Array.toList_map, List.map_map]
          congr 2
          apply List.map_congr_left
          intro w mem
          exact inner below (related.closed.within_item (Array.mem_toList_iff.mp mem))
      | object a =>
          have below := within a rfl
          simp only [Value.rename_object, Heap.documentWithin, seen below, related.fields below,
            Array.toList_map, List.map_map]
          congr 2
          apply List.map_congr_left
          intro e mem
          exact congrArg (e.1, ·)
            (inner below (related.closed.within_field (Array.mem_toList_iff.mp mem)))
      | _ => rfl

/-- Whether the writing of a value looks into an object does not depend on addresses either. -/
theorem looksIntoWithin (related : h.Renames f g) (below : b < h.cells.size) {room : Nat}
    {path : List Address} (around : ∀ a ∈ path, a < h.cells.size) (within : h.Within v) :
    g.looksIntoWithin (f b) room (path.map f) (v.rename f) = h.looksIntoWithin b room path v := by
  induction room generalizing path v with
  | zero => cases v <;> rfl
  | succ room ih =>
      have seen {a : Address} := related.contains_map (a := a) around
      have inner {a : Address} (here : a < h.cells.size) {w : Value} (within : h.Within w) :
          g.looksIntoWithin (f b) room (f a :: path.map f) (w.rename f) =
            h.looksIntoWithin b room (a :: path) w := by
        have around' : ∀ b ∈ a :: path, b < h.cells.size := List.forall_mem_cons.mpr ⟨here, around⟩
        exact ih around' within
      cases v with
      | array a =>
          have here := within a rfl
          simp only [Value.rename_array, Heap.looksIntoWithin, seen here, related.items here,
            Array.toList_map, List.any_map]
          congr 1
          rw [Bool.eq_iff_iff, List.any_eq_true, List.any_eq_true]
          apply exists_congr
          intro w
          apply and_congr_right
          intro mem
          rw [Function.comp_apply,
            inner here (related.closed.within_item (Array.mem_toList_iff.mp mem))]
      | object a =>
          have here := within a rfl
          have same : (f a == f b) = (a == b) := by
            rw [Bool.eq_iff_iff, beq_iff_eq, beq_iff_eq]
            exact ⟨related.apart a b here below, congrArg f⟩
          simp only [Value.rename_object, Heap.looksIntoWithin, seen here, same,
            related.fields here, Array.toList_map, List.any_map]
          congr 2
          rw [Bool.eq_iff_iff, List.any_eq_true, List.any_eq_true]
          apply exists_congr
          intro e
          apply and_congr_right
          intro mem
          rw [Function.comp_apply,
            inner here (related.closed.within_field (Array.mem_toList_iff.mp mem))]
      | _ => rfl

theorem looksInto (related : h.Renames f g) (below : b < h.cells.size) (within : h.Within v) :
    g.looksInto (f b) (v.rename f) = h.looksInto b v :=
  related.looksIntoWithin below (List.forall_mem_nil _) within

theorem display (related : h.Renames f g) (within : h.Within v) :
    g.display (v.rename f) = h.display v := by
  have nowhere : ∀ a ∈ ([] : List Address), a < h.cells.size := List.forall_mem_nil _
  have document_ : g.document (v.rename f) = h.document v := related.documentWithin nowhere within
  cases v with
  | bool b => cases b <;> rfl
  | array a => exact congrArg Document.toText document_
  | object a => exact congrArg Document.toText document_
  | _ => rfl

theorem strictEq (related : h.Renames f g) (hl : h.Within l) (hr : h.Within r) :
    (l.rename f).strictEq (r.rename f) = l.strictEq r := by
  apply Value.strictEq_rename
  intro a b ha hb
  exact related.apart a b (hl a ha) (hr b hb)

theorem binary (related : h.Renames f g) (hl : h.Within l) (hr : h.Within r) (op : BinaryOp) :
    g.binary op (l.rename f) (r.rename f) = h.binary op l r := by
  have left := related.display hl
  have right := related.display hr
  cases op with
  | add =>
      simp only [Heap.binary, Value.toNumber_rename]
      cases l <;> cases r <;> simp_all [Value.rename]
  | eq => simp only [Heap.binary, related.strictEq hl hr]
  | ne => simp only [Heap.binary, related.strictEq hl hr]
  | _ => simp only [Heap.binary, Value.toNumber_rename, order?_rename]

theorem member (related : h.Renames f g) (within : h.Within c) (key : String) :
    g.member (c.rename f) key = (h.member c key).map (Value.rename f) := by
  cases c with
  | array a =>
      apply congrArg Except.ok
      rw [related.items (within a rfl), Array.size_map, apply_ite (Value.rename f)]
      rfl
  | object a =>
      apply congrArg Except.ok
      rw [related.fields (within a rfl), Fields.get?_map]
      cases (h.fields a).get? key <;> rfl
  | text s =>
      apply congrArg Except.ok
      rw [apply_ite (Value.rename f)]
      rfl
  | _ => rfl

theorem index (related : h.Renames f g) (hc : h.Within c) (hi : h.Within i) :
    g.index (c.rename f) (i.rename f) = (h.index c i).rename f := by
  cases c with
  | array a =>
      simp only [Value.rename_array, Heap.index, position?_rename, related.items (hc a rfl)]
      cases Heap.position? i with
      | none => rfl
      | some p =>
          simp only [Option.bind_some, Array.getElem?_map]
          cases (h.items a)[p]? <;> rfl
  | object a =>
      simp only [Value.rename_object, Heap.index, related.fields (hc a rfl), related.display hi,
        Fields.get?_map]
      cases (h.fields a).get? (h.display i) <;> rfl
  | text s =>
      change g.index (.text s) (i.rename f) = _
      simp only [Heap.index, position?_rename]
      cases (Heap.position? i).bind fun p => s.toList[p]? <;> rfl
  | _ => rfl

end Renames

end Heap

/-! ### Renamed selectors and places -/

/-- The selector with another address, if it is an index that is a collection. -/
def Selector.rename (f : Address → Address) : Selector → Selector
  | .member key => .member key
  | .index i => .index (i.rename f)

namespace Heap

variable {f : Address → Address} {h g : Heap} {v c l r : Value} {s : Selector} {a : Address}

/-- The selector refers to no collection that is missing. -/
def WithinSelector (h : Heap) : Selector → Prop
  | .member _ => True
  | .index i => h.Within i

/-- The place with another address. -/
def Slot.rename (f : Address → Address) : Slot → Slot
  | .field a key => .field (f a) key
  | .item a i => .item (f a) i

@[simp] theorem Slot.address_rename (f : Address → Address) (slot : Slot) :
    (slot.rename f).address = f slot.address := by
  cases slot <;> rfl

theorem Renames.select (related : h.Renames f g) (hc : h.Within c) (hs : h.WithinSelector s) :
    g.select (c.rename f) (s.rename f) = (h.select c s).map (Value.rename f) := by
  cases s with
  | member key => exact related.member hc key
  | index i => exact congrArg Except.ok (related.index hc hs)

theorem Renames.selectSlot (related : h.Renames f g) (hc : h.Within c) (hs : h.WithinSelector s) :
    g.selectSlot (c.rename f) (s.rename f) = (h.selectSlot c s).map (Slot.rename f) := by
  cases s with
  | member key => cases c <;> rfl
  | index i =>
      have hi : h.Within i := hs
      cases c with
      | array a =>
          simp only [Selector.rename, Value.rename_array, Heap.selectSlot, indexSlot,
            position?_rename, related.items (hc a rfl), Array.size_map, related.display hi]
          cases (position? i).filter (· ≤ (h.items a).size) <;> rfl
      | object a =>
          simp only [Selector.rename, Value.rename_object, Heap.selectSlot, indexSlot,
            related.display hi]
          rfl
      | _ => rfl

/-! ### Results that are on the heap -/

theorem scalar_of_binary {op : BinaryOp} (result : h.binary op l r = .ok v) :
    v.address? = none := by
  cases op with
  | add =>
      simp only [binary] at result
      split at result <;> cases result <;> rfl
  | both => cases result
  | either => cases result
  | _ => cases result; rfl

theorem scalar_unary (op : UnaryOp) (v : Value) : (unary op v).address? = none := by
  cases op <;> rfl

theorem within_getD {o : Option Value} (within : ∀ v, o = some v → h.Within v) :
    h.Within (o.getD .undefined) := by
  cases o with
  | none => exact within_of_scalar rfl
  | some v => exact within v rfl

theorem Closed.within_get? (closed : h.Closed) {key : String}
    (found : (h.fields a).get? key = some v) : h.Within v :=
  closed.within_field (Fields.mem_of_get? found)

theorem Closed.within_index (closed : h.Closed) (c i : Value) : h.Within (h.index c i) := by
  cases c with
  | array a =>
      apply within_getD
      intro v found
      obtain ⟨p, -, item⟩ := Option.bind_eq_some_iff.mp found
      exact closed.within_item (Array.mem_of_getElem? item)
  | object a =>
      apply within_getD
      intro v found
      exact closed.within_get? found
  | text s =>
      apply within_of_scalar
      simp only [Heap.index]
      split <;> rfl
  | _ => exact within_of_scalar rfl

theorem Closed.within_member (closed : h.Closed) {key : String} (found : h.member c key = .ok v) :
    h.Within v := by
  cases c with
  | undefined => cases found
  | null => cases found
  | array a =>
      cases found
      apply within_of_scalar
      split <;> rfl
  | object a =>
      cases found
      apply within_getD
      intro v found
      exact closed.within_get? found
  | text s =>
      cases found
      apply within_of_scalar
      split <;> rfl
  | _ =>
      cases found
      exact within_of_scalar rfl

theorem Closed.within_select (closed : h.Closed) (found : h.select c s = .ok v) : h.Within v := by
  cases s with
  | member key => exact closed.within_member found
  | index i =>
      cases found
      exact closed.within_index c i

end Heap

end HostScript
