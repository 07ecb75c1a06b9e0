import HostScript.Value.Basic
import Mathlib.Data.List.Nodup
import Mathlib.Data.Option.Basic

/-!
# Unfoldings of values

A value is seen by looking into it: at its shape, then at the shapes of its items or fields, and so
on along any path. What is seen along all paths is the unfolding of the value, a tree that may be
infinite. It does not show which collections are shared or how a cycle is laid out on the heap.
-/

namespace HostScript

/-! ### Fields -/

namespace Fields

variable {f : Fields} {key : String} {v : Value}

theorem mem_of_get? (found : f.get? key = some v) : (key, v) ∈ f := by
  obtain ⟨e, here, rfl⟩ := Option.map_eq_some_iff.mp found
  have same := Array.find?_some here
  rw [← eq_of_beq same]
  exact Array.mem_of_find?_eq_some here

theorem mem_keys_iff : key ∈ f.keys ↔ ∃ v, (key, v) ∈ f := by
  simp [keys]

theorem exists_get?_iff : (∃ v, f.get? key = some v) ↔ key ∈ f.keys := by
  constructor
  · rintro ⟨v, found⟩
    exact mem_keys_iff.mpr ⟨v, mem_of_get? found⟩
  · intro mem
    obtain ⟨v, mem⟩ := mem_keys_iff.mp mem
    have some_ : (f.find? fun e => e.1 == key).isSome := by
      rw [Array.find?_isSome]
      exact ⟨_, mem, by simp⟩
    obtain ⟨e, here⟩ := Option.isSome_iff_exists.mp some_
    exact ⟨e.2, by rw [get?, here]; rfl⟩

/-- Where keys are distinct, every field is found under its key. -/
theorem get?_of_mem (unique : f.keys.Nodup) (mem : (key, v) ∈ f) : f.get? key = some v := by
  obtain ⟨w, found⟩ := exists_get?_iff.mpr (mem_keys_iff.mpr ⟨v, mem⟩)
  have same := List.inj_on_of_nodup_map unique (Array.mem_toList_iff.mpr mem)
    (Array.mem_toList_iff.mpr (mem_of_get? found)) rfl
  rw [found, (Prod.mk.inj same).2]

end Fields

/-- No object has two fields with the same key. -/
def Heap.Unique (h : Heap) : Prop := ∀ a, (h.fields a).keys.Nodup

/-! ### Looking into a value -/

/-- The address of a collection. -/
def Value.address? : Value → Option Address
  | .array a => some a
  | .object a => some a
  | _ => none

/-- A collection has the value for an item or a field. -/
def Heap.Contains (h : Heap) : Value → Value → Prop
  | .array a, w => w ∈ h.items a
  | .object a, w => ∃ key, (key, w) ∈ h.fields a
  | _, _ => False

/-- A step from a collection to what it holds. -/
inductive Access where
  | item (position : Nat)
  | field (key : String)
  deriving DecidableEq

/-- What can be seen of a value without looking into it. -/
inductive Shape where
  | constant (c : Literal)
  | array (length : Nat)
  | object (keys : List String)
  deriving DecidableEq

namespace Heap

/-- The shape of a value. -/
def shape (h : Heap) : Value → Shape
  | .undefined => .constant .undefined
  | .null => .constant .null
  | .bool b => .constant (.bool b)
  | .number x => .constant (.number x)
  | .text s => .constant (.text s)
  | .array a => .array (h.items a).size
  | .object a => .object (h.fields a).keys

/-- The value one step further in. -/
def enter? (h : Heap) : Value → Access → Option Value
  | .array a, .item i => (h.items a)[i]?
  | .object a, .field key => (h.fields a).get? key
  | _, _ => none

theorem contains_of_enter? {h : Heap} {v w : Value} {step : Access}
    (found : h.enter? v step = some w) : h.Contains v w := by
  unfold enter? at found
  split at found
  · exact Array.mem_of_getElem? found
  · next a key => exact ⟨key, Fields.mem_of_get? found⟩
  · cases found

/-- The value at the end of a path. -/
def reach? (h : Heap) (v : Value) : List Access → Option Value
  | [] => some v
  | step :: path => (h.enter? v step).bind fun w => h.reach? w path

/-- The shapes along all paths into a value. -/
def unfolding (h : Heap) (v : Value) (path : List Access) : Option Shape :=
  (h.reach? v path).map h.shape

end Heap

end HostScript
