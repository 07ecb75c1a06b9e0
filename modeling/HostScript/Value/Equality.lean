import HostScript.Value.Basic

/-! # Structural equality

Two collections are equal when their elements are; a pair of collections that
is being compared further out counts as equal, so cycles are compared once
around. The order of keys does not matter.

The pairs on the path are distinct pairs of collections of the heap, of which
there are finitely many, so the comparison ends. -/

namespace HostScript.Heap

theorem lt_size_of_mem_items {h : Heap} {a : Address} {v : Value} (mem : v ∈ h.items a) :
    a < h.cells.size := by
  unfold items at mem
  split at mem
  · next found => exact (Array.getElem?_eq_some_iff.mp found).1
  · simp at mem

theorem lt_size_of_mem_fields {h : Heap} {a : Address} {e : String × Value}
    (mem : e ∈ h.fields a) : a < h.cells.size := by
  unfold fields at mem
  split at mem
  · next found => exact (Array.getElem?_eq_some_iff.mp found).1
  · simp at mem

theorem lt_size_of_get? {h : Heap} {a : Address} {key : String} {v : Value}
    (found : (h.fields a).get? key = some v) : a < h.cells.size := by
  obtain ⟨e, here, -⟩ := Option.map_eq_some_iff.mp found
  exact lt_size_of_mem_fields (Array.mem_of_find?_eq_some here)

/-- The pairs of two arrays or two objects of the heap. -/
def pairs (h : Heap) : List (Value × Value) :=
  (List.range h.cells.size).flatMap fun a => (List.range h.cells.size).flatMap fun b =>
    [(.array a, .array b), (.object a, .object b)]

/-- The number of pairs that are not on the path. -/
def pairsLeft (h : Heap) (path : List (Value × Value)) : Nat :=
  (h.pairs.filter fun p => !path.contains p).length

/-- A pair that is put on the path is one pair less that is left. -/
theorem pairsLeft_cons_lt {h : Heap} {path : List (Value × Value)} {p : Value × Value}
    (fresh : p ∉ path) (mem : p ∈ h.pairs) : h.pairsLeft (p :: path) < h.pairsLeft path := by
  have split : (h.pairs.filter fun q => !(p :: path).contains q) =
      (h.pairs.filter fun q => !path.contains q).filter fun q => q != p := by
    rw [List.filter_filter]
    congr 1
    funext q
    simp only [List.contains_cons, Bool.not_or, bne]
  unfold pairsLeft
  rw [split, List.length_filter_lt_length_iff_exists]
  exact ⟨p, List.mem_filter.mpr ⟨mem, by simpa using fresh⟩, by simp⟩

theorem arrays_mem_pairs {h : Heap} {a b : Address} (ha : a < h.cells.size)
    (hb : b < h.cells.size) : (.array a, .array b) ∈ h.pairs := by
  simp [pairs, ha, hb]

theorem objects_mem_pairs {h : Heap} {a b : Address} (ha : a < h.cells.size)
    (hb : b < h.cells.size) : (.object a, .object b) ∈ h.pairs := by
  simp [pairs, ha, hb]

/-- Compare two values while the pairs `path` are being compared further out. -/
def equalWithin (h : Heap) (path : List (Value × Value)) : Value → Value → Bool
  | .array a, .array b =>
    if _ : a = b ∨ (.array a, .array b) ∈ path then true
    else
      (h.items a).size == (h.items b).size &&
        ((h.items a).toList.zip (h.items b).toList).attach.all fun ⟨p, _⟩ =>
          h.equalWithin ((.array a, .array b) :: path) p.1 p.2
  | .object a, .object b =>
    if _ : a = b ∨ (.object a, .object b) ∈ path then true
    else
      (h.fields a).size == (h.fields b).size &&
        (h.fields a).toList.attach.all fun ⟨e, _⟩ =>
          match _ : (h.fields b).get? e.1 with
          | some w => h.equalWithin ((.object a, .object b) :: path) e.2 w
          | none => false
  | v, w => v.strictEq w
termination_by h.pairsLeft path
decreasing_by
  · next seen mem =>
    have ends := List.of_mem_zip mem
    exact pairsLeft_cons_lt (not_or.mp seen).2
      (arrays_mem_pairs (lt_size_of_mem_items (Array.mem_toList_iff.mp ends.1))
        (lt_size_of_mem_items (Array.mem_toList_iff.mp ends.2)))
  · next seen mem found =>
    exact pairsLeft_cons_lt (not_or.mp seen).2
      (objects_mem_pairs (lt_size_of_mem_fields (Array.mem_toList_iff.mp mem))
        (lt_size_of_get? found))

/-- Structural equality of two values. -/
def structuralEq (h : Heap) (v w : Value) : Bool := h.equalWithin [] v w

variable {h : Heap} {path : List (Value × Value)} {a b : Address}

theorem equalWithin_array : h.equalWithin path (.array a) (.array b) = true ↔
    a = b ∨ (.array a, .array b) ∈ path ∨ ((h.items a).size = (h.items b).size ∧
      ∀ p ∈ (h.items a).toList.zip (h.items b).toList,
        h.equalWithin ((.array a, .array b) :: path) p.1 p.2 = true) := by
  rw [equalWithin]
  split
  · next seen => simp [← or_assoc, seen]
  · next seen => simp [← or_assoc, seen]

theorem equalWithin_object : h.equalWithin path (.object a) (.object b) = true ↔
    a = b ∨ (.object a, .object b) ∈ path ∨ ((h.fields a).size = (h.fields b).size ∧
      ∀ e ∈ h.fields a, ∃ w, (h.fields b).get? e.1 = some w ∧
        h.equalWithin ((.object a, .object b) :: path) e.2 w = true) := by
  have entry (e : String × Value) :
      (match _ : (h.fields b).get? e.1 with
        | some w => h.equalWithin ((.object a, .object b) :: path) e.2 w
        | none => false) = true ↔
      ∃ w, (h.fields b).get? e.1 = some w ∧
        h.equalWithin ((.object a, .object b) :: path) e.2 w = true := by
    split
    · next found => simp [found]
    · next found => simp [found]
  rw [equalWithin]
  split
  · next seen => simp [← or_assoc, seen]
  · next seen => simp [← or_assoc, seen, entry]

/-- Values that are not two arrays or two objects are compared without looking inside. -/
theorem equalWithin_eq_strictEq {v w : Value} (arrays : ∀ a b, v = .array a → w ≠ .array b)
    (objects : ∀ a b, v = .object a → w ≠ .object b) :
    h.equalWithin path v w = v.strictEq w := by
  rw [equalWithin]
  · exact arrays
  · exact objects

end HostScript.Heap
