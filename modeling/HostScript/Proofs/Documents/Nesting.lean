import HostScript.Builtin
import HostScript.Proofs.Documents.Reading
import HostScript.Proofs.Unfolding
import HostScript.Value.Equality
import Mathlib.Logic.Relation

/-!
# How deep values nest

A value is written as deep as different collections are nested in it, up to the depth at which the
writer puts a placeholder. The writer goes one level deeper than the reader: what is written for a
value is read back unless the value holds as many nested collections as the writer writes.

## Implementation notes

The writer does not enter a collection that it is inside of already. So the depth of a text is not
the length of a path into the value but the number of different collections on it, and `Nested`
keeps them apart. Neither cycles nor what lies below the placeholder for depth add to it.
-/

namespace HostScript

namespace Document

theorem le_depthAll_iff {n : Nat} {ds : List Document} :
    n ≤ depthAll ds ↔ n = 0 ∨ ∃ d ∈ ds, n ≤ d.depth := by
  induction ds with
  | nil => simp [depthAll]
  | cons d ds ih => simp only [depthAll, le_max_iff, ih, List.exists_mem_cons_iff, or_left_comm]

theorem le_depthEntries_iff {n : Nat} {es : List (String × Document)} :
    n ≤ depthEntries es ↔ n = 0 ∨ ∃ e ∈ es, n ≤ e.2.depth := by
  induction es with
  | nil => simp [depthEntries]
  | cons e es ih =>
      simp only [depthEntries, le_max_iff, ih, List.exists_mem_cons_iff, or_left_comm]

theorem wholeAll_iff {ds : List Document} : WholeAll ds ↔ ∀ d ∈ ds, d.Whole := by
  induction ds with
  | nil => simp [WholeAll]
  | cons d ds ih => simp [WholeAll, ih]

theorem wholeEntries_iff {es : List (String × Document)} :
    WholeEntries es ↔ ∀ e ∈ es, e.2.Whole := by
  induction es with
  | nil => simp [WholeEntries]
  | cons e es ih => simp only [WholeEntries, ih, List.forall_mem_cons]

end Document

namespace Heap

variable {h : Heap} {v w : Value} {a : Address} {room : Nat} {path chain : List Address}

/-- Different collections, each inside the one before it; the first of them is `v`. -/
inductive Nested (h : Heap) : List Address → Value → Prop
  | last {v : Value} {a : Address} (at_ : v.address? = some a) : h.Nested [a] v
  | inside {v w : Value} {a : Address} {chain : List Address} (at_ : v.address? = some a)
      (inside : h.Contains v w) (fresh : a ∉ chain) (further : h.Nested chain w) :
      h.Nested (a :: chain) v

theorem Nested.exists_address (nested : h.Nested chain v) : ∃ a, v.address? = some a := by
  cases nested with
  | last at_ => exact ⟨_, at_⟩
  | inside at_ => exact ⟨_, at_⟩

theorem depth_documentWithin_of_scalar (scalar : v.address? = none) :
    (h.documentWithin room path v).depth = 0 := by
  cases v with
  | array a => cases scalar
  | object a => cases scalar
  | _ => cases room <;> rfl

theorem depth_documentWithin_zero : (h.documentWithin 0 path v).depth = 0 := by
  cases v <;> rfl

/-- A collection that is not on the path is written as deep as what it contains and one level
more. -/
theorem succ_le_depth_documentWithin_iff {n : Nat} (at_ : v.address? = some a) :
    n + 1 ≤ (h.documentWithin (room + 1) path v).depth ↔ a ∉ path ∧
      (n = 0 ∨ ∃ w, h.Contains v w ∧ n ≤ (h.documentWithin room (a :: path) w).depth) := by
  cases v with
  | array b =>
      obtain rfl := Option.some.inj at_
      simp only [documentWithin, Contains, List.contains_iff_mem]
      split
      · next seen => simp [seen, Document.depth]
      · next fresh =>
        simp only [Document.depth, Nat.add_le_add_iff_right, Document.le_depthAll_iff, fresh,
          not_false_eq_true, true_and, List.mem_map, Array.mem_toList_iff, exists_exists_and_eq_and]
  | object b =>
      obtain rfl := Option.some.inj at_
      simp only [documentWithin, Contains, List.contains_iff_mem]
      split
      · next seen => simp [seen, Document.depth]
      · next fresh =>
        simp only [Document.depth, Nat.add_le_add_iff_right, Document.le_depthEntries_iff, fresh,
          not_false_eq_true, true_and, List.mem_map, Array.mem_toList_iff]
        refine or_congr_right ⟨?_, ?_⟩
        · rintro ⟨_, ⟨e, mem, rfl⟩, deep⟩
          exact ⟨e.2, ⟨e.1, mem⟩, deep⟩
        · rintro ⟨w, ⟨key, mem⟩, deep⟩
          exact ⟨_, ⟨(key, w), mem, rfl⟩, deep⟩
  | _ => cases at_

/-- The text of a value nests as deep as different collections do in the value, but no deeper than
there is room for. -/
theorem succ_le_depth_iff {n : Nat} : n + 1 ≤ (h.documentWithin room path v).depth ↔
    n + 1 ≤ room ∧ ∃ chain, h.Nested chain v ∧ chain.length = n + 1 ∧ ∀ a ∈ chain, a ∉ path := by
  induction room generalizing n path v with
  | zero => simp [depth_documentWithin_zero]
  | succ room ih =>
      cases at_ : v.address? with
      | none =>
          rw [depth_documentWithin_of_scalar at_]
          refine ⟨nofun, fun ⟨_, chain, nested, _⟩ => ?_⟩
          obtain ⟨a, found⟩ := nested.exists_address
          rw [at_] at found
          cases found
      | some a =>
          rw [succ_le_depth_documentWithin_iff at_]
          constructor
          · rintro ⟨fresh, deep⟩
            cases n with
            | zero => exact ⟨by omega, [a], .last at_, rfl, by simpa using fresh⟩
            | succ n =>
                obtain ⟨w, inside, deep⟩ := deep.resolve_left (by omega)
                obtain ⟨small, chain, nested, length, apart⟩ := ih.mp deep
                have outer : a ∉ chain := fun mem => apart a mem List.mem_cons_self
                refine ⟨by omega, a :: chain, .inside at_ inside outer nested, by simp [length], ?_⟩
                intro b mem
                obtain rfl | mem := List.mem_cons.mp mem
                · exact fresh
                · exact fun seen => apart b mem (List.mem_cons_of_mem a seen)
          · rintro ⟨small, chain, nested, length, apart⟩
            cases nested with
            | last at' =>
                obtain rfl := Option.some.inj (at_.symm.trans at')
                exact ⟨apart a List.mem_cons_self, .inl (by simpa using length.symm)⟩
            | @inside _ w a' chain at' inside outer nested =>
                obtain rfl := Option.some.inj (at_.symm.trans at')
                refine ⟨apart a List.mem_cons_self, .inr ⟨w, inside, ?_⟩⟩
                cases n with
                | zero => omega
                | succ n =>
                    refine ih.mpr ⟨by omega, chain, nested, by simpa using length, ?_⟩
                    rintro b mem seen
                    obtain rfl | seen := List.mem_cons.mp seen
                    · exact outer mem
                    · exact apart b (List.mem_cons_of_mem a mem) seen

/-- The numbers of the text are numbers that the value leads to. -/
theorem whole_documentWithin (whole : ∀ x, Relation.ReflTransGen h.Contains v (.number x) →
    ∃ n, Number.shortWhole? x = some n) : (h.documentWithin room path v).Whole := by
  induction room generalizing path v with
  | zero =>
      cases v with
      | number x => exact whole x .refl
      | _ => trivial
  | succ room ih =>
      have inner {w : Value} (inside : h.Contains v w) (path : List Address) :
          (h.documentWithin room path w).Whole :=
        ih fun x leads => whole x (.head inside leads)
      cases v with
      | number x => exact whole x .refl
      | array a =>
          simp only [documentWithin]
          split
          · trivial
          · simp only [Document.Whole, Document.wholeAll_iff, List.mem_map, Array.mem_toList_iff]
            rintro _ ⟨w, mem, rfl⟩
            exact inner mem _
      | object a =>
          simp only [documentWithin]
          split
          · trivial
          · simp only [Document.Whole, Document.wholeEntries_iff, List.mem_map,
              Array.mem_toList_iff]
            rintro _ ⟨e, mem, rfl⟩
            exact inner ⟨e.1, mem⟩ _
      | _ => trivial

/-- As deep as a text may nest, unless as many different collections are nested in the value as are
written. -/
theorem maxReadDepth_lt_depth_iff : Document.Reading.maxReadDepth < (h.document v).depth ↔
    ∃ chain, h.Nested chain v ∧ chain.length = maxRenderDepth := by
  refine (succ_le_depth_iff (n := 127)).trans ⟨?_, ?_⟩
  · rintro ⟨-, chain, nested, length, -⟩
    exact ⟨chain, nested, length⟩
  · rintro ⟨chain, nested, length⟩
    exact ⟨le_rfl, chain, nested, length, fun _ _ => List.not_mem_nil⟩

/-- The value leads to no numbers but integers that are written with their digits alone. -/
def Integral (h : Heap) (v : Value) : Prop :=
  ∀ x, Relation.ReflTransGen h.Contains v (.number x) →
    ∃ n, Number.whole? x = some n ∧ n.natAbs < 1000000000000000

theorem Integral.whole_document (integral : h.Integral v) : (h.document v).Whole := by
  refine whole_documentWithin fun x leads => ?_
  obtain ⟨n, whole⟩ := integral x leads
  exact ⟨n, Number.shortWhole?_eq_some_iff.mpr whole⟩

end Heap

/-! ### Arrays inside one another -/

namespace Heap

/-- An empty array at the address zero, and at each further address below `n` an array that holds
the one before. -/
def tower (n : Nat) : Heap :=
  ⟨((List.range n).map fun a => .array (if a = 0 then #[] else #[.array (a - 1)])).toArray⟩

theorem items_tower {n a : Nat} (below : a < n) :
    (tower n).items a = if a = 0 then #[] else #[.array (a - 1)] := by
  simp [items, tower, below]

theorem contains_tower {n : Nat} {v w : Value} (inside : (tower n).Contains v w) :
    ∃ a, v = .array (a + 1) ∧ w = .array a := by
  cases v with
  | array a =>
      have below : a < n := by simpa [tower] using lt_size_of_mem_items inside
      simp only [Contains, items_tower below] at inside
      split at inside
      · simp at inside
      · next some_ => exact ⟨a - 1, by rw [Nat.sub_one_add_one some_], by simpa using inside⟩
  | object a =>
      obtain ⟨key, mem⟩ := inside
      have below : a < n := by simpa [tower] using lt_size_of_mem_fields mem
      simp [tower, fields, below] at mem
  | _ => cases inside

theorem integral_tower (n a : Nat) : (tower n).Integral (.array a) := by
  intro x leads
  cases leads with
  | tail _ last =>
      obtain ⟨_, -, same⟩ := contains_tower last
      cases same

theorem nested_tower {n : Nat} (a : Nat) (below : a < n) :
    (tower n).Nested (List.range (a + 1)).reverse (.array a) := by
  induction a with
  | zero => exact .last rfl
  | succ a ih =>
      rw [List.range_succ, List.reverse_append]
      refine .inside rfl ?_ (by simp) (ih (by omega))
      simp [Contains, items_tower below]

theorem length_le_of_nested_tower {n a : Nat} {chain : List Address}
    (nested : (tower n).Nested chain (.array a)) : chain.length ≤ a + 1 := by
  induction a generalizing chain with
  | zero =>
      cases nested with
      | last => simp
      | inside _ inside =>
          obtain ⟨b, same, -⟩ := contains_tower inside
          cases same
  | succ a ih =>
      cases nested with
      | last => simp
      | inside _ inside _ further =>
          obtain ⟨b, same, rfl⟩ := contains_tower inside
          cases same
          simpa using ih further

end Heap

namespace Builtin

variable {h : Heap} {v : Value} {clock : Nat}

theorem textArgument_text (s : String) : parseJson.textArgument h [.text s] 0 = .ok s := rfl

theorem call_parseJson_of_read {s : String} {d : Document} (accepted : Document.read s = .ok d) :
    parseJson.call clock [.text s] h = (.ok (h.ofDocument d).1, (h.ofDocument d).2) := by
  have effect_ : parseJson.effect clock [.text s] h = .ok (.newDocument d) := by
    simp only [effect, textArgument_text, bind, Except.bind, accepted]
    rfl
  simp only [call, effect_, Effect.run]

theorem call_parseJson_of_error {s : String} {e : Document.Reading.ReadError}
    (rejected : Document.read s = .error e) :
    parseJson.call clock [.text s] h = (.error s!"parse_json: {e.message}", h) := by
  have effect_ : parseJson.effect clock [.text s] h = .error s!"parse_json: {e.message}" := by
    simp only [effect, textArgument_text, bind, Except.bind, rejected]
    rfl
  simp only [call, effect_]

theorem call_parseJson_of_shallow (integral : h.Integral v)
    (shallow : ¬ ∃ chain, h.Nested chain v ∧ chain.length = maxRenderDepth) :
    parseJson.call clock [.text (h.documentText v)] h =
      (.ok (h.ofDocument (h.document v).restored).1, (h.ofDocument (h.document v).restored).2) := by
  have fits : (h.document v).depth ≤ Document.Reading.maxReadDepth :=
    Nat.not_lt.mp fun deep => shallow (Heap.maxReadDepth_lt_depth_iff.mp deep)
  exact call_parseJson_of_read (Document.read_toText integral.whole_document fits)

theorem call_parseJson_of_deep (clock : Nat) (integral : h.Integral v)
    (deep : ∃ chain, h.Nested chain v ∧ chain.length = maxRenderDepth) :
    ∃ line column : Nat, parseJson.call clock [.text (h.documentText v)] h =
      (.error s!"parse_json: recursion limit exceeded at line {line} column {column}", h) := by
  obtain ⟨e, rejected, problem⟩ := Document.read_toText_of_deep integral.whole_document
    (Heap.maxReadDepth_lt_depth_iff.mpr deep)
  refine ⟨e.line, e.column, (call_parseJson_of_error rejected).trans ?_⟩
  have words (rest : String) :
      "parse_json: " ++ ("recursion limit exceeded" ++ " at line " ++ rest) =
        "parse_json: recursion limit exceeded at line " ++ rest := by
    rw [← String.append_assoc]
    rfl
  simp only [Document.Reading.ReadError.message, problem, Document.Reading.ReadProblem.message,
    toString, String.append_assoc] at words ⊢
  rw [words]

/-- What is written for a value whose numbers are integers is accepted, unless 128 different
collections are nested in the value: so many levels are written, but one less is read. -/
theorem parseJson_json_accepted_iff (h : Heap) (v : Value) (clock clock' : Nat)
    (integral : h.Integral v) :
    ∃ s, json.call clock [v] h = (.ok (.text s), h) ∧
      ((∃ w h', parseJson.call clock' [.text s] h = (.ok w, h')) ↔
        ¬ ∃ chain, h.Nested chain v ∧ chain.length = 128) ∧
      ((∃ chain, h.Nested chain v ∧ chain.length = 128) → ∃ line column : Nat,
        parseJson.call clock' [.text s] h =
          (.error s!"parse_json: recursion limit exceeded at line {line} column {column}", h)) := by
  refine ⟨h.documentText v, rfl, ⟨?_, fun shallow => ?_⟩, call_parseJson_of_deep clock' integral⟩
  · rintro ⟨w, h', accepted⟩ deep
    obtain ⟨line, column, rejected⟩ := call_parseJson_of_deep clock' integral deep
    rw [rejected] at accepted
    cases accepted
  · exact ⟨_, _, call_parseJson_of_shallow integral shallow⟩

/-- Arrays that are nested 127 deep are written and read back. -/
theorem parseJson_json_accepted_127 : (Heap.tower 128).Integral (.array 126) ∧
    ∃ s, json.call 0 [.array 126] (.tower 128) = (.ok (.text s), .tower 128) ∧
      ∃ w h', parseJson.call 0 [.text s] (.tower 128) = (.ok w, h') := by
  have integral := Heap.integral_tower 128 126
  obtain ⟨s, written, accepted, -⟩ :=
    parseJson_json_accepted_iff (.tower 128) (.array 126) 0 0 integral
  refine ⟨integral, s, written, accepted.mpr ?_⟩
  rintro ⟨chain, nested, length⟩
  have := Heap.length_le_of_nested_tower nested
  omega

/-- Arrays that are nested 128 deep are written, too, but what is written is rejected. -/
theorem parseJson_json_rejected_128 : (Heap.tower 128).Integral (.array 127) ∧
    ∃ s, json.call 0 [.array 127] (.tower 128) = (.ok (.text s), .tower 128) ∧
      ∃ m, parseJson.call 0 [.text s] (.tower 128) = (.error m, .tower 128) := by
  have integral := Heap.integral_tower 128 127
  obtain ⟨line, column, rejected⟩ := call_parseJson_of_deep 0 integral
    ⟨_, Heap.nested_tower 127 (by omega), by simp [maxRenderDepth]⟩
  exact ⟨integral, _, rfl, _, rejected⟩

end Builtin

end HostScript
