import HostScript.Proofs.Documents.RoundTrip
import HostScript.Proofs.Documents.WellFormed

/-!
# Values are rendered as their unfoldings

Every value is rendered as a well-formed document that does not nest too deep, whatever its
collections refer to. A value without cycles in which not too many collections are nested is
rendered as a text of the tree that it unfolds to: nothing is left out, and what is shared is
written wherever it occurs.

## Implementation notes

A collection is told by its address, here as in the writer: a value is without cycles if no
collection in it leads to one with the same address. The writer keeps the addresses of the
collections around it in a list. In a value without cycles all of these lead to the value that is
being written, so it does not come upon one of them again.
-/

namespace HostScript

open Relation

/-! ### Trees -/

/-- What a value without cycles unfolds to: a finite tree, in which nothing is shared. -/
inductive Tree where
  | undefined
  | null
  | bool (b : Bool)
  | number (x : Float)
  | text (s : String)
  | array (items : List Tree)
  | object (entries : List (String × Tree))

namespace Tree

mutual

/-- The document of a tree; what is undefined is written as null. -/
def document : Tree → Document
  | .undefined => .null
  | .null => .null
  | .bool b => .bool b
  | .number x => .number x
  | .text s => .text s
  | .array items => .list (documents items)
  | .object entries => .record (entryDocuments entries)

/-- The documents of the items of an array. -/
def documents : List Tree → List Document
  | [] => []
  | t :: rest => t.document :: documents rest

/-- The documents of the entries of an object, under their keys. -/
def entryDocuments : List (String × Tree) → List (String × Document)
  | [] => []
  | (key, t) :: rest => (key, t.document) :: entryDocuments rest

end

theorem documents_eq_map (ts : List Tree) : documents ts = ts.map document := by
  induction ts with
  | nil => rfl
  | cons t ts ih => rw [documents, ih, List.map_cons]

theorem entryDocuments_eq_map (es : List (String × Tree)) :
    entryDocuments es = es.map fun e => (e.1, e.2.document) := by
  induction es with
  | nil => rfl
  | cons e es ih => rw [entryDocuments, ih, List.map_cons]

end Tree

namespace Heap

variable {h g : Heap} {v w : Value} {t t' : Tree} {room : Nat} {path : List Address}

/-- The value unfolds to the tree: each collection to its items or entries, in their order. -/
inductive Unfolds (h : Heap) : Value → Tree → Prop
  | undefined : h.Unfolds .undefined .undefined
  | null : h.Unfolds .null .null
  | bool (b : Bool) : h.Unfolds (.bool b) (.bool b)
  | number (x : Float) : h.Unfolds (.number x) (.number x)
  | text (s : String) : h.Unfolds (.text s) (.text s)
  | array {a : Address} {ts : List Tree} (size : ts.length = (h.items a).size)
      (items : ∀ (i : Nat) (w : Value) (t : Tree),
        (h.items a)[i]? = some w → ts[i]? = some t → h.Unfolds w t) :
      h.Unfolds (.array a) (.array ts)
  | object {a : Address} {es : List (String × Tree)} (keys : es.map Prod.fst = (h.fields a).keys)
      (values : ∀ (i : Nat) (e : String × Value) (e' : String × Tree),
        (h.fields a)[i]? = some e → es[i]? = some e' → h.Unfolds e.2 e'.2) :
      h.Unfolds (.object a) (.object es)

/-- No collection that the value leads to contains itself. -/
def Acyclic (h : Heap) (v : Value) : Prop :=
  ∀ w u a, ReflTransGen h.Contains v w → TransGen h.Contains w u →
    w.address? = some a → u.address? ≠ some a

/-- At most so many collections are nested inside one another in the value. -/
def NestsWithin (h : Heap) (room : Nat) (v : Value) : Prop :=
  ∀ chain, h.Nested chain v → chain.length ≤ room

/-- A value unfolds to one tree at most. -/
theorem Unfolds.unique (unfolds : h.Unfolds v t) (unfolds' : h.Unfolds v t') : t = t' := by
  induction unfolds generalizing t' with
  | @array a ts size items ih =>
      cases unfolds' with
      | array size' items' =>
          apply congrArg Tree.array
          apply List.ext_getElem (size.trans size'.symm)
          intro i below below'
          have item := Array.getElem?_eq_getElem (size ▸ below : i < (h.items a).size)
          have here := List.getElem?_eq_getElem below
          have here' := List.getElem?_eq_getElem below'
          exact ih i _ _ item here (items' i _ _ item here')
  | @object a es keys values ih =>
      cases unfolds' with
      | @object _ es' keys' values' =>
          have size : es.length = (h.fields a).size := by
            simpa [Fields.keys] using congrArg List.length keys
          have same : es.map Prod.fst = es'.map Prod.fst := keys.trans keys'.symm
          apply congrArg Tree.object
          apply List.ext_getElem (by simpa using congrArg List.length same)
          intro i below below'
          have field := Array.getElem?_eq_getElem (size ▸ below : i < (h.fields a).size)
          have here := List.getElem?_eq_getElem below
          have here' := List.getElem?_eq_getElem below'
          apply Prod.ext
          · have key := congrArg (·[i]?) same
            simpa [here, here'] using key
          · exact ih i _ _ field here (values' i _ _ field here')
  | _ =>
      cases unfolds'
      rfl

/-! ### Values without cycles -/

theorem Acyclic.enter (acyclic : h.Acyclic v) (inside : h.Contains v w) : h.Acyclic w :=
  fun u u' a leads => acyclic u u' a (.head inside leads)

/-- What is inside a value without cycles nests one level less. -/
theorem NestsWithin.enter (shallow : h.NestsWithin (room + 1) v) (acyclic : h.Acyclic v)
    (inside : h.Contains v w) : h.NestsWithin room w := by
  intro chain nested
  obtain ⟨a, at_⟩ : ∃ a, v.address? = some a := by
    cases v with
    | array a => exact ⟨a, rfl⟩
    | object a => exact ⟨a, rfl⟩
    | _ => cases inside
  have fresh : a ∉ chain := by
    intro mem
    obtain ⟨u, at', leads⟩ := nested.leads mem
    exact acyclic v u a .refl (.head' inside leads) at_ at'
  have longer := shallow _ (.inside at_ inside fresh nested)
  exact Nat.le_of_succ_le_succ longer

theorem exists_unfolds_of_scalar (scalar : v.address? = none) :
    ∃ t, h.Unfolds v t ∧ h.documentWithin room path v = t.document := by
  cases v with
  | undefined => exact ⟨.undefined, .undefined, by cases room <;> rfl⟩
  | null => exact ⟨.null, .null, by cases room <;> rfl⟩
  | bool b => exact ⟨.bool b, .bool b, by cases room <;> rfl⟩
  | number x => exact ⟨.number x, .number x, by cases room <;> rfl⟩
  | text s => exact ⟨.text s, .text s, by cases room <;> rfl⟩
  | array a => cases scalar
  | object a => cases scalar

/-- A collection that the writer is not inside of is written as the tree of what it holds. -/
theorem exists_unfolds_of_inner {a : Address} (at_ : v.address? = some a)
    (fresh : path.contains a = false)
    (inner : ∀ w, h.Contains v w →
      ∃ t, h.Unfolds w t ∧ h.documentWithin room (a :: path) w = t.document) :
    ∃ t, h.Unfolds v t ∧ h.documentWithin (room + 1) path v = t.document := by
  have chosen (w : Value) : ∃ t, h.Contains v w →
      h.Unfolds w t ∧ h.documentWithin room (a :: path) w = t.document := by
    by_cases inside : h.Contains v w
    · obtain ⟨t, unfolds⟩ := inner w inside
      exact ⟨t, fun _ => unfolds⟩
    · exact ⟨.null, fun inside' => absurd inside' inside⟩
  obtain ⟨tree, unfolds⟩ := Classical.axiomOfChoice chosen
  cases v with
  | array b =>
      obtain rfl : b = a := Option.some.inj at_
      refine ⟨.array ((h.items b).toList.map tree), .array (by simp) ?_, ?_⟩
      · intro i w t item here
        rw [List.getElem?_map, Array.getElem?_toList, item, Option.map_some] at here
        obtain rfl := Option.some.inj here
        exact (unfolds w (Array.mem_of_getElem? item)).1
      · simp only [documentWithin, fresh, Bool.false_eq_true, if_false, Tree.document,
          Tree.documents_eq_map, List.map_map]
        apply congrArg Document.list
        apply List.map_congr_left
        intro w mem
        exact (unfolds w (Array.mem_toList_iff.mp mem)).2
  | object b =>
      obtain rfl : b = a := Option.some.inj at_
      refine ⟨.object ((h.fields b).toList.map fun e => (e.1, tree e.2)), .object ?_ ?_, ?_⟩
      · simp [Fields.keys, Function.comp_def]
      · intro i e e' field here
        rw [List.getElem?_map, Array.getElem?_toList, field, Option.map_some] at here
        obtain rfl := Option.some.inj here
        exact (unfolds e.2 ⟨e.1, Array.mem_of_getElem? field⟩).1
      · simp only [documentWithin, fresh, Bool.false_eq_true, if_false, Tree.document,
          Tree.entryDocuments_eq_map, List.map_map]
        apply congrArg Document.record
        apply List.map_congr_left
        intro e mem
        exact congrArg (e.1, ·) (unfolds e.2 ⟨e.1, Array.mem_toList_iff.mp mem⟩).2
  | _ => cases at_

/-- By induction on the levels that are left. Every collection around the value leads to it, so the
value is none of them. -/
theorem exists_unfolds_documentWithin (acyclic : h.Acyclic v) (shallow : h.NestsWithin room v)
    (around : ∀ a ∈ path, ∃ u, u.address? = some a ∧ h.Acyclic u ∧ TransGen h.Contains u v) :
    ∃ t, h.Unfolds v t ∧ h.documentWithin room path v = t.document := by
  induction room generalizing path v with
  | zero =>
      apply exists_unfolds_of_scalar
      by_contra some_
      obtain ⟨a, at_⟩ := Option.ne_none_iff_exists'.mp some_
      exact absurd (shallow [a] (.last at_)) (by simp)
  | succ room ih =>
      cases at_ : v.address? with
      | none => exact exists_unfolds_of_scalar at_
      | some a =>
          apply exists_unfolds_of_inner at_
          · apply Bool.eq_false_iff.mpr
            intro seen
            obtain ⟨u, at', acyclic', leads⟩ := around a (List.contains_iff_mem.mp seen)
            exact acyclic' u v a .refl leads at' at_
          · intro w inside
            apply ih (acyclic.enter inside) (shallow.enter acyclic inside)
            intro b mem
            obtain rfl | mem := List.mem_cons.mp mem
            · exact ⟨v, at_, acyclic, .single inside⟩
            · obtain ⟨u, at', acyclic', leads⟩ := around b mem
              exact ⟨u, at', acyclic', leads.tail inside⟩

/-- The document of a value without cycles that is not too deep is that of the tree that it unfolds
to. -/
theorem exists_unfolds_document (acyclic : h.Acyclic v) (shallow : h.NestsWithin 128 v) :
    ∃ t, h.Unfolds v t ∧ h.document v = t.document :=
  exists_unfolds_documentWithin acyclic shallow (List.forall_mem_nil _)

/-- The text of a value says what is in its document. -/
theorem written_documentText (h : Heap) (v : Value) :
    (h.document v).Written (h.documentText v).toList := by
  rw [documentText, Document.toText, String.toList_ofList]
  exact (h.document v).written_write

/-- The document of a value does not nest deeper than there is room for. -/
theorem depth_document_le (h : Heap) (v : Value) : (h.document v).depth ≤ 128 := by
  by_contra deep
  have longer := (succ_le_depth_iff (n := 128)).mp (Nat.not_le.mp deep)
  exact absurd longer.1 (by decide)

/-- Rendering always gives a well-formed document of bounded depth. For a value without cycles that
is not too deep the text says what is in the one tree that the value unfolds to, and it is the text
of every such value with this unfolding. -/
theorem rendering_faithful (h : Heap) (v : Value) :
    Json 128 (h.documentText v).toList ∧
      (h.Acyclic v → h.NestsWithin 128 v →
        ∃ t, (∀ t', h.Unfolds v t' ↔ t' = t) ∧ t.document.Written (h.documentText v).toList ∧
          ∀ (g : Heap) (w : Value), g.Acyclic w → g.NestsWithin 128 w → g.Unfolds w t →
            g.documentText w = h.documentText v) := by
  have written := h.written_documentText v
  refine ⟨written.json (h.depth_document_le v), fun acyclic shallow => ?_⟩
  obtain ⟨t, unfolds, same⟩ := exists_unfolds_document acyclic shallow
  refine ⟨t, fun t' => ⟨fun unfolds' => unfolds'.unique unfolds, ?_⟩, same ▸ written, ?_⟩
  · rintro rfl
    exact unfolds
  · intro g w acyclic' shallow' unfolds'
    obtain ⟨t', unfolds'', same'⟩ := exists_unfolds_document acyclic' shallow'
    rw [documentText, documentText, same, same', unfolds''.unique unfolds']

theorem Portable.isAcyclic (portable : h.Portable room v) : h.Acyclic v := by
  intro w u a leads further at_ at'
  have plain := portable.plain u (leads.trans further.to_reflTransGen)
  obtain rfl := (portable.plain w leads).eq_of_address? plain at_ at'
  exact portable.acyclic w leads further

/-- The array that is shared, as a tree. -/
def sharedItems : Tree := .array [.text "\n", .number (Number.ofNat 3)]

theorem unfolds_sharedItems : shared.Unfolds (.array 0) sharedItems := by
  refine .array rfl fun i w t item here => ?_
  match i with
  | 0 =>
      cases item
      cases here
      exact .text "\n"
  | 1 =>
      cases item
      cases here
      exact .number (Number.ofNat 3)
  | i + 2 => cases here

/-- The object that holds it twice, as a text. -/
def sharedText : String := "\x7b\"b\":[\"\\n\",3],\"a\":[\"\\n\",3]\x7d"

/-- The shared array is written in full under both keys. -/
theorem rendering_faithful_shared :
    shared.Acyclic (.object 1) ∧ shared.NestsWithin 128 (.object 1) ∧
      shared.documentText (.object 1) = sharedText ∧ Json 128 sharedText.toList ∧
      (Tree.object [("b", sharedItems), ("a", sharedItems)]).document.Written
        sharedText.toList := by
  have acyclic := portable_shared.isAcyclic
  have shallow : shared.NestsWithin 128 (.object 1) :=
    fun chain nested => (portable_shared.shallow chain nested).trans (by decide)
  have unfolds : shared.Unfolds (.object 1) (.object [("b", sharedItems), ("a", sharedItems)]) := by
    refine .object rfl fun i e e' field here => ?_
    match i with
    | 0 =>
        cases field
        cases here
        exact unfolds_sharedItems
    | 1 =>
        cases field
        cases here
        exact unfolds_sharedItems
    | i + 2 => cases here
  have text : shared.documentText (.object 1) = sharedText := by decide +kernel
  obtain ⟨json, faithful⟩ := rendering_faithful shared (.object 1)
  obtain ⟨t, only, written, -⟩ := faithful acyclic shallow
  obtain rfl := (only _).mp unfolds
  rw [text] at json written
  exact ⟨acyclic, shallow, text, json, written⟩

end Heap

end HostScript
