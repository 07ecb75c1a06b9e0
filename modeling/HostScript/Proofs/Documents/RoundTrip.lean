import HostScript.Proofs.Bisimulation
import HostScript.Proofs.Documents.Nesting

/-!
# Values are read back as they were written

A value without cycles that is not too deep and whose numbers are integers is written as a document
of its form, and a document is put on the heap as a value of its form. Both values have the form of
one document then, which is more than bisimilarity: the order of keys is the same, too.

## Implementation notes

The writer keeps the collections around it in a list and takes one of them for a cycle when it comes
back to it. In a value without cycles this does not happen, however often a collection is shared:
everything on the list leads to the value that is being written. Reading adds collections to the
heap, so a form has to say which cells it rests on (`HasForm`), for it to hold on a larger heap,
too.
-/

namespace HostScript

open Relation

/-- The keys of an object, in their order. -/
def Shape.keys? : Shape → Option (List String)
  | .object keys => some keys
  | _ => none

namespace Heap

variable {h g : Heap} {v w : Value} {a : Address} {room : Nat} {path : List Address} {d : Document}

/-- Null, a truth value, an integer below 10^15, a text, or a collection of the heap. -/
def Plain (h : Heap) : Value → Prop
  | .undefined => False
  | .null => True
  | .bool _ => True
  | .number x => ∃ n, Number.whole? x = some n ∧ n.natAbs < 1000000000000000
  | .text _ => True
  | .array a => ∃ items, h.cells[a]? = some (.array items)
  | .object a => ∃ fields, h.cells[a]? = some (.object fields)

/-- A value that is built from plain ones without a cycle and with at most `room` collections nested
inside one another. -/
structure Portable (h : Heap) (room : Nat) (v : Value) : Prop where
  plain : ∀ w, ReflTransGen h.Contains v w → h.Plain w
  acyclic : ∀ w, ReflTransGen h.Contains v w → ¬ TransGen h.Contains w w
  shallow : ∀ chain, h.Nested chain v → chain.length ≤ room

/-- The value has the form of the document, down to the order of keys; numbers are compared. -/
inductive HasForm (h : Heap) : Document → Value → Prop
  | null : h.HasForm .null .null
  | bool (b : Bool) : h.HasForm (.bool b) (.bool b)
  | number {x y : Float} (same : (x == y) = true) : h.HasForm (.number x) (.number y)
  | text (s : String) : h.HasForm (.text s) (.text s)
  | array {ds : List Document} {a : Address} {items : Array Value}
      (at_ : h.cells[a]? = some (.array items)) (shown : List.Forall₂ h.HasForm ds items.toList) :
      h.HasForm (.list ds) (.array a)
  | object {es : List (String × Document)} {a : Address} {fields : Fields}
      (at_ : h.cells[a]? = some (.object fields)) (keys : es.map Prod.fst = fields.keys)
      (shown : List.Forall₂ h.HasForm (es.map Prod.snd) (fields.toList.map Prod.snd)) :
      h.HasForm (.record es) (.object a)

theorem Portable.mono {room' : Nat} (portable : h.Portable room v) (le : room ≤ room') :
    h.Portable room' v :=
  ⟨portable.plain, portable.acyclic, fun chain nested => (portable.shallow chain nested).trans le⟩

theorem Nested.leads {chain : List Address} (nested : h.Nested chain v) (mem : a ∈ chain) :
    ∃ w, w.address? = some a ∧ ReflTransGen h.Contains v w := by
  induction nested with
  | last at_ =>
      obtain rfl := List.mem_singleton.mp mem
      exact ⟨_, at_, .refl⟩
  | inside at_ inside _ _ ih =>
      obtain rfl | mem := List.mem_cons.mp mem
      · exact ⟨_, at_, .refl⟩
      · obtain ⟨w, found, leads⟩ := ih mem
        exact ⟨w, found, .head inside leads⟩

/-- There is one collection at an address. -/
theorem Plain.eq_of_address? (plain : h.Plain v) (plain' : h.Plain w) (at_ : v.address? = some a)
    (at' : w.address? = some a) : v = w := by
  have apart {items : Array Value} {fields : Fields} (array : h.cells[a]? = some (.array items))
      (object : h.cells[a]? = some (.object fields)) : False := by
    rw [array] at object
    cases object
  cases v with
  | array b =>
      obtain rfl := Option.some.inj at_
      cases w with
      | array c => rw [Option.some.inj at']
      | object c =>
          obtain rfl := Option.some.inj at'
          exact (apart plain.choose_spec plain'.choose_spec).elim
      | _ => cases at'
  | object b =>
      obtain rfl := Option.some.inj at_
      cases w with
      | object c => rw [Option.some.inj at']
      | array c =>
          obtain rfl := Option.some.inj at'
          exact (apart plain'.choose_spec plain.choose_spec).elim
      | _ => cases at'
  | _ => cases at_

/-- What is inside a portable value is portable with one level less. -/
theorem Portable.enter (portable : h.Portable (room + 1) v) (inside : h.Contains v w) :
    h.Portable room w := by
  refine ⟨fun u leads => portable.plain u (.head inside leads),
    fun u leads => portable.acyclic u (.head inside leads), fun chain nested => ?_⟩
  obtain ⟨a, at_⟩ : ∃ a, v.address? = some a := by
    cases v <;> first | exact ⟨_, rfl⟩ | cases inside
  have fresh : a ∉ chain := by
    intro mem
    obtain ⟨u, at', leads⟩ := nested.leads mem
    have plain := portable.plain u (.head inside leads)
    obtain rfl := (portable.plain v .refl).eq_of_address? plain at_ at'
    exact portable.acyclic v .refl (.head' inside leads)
  simpa using portable.shallow _ (.inside at_ inside fresh nested)

theorem items_eq {items : Array Value} (at_ : h.cells[a]? = some (.array items)) :
    h.items a = items := by
  rw [Heap.items, at_]

theorem fields_eq {fields : Fields} (at_ : h.cells[a]? = some (.object fields)) :
    h.fields a = fields := by
  rw [Heap.fields, at_]

theorem Portable.integral (portable : h.Portable room v) : h.Integral v :=
  fun x leads => portable.plain (.number x) leads

theorem Plain.hasForm_of_scalar (plain : h.Plain v) (scalar : v.address? = none) :
    h.HasForm (h.documentWithin room path v) v := by
  cases v with
  | undefined => exact plain.elim
  | null => cases room <;> exact .null
  | bool b => cases room <;> exact .bool b
  | number x =>
      obtain ⟨n, whole, small⟩ := plain
      have same := Number.beq_ofInt_of_whole whole small
      have self : (x == x) = true := BEq.trans same (BEq.symm same)
      cases room <;> exact .number self
  | text s => cases room <;> exact .text s
  | array a => cases scalar
  | object a => cases scalar

/-- A portable value has the form of its document. -/
theorem hasForm_documentWithin (portable : h.Portable room v)
    (around : ∀ a ∈ path, ∃ u, u.address? = some a ∧ h.Plain u ∧ TransGen h.Contains u v) :
    h.HasForm (h.documentWithin room path v) v := by
  induction room generalizing path v with
  | zero =>
      refine (portable.plain v .refl).hasForm_of_scalar ?_
      by_contra some_
      obtain ⟨a, at_⟩ := Option.ne_none_iff_exists'.mp some_
      simpa using portable.shallow [a] (.last at_)
  | succ room ih =>
      have plain := portable.plain v .refl
      have fresh {a : Address} (at_ : v.address? = some a) : path.contains a = false := by
        refine Bool.eq_false_iff.mpr fun seen => ?_
        obtain ⟨u, at', plain', leads⟩ := around a (by simpa using seen)
        obtain rfl := plain'.eq_of_address? plain at' at_
        exact portable.acyclic u .refl leads
      have inner {a : Address} (at_ : v.address? = some a) (w : Value) (inside : h.Contains v w) :
          h.HasForm (h.documentWithin room (a :: path) w) w := by
        refine ih (portable.enter inside) fun b mem => ?_
        obtain rfl | mem := List.mem_cons.mp mem
        · exact ⟨v, at_, plain, .single inside⟩
        · obtain ⟨u, at', plain', leads⟩ := around b mem
          exact ⟨u, at', plain', leads.tail inside⟩
      cases v with
      | array a =>
          obtain ⟨items, at_⟩ := plain
          have inner := inner rfl
          simp only [documentWithin, fresh rfl, Bool.false_eq_true, if_false, Contains,
            items_eq at_] at inner ⊢
          refine .array at_ ?_
          rw [List.forall₂_map_left_iff, List.forall₂_same]
          exact fun w mem => inner w (Array.mem_toList_iff.mp mem)
      | object a =>
          obtain ⟨fields, at_⟩ := plain
          have inner := inner rfl
          simp only [documentWithin, fresh rfl, Bool.false_eq_true, if_false, Contains,
            fields_eq at_] at inner ⊢
          refine .object at_ (by simp [Fields.keys]) ?_
          rw [List.map_map, List.forall₂_map_left_iff, List.forall₂_map_right_iff,
            List.forall₂_same]
          exact fun e mem => inner e.2 ⟨e.1, Array.mem_toList_iff.mp mem⟩
      | _ => exact plain.hasForm_of_scalar rfl

/-! ### Documents put on the heap -/

/-- A heap with collections added behind the others, of which the objects have distinct keys if the
objects before did. -/
structure Grown (g g' : Heap) : Prop where
  keeps : ∃ new, g'.cells = g.cells ++ new
  unique : g.Unique → g'.Unique

namespace Grown

variable {g' g'' : Heap}

theorem refl (g : Heap) : g.Grown g := ⟨⟨#[], by simp⟩, id⟩

theorem trans (first : g.Grown g') (second : g'.Grown g'') : g.Grown g'' := by
  obtain ⟨new, added⟩ := first.keeps
  obtain ⟨more, added'⟩ := second.keeps
  exact ⟨⟨new ++ more, by rw [added', added, Array.append_assoc]⟩, second.unique ∘ first.unique⟩

theorem getElem? (grown : g.Grown g') {c : Collection} (at_ : g.cells[a]? = some c) :
    g'.cells[a]? = some c := by
  obtain ⟨new, added⟩ := grown.keeps
  obtain ⟨below, -⟩ := Array.getElem?_eq_some_iff.mp at_
  rw [added, Array.getElem?_append_left below, at_]

theorem push (g : Heap) {c : Collection}
    (distinct : ∀ fields, c = .object fields → fields.keys.Nodup) :
    g.Grown ⟨g.cells.push c⟩ := by
  refine ⟨⟨#[c], by simp⟩, fun unique a => ?_⟩
  by_cases last : a = g.cells.size
  · simp only [Heap.fields, last, Array.getElem?_push_size]
    cases c with
    | array items => exact List.nodup_nil
    | object fields => exact distinct fields rfl
  · have before := unique a
    simpa only [Heap.fields, Array.getElem?_push, if_neg last] using before

end Grown

mutual

theorem HasForm.mono {g' : Heap} (grown : g.Grown g') : ∀ (d : Document) {v : Value},
    g.HasForm d v → g'.HasForm d v
  | _, _, .null => .null
  | _, _, .bool b => .bool b
  | _, _, .number same => .number same
  | _, _, .text s => .text s
  | .list ds, _, .array at_ shown => .array (grown.getElem? at_) (hasFormAll_mono grown ds shown)
  | .record es, _, .object at_ keys shown =>
    .object (grown.getElem? at_) keys (hasFormEntries_mono grown es shown)

theorem hasFormAll_mono {g' : Heap} (grown : g.Grown g') : ∀ (ds : List Document) {vs : List Value},
    List.Forall₂ g.HasForm ds vs → List.Forall₂ g'.HasForm ds vs
  | [], _, .nil => .nil
  | d :: ds, _, .cons shown others => .cons (shown.mono grown d) (hasFormAll_mono grown ds others)

theorem hasFormEntries_mono {g' : Heap} (grown : g.Grown g') :
    ∀ (es : List (String × Document)) {vs : List Value},
    List.Forall₂ g.HasForm (es.map Prod.snd) vs → List.Forall₂ g'.HasForm (es.map Prod.snd) vs
  | [], _, .nil => .nil
  | (_, d) :: es, _, .cons shown others =>
    .cons (shown.mono grown d) (hasFormEntries_mono grown es others)

end

end Heap

namespace Fields

theorem insert_of_not_mem {f : Fields} {key : String} {v : Value} (fresh : key ∉ f.keys) :
    f.insert key v = f.push (key, v) := by
  have none_ : f.findIdx? (fun e => e.1 == key) = none := by
    rw [Array.findIdx?_eq_none_iff]
    intro e mem
    exact beq_false_of_ne fun same => fresh (mem_keys_iff.mpr ⟨e.2, same ▸ mem⟩)
  rw [insert, none_]

/-- Fields with distinct keys are written one behind the other. -/
theorem insertAll_of_nodup (es : List (String × Value)) :
    ∀ f : Fields, (f.keys ++ es.map Prod.fst).Nodup → f.insertAll es = f ++ es.toArray := by
  induction es with
  | nil => simp [insertAll]
  | cons e es ih =>
      intro f distinct
      have fresh : e.1 ∉ f.keys := by
        intro mem
        exact (List.nodup_append.mp distinct).2.2 e.1 mem e.1 (by simp) rfl
      have distinct' : (Fields.keys (f.push e) ++ es.map Prod.fst).Nodup := by
        simpa [keys] using distinct
      have step : f.insertAll (e :: es) = (f.insert e.1 e.2).insertAll es := rfl
      rw [step, insert_of_not_mem fresh, ih _ distinct']
      simp

end Fields

namespace Heap

variable {h g : Heap}

mutual

/-- A document is put on the heap as a value of its form. -/
theorem hasForm_ofDocument (unique : h.Unique) : ∀ (d : Document) {v : Value}, d.Whole →
    h.HasForm d v → ∀ g : Heap, g.Grown (g.ofDocument d.restored).2 ∧
      (g.ofDocument d.restored).2.HasForm d (g.ofDocument d.restored).1
  | .null, _, _, _, g => ⟨.refl g, .null⟩
  | .bool b, _, _, _, g => ⟨.refl g, .bool b⟩
  | .number x, _, ⟨n, short⟩, _, g => by
    obtain ⟨whole, small⟩ := Number.shortWhole?_eq_some_iff.mp short
    simp only [Document.restored, short, ofDocument]
    exact ⟨.refl g, .number (Number.beq_ofInt_of_whole whole small)⟩
  | .text s, _, _, _, g => ⟨.refl g, .text s⟩
  | .list ds, _, whole, .array at_ shown, g => by
    obtain ⟨grown, shown⟩ := hasForm_ofDocuments unique ds whole shown g
    simp only [Document.restored, ofDocument, newArray, add]
    generalize g.ofDocuments (Document.restoredAll ds) = put at grown shown ⊢
    have last : put.2.Grown ⟨put.2.cells.push (.array put.1.toArray)⟩ := .push _ nofun
    exact ⟨grown.trans last, .array Array.getElem?_push_size (hasFormAll_mono last ds shown)⟩
  | .record es, _, whole, .object at_ keys shown, g => by
    have distinct : (es.map Prod.fst).Nodup := by
      rw [keys, ← fields_eq at_]
      exact unique _
    obtain ⟨grown, keys', shown⟩ := hasForm_ofEntries unique es whole shown g
    simp only [Document.restored, ofDocument, newObject, add]
    generalize g.ofEntries (Document.restoredEntries es) = put at grown keys' shown ⊢
    have written : Fields.insertAll #[] put.1 = put.1.toArray := by
      rw [Fields.insertAll_of_nodup put.1 #[] (by rwa [keys'])]
      simp
    rw [written]
    have last : put.2.Grown ⟨put.2.cells.push (.object put.1.toArray)⟩ := .push _ (by
      rintro _ ⟨⟩
      rwa [Fields.keys, keys'])
    exact ⟨grown.trans last, .object Array.getElem?_push_size keys'.symm
      (hasFormEntries_mono last es shown)⟩

theorem hasForm_ofDocuments (unique : h.Unique) : ∀ (ds : List Document) {vs : List Value},
    Document.WholeAll ds → List.Forall₂ h.HasForm ds vs → ∀ g : Heap,
      g.Grown (g.ofDocuments (Document.restoredAll ds)).2 ∧
      List.Forall₂ (g.ofDocuments (Document.restoredAll ds)).2.HasForm ds
        (g.ofDocuments (Document.restoredAll ds)).1
  | [], _, _, _, g => ⟨.refl g, .nil⟩
  | d :: ds, _, ⟨whole, wholes⟩, .cons shown others, g => by
    obtain ⟨grown, shown⟩ := hasForm_ofDocument unique d whole shown g
    obtain ⟨grown', others⟩ :=
      hasForm_ofDocuments unique ds wholes others (g.ofDocument d.restored).2
    exact ⟨grown.trans grown', .cons (shown.mono grown' d) others⟩

theorem hasForm_ofEntries (unique : h.Unique) : ∀ (es : List (String × Document)) {vs : List Value},
    Document.WholeEntries es → List.Forall₂ h.HasForm (es.map Prod.snd) vs → ∀ g : Heap,
      g.Grown (g.ofEntries (Document.restoredEntries es)).2 ∧
      (g.ofEntries (Document.restoredEntries es)).1.map Prod.fst = es.map Prod.fst ∧
      List.Forall₂ (g.ofEntries (Document.restoredEntries es)).2.HasForm (es.map Prod.snd)
        ((g.ofEntries (Document.restoredEntries es)).1.map Prod.snd)
  | [], _, _, _, g => ⟨.refl g, rfl, .nil⟩
  | (key, d) :: es, _, ⟨whole, wholes⟩, .cons shown others, g => by
    obtain ⟨grown, shown⟩ := hasForm_ofDocument unique d whole shown g
    obtain ⟨grown', keys, others⟩ :=
      hasForm_ofEntries unique es wholes others (g.ofDocument d.restored).2
    exact ⟨grown.trans grown', congrArg (key :: ·) keys, .cons (shown.mono grown' d) others⟩

end

/-! ### Values of one form -/

/-- Both values have the form of one document. -/
def Alike (h : Heap) (v w : Value) : Prop := ∃ d, h.HasForm d v ∧ h.HasForm d w

theorem forall₂_alike {ds : List Document} {vs ws : List Value}
    (left : List.Forall₂ h.HasForm ds vs) (right : List.Forall₂ h.HasForm ds ws) :
    List.Forall₂ h.Alike vs ws :=
  forall₂_trans (fun _ d _ shown shown' => ⟨d, shown, shown'⟩) left.flip right

/-- Values of one form are equal constants, arrays of items of one form, or objects with the same
keys in the same order and fields of one form. -/
theorem Alike.cases (alike : h.Alike v w) :
    (v.address? = none ∧ w.address? = none ∧ v.strictEq w = true) ∨
    (∃ a b, v = .array a ∧ w = .array b ∧
      List.Forall₂ h.Alike (h.items a).toList (h.items b).toList) ∨
    (∃ a b, v = .object a ∧ w = .object b ∧ (h.fields a).keys = (h.fields b).keys ∧
      List.Forall₂ h.Alike ((h.fields a).toList.map Prod.snd)
        ((h.fields b).toList.map Prod.snd)) := by
  obtain ⟨d, left, right⟩ := alike
  cases left with
  | null => cases right; exact .inl ⟨rfl, rfl, rfl⟩
  | bool b => cases right; exact .inl ⟨rfl, rfl, beq_self_eq_true b⟩
  | number same =>
      cases right with
      | number same' =>
          exact .inl ⟨rfl, rfl, BEq.trans (BEq.symm same) same'⟩
  | text s => cases right; exact .inl ⟨rfl, rfl, beq_self_eq_true s⟩
  | array at_ shown =>
      cases right with
      | array at' shown' =>
          refine .inr (.inl ⟨_, _, rfl, rfl, ?_⟩)
          rw [items_eq at_, items_eq at']
          exact forall₂_alike shown shown'
  | object at_ keys shown =>
      cases right with
      | object at' keys' shown' =>
          refine .inr (.inr ⟨_, _, rfl, rfl, ?_⟩)
          rw [fields_eq at_, fields_eq at']
          exact ⟨keys.symm.trans keys', forall₂_alike shown shown'⟩

theorem find?_alike (key : String) (es es' : List (String × Value))
    (keys : es.map Prod.fst = es'.map Prod.fst)
    (alike : List.Forall₂ h.Alike (es.map Prod.snd) (es'.map Prod.snd)) :
    Option.Rel h.Alike ((es.find? fun e => e.1 == key).map Prod.snd)
      ((es'.find? fun e => e.1 == key).map Prod.snd) := by
  induction es generalizing es' with
  | nil =>
      obtain rfl : es' = [] := by simpa using keys.symm
      exact .none
  | cons e es ih =>
      cases es' with
      | nil => cases keys
      | cons e' es' =>
          obtain ⟨same, keys⟩ := List.cons.inj keys
          cases alike with
          | cons first others =>
              simp only [List.find?_cons, same]
              cases e'.1 == key with
              | true => exact .some first
              | false => exact ih es' keys others

theorem get?_alike {f f' : Fields} (keys : f.keys = f'.keys)
    (alike : List.Forall₂ h.Alike (f.toList.map Prod.snd) (f'.toList.map Prod.snd)) (key : String) :
    Option.Rel h.Alike (f.get? key) (f'.get? key) := by
  simp only [Fields.get?, ← Array.find?_toList]
  exact find?_alike key _ _ keys alike

theorem enter?_of_scalar (scalar : v.address? = none) (step : Access) : h.enter? v step = none := by
  cases v with
  | array a => cases scalar
  | object a => cases scalar
  | _ => rfl

/-- One step into values of one form leads to values of one form. -/
theorem Alike.enter (alike : h.Alike v w) (step : Access) :
    Option.Rel h.Alike (h.enter? v step) (h.enter? w step) := by
  obtain ⟨scalar, scalar', -⟩ | ⟨a, b, rfl, rfl, items⟩ | ⟨a, b, rfl, rfl, keys, values⟩ :=
    alike.cases
  · rw [enter?_of_scalar scalar, enter?_of_scalar scalar']
    exact .none
  · cases step with
    | field key => exact .none
    | item i =>
        simp only [enter?, ← Array.getElem?_toList]
        exact forall₂_iff_getElem?.mp items i
  · cases step with
    | item i => exact .none
    | field key => exact get?_alike keys values key

theorem bisimulation_alike (h : Heap) : h.Bisimulation h.Alike := by
  intro v w alike
  obtain ⟨scalar, -, same⟩ | ⟨a, b, rfl, rfl, items⟩ | ⟨a, b, rfl, rfl, keys, values⟩ :=
    alike.cases
  · refine (agree_of_flat ⟨?_, ?_⟩).mpr same
    · rintro a b rfl
      cases scalar
    · rintro a b rfl
      cases scalar
  · exact .inr items
  · refine .inr ⟨fun key => by rw [keys], fun key x y hx hy => ?_⟩
    have fields := get?_alike keys values key
    rw [hx, hy] at fields
    cases fields with
    | some alike => exact alike

theorem keys?_shape_of_scalar (scalar : v.address? = none) : (h.shape v).keys? = none := by
  cases v with
  | array a => cases scalar
  | object a => cases scalar
  | _ => rfl

/-- Along every path, objects in values of one form have the same keys in the same order. -/
theorem Alike.keys?_unfolding (alike : h.Alike v w) (path : List Access) :
    (h.unfolding v path).bind Shape.keys? = (h.unfolding w path).bind Shape.keys? := by
  induction path generalizing v w with
  | nil =>
      obtain ⟨scalar, scalar', -⟩ | ⟨a, b, rfl, rfl, -⟩ | ⟨a, b, rfl, rfl, keys, -⟩ := alike.cases
      · exact (keys?_shape_of_scalar scalar).trans (keys?_shape_of_scalar scalar').symm
      · rfl
      · exact congrArg some keys
  | cons step path ih =>
      have further := alike.enter step
      simp only [unfolding, reach?]
      generalize h.enter? v step = x at further ⊢
      generalize h.enter? w step = y at further ⊢
      cases further with
      | none => rfl
      | some alike => exact ih alike

/-- An object that has one array under both of its keys. -/
def shared : Heap :=
  ⟨#[.array #[.text "\n", .number (Number.ofNat 3)], .object #[("b", .array 0), ("a", .array 0)]]⟩

theorem unique_shared : shared.Unique := by
  intro a
  match a with
  | 0 | 1 => decide
  | a + 2 => exact List.nodup_nil

/-- The number of levels of a value in this heap. -/
def sharedLevels : Value → Nat
  | .object _ => 2
  | .array _ => 1
  | _ => 0

theorem contains_shared (inside : shared.Contains v w) :
    shared.Plain w ∧ sharedLevels w < sharedLevels v := by
  have known : w = .array 0 ∧ v = .object 1 ∨
      (w = .text "\n" ∨ w = .number (Number.ofNat 3)) ∧ v = .array 0 := by
    match v with
    | .array 0 => exact .inr ⟨by simpa [shared, Contains, items] using inside, rfl⟩
    | .object 1 =>
        obtain ⟨key, mem⟩ := inside
        have mem : key = "b" ∧ w = .array 0 ∨ key = "a" ∧ w = .array 0 := by
          simpa [shared, fields] using mem
        exact .inl ⟨mem.elim And.right And.right, rfl⟩
    | .array 1 | .array (a + 2) | .object 0 | .object (a + 2) =>
        simp [shared, Contains, items, fields] at inside
  obtain ⟨rfl, rfl⟩ | ⟨rfl | rfl, rfl⟩ := known
  · exact ⟨⟨_, rfl⟩, by decide⟩
  · exact ⟨trivial, by decide⟩
  · exact ⟨⟨3, by decide +kernel, by decide⟩, by decide⟩

theorem portable_shared : shared.Portable 127 (.object 1) := by
  have descends {v w : Value} (leads : TransGen shared.Contains v w) :
      sharedLevels w < sharedLevels v := by
    induction leads with
    | single inside => exact (contains_shared inside).2
    | tail _ inside ih => exact (contains_shared inside).2.trans ih
  have short {chain : List Address} {v : Value} (nested : shared.Nested chain v) :
      chain.length ≤ sharedLevels v := by
    induction nested with
    | @last v a at_ =>
        cases v with
        | array b => exact le_rfl
        | object b => exact one_le_two
        | _ => cases at_
    | inside _ inside _ _ ih =>
        have := (contains_shared inside).2
        simp only [List.length_cons]
        omega
  refine ⟨fun w leads => ?_, fun w _ cycle => (descends cycle).false, fun chain nested => ?_⟩
  · cases leads with
    | refl => exact ⟨_, rfl⟩
    | tail _ inside => exact (contains_shared inside).1
  · exact (short nested).trans (by decide)

end Heap

namespace Builtin

/-- A value built from null, truth values, integers below 10^15, texts, arrays and objects, without
a cycle and with at most 127 collections nested inside one another, is written and read back as a
value that is structurally equal, with the keys of all objects in the same order. -/
theorem parseJson_json_structuralEq (h : Heap) (v : Value) (clock clock' : Nat) (unique : h.Unique)
    (portable : h.Portable 127 v) :
    ∃ s w h', json.call clock [v] h = (.ok (.text s), h) ∧
      parseJson.call clock' [.text s] h = (.ok w, h') ∧
      (∃ new, h'.cells = h.cells ++ new) ∧ h'.structuralEq v w = true ∧
      ∀ path, (h'.unfolding v path).bind Shape.keys? = (h'.unfolding w path).bind Shape.keys? := by
  have shallow : ¬ ∃ chain, h.Nested chain v ∧ chain.length = maxRenderDepth := by
    rintro ⟨chain, nested, length⟩
    have := portable.shallow chain nested
    rw [length, maxRenderDepth] at this
    omega
  have shown : h.HasForm (h.document v) v :=
    Heap.hasForm_documentWithin (portable.mono (by decide)) fun _ mem => (List.not_mem_nil mem).elim
  obtain ⟨grown, shown'⟩ :=
    Heap.hasForm_ofDocument unique _ portable.integral.whole_document shown h
  have alike : (h.ofDocument (h.document v).restored).2.Alike v _ := ⟨_, shown.mono grown, shown'⟩
  refine ⟨_, _, _, rfl, call_parseJson_of_shallow portable.integral shallow, grown.keeps, ?_, ?_⟩
  · exact (Heap.structuralEq_iff (grown.unique unique)).mpr ⟨_, Heap.bisimulation_alike _, alike⟩
  · exact alike.keys?_unfolding

/-- The shared array is written twice and read back as two arrays. -/
theorem parseJson_json_shared : Heap.shared.Unique ∧ Heap.shared.Portable 127 (.object 1) ∧
    ∃ s w h', json.call 0 [.object 1] .shared = (.ok (.text s), .shared) ∧
      parseJson.call 0 [.text s] .shared = (.ok w, h') ∧ h'.structuralEq (.object 1) w = true := by
  obtain ⟨s, w, h', written, read, -, equal, -⟩ :=
    parseJson_json_structuralEq .shared (.object 1) 0 0 Heap.unique_shared Heap.portable_shared
  exact ⟨Heap.unique_shared, Heap.portable_shared, s, w, h', written, read, equal⟩

end Builtin

end HostScript
