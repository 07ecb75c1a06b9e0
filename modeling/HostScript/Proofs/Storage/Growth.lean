import HostScript.Proofs.Storage.Writing

/-!
# What becomes of collections

Nothing on a heap goes away: a collection stays at its address, an array stays an array, and an
object stays an object to which fields have been written. A key that is written again keeps its
place and takes the new value, and a new key comes last. So the keys of an object are distinct, and
at any later time they are its first keys, in the same order.

## Implementation notes

`Heap.Advances` says what can become of a heap, whatever is done with it. Every operation on the
heap is shown to advance it once; all that is said of the keys follows from the relation.
-/

namespace HostScript

/-! ### Fields that are written one after the other -/

namespace Fields

variable {f : Fields} {key : String} {v : Value} {es : List (String × Value)}

theorem insertAll_cons (f : Fields) (e : String × Value) (es : List (String × Value)) :
    f.insertAll (e :: es) = (f.insert e.1 e.2).insertAll es := rfl

theorem insertAll_append (f : Fields) (es es' : List (String × Value)) :
    f.insertAll (es ++ es') = (f.insertAll es).insertAll es' := List.foldl_append

/-- The old keys stay in front, and each new one stands where it was written first. -/
theorem keys_insertAll :
    (f.insertAll es).keys = f.keys ++ ((es.map Prod.fst).removeAll f.keys).eraseDups := by
  induction es generalizing f with
  | nil => simp [insertAll]
  | cons e es ih =>
      rw [insertAll_cons, ih, keys_insert, List.map_cons, List.cons_removeAll]
      by_cases known : e.1 ∈ f.keys
      · simp [known]
      · have apart : (es.map Prod.fst).removeAll (f.keys ++ [e.1]) =
            ((es.map Prod.fst).removeAll f.keys).filter fun k => !k == e.1 := by
          simp only [List.removeAll, List.filter_filter]
          apply List.filter_congr
          intro k _
          rw [Bool.eq_iff_iff]
          simp [and_comm]
        simp [known, apart, List.eraseDups_cons]

/-- Each key has the value that was written last. -/
theorem get?_insertAll : (f.insertAll es).get? key = (es.reverse.lookup key).or (f.get? key) := by
  induction es generalizing f with
  | nil => rfl
  | cons e es ih =>
      obtain ⟨k, w⟩ := e
      rw [insertAll_cons, ih, List.reverse_cons, List.lookup_append, Option.or_assoc]
      congr 1
      by_cases same : key = k
      · simp [same]
      · have other : (key == k) = false := beq_false_of_ne same
        simp [get?_insert_of_ne same, List.lookup_cons, other]

theorem nodup_keys_insert (distinct : f.keys.Nodup) : (f.insert key v).keys.Nodup := by
  rw [keys_insert]
  split
  · exact distinct
  · next fresh =>
    apply List.Nodup.append distinct (List.nodup_singleton key)
    simpa using fresh

theorem nodup_keys_insertAll (distinct : f.keys.Nodup) : (f.insertAll es).keys.Nodup := by
  induction es generalizing f with
  | nil => exact distinct
  | cons e es ih => exact ih (nodup_keys_insert distinct)

end Fields

/-! ### Collections -/

/-- What a collection can become: an array any array, and an object one to which fields have been
written. -/
inductive Collection.Becomes : Collection → Collection → Prop
  | array (items items' : Array Value) : Becomes (.array items) (.array items')
  | object (fields : Fields) (written : List (String × Value)) :
      Becomes (.object fields) (.object (fields.insertAll written))

/-- What a new collection can be: it was empty at first. -/
def Collection.Arises (c : Collection) : Prop :=
  Becomes (.array #[]) c ∨ Becomes (.object #[]) c

namespace Collection

variable {c d e : Collection}

theorem Becomes.refl (c : Collection) : c.Becomes c := by
  cases c with
  | array items => exact .array items items
  | object fields => exact .object fields []

theorem Becomes.trans (first : c.Becomes d) (then_ : d.Becomes e) : c.Becomes e := by
  cases first with
  | array items _ =>
      cases then_
      exact .array _ _
  | object fields written =>
      cases then_ with
      | object _ more =>
          rw [← Fields.insertAll_append]
          exact .object fields _

theorem Arises.becomes (arises : c.Arises) (becomes : c.Becomes d) : d.Arises :=
  arises.imp (·.trans becomes) (·.trans becomes)

end Collection

/-! ### Heaps -/

/-- What can become of a heap. -/
structure Heap.Advances (h g : Heap) : Prop where
  old : ∀ (a : Address) (c : Collection), h.cells[a]? = some c →
    ∃ d, g.cells[a]? = some d ∧ c.Becomes d
  new : ∀ (a : Address) (d : Collection), h.cells[a]? = none → g.cells[a]? = some d → d.Arises

namespace Heap

variable {h g k : Heap} {a : Address} {fields : Fields}

namespace Advances

theorem refl (h : Heap) : h.Advances h := by
  constructor
  · intro a c at_
    exact ⟨c, at_, .refl c⟩
  · intro a d none_ some_
    rw [none_] at some_
    cases some_

theorem trans (first : h.Advances g) (then_ : g.Advances k) : h.Advances k := by
  constructor
  · intro a c at_
    obtain ⟨d, at_, becomes⟩ := first.old a c at_
    obtain ⟨e, at_, becomes'⟩ := then_.old a d at_
    exact ⟨e, at_, becomes.trans becomes'⟩
  · intro a e none_ at_
    cases between : g.cells[a]? with
    | none => exact then_.new a e between at_
    | some d =>
        obtain ⟨e', at', becomes⟩ := then_.old a d between
        obtain rfl : e = e' := Option.some_inj.mp (at_.symm.trans at')
        exact (first.new a d none_ between).becomes becomes

/-- A collection is put behind the others. -/
theorem push (h : Heap) {c : Collection} (arises : c.Arises) :
    h.Advances ⟨h.cells.push c⟩ := by
  constructor
  · intro a c' at_
    obtain ⟨below, -⟩ := Array.getElem?_eq_some_iff.mp at_
    refine ⟨c', ?_, .refl c'⟩
    rw [Array.getElem?_push, if_neg (Nat.ne_of_lt below), at_]
  · intro a d none_ at_
    rw [Array.getElem?_push, none_] at at_
    split at at_
    · cases at_
      exact arises
    · cases at_

/-- A collection becomes another one. -/
theorem modify (h : Heap) (a : Address) {change : Collection → Collection}
    (becomes : ∀ c : Collection, c.Becomes (change c)) : h.Advances ⟨h.cells.modify a change⟩ := by
  constructor
  · intro b c at_
    simp only [Array.getElem?_modify, at_]
    split
    · exact ⟨change c, rfl, becomes c⟩
    · exact ⟨c, rfl, .refl c⟩
  · intro b d none_ at_
    simp only [Array.getElem?_modify, none_, Option.map_none, ite_self] at at_
    cases at_

theorem newArray (h : Heap) (items : Array Value) : h.Advances (h.newArray items).2 :=
  push h (.inl (.array _ _))

theorem newObject (h : Heap) (entries : List (String × Value)) :
    h.Advances (h.newObject entries).2 :=
  push h (.inr (.object _ _))

theorem modifyItems (h : Heap) (a : Address) (change : Array Value → Array Value) :
    h.Advances (h.modifyItems a change) := by
  apply modify
  intro c
  cases c with
  | array items => exact .array _ _
  | object fields => exact .refl _

theorem write (h : Heap) (slot : Slot) (v : Value) : h.Advances (h.write slot v) := by
  cases slot with
  | item a i => exact modifyItems h a _
  | field a key =>
      apply modify
      intro c
      cases c with
      | array items => exact .refl _
      | object fields => exact .object fields [(key, v)]

mutual

/-- A document is put on the heap part by part. -/
theorem ofDocument (h : Heap) : ∀ d : Document, h.Advances (h.ofDocument d).2
  | .null => .refl h
  | .bool _ => .refl h
  | .number _ => .refl h
  | .text _ => .refl h
  | .list items => (ofDocuments h items).trans (newArray _ _)
  | .record entries => (ofEntries h entries).trans (newObject _ _)

theorem ofDocuments (h : Heap) : ∀ ds : List Document, h.Advances (h.ofDocuments ds).2
  | [] => .refl h
  | d :: rest => (ofDocument h d).trans (ofDocuments _ rest)

theorem ofEntries (h : Heap) : ∀ es : List (String × Document), h.Advances (h.ofEntries es).2
  | [] => .refl h
  | (_, d) :: rest => (ofDocument h d).trans (ofEntries _ rest)

end

theorem call (h : Heap) (b : Builtin) (wallClock : Nat) (args : List Value) :
    h.Advances (b.call wallClock args h).2 := by
  simp only [Builtin.call]
  split
  · next e _ =>
    cases e with
    | value v => exact .refl h
    | newArray items => exact newArray h items
    | newDocument d => exact ofDocument h d
    | append a items => exact modifyItems h a _
    | removeLast a => exact modifyItems h a _
  · exact .refl h

/-! What follows for objects. -/

/-- An object stays an object, and fields are written to it. -/
theorem object (advances : h.Advances g) (at_ : h.cells[a]? = some (.object fields)) :
    ∃ written, g.cells[a]? = some (.object (fields.insertAll written)) := by
  obtain ⟨d, at_, becomes⟩ := advances.old a _ at_
  cases becomes with
  | object _ written => exact ⟨written, at_⟩

theorem unique (advances : h.Advances g) (unique : h.Unique) : g.Unique := by
  intro a
  cases at_ : g.cells[a]? with
  | none => simp [Heap.fields, at_, Fields.keys]
  | some d =>
      cases d with
      | array items => simp [Heap.fields, at_, Fields.keys]
      | object fields =>
          rw [fields_of_cells at_]
          cases before : h.cells[a]? with
          | none =>
              obtain becomes | becomes := advances.new a _ before at_
              · cases becomes
              · cases becomes with
                | object _ written => exact Fields.nodup_keys_insertAll List.nodup_nil
          | some c =>
              obtain ⟨d, at', becomes⟩ := advances.old a c before
              obtain rfl : Collection.object fields = d := Option.some_inj.mp (at_.symm.trans at')
              cases becomes with
              | object old written =>
                  have distinct := unique a
                  rw [fields_of_cells before] at distinct
                  exact Fields.nodup_keys_insertAll distinct

end Advances

end Heap

end HostScript
