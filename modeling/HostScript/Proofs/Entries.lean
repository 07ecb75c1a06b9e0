import HostScript.Proofs.Documents.RoundTrip
import HostScript.Proofs.Rounds
import HostScript.Proofs.Sessions

/-!
# The entries of objects

An object is one ordered list of entries with distinct keys. Scripts and hosts make objects and
write to them in several ways, and each of them writes entries one after the other: a key keeps the
place where it was written first and has the value that was written last. Nothing takes a key away
or moves it, whatever programs run. All that a script can learn of an object is told by the list.

## Implementation notes

What happens on a heap is a sequence of episodes. They need not belong to one engine or one program,
and a computation counts as far as its allowance goes, so the heaps between them are all heaps that
there can be at any moment of a run.
-/

namespace HostScript

open Relation

/-! ### Writing entries -/

/-- Entries have been written to fields one after the other: the old keys stay in front, each new
one stands where it was written first, and each key has the value that was written last. -/
structure Fields.Merged (f : Fields) (es : List (String × Value)) (g : Fields) : Prop where
  keys : g.keys = f.keys ++ ((es.map Prod.fst).removeAll f.keys).eraseDups
  get? : ∀ key, g.get? key = (es.reverse.lookup key).or (f.get? key)

theorem Fields.merged_insertAll (f : Fields) (es : List (String × Value)) :
    f.Merged es (f.insertAll es) :=
  ⟨keys_insertAll, fun _ => get?_insertAll⟩

variable {sv : Services} {m m' : Machine} {a : Address} {key : String} {fields : Fields}

/-- The keys of an object are evaluated in the order in which they are written. -/
theorem keys_evalEntries {entries : List (String × Expr)} {es : List (String × Value)}
    (evaluated : evalEntries sv entries m = .done es m') :
    es.map Prod.fst = entries.map Prod.fst := by
  induction entries generalizing m m' es with
  | nil =>
      cases evaluated
      rfl
  | cons entry rest ih =>
      obtain ⟨key, e⟩ := entry
      obtain ⟨v, m₁, -, ended⟩ := Run.bind_eq_done_iff.mp evaluated
      obtain ⟨vs, m₂, others, ended⟩ := Run.bind_eq_done_iff.mp ended
      cases ended
      rw [List.map_cons, List.map_cons, ih others]

/-- An object expression makes one new object of the entries that it evaluates. -/
theorem eval_object {entries : List (String × Expr)} {es : List (String × Value)} (loc : Location)
    (evaluated : evalEntries sv entries m = .done es m') :
    eval sv (.object loc entries) m = .done (.object m'.world.heap.cells.size)
      (m'.withHeap ⟨m'.world.heap.cells.push (.object (Fields.insertAll #[] es))⟩) := by
  have made : (evalEntries sv entries >>= Run.newObject) m =
      .done (.object m'.world.heap.cells.size)
        (m'.withHeap ⟨m'.world.heap.cells.push (.object (Fields.insertAll #[] es))⟩) :=
    Run.bind_done evaluated
  simp only [eval, Run.located, made]

/-! ### Assignments -/

/-- The value that an assignment writes, given what it reads and its right-hand side. -/
def AssignOp.Yields (op : AssignOp) (h : Heap) (before : Except Fault Value) (v w : Value) : Prop :=
  match op.operator? with
  | none => w = v
  | some o => ∃ old, before = .ok old ∧ h.binary o old v = .ok w

theorem combined_cases (op : AssignOp) (before : Machine → Except Fault Value) (v : Value)
    (m : Machine) :
    (op ≠ .set ∧ ∃ f, Run.combined op before v m = .fault f m) ∨
      ∃ w, op.Yields m.world.heap (before m) v w ∧ Run.combined op before v m = .done w m := by
  cases compound : op.operator? with
  | none =>
      refine .inr ⟨v, ?_, ?_⟩
      · simp only [AssignOp.Yields, compound]
      · simp only [Run.combined, compound]
        rfl
  | some o =>
      have other : op ≠ .set := by
        rintro rfl
        cases compound
      simp only [AssignOp.Yields, Run.combined, compound, Run.check]
      cases before m with
      | error f => exact .inl ⟨other, f, rfl⟩
      | ok old =>
          cases combined : m.world.heap.binary o old v with
          | error f => exact .inl ⟨other, f, by simp only [bind, Except.bind, combined]⟩
          | ok w => exact .inr ⟨w, ⟨old, rfl, combined⟩, by simp only [bind, Except.bind, combined]⟩

/-- What is left of an assignment when the parts of its target have been evaluated. -/
theorem Designates.assign_combined {target : Target} {c : Value} {s : Selector}
    (designated : Designates sv target m c s m') (op : AssignOp) (v : Value) :
    assign sv op v target m = (do
      let w ← Run.combined op (fun m => m.world.heap.select c s) v
      Run.openFor c s
      Run.writeSlot (fun m => m.world.heap.selectSlot c s) w : Run Unit) m' := by
  cases designated with
  | member base_ => exact Run.bind_done base_
  | index base_ position_ => exact (Run.bind_done base_).trans (Run.bind_done position_)

theorem selectSlot_of_access? {h : Heap} {s : Selector}
    (at_ : h.access? (.object a) s = some (.field key)) :
    h.selectSlot (.object a) s = .ok (.field a key) := by
  cases s with
  | member k =>
      cases at_
      rfl
  | index i =>
      cases at_
      rfl

/-- An assignment behind an object writes one entry. Only an operator can make it fail, and only a
key whose text looks into the object cuts it off, and then it writes nothing. -/
theorem assign_behind_object {target : Target} {s : Selector}
    (designated : Designates sv target m (.object a) s m')
    (at_ : m'.world.heap.access? (.object a) s = some (.field key)) (op : AssignOp) (v : Value) :
    (op ≠ .set ∧ ∃ f, assign sv op v target m = .fault f m') ∨
      (∃ i, s = .index i ∧ m'.world.heap.looksInto a i = true ∧
        assign sv op v target m = .cut (.entangled a i) m') ∨
      ∃ w, op.Yields m'.world.heap (m'.world.heap.select (.object a) s) v w ∧
        assign sv op v target m =
          .done () (m'.withHeap (m'.world.heap.write (.field a key) w)) := by
  rw [designated.assign_combined op v]
  obtain ⟨compound, f, failed⟩ | ⟨w, yields, combined⟩ :=
    combined_cases op (fun m => m.world.heap.select (.object a) s) v m'
  · exact .inl ⟨compound, f, Run.bind_fault failed⟩
  · rw [Run.bind_done combined]
    obtain opened | ⟨b, i, same, rfl, looks, held⟩ := Run.openFor_cases (.object a) s m'
    · refine .inr (.inr ⟨w, yields, ?_⟩)
      rw [Run.bind_done opened]
      exact writeSlot_eq_done (selectSlot_of_access? at_)
    · cases same
      exact .inr (.inl ⟨i, rfl, looks, Run.bind_cut held⟩)

/-! ### Documents -/

namespace Heap

variable {h g : Heap}

/-- The value is the document, with the entries of each record written one after the other. -/
inductive Embodies (h : Heap) : Document → Value → Prop
  | null : Embodies h .null .null
  | bool (b : Bool) : Embodies h (.bool b) (.bool b)
  | number (x : Float) : Embodies h (.number x) (.number x)
  | text (s : String) : Embodies h (.text s) (.text s)
  | array {ds : List Document} {vs : List Value} {a : Address}
      (at_ : h.cells[a]? = some (.array vs.toArray)) (items : List.Forall₂ h.Embodies ds vs) :
      Embodies h (.list ds) (.array a)
  | object {ds : List (String × Document)} {es : List (String × Value)} {a : Address}
      {fields : Fields} (at_ : h.cells[a]? = some (.object fields))
      (keys : es.map Prod.fst = ds.map Prod.fst)
      (values : List.Forall₂ h.Embodies (ds.map Prod.snd) (es.map Prod.snd))
      (merged : Fields.Merged #[] es fields) : Embodies h (.record ds) (.object a)

mutual

theorem Embodies.mono (grown : h.Grown g) : ∀ (d : Document) {v : Value},
    h.Embodies d v → g.Embodies d v
  | _, _, .null => .null
  | _, _, .bool b => .bool b
  | _, _, .number x => .number x
  | _, _, .text s => .text s
  | .list ds, _, .array at_ items => .array (grown.getElem? at_) (embodiesAll_mono grown ds items)
  | .record ds, _, .object at_ keys values merged =>
    .object (grown.getElem? at_) keys (embodiesEntries_mono grown ds values) merged

theorem embodiesAll_mono (grown : h.Grown g) : ∀ (ds : List Document) {vs : List Value},
    List.Forall₂ h.Embodies ds vs → List.Forall₂ g.Embodies ds vs
  | [], _, .nil => .nil
  | d :: ds, _, .cons first others => .cons (first.mono grown d) (embodiesAll_mono grown ds others)

theorem embodiesEntries_mono (grown : h.Grown g) :
    ∀ (ds : List (String × Document)) {vs : List Value},
    List.Forall₂ h.Embodies (ds.map Prod.snd) vs → List.Forall₂ g.Embodies (ds.map Prod.snd) vs
  | [], _, .nil => .nil
  | (_, d) :: ds, _, .cons first others =>
    .cons (first.mono grown d) (embodiesEntries_mono grown ds others)

end

theorem grown_newObject (h : Heap) (es : List (String × Value)) :
    h.Grown ⟨h.cells.push (.object (Fields.insertAll #[] es))⟩ := by
  apply Grown.push
  rintro _ ⟨⟩
  exact Fields.nodup_keys_insertAll List.nodup_nil

mutual

/-- A document is put on the heap as a value that is this document. -/
theorem embodies_ofDocument (h : Heap) : ∀ d : Document,
    h.Grown (h.ofDocument d).2 ∧ (h.ofDocument d).2.Embodies d (h.ofDocument d).1
  | .null => ⟨.refl h, .null⟩
  | .bool b => ⟨.refl h, .bool b⟩
  | .number x => ⟨.refl h, .number x⟩
  | .text s => ⟨.refl h, .text s⟩
  | .list ds => by
    obtain ⟨grown, items⟩ := embodies_ofDocuments h ds
    simp only [ofDocument, newArray, add]
    generalize h.ofDocuments ds = put at grown items ⊢
    have last : put.2.Grown ⟨put.2.cells.push (.array put.1.toArray)⟩ := .push _ nofun
    exact ⟨grown.trans last, .array Array.getElem?_push_size (embodiesAll_mono last ds items)⟩
  | .record ds => by
    obtain ⟨grown, keys, values⟩ := embodies_ofEntries h ds
    simp only [ofDocument, newObject, add]
    generalize h.ofEntries ds = put at grown keys values ⊢
    have last := put.2.grown_newObject put.1
    exact ⟨grown.trans last, .object Array.getElem?_push_size keys
      (embodiesEntries_mono last ds values) (Fields.merged_insertAll _ _)⟩

theorem embodies_ofDocuments (h : Heap) : ∀ ds : List Document,
    h.Grown (h.ofDocuments ds).2 ∧
      List.Forall₂ (h.ofDocuments ds).2.Embodies ds (h.ofDocuments ds).1
  | [] => ⟨.refl h, .nil⟩
  | d :: ds => by
    obtain ⟨grown, first⟩ := embodies_ofDocument h d
    obtain ⟨grown', others⟩ := embodies_ofDocuments (h.ofDocument d).2 ds
    exact ⟨grown.trans grown', .cons (first.mono grown' d) others⟩

theorem embodies_ofEntries (h : Heap) : ∀ ds : List (String × Document),
    h.Grown (h.ofEntries ds).2 ∧ (h.ofEntries ds).1.map Prod.fst = ds.map Prod.fst ∧
      List.Forall₂ (h.ofEntries ds).2.Embodies (ds.map Prod.snd)
        ((h.ofEntries ds).1.map Prod.snd)
  | [] => ⟨.refl h, rfl, .nil⟩
  | (key, d) :: ds => by
    obtain ⟨grown, first⟩ := embodies_ofDocument h d
    obtain ⟨grown', keys, others⟩ := embodies_ofEntries (h.ofDocument d).2 ds
    exact ⟨grown.trans grown', congrArg (key :: ·) keys, .cons (first.mono grown' d) others⟩

end

/-! ### What is told of an object -/

/-- What the functions of the language tell of an object is told by its entries. -/
structure Described (h : Heap) (a : Address) (entries : List (String × Value)) : Prop where
  keys : ∀ clock, ∃ b g, Builtin.keys.call clock [.object a] h = (.ok (.array b), g) ∧
    g.cells[b]? = some (.array (entries.map fun e => Value.text e.1).toArray)
  values : ∀ clock, ∃ b g, Builtin.values.call clock [.object a] h = (.ok (.array b), g) ∧
    g.cells[b]? = some (.array (entries.map Prod.snd).toArray)
  len : ∀ clock, Builtin.len.call clock [.object a] h =
    (.ok (.number (Number.ofNat entries.length)), h)
  contains : ∀ clock needle, Builtin.contains.call clock [.object a, needle] h =
    (.ok (.bool (decide (h.display needle ∈ entries.map Prod.fst))), h)
  json : ∀ clock, Builtin.json.call clock [.object a] h =
    (.ok (.text (Document.record (entries.map fun e =>
      (e.1, h.documentWithin (maxRenderDepth - 1) [a] e.2))).toText), h)

theorem described (h : Heap) (a : Address) : h.Described a (h.fields a).toList where
  keys clock := by
    refine ⟨h.cells.size, _, rfl, ?_⟩
    rw [← Array.toList_map]
    exact Array.getElem?_push_size
  values clock := by
    refine ⟨h.cells.size, _, rfl, ?_⟩
    rw [← Array.toList_map]
    exact Array.getElem?_push_size
  len clock := rfl
  contains clock needle := by
    have same : ((h.fields a).get? (h.display needle)).isSome =
        decide (h.display needle ∈ (h.fields a).keys) := by
      rw [Bool.eq_iff_iff, Option.isSome_iff_exists, decide_eq_true_iff, Fields.exists_get?_iff]
    have told : Builtin.contains.call clock [.object a, needle] h =
        (.ok (.bool ((h.fields a).get? (h.display needle)).isSome), h) := rfl
    rw [told, same]
    rfl
  json clock := rfl

end Heap

/-- A loop over an object visits its keys in their order. -/
theorem exec_foreach_object {loc : Location} {items : Expr} (var : String) (body : List Stmt)
    (running : m.engine.stopping = false) (inTime : m.timeoutFault? = none)
    (evaluated : eval sv items (m.atStatement loc) = .done (.object a) m') :
    ∃ o, exec sv (.foreach loc var items body) m = o.placed loc ∧
      Visits sv body var ((m'.world.heap.fields a).toList.map fun e => .text e.1) m' o := by
  have executed : exec sv (.foreach loc var items body) m =
      ((Run.elementsOf (.object a) >>=
        Run.forRounds fun x => .inChild [(var, x)] (execAll sv body)) m').placed loc := by
    have begun : exec sv (.foreach loc var items body) m = ((eval sv items >>= fun v =>
        Run.elementsOf v >>= Run.forRounds fun x => .inChild [(var, x)] (execAll sv body))
          (m.atStatement loc)).placed loc := statement_eq _ running inTime
    rw [begun, Run.bind_done evaluated]
  refine ⟨_, executed, ?_⟩
  obtain ⟨elements, found, visits⟩ | ⟨none_, -⟩ :=
    visitsElements_forRounds sv body var (.object a) m'
  · cases found
    rwa [Array.toList_map] at visits
  · cases none_

/-! ### Runs -/

theorem Move.advances {names : Set String} (step : Move names m m') :
    m.world.heap.Advances m'.world.heap := by
  cases step with
  | host alike =>
      rw [alike.heap]
      exact .refl _
  | heap advances => exact advances
  | register event body room =>
      simp only [Machine.register]
      split
      · exact .refl _
      · exact .refl _
  | _ => exact .refl _

/-- Only moves change the heap. -/
theorem Stride.advances (stride : Stride m m') : m.world.heap.Advances m'.world.heap := by
  cases stride with
  | move step => exact step.advances
  | opens opened =>
      cases opened with
      | _ => exact .refl _
  | closes opened =>
      cases opened with
      | _ => exact .refl _
  | _ => exact .refl _

theorem lasting_advances (h : Heap) : Lasting fun m => h.Advances m.world.heap where
  stride := fun stride before => before.trans stride.advances
  cleanup := fun before => before

/-- What can happen on a heap: an engine evaluates, executes, or carries out a call of its host,
each as far as an allowance goes; the host puts something on the heap; or the heap stays as it is,
and anything else changes. -/
inductive Episode : Machine → Machine → Prop
  | evaluate (allowance : Nat) (e : Expr) (m : Machine) :
      Episode m (eval (servicesWithin allowance) e m).machine
  | execute (allowance : Nat) (body : List Stmt) (m : Machine) :
      Episode m (execAll (servicesWithin allowance) body m).machine
  | call (allowance : Nat) (call : EngineCall) (m : Machine) :
      Episode m (call.start allowance m).machine
  | object (entries : List (String × Value)) (m : Machine) :
      Episode m (m.withHeap (m.world.heap.newObject entries).2)
  | array (items : Array Value) (m : Machine) :
      Episode m (m.withHeap (m.world.heap.newArray items).2)
  | document (d : Document) (m : Machine) :
      Episode m (m.withHeap (m.world.heap.ofDocument d).2)
  | other {m m' : Machine} (same : m'.world.heap = m.world.heap) : Episode m m'

theorem Episode.advances (episode : Episode m m') : m.world.heap.Advances m'.world.heap := by
  have lasting := lasting_advances m.world.heap
  have steady := lasting.steady maxHandlerNesting
  cases episode with
  | evaluate allowance e =>
      have services := servicesWithin_follow (le_refl maxHandlerNesting) allowance
      have followed : Outcome.Follows _ ∅ m _ := eval_follows services e m
      exact steady.follows followed (.refl _)
  | execute allowance body =>
      have services := servicesWithin_follow (le_refl maxHandlerNesting) allowance
      exact steady.follows (execAll_follows services body m) (.refl _)
  | call allowance call => exact lasting.start allowance call (.refl _)
  | object entries => exact .newObject _ _
  | array items => exact .newArray _ _
  | document d => exact .ofDocument _ d
  | other same =>
      rw [same]
      exact .refl _

/-- A heap advances as long as anything happens on it. -/
theorem advances_of_episodes (episodes : ReflTransGen Episode m m') :
    m.world.heap.Advances m'.world.heap := by
  induction episodes with
  | refl => exact .refl _
  | tail _ episode advances => exact advances.trans episode.advances

theorem Heap.unique_empty : ({} : Heap).Unique := by
  intro a
  exact List.nodup_nil

/-! ### Order -/

/-- Objects are ordered lists of entries with distinct keys. Whatever happens, an object keeps its
keys in their order, and others come behind them. An object expression, a payload, a document and an
assignment write entries one after the other; an assignment under a key whose text looks into the
object writes nothing, and nothing comes after it. What is told of an object, and what a loop over
it visits, is told by its list of entries. -/
theorem object_entries_ordered :
    (∀ m m' : Machine, ReflTransGen Episode m m' →
      (m.world.heap = {} → ∀ (a : Address) (fields : Fields),
        m'.world.heap.cells[a]? = some (.object fields) → fields.keys.Nodup) ∧
      ∀ (a : Address) (fields : Fields), m.world.heap.cells[a]? = some (.object fields) →
        ∃ written fields', m'.world.heap.cells[a]? = some (.object fields') ∧
          fields.Merged written fields') ∧
    (∀ sv loc entries m es m', evalEntries sv entries m = .done es m' →
      es.map Prod.fst = entries.map Prod.fst ∧
      ∃ fields, Fields.Merged #[] es fields ∧
        eval sv (.object loc entries) m = .done (.object m'.world.heap.cells.size)
          (m'.withHeap ⟨m'.world.heap.cells.push (.object fields)⟩)) ∧
    (∀ (h : Heap) es, ∃ fields, Fields.Merged #[] es fields ∧
      h.newObject es = (.object h.cells.size, ⟨h.cells.push (.object fields)⟩)) ∧
    (∀ (h : Heap) d, ∃ v h', h.ofDocument d = (v, h') ∧ (∃ new, h'.cells = h.cells ++ new) ∧
      h'.Embodies d v ∧ ∀ clock s, Document.read s = .ok d →
        Builtin.parseJson.call clock [.text s] h = (.ok v, h')) ∧
    (∀ sv target m s m' (a : Address) (key : String) (fields : Fields) op v,
      Designates sv target m (.object a) s m' →
      m'.world.heap.access? (.object a) s = some (.field key) →
      m'.world.heap.cells[a]? = some (.object fields) →
      (op ≠ .set ∧ ∃ f, assign sv op v target m = .fault f m') ∨
      (∃ i, s = .index i ∧ m'.world.heap.looksInto a i = true ∧
        assign sv op v target m = .cut (.entangled a i) m') ∨
      ∃ w h' fields', op.Yields m'.world.heap (m'.world.heap.select (.object a) s) v w ∧
        assign sv op v target m = .done () (m'.withHeap h') ∧
        h'.cells[a]? = some (.object fields') ∧ fields.Merged [(key, w)] fields' ∧
        ∀ b, b ≠ a → h'.cells[b]? = m'.world.heap.cells[b]?) ∧
    ∀ (h : Heap) (a : Address) (fields : Fields), h.cells[a]? = some (.object fields) →
      h.Described a fields.toList ∧
      ∀ sv loc var items body m m', m'.world.heap = h → m.engine.stopping = false →
        m.timeoutFault? = none → eval sv items (m.atStatement loc) = .done (.object a) m' →
        ∃ o, exec sv (.foreach loc var items body) m = o.placed loc ∧
          Visits sv body var (fields.toList.map fun e => .text e.1) m' o := by
  refine ⟨?_, ?_, ?_, ?_, ?_, ?_⟩
  · intro m m' episodes
    have advances := advances_of_episodes episodes
    constructor
    · intro empty a fields at_
      have unique := advances.unique (empty ▸ Heap.unique_empty) a
      rwa [Heap.fields_of_cells at_] at unique
    · intro a fields at_
      obtain ⟨written, at'⟩ := advances.object at_
      exact ⟨written, _, at', fields.merged_insertAll written⟩
  · intro sv loc entries m es m' evaluated
    exact ⟨keys_evalEntries evaluated, _, Fields.merged_insertAll _ _, eval_object loc evaluated⟩
  · intro h es
    exact ⟨_, Fields.merged_insertAll _ _, rfl⟩
  · intro h d
    obtain ⟨grown, embodies⟩ := h.embodies_ofDocument d
    exact ⟨_, _, rfl, grown.keeps, embodies, fun _ _ => Builtin.call_parseJson_of_read⟩
  · intro sv target m s m' a key fields op v designated access at_
    obtain failed | held | ⟨w, yields, written⟩ := assign_behind_object designated access op v
    · exact .inl failed
    · exact .inr (.inl held)
    · refine .inr (.inr ⟨w, _, _, yields, written, Heap.cells_write_field at_ key w, ?_, ?_⟩)
      · exact fields.merged_insertAll [(key, w)]
      · exact fun b ne => Heap.cells_write_of_ne ne
  · intro h a fields at_
    have here := Heap.fields_of_cells at_
    constructor
    · rw [← here]
      exact h.described a
    · rintro sv loc var items body m m' rfl running inTime evaluated
      rw [← here]
      exact exec_foreach_object var body running inTime evaluated

/-- Entries of an object expression with one key twice. -/
def repeatedEntries : List (String × Expr) :=
  [("b", .lit .unknown (.bool true)), ("a", .lit .unknown .null),
    ("b", .lit .unknown (.bool false))]

theorem repeatedEntries_ordered :
    ∃ fields, eval (servicesWithin 0) (.object .unknown repeatedEntries) {} =
        .done (.object 0) (Machine.withHeap {} ⟨#[.object fields]⟩) ∧
      fields.keys = ["b", "a"] ∧ fields.get? "b" = some (.bool false) ∧ fields.keys.Nodup ∧
      Heap.Described ⟨#[.object fields]⟩ 0 fields.toList := by
  obtain ⟨runs, literals, -, -, -, told⟩ := object_entries_ordered
  have evaluated : evalEntries (servicesWithin 0) repeatedEntries {} =
      .done [("b", .bool true), ("a", .null), ("b", .bool false)] {} := rfl
  obtain ⟨-, fields, merged, made⟩ := literals _ .unknown _ _ _ _ evaluated
  refine ⟨fields, made, ?_, ?_, ?_, (told _ 0 fields rfl).1⟩
  · exact merged.keys.trans (by decide)
  · exact (merged.get? "b").trans (by decide)
  · apply (runs {} _ (.single (.evaluate 0 (.object .unknown repeatedEntries) {}))).1 rfl 0
    rw [made]
    rfl

end HostScript
