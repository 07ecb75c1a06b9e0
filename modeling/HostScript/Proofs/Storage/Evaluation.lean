import HostScript.Proofs.Storage.Renaming

/-!
# Expressions without calls

An expression without calls changes nothing but the heap, and to the heap it only adds collections.
On two machines that agree up to the addresses of collections, it has the same value up to
addresses, or the same fault.

## Implementation notes

The addresses of new collections depend on how many there are already, so the renaming between the
two heaps grows with every new array and object. `Outcome.Alike` therefore gives a renaming for the
end that agrees with the one at the beginning on the collections that were there.
-/

namespace HostScript

variable {α β : Type}

/-! ### Expressions without calls -/

mutual

/-- The expression calls no function. -/
def Expr.callFree : Expr → Bool
  | .lit _ _ => true
  | .var _ _ => true
  | .template _ _ => true
  | .group _ e => e.callFree
  | .unary _ _ e => e.callFree
  | .binary _ _ l r => l.callFree && r.callFree
  | .array _ items => Expr.callFreeAll items
  | .object _ entries => Expr.callFreeEntries entries
  | .member _ base _ => base.callFree
  | .index _ base position => base.callFree && position.callFree
  | .call _ _ _ => false

/-- None of the expressions calls a function. -/
def Expr.callFreeAll : List Expr → Bool
  | [] => true
  | e :: rest => e.callFree && Expr.callFreeAll rest

/-- None of the entries of an object calls a function. -/
def Expr.callFreeEntries : List (String × Expr) → Bool
  | [] => true
  | (_, e) :: rest => e.callFree && Expr.callFreeEntries rest

end

/-- The target calls no function. -/
def Target.callFree : Target → Bool
  | .var _ => true
  | .member base _ => base.callFree
  | .index base position => base.callFree && position.callFree

/-! ### Machines up to addresses -/

namespace Machine

variable {f f' : Address → Address} {m m' m'' n : Machine}

/-- The value of a name. -/
def lookup (m : Machine) (name : String) : Option Value :=
  m.engine.scopes.lookup m.engine.scope name

/-- The machines agree up to the addresses of collections, as far as expressions look. -/
structure Renames (f : Address → Address) (m n : Machine) : Prop where
  heap : m.world.heap.Renames f n.world.heap
  within : ∀ name v, m.lookup name = some v → m.world.heap.Within v
  names : ∀ name, n.lookup name = (m.lookup name).map (Value.rename f)

/-- The machine has got collections, and nothing else has changed. -/
def Grows (m m' : Machine) : Prop := ∃ new, m' = m.withHeap ⟨m.world.heap.cells ++ new⟩

theorem Grows.refl (m : Machine) : m.Grows m := ⟨#[], by simp [withHeap]⟩

theorem Grows.trans (first : m.Grows m') (second : m'.Grows m'') : m.Grows m'' := by
  obtain ⟨new, rfl⟩ := first
  obtain ⟨more, rfl⟩ := second
  exact ⟨new ++ more, by simp [withHeap, Array.append_assoc]⟩

theorem Grows.engine (grows : m.Grows m') : m'.engine = m.engine := by
  obtain ⟨new, rfl⟩ := grows
  rfl

theorem Grows.cells (grows : m.Grows m') {a : Address} (below : a < m.world.heap.cells.size) :
    m'.world.heap.cells[a]? = m.world.heap.cells[a]? := by
  obtain ⟨new, rfl⟩ := grows
  exact Array.getElem?_append_left below

theorem Grows.size_le (grows : m.Grows m') :
    m.world.heap.cells.size ≤ m'.world.heap.cells.size := by
  obtain ⟨new, rfl⟩ := grows
  simp [withHeap]

theorem grows_push (m : Machine) (c : Collection) :
    m.Grows (m.withHeap ⟨m.world.heap.cells.push c⟩) := ⟨#[c], by simp⟩

theorem Renames.congr (related : m.Renames f n) (same : m.world.heap.AgreeOn f f') :
    m.Renames f' n := by
  refine ⟨related.heap.congr same, related.within, fun name => ?_⟩
  rw [related.names name]
  cases found : m.lookup name with
  | none => rfl
  | some v =>
      apply congrArg some
      apply Value.rename_congr
      intro a at_
      exact (same a (related.within name v found a at_)).symm

end Machine

/-! ### Outcomes up to addresses -/

/-- Two values are the same up to a renaming of the collections of a heap. -/
def Carries (f : Address → Address) (h : Heap) (v w : Value) : Prop := w = v.rename f ∧ h.Within v

theorem Carries.mono {f f' : Address → Address} {h h' : Heap} {v w : Value}
    (carried : Carries f h v w) (same : h.AgreeOn f f') (le : h.cells.size ≤ h'.cells.size) :
    Carries f' h' v w := by
  refine ⟨?_, carried.2.mono le⟩
  rw [carried.1]
  apply Value.rename_congr
  intro a at_
  exact (same a (carried.2 a at_)).symm

theorem carries_scalar {v : Value} (scalar : v.address? = none) (f : Address → Address) (h : Heap) :
    Carries f h v v :=
  ⟨(Value.rename_of_scalar scalar).symm, Heap.within_of_scalar scalar⟩

/-- What relates the results of two computations, given a renaming of the collections of a heap. -/
abbrev Correspondence (α : Type) := (Address → Address) → Heap → α → α → Prop

/-- Two computations from machines that a renaming relates end alike: with related results, or with
the same fault. Both have only added collections. -/
inductive Outcome.Alike (R : Correspondence α) (f : Address → Address) (m n : Machine) :
    Outcome α → Outcome α → Prop
  | done {f' : Address → Address} {a b : α} {m' n' : Machine}
      (same : m.world.heap.AgreeOn f f') (related : m'.Renames f' n')
      (result : R f' m'.world.heap a b) (grows : m.Grows m') (grows' : n.Grows n') :
      Alike R f m n (.done a m') (.done b n')
  | fault {e : Fault} {m' n' : Machine} (grows : m.Grows m') (grows' : n.Grows n') :
      Alike R f m n (.fault e m') (.fault e n')

namespace Outcome.Alike

variable {R : Correspondence α} {S : Correspondence β} {f : Address → Address} {m n : Machine}

theorem result {a b : α} (related : m.Renames f n) (result : R f m.world.heap a b) :
    Alike R f m n (Run.result a m) (Run.result b n) :=
  .done (fun _ _ => rfl) related result (.refl m) (.refl n)

/-- Computations that go on alike from machines that have grown are alike altogether. -/
theorem after {f' : Address → Address} {m' n' : Machine} {o o' : Outcome β}
    (same : m.world.heap.AgreeOn f f') (grows : m.Grows m') (grows' : n.Grows n')
    (rest : Alike S f' m' n' o o') : Alike S f m n o o' := by
  cases rest with
  | fault more more' => exact .fault (grows.trans more) (grows'.trans more')
  | done same' related result more more' =>
      refine .done (fun x below => ?_) related result (grows.trans more) (grows'.trans more')
      rw [same' x (Nat.lt_of_lt_of_le below grows.size_le), same x below]

theorem bind {x y : Run α} {k k' : α → Run β} (first : Alike R f m n (x m) (y n))
    (rest : ∀ (f' : Address → Address) (a b : α) (m' n' : Machine),
      m.world.heap.AgreeOn f f' → m.Grows m' → m'.Renames f' n' →
      R f' m'.world.heap a b → Alike S f' m' n' (k a m') (k' b n')) :
    Alike S f m n ((x >>= k) m) ((y >>= k') n) := by
  generalize hx : x m = o at first
  generalize hy : y n = o' at first
  cases first with
  | fault grows grows' =>
      rw [Run.bind_fault hx, Run.bind_fault hy]
      exact .fault grows grows'
  | done same related result grows grows' =>
      rw [Run.bind_done hx, Run.bind_done hy]
      exact (rest _ _ _ _ _ same grows related result).after same grows grows'

theorem located {x y : Run α} (loc : Location) (inner : Alike R f m n (x m) (y n)) :
    Alike R f m n (Run.located loc x m) (Run.located loc y n) := by
  simp only [Run.located]
  generalize x m = o at inner ⊢
  generalize y n = o' at inner ⊢
  cases inner with
  | fault grows grows' => exact .fault grows grows'
  | done same related result grows grows' => exact .done same related result grows grows'

/-- Results that depend on the machine without changing it. -/
theorem check {p q : Machine → Except Fault α} (related : m.Renames f n)
    (faults : ∀ e, p m = .error e → q n = .error e)
    (results : ∀ a, p m = .ok a → ∃ b, q n = .ok b ∧ R f m.world.heap a b) :
    Alike R f m n (Run.check p m) (Run.check q n) := by
  cases hp : p m with
  | error e =>
      simp only [Run.check, hp, faults e hp]
      exact .fault (.refl m) (.refl n)
  | ok a =>
      obtain ⟨b, hq, result⟩ := results a hp
      simp only [Run.check, hp, hq]
      exact .done (fun _ _ => rfl) related result (.refl m) (.refl n)

/-- A new collection on both heaps. -/
theorem push {c : Collection} {v : Address → Value} (related : m.Renames f n)
    (within : ∀ w ∈ c.values, m.world.heap.Within w) (at_ : ∀ a, (v a).address? = some a)
    (renamed : ∀ g a, (v a).rename g = v (g a)) :
    Alike Carries f m n
      (.done (v m.world.heap.cells.size) (m.withHeap ⟨m.world.heap.cells.push c⟩))
      (.done (v n.world.heap.cells.size)
        (n.withHeap ⟨n.world.heap.cells.push (c.rename f)⟩)) := by
  have same : m.world.heap.AgreeOn f
      (Function.update f m.world.heap.cells.size n.world.heap.cells.size) :=
    fun x below => Function.update_of_ne (Nat.ne_of_lt below) _ _
  have old := related.congr same
  refine .done same ⟨related.heap.push within, ?_, old.names⟩ ⟨?_, ?_⟩
    (m.grows_push c) (n.grows_push _)
  · intro name w found
    exact (related.within name w found).mono (m.grows_push c).size_le
  · rw [renamed, Function.update_self]
  · intro a found
    rw [at_] at found
    cases found
    simp [Machine.withHeap]

end Outcome.Alike

/-! ### Evaluation up to addresses -/

section Evaluation

variable {f : Address → Address} {m n : Machine}

theorem Machine.Renames.templateText (related : m.Renames f n) (parts : List TemplatePart) :
    n.templateText parts = m.templateText parts := by
  induction parts with
  | nil => rfl
  | cons part rest ih =>
      cases part with
      | text s => simp only [Machine.templateText, ih]
      | var name =>
          have value := related.names name
          simp only [Machine.lookup] at value
          simp only [Machine.templateText, ih, value]
          cases found : m.engine.scopes.lookup m.engine.scope name with
          | none => rfl
          | some v =>
              simp only [Option.map_some]
              rw [related.heap.display (related.within name v found)]

theorem alike_readName (related : m.Renames f n) (name : String) :
    Outcome.Alike Carries f m n (Run.readName name m) (Run.readName name n) := by
  have value := related.names name
  simp only [Machine.lookup] at value
  apply Outcome.Alike.check related
  · intro e missing
    simp only [Scopes.get] at missing ⊢
    rw [value]
    cases found : m.engine.scopes.lookup m.engine.scope name with
    | none =>
        rw [found] at missing
        exact missing
    | some v =>
        rw [found] at missing
        cases missing
  · intro v bound
    simp only [Scopes.get] at bound ⊢
    rw [value]
    cases found : m.engine.scopes.lookup m.engine.scope name with
    | none =>
        rw [found] at bound
        cases bound
    | some w =>
        rw [found] at bound
        cases bound
        exact ⟨_, rfl, rfl, related.within name v found⟩

theorem alike_binary {v v' w w' : Value} (related : m.Renames f n)
    (left : Carries f m.world.heap v v') (right : Carries f m.world.heap w w') (op : BinaryOp) :
    Outcome.Alike Carries f m n (Run.check (fun m => m.world.heap.binary op v w) m)
      (Run.check (fun m => m.world.heap.binary op v' w') n) := by
  obtain ⟨rfl, hv⟩ := left
  obtain ⟨rfl, hw⟩ := right
  have same := related.heap.binary hv hw op
  apply Outcome.Alike.check related
  · intro e failed
    rw [same, failed]
  · intro r result
    exact ⟨r, same.trans result, carries_scalar (Heap.scalar_of_binary result) _ _⟩

theorem alike_member {c c' : Value} (related : m.Renames f n)
    (base : Carries f m.world.heap c c') (key : String) :
    Outcome.Alike Carries f m n (Run.check (fun m => m.world.heap.member c key) m)
      (Run.check (fun m => m.world.heap.member c' key) n) := by
  obtain ⟨rfl, hc⟩ := base
  have same := related.heap.member hc key
  apply Outcome.Alike.check related
  · intro e failed
    rw [same, failed]
    rfl
  · intro v found
    refine ⟨v.rename f, ?_, rfl, related.heap.closed.within_member found⟩
    rw [same, found]
    rfl

theorem indexable_rename (f : Address → Address) (c : Value) :
    indexable (c.rename f) = indexable c := by
  cases c <;> rfl

theorem alike_index {c c' i i' : Value} (related : m.Renames f n)
    (base : Carries f m.world.heap c c') (position : Carries f m.world.heap i i') :
    Outcome.Alike Carries f m n
      ((do Run.ofExcept (indexable c); Run.view fun m => m.world.heap.index c i : Run Value) m)
      ((do Run.ofExcept (indexable c'); Run.view fun m => m.world.heap.index c' i' : Run Value)
        n) := by
  obtain ⟨rfl, hc⟩ := base
  obtain ⟨rfl, hi⟩ := position
  rw [indexable_rename]
  cases indexable c with
  | error e => exact .fault (.refl m) (.refl n)
  | ok u =>
      refine .done (fun _ _ => rfl) related ⟨?_, ?_⟩ (.refl m) (.refl n)
      · exact related.heap.index hc hi
      · exact related.heap.closed.within_index c i

/-- Lists of values that are the same up to a renaming. -/
def CarriesAll (f : Address → Address) (h : Heap) (vs ws : List Value) : Prop :=
  ws = vs.map (Value.rename f) ∧ ∀ v ∈ vs, h.Within v

/-- Entries of an object that are the same up to a renaming. -/
def CarriesEntries (f : Address → Address) (h : Heap) (vs ws : List (String × Value)) : Prop :=
  ws = vs.map (fun e => (e.1, e.2.rename f)) ∧ ∀ e ∈ vs, h.Within e.2

theorem alike_newArray {vs ws : List Value} (related : m.Renames f n)
    (items : CarriesAll f m.world.heap vs ws) :
    Outcome.Alike Carries f m n (Run.newArray vs m) (Run.newArray ws n) := by
  obtain ⟨rfl, within⟩ := items
  have array : (Collection.array vs.toArray).rename f =
      .array (vs.map (Value.rename f)).toArray := by
    simp [Collection.rename]
  have pushed := Outcome.Alike.push (c := .array vs.toArray) (v := Value.array) related within
    (fun _ => rfl) fun _ _ => rfl
  rw [array] at pushed
  exact pushed

theorem alike_newObject {vs ws : List (String × Value)} (related : m.Renames f n)
    (entries : CarriesEntries f m.world.heap vs ws) :
    Outcome.Alike Carries f m n (Run.newObject vs m) (Run.newObject ws n) := by
  obtain ⟨rfl, within⟩ := entries
  have object : (Collection.object (Fields.insertAll #[] vs)).rename f =
      .object (Fields.insertAll #[] (vs.map fun e => (e.1, e.2.rename f))) := by
    apply congrArg Collection.object
    simpa using (Fields.insertAll_map f vs #[]).symm
  have inside : ∀ w ∈ (Collection.object (Fields.insertAll #[] vs)).values,
      m.world.heap.Within w := by
    intro w mem
    simp only [Collection.values, List.mem_map] at mem
    obtain ⟨e, mem, rfl⟩ := mem
    obtain none_ | mem := Fields.mem_of_mem_insertAll (Array.mem_toList_iff.mp mem)
    · simp at none_
    · exact within e mem
  have pushed := Outcome.Alike.push (v := Value.object) related inside
    (fun _ => rfl) fun _ _ => rfl
  rw [object] at pushed
  exact pushed

mutual

/-- Machines that agree up to addresses evaluate an expression without calls alike. -/
theorem eval_alike (sv : Services) (e : Expr) (free : e.callFree = true) {f : Address → Address}
    {m n : Machine} (related : m.Renames f n) :
    Outcome.Alike Carries f m n (eval sv e m) (eval sv e n) := by
  match e with
  | .lit _ v =>
      apply Outcome.Alike.result related
      cases v <;> exact carries_scalar rfl _ _
  | .var loc name => exact (alike_readName related name).located loc
  | .group loc e => exact (eval_alike sv e free related).located loc
  | .template _ parts =>
      have text : Value.text (n.templateText parts) = .text (m.templateText parts) :=
        congrArg Value.text (related.templateText parts)
      refine .done (fun _ _ => rfl) related ?_ (.refl m) (.refl n)
      beta_reduce
      rw [text]
      exact carries_scalar rfl _ _
  | .unary loc op e =>
      apply Outcome.Alike.located
      apply (eval_alike sv e free related).bind
      intro f₁ v v' m₁ n₁ _ _ related₁ operand
      apply Outcome.Alike.result related₁
      rw [operand.1, Heap.unary_rename]
      exact carries_scalar (Heap.scalar_unary op v) _ _
  | .binary loc op l r =>
      have both := Bool.and_eq_true_iff.mp free
      have left := eval_alike sv l both.1 related
      cases op with
      | both =>
          apply Outcome.Alike.located
          apply left.bind
          intro f₁ v v' m₁ n₁ _ _ related₁ operand
          rw [operand.1, Value.isTruthy_rename, ← operand.1]
          split
          · exact eval_alike sv r both.2 related₁
          · exact .result related₁ operand
      | either =>
          apply Outcome.Alike.located
          apply left.bind
          intro f₁ v v' m₁ n₁ _ _ related₁ operand
          rw [operand.1, Value.isTruthy_rename, ← operand.1]
          split
          · exact .result related₁ operand
          · exact eval_alike sv r both.2 related₁
      | _ =>
          apply Outcome.Alike.located
          apply left.bind
          intro f₁ v v' m₁ n₁ _ _ related₁ operand
          apply (eval_alike sv r both.2 related₁).bind
          intro f₂ w w' m₂ n₂ same grows related₂ operand'
          exact alike_binary related₂ (operand.mono same grows.size_le) operand' _
  | .array loc items =>
      apply Outcome.Alike.located
      apply (evalAll_alike sv items free related).bind
      intro f₁ vs vs' m₁ n₁ _ _ related₁ values
      exact alike_newArray related₁ values
  | .object loc entries =>
      apply Outcome.Alike.located
      apply (evalEntries_alike sv entries free related).bind
      intro f₁ vs vs' m₁ n₁ _ _ related₁ values
      exact alike_newObject related₁ values
  | .member loc base key =>
      apply Outcome.Alike.located
      apply (eval_alike sv base free related).bind
      intro f₁ c c' m₁ n₁ _ _ related₁ value
      exact alike_member related₁ value key
  | .index loc base position =>
      have both := Bool.and_eq_true_iff.mp free
      apply Outcome.Alike.located
      apply (eval_alike sv base both.1 related).bind
      intro f₁ c c' m₁ n₁ _ _ related₁ value
      apply (eval_alike sv position both.2 related₁).bind
      intro f₂ i i' m₂ n₂ same grows related₂ value'
      exact alike_index related₂ (value.mono same grows.size_le) value'

theorem evalAll_alike (sv : Services) (es : List Expr) (free : Expr.callFreeAll es = true)
    {f : Address → Address} {m n : Machine} (related : m.Renames f n) :
    Outcome.Alike CarriesAll f m n (evalAll sv es m) (evalAll sv es n) := by
  match es with
  | [] => exact Outcome.Alike.result related ⟨rfl, List.forall_mem_nil _⟩
  | e :: rest =>
      have both := Bool.and_eq_true_iff.mp free
      apply (eval_alike sv e both.1 related).bind
      intro f₁ v v' m₁ n₁ _ _ related₁ first
      apply (evalAll_alike sv rest both.2 related₁).bind
      intro f₂ vs vs' m₂ n₂ same grows related₂ others
      apply Outcome.Alike.result related₂
      obtain ⟨rfl, within⟩ := first.mono same grows.size_le
      obtain ⟨rfl, withins⟩ := others
      exact ⟨rfl, List.forall_mem_cons.mpr ⟨within, withins⟩⟩

theorem evalEntries_alike (sv : Services) (es : List (String × Expr))
    (free : Expr.callFreeEntries es = true) {f : Address → Address} {m n : Machine}
    (related : m.Renames f n) :
    Outcome.Alike CarriesEntries f m n (evalEntries sv es m) (evalEntries sv es n) := by
  match es with
  | [] => exact Outcome.Alike.result related ⟨rfl, List.forall_mem_nil _⟩
  | (key, e) :: rest =>
      have both := Bool.and_eq_true_iff.mp free
      apply (eval_alike sv e both.1 related).bind
      intro f₁ v v' m₁ n₁ _ _ related₁ first
      apply (evalEntries_alike sv rest both.2 related₁).bind
      intro f₂ vs vs' m₂ n₂ same grows related₂ others
      apply Outcome.Alike.result related₂
      obtain ⟨rfl, within⟩ := first.mono same grows.size_le
      obtain ⟨rfl, withins⟩ := others
      exact ⟨rfl, List.forall_mem_cons.mpr ⟨within, withins⟩⟩

end

end Evaluation

end HostScript
