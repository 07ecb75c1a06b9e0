import HostScript.Proofs.Numbers
import HostScript.Proofs.Unfolding
import HostScript.Value.Equality
import Mathlib.Data.List.Forall2

/-!
# Structural equality is bisimilarity

Two values are structurally equal when some bisimulation relates them: a relation in which two
related values are the same collection, equal constants, arrays of one length whose items are
related in turn, or objects with the same keys whose values are related key by key. Neither sharing
nor cycles matter for this, and on a heap without not-a-number only what can be seen of the two
values by looking into them does.

## Implementation notes

The comparison takes a pair for equal while it is comparing it, and forgets the pair afterwards. A
run that ends well on a path therefore gives a relation that is closed except at the pairs of the
path, and `similar_of_agree` takes the last pair off the path again: where the pair itself agrees up
to that relation, nothing has to be assumed of it. In the other direction a bisimulation is followed
until the pair is on the path already.
-/

namespace HostScript

theorem Value.strictEq_comm (v w : Value) : v.strictEq w = w.strictEq v := by
  cases v <;> cases w <;> simp only [Value.strictEq, BEq.comm]

theorem Value.strictEq_trans {u v w : Value} (first : u.strictEq v = true)
    (second : v.strictEq w = true) : u.strictEq w = true := by
  cases u <;> cases v <;> cases w <;> simp_all [Value.strictEq]
  exact BEq.trans first second

namespace Heap

variable {h : Heap} {R S : Value → Value → Prop} {path : List (Value × Value)} {u v w : Value}
  {a b : Address}

/-- Two values agree up to a relation: they are the same collection, or arrays of the same length
whose items are related in turn, or objects with the same keys whose values are related key by key,
or constants that are equal. -/
def Agree (h : Heap) (R : Value → Value → Prop) : Value → Value → Prop
  | .array a, .array b => a = b ∨ List.Forall₂ R (h.items a).toList (h.items b).toList
  | .object a, .object b => a = b ∨
      ((∀ key, key ∈ (h.fields a).keys ↔ key ∈ (h.fields b).keys) ∧
        ∀ key v w, (h.fields a).get? key = some v → (h.fields b).get? key = some w → R v w)
  | v, w => v.strictEq w = true

/-- The values are not two arrays and not two objects. -/
structure Flat (v w : Value) : Prop where
  arrays : ∀ a b, v = .array a → w ≠ .array b
  objects : ∀ a b, v = .object a → w ≠ .object b

/-- Related values agree up to the relation. -/
def Bisimulation (h : Heap) (R : Value → Value → Prop) : Prop := ∀ v w, R v w → h.Agree R v w

/-- Some bisimulation relates the values. -/
def Bisimilar (h : Heap) (v w : Value) : Prop := ∃ R, h.Bisimulation R ∧ R v w

theorem pair_cases (v w : Value) : (∃ a b, v = .array a ∧ w = .array b) ∨
    (∃ a b, v = .object a ∧ w = .object b) ∨ Flat v w := by
  cases v with
  | array a =>
      cases w with
      | array b => exact .inl ⟨a, b, rfl, rfl⟩
      | _ => exact .inr (.inr ⟨nofun, nofun⟩)
  | object a =>
      cases w with
      | object b => exact .inr (.inl ⟨a, b, rfl, rfl⟩)
      | _ => exact .inr (.inr ⟨nofun, nofun⟩)
  | _ => exact .inr (.inr ⟨nofun, nofun⟩)

theorem agree_of_flat (flat : Flat v w) : h.Agree R v w ↔ v.strictEq w = true := by
  unfold Agree
  split
  · exact absurd rfl (flat.arrays _ _ rfl)
  · exact absurd rfl (flat.objects _ _ rfl)
  · exact Iff.rfl

theorem agree_array_iff : h.Agree R (.array a) (.array b) ↔
    a = b ∨ ((h.items a).size = (h.items b).size ∧
      ∀ p ∈ (h.items a).toList.zip (h.items b).toList, R p.1 p.2) := by
  simp [Agree, List.forall₂_iff_zip]

/-- Where keys are distinct, objects with as many fields have the same keys if the keys of one are
found in the other. -/
theorem agree_object_iff (unique : h.Unique) : h.Agree R (.object a) (.object b) ↔
    a = b ∨ ((h.fields a).size = (h.fields b).size ∧
      ∀ e ∈ h.fields a, ∃ w, (h.fields b).get? e.1 = some w ∧ R e.2 w) := by
  have length (a : Address) : (h.fields a).keys.length = (h.fields a).size := by
    simp [Fields.keys]
  refine or_congr Iff.rfl ⟨?_, ?_⟩
  · rintro ⟨keys, values⟩
    have perm := (List.perm_ext_iff_of_nodup (unique a) (unique b)).mpr keys
    refine ⟨by rw [← length, ← length, perm.length_eq], fun e mem => ?_⟩
    have key := Fields.mem_keys_iff.mpr ⟨e.2, mem⟩
    obtain ⟨w, found⟩ := Fields.exists_get?_iff.mpr ((keys e.1).mp key)
    exact ⟨w, found, values e.1 e.2 w (Fields.get?_of_mem (unique a) mem) found⟩
  · rintro ⟨size, values⟩
    have sub : (h.fields a).keys ⊆ (h.fields b).keys := by
      intro key mem
      obtain ⟨v, mem⟩ := Fields.mem_keys_iff.mp mem
      obtain ⟨w, found, -⟩ := values _ mem
      exact Fields.exists_get?_iff.mp ⟨w, found⟩
    have perm : (h.fields a).keys.Perm (h.fields b).keys :=
      (List.subperm_of_subset (unique a) sub).perm_of_length_le (by rw [length, length, size])
    refine ⟨fun key => perm.mem_iff, fun key v w hv hw => ?_⟩
    obtain ⟨w', found, related⟩ := values _ (Fields.mem_of_get? hv)
    rw [hw] at found
    exact Option.some.inj found ▸ related

/-- Only a pair of collections of the heap holds anything that has to be related. -/
theorem Agree.mono_of_mem_pairs (agree : h.Agree R v w)
    (sub : (v, w) ∈ h.pairs → ∀ x y, R x y → S x y) : h.Agree S v w := by
  obtain ⟨a, b, rfl, rfl⟩ | ⟨a, b, rfl, rfl⟩ | flat := pair_cases v w
  · rw [agree_array_iff] at agree ⊢
    refine agree.imp_right fun ⟨size, items⟩ => ⟨size, fun p mem => ?_⟩
    have ends := List.of_mem_zip mem
    exact sub (arrays_mem_pairs (lt_size_of_mem_items (Array.mem_toList_iff.mp ends.1))
      (lt_size_of_mem_items (Array.mem_toList_iff.mp ends.2))) _ _ (items p mem)
  · refine agree.imp_right fun ⟨keys, values⟩ => ⟨keys, fun key x y hx hy => ?_⟩
    exact sub (objects_mem_pairs (lt_size_of_get? hx) (lt_size_of_get? hy)) _ _
      (values key x y hx hy)
  · exact (agree_of_flat flat).mpr ((agree_of_flat flat).mp agree)

theorem Agree.mono (agree : h.Agree R v w) (sub : ∀ x y, R x y → S x y) : h.Agree S v w :=
  agree.mono_of_mem_pairs fun _ => sub

theorem Agree.symm (agree : h.Agree R v w) : h.Agree (fun x y => R y x) w v := by
  obtain ⟨a, b, rfl, rfl⟩ | ⟨a, b, rfl, rfl⟩ | flat := pair_cases v w
  · exact agree.imp Eq.symm List.Forall₂.flip
  · exact agree.imp Eq.symm fun ⟨keys, values⟩ =>
      ⟨fun key => (keys key).symm, fun key x y hx hy => values key y x hy hx⟩
  · have flat' : Flat w v := ⟨fun a b hw hv => flat.arrays b a hv hw,
      fun a b hw hv => flat.objects b a hv hw⟩
    rw [agree_of_flat flat', Value.strictEq_comm]
    exact (agree_of_flat flat).mp agree

theorem forall₂_trans {α β γ : Type} {R : α → β → Prop} {S : β → γ → Prop} {T : α → γ → Prop}
    {xs : List α} {ys : List β} {zs : List γ} (step : ∀ x y z, R x y → S y z → T x z)
    (first : List.Forall₂ R xs ys) (second : List.Forall₂ S ys zs) : List.Forall₂ T xs zs := by
  induction first generalizing zs with
  | nil => cases second; exact .nil
  | cons hxy _ ih =>
      cases second with
      | cons hyz rest => exact .cons (step _ _ _ hxy hyz) (ih rest)

/-- A value in between is passed by, unless one side is the same collection. -/
theorem Agree.trans (first : h.Agree R u v) (second : h.Agree S v w) :
    h.Agree (fun x z => R x z ∨ S x z ∨ ∃ y, R x y ∧ S y z) u w := by
  have left (agree : h.Agree R u w) := agree.mono
    (S := fun x z => R x z ∨ S x z ∨ ∃ y, R x y ∧ S y z) fun _ _ => .inl
  have right (agree : h.Agree S u w) := agree.mono
    (S := fun x z => R x z ∨ S x z ∨ ∃ y, R x y ∧ S y z) fun _ _ related => .inr (.inl related)
  obtain ⟨a, c, rfl, rfl⟩ | ⟨a, c, rfl, rfl⟩ | flat := pair_cases u w
  · cases v with
    | array b =>
        obtain rfl | items := first
        · exact right second
        obtain rfl | items' := second
        · exact left (.inr items)
        · exact .inr (forall₂_trans (fun x y z hxy hyz => .inr (.inr ⟨y, hxy, hyz⟩)) items items')
    | _ => cases first
  · cases v with
    | object b =>
        obtain rfl | ⟨keys, values⟩ := first
        · exact right second
        obtain rfl | ⟨keys', values'⟩ := second
        · exact left (.inr ⟨keys, values⟩)
        refine .inr ⟨fun key => (keys key).trans (keys' key), fun key x z hx hz => ?_⟩
        obtain ⟨y, hy⟩ := Fields.exists_get?_iff.mpr
          ((keys key).mp (Fields.exists_get?_iff.mp ⟨x, hx⟩))
        exact .inr (.inr ⟨y, values key x y hx hy, values' key y z hy hz⟩)
    | _ => cases first
  · have middle : Flat u v ∧ Flat v w := by
      cases v with
      | array b =>
          cases u with
          | array a =>
              cases w with
              | array c => exact absurd rfl (flat.arrays _ _ rfl)
              | _ => cases second
          | _ => cases first
      | object b =>
          cases u with
          | object a =>
              cases w with
              | object c => exact absurd rfl (flat.objects _ _ rfl)
              | _ => cases second
          | _ => cases first
      | _ => exact ⟨⟨nofun, nofun⟩, ⟨nofun, nofun⟩⟩
    rw [agree_of_flat flat]
    exact Value.strictEq_trans ((agree_of_flat middle.1).mp first)
      ((agree_of_flat middle.2).mp second)

/-! ### Bisimilar values -/

/-- Bisimilarity is the largest bisimulation. -/
theorem bisimulation_bisimilar (h : Heap) : h.Bisimulation h.Bisimilar := by
  rintro v w ⟨R, bisimulation, related⟩
  exact (bisimulation v w related).mono fun x y hxy => ⟨R, bisimulation, hxy⟩

theorem Bisimilar.symm (similar : h.Bisimilar v w) : h.Bisimilar w v := by
  obtain ⟨R, bisimulation, related⟩ := similar
  exact ⟨fun x y => R y x, fun x y hyx => (bisimulation y x hyx).symm, related⟩

theorem Bisimilar.trans (first : h.Bisimilar u v) (second : h.Bisimilar v w) :
    h.Bisimilar u w := by
  refine ⟨fun x z => h.Bisimilar x z ∨ ∃ y, h.Bisimilar x y ∧ h.Bisimilar y z, ?_,
    .inr ⟨v, first, second⟩⟩
  rintro x z (direct | ⟨y, hxy, hyz⟩)
  · exact (bisimulation_bisimilar h x z direct).mono fun _ _ => .inl
  · refine ((bisimulation_bisimilar h x y hxy).trans (bisimulation_bisimilar h y z hyz)).mono ?_
    rintro x z (left | right | between)
    · exact .inl left
    · exact .inl right
    · exact .inr between

/-! ### Comparing values -/

/-- Every comparison on a path leads to one on a longer path, as long as it is of two collections of
the heap that are not on the path yet. -/
theorem path_induction {P : List (Value × Value) → Value → Value → Prop}
    (step : ∀ path v w,
      ((v, w) ∉ path → (v, w) ∈ h.pairs → ∀ x y, P ((v, w) :: path) x y) → P path v w)
    (path : List (Value × Value)) (v w : Value) : P path v w := by
  induction left : h.pairsLeft path using Nat.strong_induction_on generalizing path v w with
  | _ n ih =>
      refine step path v w fun fresh mem x y => ?_
      exact ih _ (left ▸ pairsLeft_cons_lt fresh mem) _ x y rfl

/-- Two values that are found equal are being compared further out, or they agree up to what is
found equal while they are being compared. -/
theorem agree_of_equalWithin (unique : h.Unique) (equal : h.equalWithin path v w = true) :
    (v, w) ∈ path ∨ h.Agree (fun x y => h.equalWithin ((v, w) :: path) x y = true) v w := by
  obtain ⟨a, b, rfl, rfl⟩ | ⟨a, b, rfl, rfl⟩ | flat := pair_cases v w
  · rw [agree_array_iff, or_left_comm]
    exact equalWithin_array.mp equal
  · rw [agree_object_iff unique, or_left_comm]
    exact equalWithin_object.mp equal
  · rw [equalWithin_eq_strictEq flat.arrays flat.objects] at equal
    exact .inr ((agree_of_flat flat).mpr equal)

theorem equalWithin_of_agree (unique : h.Unique) (agree : h.Agree R v w)
    (sub : (v, w) ∉ path → (v, w) ∈ h.pairs → ∀ x y, R x y →
      h.equalWithin ((v, w) :: path) x y = true) : h.equalWithin path v w = true := by
  by_cases seen : (v, w) ∈ path
  · obtain ⟨a, b, rfl, rfl⟩ | ⟨a, b, rfl, rfl⟩ | flat := pair_cases v w
    · exact equalWithin_array.mpr (.inr (.inl seen))
    · exact equalWithin_object.mpr (.inr (.inl seen))
    · rw [equalWithin_eq_strictEq flat.arrays flat.objects]
      exact (agree_of_flat flat).mp agree
  · have agree := agree.mono_of_mem_pairs (sub seen)
    obtain ⟨a, b, rfl, rfl⟩ | ⟨a, b, rfl, rfl⟩ | flat := pair_cases v w
    · rw [agree_array_iff] at agree
      exact equalWithin_array.mpr (agree.imp_right .inr)
    · rw [agree_object_iff unique] at agree
      exact equalWithin_object.mpr (agree.imp_right .inr)
    · rw [equalWithin_eq_strictEq flat.arrays flat.objects]
      exact (agree_of_flat flat).mp agree

/-- Bisimilar values are found equal on every path. -/
theorem equalWithin_of_bisimilar (unique : h.Unique) (path : List (Value × Value)) (v w : Value) :
    h.Bisimilar v w → h.equalWithin path v w = true := by
  induction path, v, w using path_induction (h := h) with
  | step path v w ih =>
      intro similar
      exact equalWithin_of_agree unique (bisimulation_bisimilar h v w similar)
        fun fresh mem x y hxy => ih fresh mem x y hxy

/-- The values are related by a bisimulation, except that the pairs on the path are not looked
into. -/
def Similar (h : Heap) (path : List (Value × Value)) (v w : Value) : Prop :=
  ∃ R : Value → Value → Prop, (∀ x y, R x y → (x, y) ∈ path ∨ h.Agree R x y) ∧ R v w

theorem Similar.cases (similar : h.Similar path v w) :
    (v, w) ∈ path ∨ h.Agree (h.Similar path) v w := by
  obtain ⟨R, closed, related⟩ := similar
  exact (closed v w related).imp_right fun agree => agree.mono fun x y hxy => ⟨R, closed, hxy⟩

theorem similar_of_mem (mem : (v, w) ∈ path) : h.Similar path v w :=
  ⟨fun x y => (x, y) ∈ path, fun _ _ => .inl, mem⟩

/-- A pair that agrees when it is assumed need not be assumed: what is similar with the pair on the
path relates everything that has to be looked into. -/
theorem similar_of_agree (agree : h.Agree (h.Similar ((v, w) :: path)) v w) :
    h.Similar path v w := by
  refine ⟨h.Similar ((v, w) :: path), fun x y hxy => ?_, similar_of_mem List.mem_cons_self⟩
  obtain seen | agree' := hxy.cases
  · obtain here | seen := List.mem_cons.mp seen
    · cases here
      exact .inr agree
    · exact .inl seen
  · exact .inr agree'

/-- Values that are found equal on a path are similar on it. -/
theorem similar_of_equalWithin (unique : h.Unique) (path : List (Value × Value)) (v w : Value) :
    h.equalWithin path v w = true → h.Similar path v w := by
  induction path, v, w using path_induction (h := h) with
  | step path v w ih =>
      intro equal
      by_cases seen : (v, w) ∈ path
      · exact similar_of_mem seen
      · have agree := (agree_of_equalWithin unique equal).resolve_left seen
        exact similar_of_agree (agree.mono_of_mem_pairs fun mem x y => ih seen mem x y)

theorem structuralEq_iff (unique : h.Unique) : h.structuralEq v w = true ↔ h.Bisimilar v w := by
  constructor
  · intro equal
    obtain ⟨R, closed, related⟩ := similar_of_equalWithin unique [] v w equal
    exact ⟨R, fun x y hxy => (closed x y hxy).resolve_left List.not_mem_nil, related⟩
  · exact equalWithin_of_bisimilar unique [] v w

/-! ### Unfoldings -/

/-- No collection of the heap contains not-a-number. -/
def Numeric (h : Heap) : Prop := ∀ v x, h.Contains v (.number x) → x.isNaN = false

end Heap

/-- Two shapes are the same but for the order of keys and the sign of zero. -/
def Shape.Matches : Shape → Shape → Prop
  | .constant c, .constant d => c.toValue.strictEq d.toValue = true
  | .array m, .array n => m = n
  | .object keys, .object keys' => ∀ key, key ∈ keys ↔ key ∈ keys'
  | _, _ => False

namespace Heap

variable {h : Heap} {R S : Value → Value → Prop} {u v w : Value}

theorem Agree.matches_shape (agree : h.Agree R v w) : (h.shape v).Matches (h.shape w) := by
  obtain ⟨a, b, rfl, rfl⟩ | ⟨a, b, rfl, rfl⟩ | flat := pair_cases v w
  · obtain rfl | items := agree
    · rfl
    · exact items.length_eq
  · obtain rfl | ⟨keys, -⟩ := agree
    · exact fun _ => Iff.rfl
    · exact keys
  · have equal := (agree_of_flat flat).mp agree
    cases v <;> cases w <;> first
      | exact equal
      | exact absurd rfl (flat.arrays _ _ rfl)
      | exact absurd rfl (flat.objects _ _ rfl)
      | cases equal

theorem forall₂_iff_getElem? {xs ys : List Value} :
    List.Forall₂ R xs ys ↔ ∀ i : Nat, Option.Rel R xs[i]? ys[i]? := by
  constructor
  · intro items
    induction items with
    | nil => exact fun i => .none
    | cons hxy _ ih =>
        intro i
        cases i with
        | zero => exact .some hxy
        | succ i => exact ih i
  · intro items
    induction xs generalizing ys with
    | nil =>
        cases ys with
        | nil => exact .nil
        | cons y ys => cases items 0
    | cons x xs ih =>
        cases ys with
        | nil => cases items 0
        | cons y ys =>
            cases items 0 with
            | some hxy => exact .cons hxy (ih fun i => items (i + 1))

/-- What a collection contains is bisimilar to itself. -/
theorem bisimilar_self (numeric : h.Numeric) (inside : h.Contains u v) : h.Bisimilar v v := by
  refine ⟨fun x y => x = y ∧ ∃ u, h.Contains u x, ?_, rfl, u, inside⟩
  rintro x _ ⟨rfl, u, inside⟩
  cases x with
  | number x => exact Float.beq_self_iff.mpr (by simpa using numeric u x inside)
  | array a => exact .inl rfl
  | object a => exact .inl rfl
  | _ => simp [Agree, Value.strictEq]

/-- One step into bisimilar values leads to bisimilar values. -/
theorem Bisimilar.enter (numeric : h.Numeric) (similar : h.Bisimilar v w) (step : Access) :
    Option.Rel h.Bisimilar (h.enter? v step) (h.enter? w step) := by
  have self (v : Value) : Option.Rel h.Bisimilar (h.enter? v step) (h.enter? v step) := by
    cases found : h.enter? v step with
    | none => exact .none
    | some x => exact .some (bisimilar_self numeric (contains_of_enter? found))
  have agree := bisimulation_bisimilar h v w similar
  obtain ⟨a, b, rfl, rfl⟩ | ⟨a, b, rfl, rfl⟩ | flat := pair_cases v w
  · obtain rfl | items := agree
    · exact self _
    cases step with
    | field key => exact .none
    | item i =>
        simp only [enter?, ← Array.getElem?_toList]
        exact forall₂_iff_getElem?.mp items i
  · obtain rfl | ⟨keys, values⟩ := agree
    · exact self _
    cases step with
    | item i => exact .none
    | field key =>
        have both : (∃ x, (h.fields a).get? key = some x) ↔
            ∃ y, (h.fields b).get? key = some y := by
          rw [Fields.exists_get?_iff, Fields.exists_get?_iff, keys key]
        simp only [enter?]
        cases hx : (h.fields a).get? key with
        | none =>
            cases hy : (h.fields b).get? key with
            | none => exact .none
            | some y => simp [hx, hy] at both
        | some x =>
            obtain ⟨y, hy⟩ := both.mp ⟨x, hx⟩
            rw [hy]
            exact .some (values key x y hx hy)
  · have equal := (agree_of_flat flat).mp agree
    cases v <;> cases w <;> first
      | exact .none
      | cases equal
      | exact absurd rfl (flat.arrays _ _ rfl)
      | exact absurd rfl (flat.objects _ _ rfl)

theorem Bisimilar.matches_unfolding (numeric : h.Numeric) (similar : h.Bisimilar v w)
    (path : List Access) :
    Option.Rel Shape.Matches (h.unfolding v path) (h.unfolding w path) := by
  induction path generalizing v w with
  | nil => exact .some (bisimulation_bisimilar h v w similar).matches_shape
  | cons step path ih =>
      have further := similar.enter numeric step
      simp only [unfolding, reach?]
      generalize h.enter? v step = x at further ⊢
      generalize h.enter? w step = y at further ⊢
      cases further with
      | none => exact .none
      | some similar => exact ih similar

/-- On a heap without not-a-number, values are bisimilar if their unfoldings match. -/
theorem bisimilar_iff_unfolding (numeric : h.Numeric) : h.Bisimilar v w ↔
    ∀ path, Option.Rel Shape.Matches (h.unfolding v path) (h.unfolding w path) := by
  refine ⟨Bisimilar.matches_unfolding numeric, fun matched => ⟨fun v w => ∀ path,
    Option.Rel Shape.Matches (h.unfolding v path) (h.unfolding w path), ?_, matched⟩⟩
  clear matched
  intro v w matched
  have further (step : Access) {x y : Value} (hx : h.enter? v step = some x)
      (hy : h.enter? w step = some y) (path : List Access) :
      Option.Rel Shape.Matches (h.unfolding x path) (h.unfolding y path) := by
    have := matched (step :: path)
    simpa only [unfolding, reach?, hx, hy, Option.bind_some] using this
  have shapes : (h.shape v).Matches (h.shape w) := by
    cases matched [] with
    | some shapes => exact shapes
  obtain ⟨a, b, rfl, rfl⟩ | ⟨a, b, rfl, rfl⟩ | flat := pair_cases v w
  · have size : (h.items a).size = (h.items b).size := shapes
    refine .inr (forall₂_iff_getElem?.mpr fun i => ?_)
    rw [Array.getElem?_toList, Array.getElem?_toList]
    by_cases inside : i < (h.items a).size
    · have hx := Array.getElem?_eq_getElem inside
      have hy := Array.getElem?_eq_getElem (size ▸ inside)
      rw [hx, hy]
      exact .some (further (.item i) hx hy)
    · rw [Array.getElem?_eq_none (by omega), Array.getElem?_eq_none (by omega)]
      exact .none
  · exact .inr ⟨shapes, fun key x y hx hy => further (.field key) hx hy⟩
  · rw [agree_of_flat flat]
    cases v <;> cases w <;> first
      | exact shapes
      | cases shapes
      | exact absurd rfl (flat.arrays _ _ rfl)
      | exact absurd rfl (flat.objects _ _ rfl)

/-- Structural equality is bisimilarity: the relation that looks into a pair of collections wherever
they are not the same one, however they are shared and whether or not they contain themselves. So it
is symmetric and transitive; and on heaps without not-a-number nothing but the unfoldings of the two
values matters. -/
theorem structuralEq_iff_bisimulation (h : Heap) (unique : h.Unique) :
    (∀ v w, h.structuralEq v w = true ↔ ∃ R, h.Bisimulation R ∧ R v w) ∧
    (∀ v w, h.structuralEq v w = h.structuralEq w v) ∧
    (∀ u v w, h.structuralEq u v = true → h.structuralEq v w = true →
      h.structuralEq u w = true) ∧
    ∀ h' : Heap, h'.Unique → h.Numeric → h'.Numeric → ∀ v w v' w',
      h.unfolding v = h'.unfolding v' → h.unfolding w = h'.unfolding w' →
      h.structuralEq v w = h'.structuralEq v' w' := by
  refine ⟨fun v w => structuralEq_iff unique, fun v w => ?_, fun u v w first second => ?_, ?_⟩
  · rw [Bool.eq_iff_iff, structuralEq_iff unique, structuralEq_iff unique]
    exact ⟨Bisimilar.symm, Bisimilar.symm⟩
  · rw [structuralEq_iff unique] at *
    exact first.trans second
  · intro h' unique' numeric numeric' v w v' w' sameLeft sameRight
    rw [Bool.eq_iff_iff, structuralEq_iff unique, structuralEq_iff unique',
      bisimilar_iff_unfolding numeric, bisimilar_iff_unfolding numeric', sameLeft, sameRight]

/-- An array that holds itself, two arrays that hold one another, and two objects that differ in the
order of their keys and hold one of these each. -/
def rings : Heap :=
  ⟨#[.array #[.array 0], .array #[.array 2], .array #[.array 1],
    .object #[("a", .null), ("b", .array 0)], .object #[("b", .array 1), ("a", .null)]]⟩

theorem unique_rings : rings.Unique := by
  intro a
  match a with
  | 0 | 1 | 2 | 3 | 4 => decide
  | a + 5 => exact List.nodup_nil

theorem numeric_rings : rings.Numeric := by
  intro v x inside
  match v with
  | .array 0 | .array 1 | .array 2 | .array 3 | .array 4 | .array (a + 5)
  | .object 0 | .object 1 | .object 2 | .object 3 | .object 4 | .object (a + 5) =>
      simp [rings, Contains, items, fields] at inside

theorem unfolding_rings (path : List Access) :
    rings.unfolding (.array 0) path = rings.unfolding (.array 1) path ∧
      rings.unfolding (.array 0) path = rings.unfolding (.array 2) path := by
  induction path with
  | nil => exact ⟨rfl, rfl⟩
  | cons step path ih =>
      match step with
      | .item 0 => exact ih.symm
      | .item (i + 1) => exact ⟨rfl, rfl⟩
      | .field key => exact ⟨rfl, rfl⟩

/-- The array that holds itself equals the two that hold one another, the objects are equal, and it
makes no difference which of the rings an array is compared with. -/
theorem structuralEq_rings : rings.Unique ∧ rings.Numeric ∧
    rings.structuralEq (.object 3) (.object 4) = true ∧
    rings.structuralEq (.object 4) (.object 3) = true ∧
    rings.structuralEq (.array 2) (.array 2) = rings.structuralEq (.array 0) (.array 1) ∧
    rings.structuralEq (.array 0) (.array 1) = true := by
  have equality := structuralEq_iff_bisimulation rings unique_rings
  have objects : rings.structuralEq (.object 3) (.object 4) = true := by
    refine (equality.1 _ _).mpr ⟨fun v w => (v, w) ∈ ([(.array 0, .array 1), (.array 0, .array 2),
      (.object 3, .object 4), (.null, .null)] : List (Value × Value)), ?_, by simp⟩
    intro v w related
    simp only [List.mem_cons, Prod.mk.injEq, List.not_mem_nil, or_false] at related
    obtain ⟨rfl, rfl⟩ | ⟨rfl, rfl⟩ | ⟨rfl, rfl⟩ | ⟨rfl, rfl⟩ := related
    · exact .inr (.cons (by simp) .nil)
    · exact .inr (.cons (by simp) .nil)
    · refine (agree_object_iff unique_rings).mpr (.inr ⟨rfl, fun e mem => ?_⟩)
      have mem : e = ("a", .null) ∨ e = ("b", .array 0) := by simpa [rings, fields] using mem
      obtain rfl | rfl := mem
      · exact ⟨.null, rfl, by simp⟩
      · exact ⟨.array 1, rfl, by simp⟩
    · rfl
  have shared : rings.structuralEq (.array 2) (.array 2) =
      rings.structuralEq (.array 0) (.array 1) :=
    equality.2.2.2 rings unique_rings numeric_rings numeric_rings _ _ _ _
      (funext fun path => (unfolding_rings path).2.symm)
      (funext fun path => (unfolding_rings path).2.symm.trans (unfolding_rings path).1)
  refine ⟨unique_rings, numeric_rings, objects, (equality.2.1 _ _).symm.trans objects, shared, ?_⟩
  rw [← shared]
  exact equalWithin_array.mpr (.inl rfl)

end Heap

end HostScript
