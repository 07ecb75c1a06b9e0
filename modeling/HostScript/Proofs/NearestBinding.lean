import HostScript.Proofs.Chains

/-!
# Nearest bindings

A name means the nearest binding on the chain of a scope. Scopes share their chains, so a value that
is written from one scope is seen from others: from exactly those whose way up meets the written
scope before any other binding of the name. Overwriting a binding and declaring a new one are the
same in this respect, and differ only in the scope that they write.

## Implementation notes

`Sees s name t o` goes up from `t` to `o` through scopes that do not bind the name, whether or not
`o` does. The nearest binding is what is seen and bound, and a name that is declared in a scope is
seen from where the scope was seen before. So one law, about `set`, is enough for both.
-/

namespace HostScript.Scopes

variable {s : Scopes} {name : String} {id p t o : ScopeId}

/-! ### Forests -/

/-- The forest after an update, which a failed one leaves as it was. -/
def afterUpdate (s : Scopes) (id : ScopeId) (name : String) (v : Value) : Scopes :=
  match s.update id name v with
  | .ok s' => s'
  | .error _ => s

/-- Forests that are built by operations on scopes that exist. -/
inductive Built : Scopes → Prop
  | nothing : Built {}
  | newRoot {s : Scopes} (before : Built s) : Built s.newRoot.2
  | extend {s : Scopes} (before : Built s) {parent : ScopeId} (known : parent < s.cells.size) :
      Built (s.extend parent).2
  | set {s : Scopes} (before : Built s) {id : ScopeId} (known : id < s.cells.size) (name : String)
      (v : Value) : Built (s.set id name v)
  | update {s : Scopes} (before : Built s) {id : ScopeId} (known : id < s.cells.size)
      (name : String) (v : Value) : Built (s.afterUpdate id name v)
  | assign {s : Scopes} (before : Built s) {id : ScopeId} (known : id < s.cells.size)
      (name : String) (v : Value) : Built (s.assign id name v)
  | clear {s : Scopes} (before : Built s) {id : ScopeId} (known : id < s.cells.size) :
      Built (s.clear id)

/-- Parents are there before their children. -/
def Ordered (s : Scopes) : Prop := ∀ id p, s.parent? id = some p → p < id

theorem parent?_clear (s : Scopes) (id other : ScopeId) :
    (s.clear id).parent? other = s.parent? other := by
  obtain ⟨cells⟩ := s
  simp only [clear, parent?, Array.getElem?_modify]
  split
  · cases cells[other]? with
    | none => rfl
    | some c => rfl
  · rfl

theorem Ordered.set (h : s.Ordered) (id : ScopeId) (name : String) (v : Value) :
    (s.set id name v).Ordered := by
  intro child parent up
  rw [parent?_set] at up
  exact h child parent up

/-- A new scope comes behind all others. -/
theorem Ordered.push (h : s.Ordered) {c : Scope}
    (known : ∀ p, c.parent = some p → p < s.cells.size) : Ordered ⟨s.cells.push c⟩ := by
  intro child parent up
  simp only [parent?, Array.getElem?_push] at up
  split at up
  · next last =>
      rw [last]
      exact known parent up
  · exact h child parent up

theorem afterUpdate_cases (s : Scopes) (id : ScopeId) (name : String) (v : Value) :
    s.afterUpdate id name v = s ∨ ∃ o, s.afterUpdate id name v = s.set o name v := by
  rw [afterUpdate, update]
  cases s.owner? id name with
  | none => exact .inl rfl
  | some o => exact .inr ⟨o, rfl⟩

theorem Built.ordered (h : s.Built) : s.Ordered := by
  induction h with
  | nothing => exact fun _ _ up => nomatch up
  | newRoot _ ih => exact ih.push fun _ none_ => nomatch none_
  | extend _ known ih =>
      apply ih.push
      intro p same
      cases same
      exact known
  | set _ _ name v ih => exact ih.set _ name v
  | @update s _ id _ name v ih =>
      obtain same | ⟨o, written⟩ := s.afterUpdate_cases id name v
      · rw [same]
        exact ih
      · rw [written]
        exact ih.set o name v
  | assign _ _ name v ih => exact ih.set _ name v
  | clear _ _ ih =>
      intro child parent up
      rw [parent?_clear] at up
      exact ih child parent up

/-! ### What is seen from a scope -/

/-- Going up from `t`, one meets `o` before any other scope that binds the name. -/
inductive Sees (s : Scopes) (name : String) : ScopeId → ScopeId → Prop
  | here {t : ScopeId} : Sees s name t t
  | above {t p o : ScopeId} (unbound : s.getLocal? t name = none) (up : s.parent? t = some p)
      (further : Sees s name p o) : Sees s name t o

/-- The nearest binding of the name from `t` is in `o`. -/
def Nearest (s : Scopes) (name : String) (t o : ScopeId) : Prop :=
  s.Sees name t o ∧ (s.getLocal? o name).isSome = true

/-- No scope on the chain binds the name. -/
def Unbound (s : Scopes) (name : String) (t : ScopeId) : Prop :=
  ∀ o, s.OnChain t o → s.getLocal? o name = none

theorem OnChain.above (up : s.parent? t = some p) (h : s.OnChain p o) : s.OnChain t o := by
  induction h with
  | start => exact .parent .start up
  | parent _ up' ih => exact .parent ih up'

/-- What is seen is on the chain. -/
theorem Sees.onChain (h : s.Sees name t o) : s.OnChain t o := by
  induction h with
  | here => exact .start
  | above _ up _ ih => exact ih.above up

theorem Sees.le (ordered : s.Ordered) (h : s.Sees name t o) : o ≤ t := by
  induction h with
  | here => exact Nat.le_refl _
  | above _ up _ ih => exact Nat.le_trans ih (Nat.le_of_lt (ordered _ _ up))

theorem ownerWithin_eq_some_iff (ordered : s.Ordered) {fuel : Nat} (enough : t < fuel) :
    s.ownerWithin name fuel t = some o ↔ s.Nearest name t o := by
  induction fuel generalizing t with
  | zero => exact absurd enough (Nat.not_lt_zero t)
  | succ fuel ih =>
      rw [ownerWithin]
      cases bound : s.getLocal? t name with
      | some v =>
          simp only [Option.isSome_some, if_true, Option.some.injEq]
          constructor
          · rintro rfl
            exact ⟨.here, by rw [bound]; rfl⟩
          · rintro ⟨sees, -⟩
            cases sees with
            | here => rfl
            | above unbound _ _ => cases bound.symm.trans unbound
      | none =>
          simp only [Option.isSome_none, Bool.false_eq_true, if_false]
          cases up : s.parent? t with
          | none =>
              constructor
              · intro found
                cases found
              · rintro ⟨sees, there⟩
                cases sees with
                | here =>
                    rw [bound] at there
                    cases there
                | above _ up' _ => cases up.symm.trans up'
          | some p =>
              have below : p < fuel :=
                Nat.lt_of_lt_of_le (ordered t p up) (Nat.le_of_lt_succ enough)
              refine (ih below).trans ?_
              constructor
              · rintro ⟨sees, there⟩
                exact ⟨.above bound up sees, there⟩
              · rintro ⟨sees, there⟩
                cases sees with
                | here =>
                    rw [bound] at there
                    cases there
                | above _ up' further =>
                    cases up.symm.trans up'
                    exact ⟨further, there⟩

theorem owner?_eq_some_iff (ordered : s.Ordered) :
    s.owner? t name = some o ↔ s.Nearest name t o :=
  ownerWithin_eq_some_iff ordered (Nat.lt_succ_self t)

theorem Sees.parent (h : s.Sees name t id) (unbound : s.getLocal? id name = none)
    (up : s.parent? id = some p) : s.Sees name t p := by
  induction h with
  | here => exact .above unbound up .here
  | above unbound' up' _ ih => exact .above unbound' up' (ih unbound up)

/-- A scope on the chain is seen, unless there is a binding on the way to it. -/
theorem OnChain.sees_or_nearest (h : s.OnChain t o) (name : String) :
    s.Sees name t o ∨ ∃ o', s.Nearest name t o' := by
  induction h with
  | start => exact .inl .here
  | @parent id p _ up ih =>
      obtain sees | nearest := ih
      · cases bound : s.getLocal? id name with
        | none => exact .inl (sees.parent bound up)
        | some v => exact .inr ⟨id, sees, by rw [bound]; rfl⟩
      · exact .inr nearest

theorem owner?_eq_none_iff (ordered : s.Ordered) : s.owner? t name = none ↔ s.Unbound name t := by
  constructor
  · intro absent o on
    have lost : ∀ o', ¬ s.Nearest name t o' := by
      intro o' nearest
      cases absent.symm.trans ((owner?_eq_some_iff ordered).mpr nearest)
    obtain sees | ⟨o', nearest⟩ := on.sees_or_nearest name
    · cases bound : s.getLocal? o name with
      | none => rfl
      | some v => exact absurd ⟨sees, by rw [bound]; rfl⟩ (lost o)
    · exact absurd nearest (lost o')
  · intro unbound
    cases found : s.owner? t name with
    | none => rfl
    | some o =>
        obtain ⟨sees, there⟩ := (owner?_eq_some_iff ordered).mp found
        rw [unbound o sees.onChain] at there
        cases there

theorem lookup_of_nearest (ordered : s.Ordered) (h : s.Nearest name t o) :
    s.lookup t name = s.getLocal? o name := by
  rw [lookup, (owner?_eq_some_iff ordered).mpr h, Option.bind_some]

/-! ### Writing a binding -/

section Writing

variable {x y : String} {v : Value}

theorem getLocal?_set (known : o < s.cells.size) (x y : String) (v : Value) (t : ScopeId) :
    (s.set o x v).getLocal? t y = if t = o ∧ y = x then some v else s.getLocal? t y := by
  by_cases here : t = o
  · subst here
    by_cases same : y = x
    · rw [same, if_pos ⟨rfl, rfl⟩, getLocal?_set_self x v known]
    · rw [if_neg fun both => same both.2, getLocal?_set_of_ne v known same]
  · rw [if_neg fun both => here both.1, getLocal?, locals_set_of_ne s x v here, getLocal?]

/-- The way to a scope does not change when the scope itself is written. -/
theorem Sees.set (ordered : s.Ordered) (known : o < s.cells.size) (v : Value)
    (h : s.Sees x t o) : (s.set o x v).Sees x t o := by
  induction h with
  | here => exact .here
  | @above t p o unbound up further ih =>
      have apart : t ≠ o :=
        Nat.ne_of_gt (Nat.lt_of_le_of_lt (further.le ordered) (ordered t p up))
      refine .above ?_ (by rwa [parent?_set]) (ih known)
      rw [getLocal?_set known, if_neg fun both => apart both.1]
      exact unbound

/-- Where the written scope is seen, the value is found. -/
theorem lookup_set_of_sees (ordered : s.Ordered) (known : o < s.cells.size) (v : Value)
    (h : s.Sees x t o) : (s.set o x v).lookup t x = some v := by
  have bound : (s.set o x v).getLocal? o x = some v := getLocal?_set_self x v known
  have nearest : (s.set o x v).Nearest x t o := ⟨h.set ordered known v, by rw [bound]; rfl⟩
  rw [lookup_of_nearest (ordered.set o x v) nearest, bound]

/-- Under another name, and where the written scope is not seen, the owner stays the same. -/
theorem ownerWithin_set (known : o < s.cells.size) (v : Value) (fuel : Nat)
    (h : ¬ (y = x ∧ s.Sees x t o)) :
    (s.set o x v).ownerWithin y fuel t = s.ownerWithin y fuel t := by
  induction fuel generalizing t with
  | zero => rfl
  | succ fuel ih =>
      have apart : ¬ (t = o ∧ y = x) := by
        rintro ⟨rfl, same⟩
        exact h ⟨same, .here⟩
      rw [ownerWithin, ownerWithin, getLocal?_set known, if_neg apart, parent?_set]
      cases bound : s.getLocal? t y with
      | some w => rfl
      | none =>
          simp only [Option.isSome_none, Bool.false_eq_true, if_false]
          cases up : s.parent? t with
          | none => rfl
          | some p =>
              apply ih
              rintro ⟨rfl, sees⟩
              exact h ⟨rfl, .above bound up sees⟩

theorem lookup_set_of_not_sees (ordered : s.Ordered) (known : o < s.cells.size) (v : Value)
    (h : ¬ (y = x ∧ s.Sees x t o)) : (s.set o x v).lookup t y = s.lookup t y := by
  rw [lookup, lookup, owner?, owner?, ownerWithin_set known v _ h]
  cases found : s.ownerWithin y (t + 1) t with
  | none => rfl
  | some o' =>
      have nearest : s.Nearest y t o' := (owner?_eq_some_iff ordered).mp found
      have apart : ¬ (o' = o ∧ y = x) := by
        rintro ⟨rfl, rfl⟩
        exact h ⟨rfl, nearest.1⟩
      rw [Option.bind_some, Option.bind_some, getLocal?_set known, if_neg apart]

theorem lt_size_of_getLocal? (bound : (s.getLocal? o name).isSome = true) : o < s.cells.size := by
  rw [getLocal?, locals] at bound
  cases found : s.cells[o]? with
  | none =>
      rw [found] at bound
      cases bound
  | some c => exact (Array.getElem?_eq_some_iff.mp found).1

/-- From `s` to `s'`, the value `v` has become what the scopes `seer` find under the name `x`, and
nothing else that any scope finds has changed. -/
structure ShowsValue (s s' : Scopes) (x : String) (v : Value) (seer : ScopeId → Prop) : Prop where
  found : ∀ t, seer t → s'.lookup t x = some v
  differs : ∀ t y, s'.lookup t y ≠ s.lookup t y → y = x ∧ seer t

/-- Writing a scope shows the value wherever the scope is seen. -/
theorem showsValue_set (ordered : s.Ordered) (known : o < s.cells.size) (x : String) (v : Value) :
    s.ShowsValue (s.set o x v) x v fun t => s.Sees x t o where
  found _ sees := lookup_set_of_sees ordered known v sees
  differs _ _ changed := Classical.byContradiction fun apart =>
    changed (lookup_set_of_not_sees ordered known v apart)

theorem ShowsValue.congr {s' : Scopes} {seer seer' : ScopeId → Prop} (h : s.ShowsValue s' x v seer)
    (same : ∀ t, seer t ↔ seer' t) : s.ShowsValue s' x v seer' where
  found t sees := h.found t ((same t).mpr sees)
  differs t y changed := ⟨(h.differs t y changed).1, (same t).mp (h.differs t y changed).2⟩

/-- Overwriting a binding shows the value wherever that binding was the nearest one. -/
theorem showsValue_set_of_bound (ordered : s.Ordered) (bound : (s.getLocal? o x).isSome = true)
    (v : Value) : s.ShowsValue (s.set o x v) x v fun t => s.Nearest x t o :=
  (showsValue_set ordered (lt_size_of_getLocal? bound) x v).congr fun _ =>
    ⟨fun sees => ⟨sees, bound⟩, fun nearest => nearest.1⟩

/-- The binding that is seen first is the only nearest one. -/
theorem Nearest.unique (ordered : s.Ordered) {o' : ScopeId} (h : s.Nearest x t o)
    (h' : s.Nearest x t o') : o' = o :=
  Option.some.inj (((owner?_eq_some_iff ordered).mpr h').symm.trans
    ((owner?_eq_some_iff ordered).mpr h))

theorem Unbound.not_nearest (h : s.Unbound x t) : ¬ s.Nearest x t o := by
  rintro ⟨sees, there⟩
  rw [h o sees.onChain] at there
  cases there

end Writing

/-! ### Updates and assignments -/

section Assigning

variable {s' : Scopes} {x : String} {v : Value}

/-- An update writes the nearest binding, or there is none. -/
theorem update_cases (ordered : s.Ordered) (id : ScopeId) (x : String) (v : Value) :
    (s.Unbound x id ∧ s.update id x v = .error (.reference x)) ∨
      ∃ o, s.Nearest x id o ∧ s.update id x v = .ok (s.set o x v) := by
  rw [update]
  cases found : s.owner? id x with
  | none => exact .inl ⟨(owner?_eq_none_iff ordered).mp found, rfl⟩
  | some o => exact .inr ⟨o, (owner?_eq_some_iff ordered).mp found, rfl⟩

theorem update_eq_error_iff (ordered : s.Ordered) :
    (∃ f, s.update id x v = .error f) ↔ s.Unbound x id := by
  obtain ⟨unbound, failed⟩ | ⟨o, nearest, updated⟩ := update_cases ordered id x v
  · exact ⟨fun _ => unbound, fun _ => ⟨_, failed⟩⟩
  · constructor
    · rintro ⟨f, failed⟩
      cases updated.symm.trans failed
    · exact fun unbound => absurd nearest unbound.not_nearest

/-- An update is seen from where the overwritten binding was the nearest one. -/
theorem showsValue_update (ordered : s.Ordered) (h : s.update id x v = .ok s') :
    s.ShowsValue s' x v fun t => ∃ o, s.Nearest x id o ∧ s.Nearest x t o := by
  obtain ⟨-, failed⟩ | ⟨o, nearest, updated⟩ := update_cases ordered id x v
  · cases failed.symm.trans h
  · cases updated.symm.trans h
    refine (showsValue_set_of_bound ordered nearest.2 v).congr fun t => ?_
    constructor
    · exact fun there => ⟨o, nearest, there⟩
    · rintro ⟨o', nearest', there⟩
      rwa [nearest.unique ordered nearest'] at there

/-- An assignment updates the binding that there is, or declares one in the scope itself. -/
theorem assign_cases (ordered : s.Ordered) (id : ScopeId) (x : String) (v : Value) :
    (s.Unbound x id ∧ s.assign id x v = s.set id x v) ∨
      ∃ o, s.Nearest x id o ∧ s.assign id x v = s.set o x v := by
  rw [assign]
  cases found : s.owner? id x with
  | none => exact .inl ⟨(owner?_eq_none_iff ordered).mp found, rfl⟩
  | some o => exact .inr ⟨o, (owner?_eq_some_iff ordered).mp found, rfl⟩

/-- An assignment is seen from where an update would be, and a declaration from where the scope is
met first. -/
theorem showsValue_assign (ordered : s.Ordered) (known : id < s.cells.size) (x : String)
    (v : Value) :
    s.ShowsValue (s.assign id x v) x v fun t =>
      (∃ o, s.Nearest x id o ∧ s.Nearest x t o) ∨ (s.Unbound x id ∧ s.Sees x t id) := by
  obtain ⟨unbound, declared⟩ | ⟨o, nearest, written⟩ := assign_cases ordered id x v
  · rw [declared]
    refine (showsValue_set ordered known x v).congr fun t => ?_
    constructor
    · exact fun sees => .inr ⟨unbound, sees⟩
    · rintro (⟨o, nearest, -⟩ | ⟨-, sees⟩)
      · exact absurd nearest unbound.not_nearest
      · exact sees
  · rw [written]
    refine (showsValue_set_of_bound ordered nearest.2 v).congr fun t => ?_
    constructor
    · exact fun there => .inl ⟨o, nearest, there⟩
    · rintro (⟨o', nearest', there⟩ | ⟨unbound, -⟩)
      · rwa [nearest.unique ordered nearest'] at there
      · exact absurd nearest unbound.not_nearest

/-- An assignment declares a name only where none was visible. -/
theorem isSome_getLocal?_assign (ordered : s.Ordered) (known : id < s.cells.size) (x : String)
    (v : Value) (t : ScopeId) (y : String) :
    ((s.assign id x v).getLocal? t y).isSome = true ↔
      (s.getLocal? t y).isSome = true ∨ (s.Unbound x id ∧ t = id ∧ y = x) := by
  obtain ⟨unbound, declared⟩ | ⟨o, nearest, written⟩ := assign_cases ordered id x v
  · rw [declared, getLocal?_set known]
    by_cases here : t = id ∧ y = x
    · simp [here, unbound]
    · simp [here]
  · rw [written, getLocal?_set (lt_size_of_getLocal? nearest.2)]
    have visible : ¬ s.Unbound x id := fun unbound => unbound.not_nearest nearest
    by_cases here : t = o ∧ y = x
    · obtain ⟨rfl, rfl⟩ := here
      simp [nearest.2]
    · simp [here, visible]

/-- An update fails exactly if no scope on the chain binds the name, and changes nothing then. What
an update or an assignment has written is found, and what any scope finds has changed only under
that name and only where the nearest binding was the same one, or where the name is newly declared
and the declaring scope is met first. Assignments declare no name that is visible. -/
theorem scope_writes_framed {s : Scopes} (built : s.Built) {id : ScopeId}
    (known : id < s.cells.size) (x : String) (v : Value) :
    ((∃ f, s.update id x v = .error f) ↔ s.Unbound x id) ∧
    (∀ f, s.update id x v = .error f → s.afterUpdate id x v = s) ∧
    (∀ s', s.update id x v = .ok s' → s.afterUpdate id x v = s' ∧ s'.lookup id x = some v ∧
      s.ShowsValue s' x v fun t => ∃ o, s.Nearest x id o ∧ s.Nearest x t o) ∧
    (s.assign id x v).lookup id x = some v ∧
    (s.ShowsValue (s.assign id x v) x v fun t =>
      (∃ o, s.Nearest x id o ∧ s.Nearest x t o) ∨ (s.Unbound x id ∧ s.Sees x t id)) ∧
    ∀ t y, ((s.assign id x v).getLocal? t y).isSome = true ↔
      (s.getLocal? t y).isSome = true ∨ (s.Unbound x id ∧ t = id ∧ y = x) := by
  have ordered := built.ordered
  have assigned := showsValue_assign ordered known x v
  refine ⟨update_eq_error_iff ordered, ?_, ?_, ?_, assigned,
    isSome_getLocal?_assign ordered known x v⟩
  · intro f failed
    rw [afterUpdate, failed]
  · intro s' updated
    have shown := showsValue_update ordered updated
    refine ⟨by rw [afterUpdate, updated], shown.found id ?_, shown⟩
    obtain ⟨-, failed⟩ | ⟨o, nearest, -⟩ := update_cases ordered id x v
    · cases failed.symm.trans updated
    · exact ⟨o, nearest, nearest⟩
  · apply assigned.found id
    obtain ⟨unbound, -⟩ | ⟨o, nearest, -⟩ := assign_cases ordered id x v
    · exact .inr ⟨unbound, .here⟩
    · exact .inl ⟨o, nearest, nearest⟩

/-- A root that binds `x`, its child 1, and two children of that, of which 2 binds `x` as well. -/
def cousins : Scopes :=
  let parents := ((({} : Scopes).newRoot.2.set 0 "x" .null).extend 0).2
  ((parents.extend 1).2.set 2 "x" .null |>.extend 1).2

/-- What the last scope assigns is seen from its parent, and not from its sibling. -/
theorem cousins_writes_framed : cousins.Built ∧ 3 < cousins.cells.size ∧
    (cousins.assign 3 "x" (.bool true)).lookup 3 "x" = some (.bool true) ∧
    (cousins.assign 3 "x" (.bool true)).lookup 1 "x" = some (.bool true) ∧
    (cousins.assign 3 "x" (.bool true)).lookup 2 "x" = cousins.lookup 2 "x" := by
  have built : cousins.Built :=
    .extend (.set (.extend (.extend (.set (.newRoot .nothing) (by decide) _ _) (by decide))
      (by decide)) (by decide) _ _) (by decide)
  have known : 3 < cousins.cells.size := by decide
  have owner (t o : ScopeId) (h : cousins.owner? t "x" = some o) : cousins.Nearest "x" t o :=
    (owner?_eq_some_iff built.ordered).mp h
  obtain ⟨-, -, -, found, shown, -⟩ := scope_writes_framed built known "x" (.bool true)
  refine ⟨built, known, found, shown.found 1 (.inl ⟨0, owner 3 0 rfl, owner 1 0 rfl⟩), ?_⟩
  refine Classical.byContradiction fun changed => ?_
  obtain ⟨-, ⟨o, from3, from2⟩ | ⟨unbound, -⟩⟩ := shown.differs 2 "x" changed
  · have at0 := (owner 3 0 rfl).unique built.ordered from3
    have at2 := (owner 2 2 rfl).unique built.ordered from2
    exact absurd (at0.symm.trans at2) (by decide)
  · exact unbound.not_nearest (owner 3 0 rfl)

end Assigning

end HostScript.Scopes
