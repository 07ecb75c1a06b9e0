import HostScript.Source.Tree

/-!
# Positions in programs

Every node of a program carries a position. A program is placed if all of them are of a given
kind: positions of tokens, or known ones.
-/

namespace HostScript

/-! ### Operands -/

/-- The expressions of a target. -/
def Target.operands : Target → List Expr
  | .var _ => []
  | .member base _ => [base]
  | .index base position => [base, position]

/-- The expressions of a host request. -/
def HostRequest.operands : HostRequest → List Expr
  | .emit e other | .launch e other | .notify e other | .prompt e other _ => e :: other.toList
  | .close e => e.toList
  | .wait e | .window _ e | .read e _ | .mkdir e | .delete e _ | .alert e | .confirm e _ | .play e
  | .video e => [e]
  | .write content path => [content, path]
  | .stop => []
  | .command name args => name :: args

/-! ### Placed programs -/

mutual

/-- All positions in the expression are of the given kind. -/
def Expr.Placed (places : Location → Prop) : Expr → Prop
  | .lit loc _ | .var loc _ | .template loc _ => places loc
  | .binary loc _ left right => places loc ∧ left.Placed places ∧ right.Placed places
  | .unary loc _ operand => places loc ∧ operand.Placed places
  | .call loc _ args => places loc ∧ Expr.PlacedAll places args
  | .array loc items => places loc ∧ Expr.PlacedAll places items
  | .object loc entries => places loc ∧ Expr.PlacedEntries places entries
  | .member loc base _ => places loc ∧ base.Placed places
  | .index loc base position => places loc ∧ base.Placed places ∧ position.Placed places
  | .group loc inner => places loc ∧ inner.Placed places

/-- All of the expressions are placed. -/
def Expr.PlacedAll (places : Location → Prop) : List Expr → Prop
  | [] => True
  | e :: rest => e.Placed places ∧ Expr.PlacedAll places rest

/-- The values of all entries are placed. -/
def Expr.PlacedEntries (places : Location → Prop) : List (String × Expr) → Prop
  | [] => True
  | (_, e) :: rest => e.Placed places ∧ Expr.PlacedEntries places rest

end

mutual

/-- All positions in the statement are of the given kind. -/
def Stmt.Placed (places : Location → Prop) : Stmt → Prop
  | .break loc | .continue loc => places loc
  | .declare loc _ e | .print loc e | .expr loc e => places loc ∧ e.Placed places
  | .return loc value => places loc ∧ Expr.PlacedAll places value.toList
  | .set loc target _ value =>
    places loc ∧ Expr.PlacedAll places target.operands ∧ value.Placed places
  | .host loc request => places loc ∧ Expr.PlacedAll places request.operands
  | .block loc body | .define loc _ _ body => places loc ∧ Stmt.PlacedAll places body
  | .loop loc e body | .while loc e body | .foreach loc _ e body | .on loc e body
  | .cond loc e body none => places loc ∧ e.Placed places ∧ Stmt.PlacedAll places body
  | .cond loc e body (some other) =>
    places loc ∧ e.Placed places ∧ Stmt.PlacedAll places body ∧ Stmt.PlacedAll places other
  | .attempt loc body _ handler =>
    places loc ∧ Stmt.PlacedAll places body ∧ Stmt.PlacedAll places handler

/-- All of the statements are placed. -/
def Stmt.PlacedAll (places : Location → Prop) : List Stmt → Prop
  | [] => True
  | s :: rest => s.Placed places ∧ Stmt.PlacedAll places rest

end

section Placed

variable {places : Location → Prop}

theorem Expr.Placed.loc {e : Expr} (h : e.Placed places) : places e.loc := by
  cases e with
  | lit _ _ | var _ _ | template _ _ => exact h
  | binary _ _ _ _ | unary _ _ _ | call _ _ _ | array _ _ | object _ _ | member _ _ _
  | index _ _ _ | group _ _ => exact h.1

theorem Stmt.Placed.loc {s : Stmt} (h : s.Placed places) : places s.loc := by
  cases s with
  | «break» _ | «continue» _ => exact h
  | cond _ _ _ elseBody => cases elseBody with
      | _ => exact h.1
  | _ => exact h.1

theorem Expr.placedAll_iff {es : List Expr} :
    Expr.PlacedAll places es ↔ ∀ e ∈ es, e.Placed places := by
  induction es with
  | nil => simp [Expr.PlacedAll]
  | cons e rest ih => simp [Expr.PlacedAll, ih]

theorem Expr.placedEntries_iff {entries : List (String × Expr)} :
    Expr.PlacedEntries places entries ↔ ∀ entry ∈ entries, entry.2.Placed places := by
  induction entries with
  | nil => simp [Expr.PlacedEntries]
  | cons entry rest ih => simp [Expr.PlacedEntries, ih]

theorem Target.placed_toExpr {target : Target} {loc : Location}
    (h : Expr.PlacedAll places target.operands) (at_ : places loc) :
    (target.toExpr loc).Placed places := by
  cases target with
  | var name => exact at_
  | member base key => exact ⟨at_, h.1⟩
  | index base position => exact ⟨at_, h.1, h.2.1⟩

/-! If every position is of the kind, everything is placed. -/

mutual

theorem Expr.placed_of_forall (all : ∀ loc, places loc) (e : Expr) : e.Placed places := by
  match e with
  | .lit loc _ | .var loc _ | .template loc _ => exact all loc
  | .binary loc _ left right =>
      exact ⟨all loc, left.placed_of_forall all, right.placed_of_forall all⟩
  | .unary loc _ operand => exact ⟨all loc, operand.placed_of_forall all⟩
  | .call loc _ args => exact ⟨all loc, Expr.placedAll_of_forall all args⟩
  | .array loc items => exact ⟨all loc, Expr.placedAll_of_forall all items⟩
  | .object loc entries => exact ⟨all loc, Expr.placedEntries_of_forall all entries⟩
  | .member loc base _ => exact ⟨all loc, base.placed_of_forall all⟩
  | .index loc base position =>
      exact ⟨all loc, base.placed_of_forall all, position.placed_of_forall all⟩
  | .group loc inner => exact ⟨all loc, inner.placed_of_forall all⟩

theorem Expr.placedAll_of_forall (all : ∀ loc, places loc) (es : List Expr) :
    Expr.PlacedAll places es := by
  match es with
  | [] => trivial
  | e :: rest => exact ⟨e.placed_of_forall all, Expr.placedAll_of_forall all rest⟩

theorem Expr.placedEntries_of_forall (all : ∀ loc, places loc) (entries : List (String × Expr)) :
    Expr.PlacedEntries places entries := by
  match entries with
  | [] => trivial
  | (_, e) :: rest => exact ⟨e.placed_of_forall all, Expr.placedEntries_of_forall all rest⟩

end

mutual

theorem Stmt.placed_of_forall (all : ∀ loc, places loc) (s : Stmt) : s.Placed places := by
  match s with
  | .break loc | .continue loc => exact all loc
  | .declare loc _ e | .print loc e | .expr loc e => exact ⟨all loc, e.placed_of_forall all⟩
  | .return loc value => exact ⟨all loc, Expr.placedAll_of_forall all _⟩
  | .set loc target _ value =>
      exact ⟨all loc, Expr.placedAll_of_forall all _, value.placed_of_forall all⟩
  | .host loc request => exact ⟨all loc, Expr.placedAll_of_forall all _⟩
  | .block loc body | .define loc _ _ body => exact ⟨all loc, Stmt.placedAll_of_forall all body⟩
  | .loop loc e body | .while loc e body | .foreach loc _ e body | .on loc e body
  | .cond loc e body none =>
      exact ⟨all loc, e.placed_of_forall all, Stmt.placedAll_of_forall all body⟩
  | .cond loc e body (some other) =>
      exact ⟨all loc, e.placed_of_forall all, Stmt.placedAll_of_forall all body,
        Stmt.placedAll_of_forall all other⟩
  | .attempt loc body _ handler =>
      exact ⟨all loc, Stmt.placedAll_of_forall all body, Stmt.placedAll_of_forall all handler⟩

theorem Stmt.placedAll_of_forall (all : ∀ loc, places loc) (body : List Stmt) :
    Stmt.PlacedAll places body := by
  match body with
  | [] => trivial
  | s :: rest => exact ⟨s.placed_of_forall all, Stmt.placedAll_of_forall all rest⟩

end

end Placed

end HostScript
