import HostScript.Proofs.Grammar.Writing
import HostScript.Proofs.Places

/-!
# The height of syntax trees

Binary operators and accesses that follow one another make a tree that leans to the left, in which
each of them is one node higher than the one before. Such a chain nests nothing: the levels that are
counted are those of statements, unary expressions and primary forms. An expression in normal form
is no higher than its levels, if each of them is as high as the longest chain allows.
-/

namespace HostScript

/-! ### Heights and chains -/

mutual

/-- The number of nodes on the longest way down the expression. -/
def Expr.height : Expr → Nat
  | .lit _ _ | .var _ _ | .template _ _ => 1
  | .binary _ _ left right => max left.height right.height + 1
  | .unary _ _ operand => operand.height + 1
  | .member _ base _ => base.height + 1
  | .index _ base position => max base.height position.height + 1
  | .group _ inner => inner.height + 1
  | .call _ _ args => Expr.heightAll args + 1
  | .array _ items => Expr.heightAll items + 1
  | .object _ entries => Expr.heightEntries entries + 1

/-- The height of the highest expression. -/
def Expr.heightAll : List Expr → Nat
  | [] => 0
  | e :: rest => max e.height (Expr.heightAll rest)

/-- The height of the highest value. -/
def Expr.heightEntries : List (String × Expr) → Nat
  | [] => 0
  | (_, e) :: rest => max e.height (Expr.heightEntries rest)

end

/-- The number of operators and accesses that follow one another, up to the last one of the
expression. -/
def Expr.chain : Expr → Nat
  | .binary _ _ left _ => left.chain + 1
  | .member _ base _ => base.chain + 1
  | .index _ base _ => base.chain + 1
  | _ => 0

mutual

/-- The length of the longest chain in the expression. -/
def Expr.links : Expr → Nat
  | .lit _ _ | .var _ _ | .template _ _ => 0
  | .binary _ _ left right => max (left.chain + 1) (max left.links right.links)
  | .unary _ _ operand => operand.links
  | .member _ base _ => max (base.chain + 1) base.links
  | .index _ base position => max (base.chain + 1) (max base.links position.links)
  | .group _ inner => inner.links
  | .call _ _ args => Expr.linksAll args
  | .array _ items => Expr.linksAll items
  | .object _ entries => Expr.linksEntries entries

/-- The length of the longest chain in the expressions. -/
def Expr.linksAll : List Expr → Nat
  | [] => 0
  | e :: rest => max e.links (Expr.linksAll rest)

/-- The length of the longest chain in the values. -/
def Expr.linksEntries : List (String × Expr) → Nat
  | [] => 0
  | (_, e) :: rest => max e.links (Expr.linksEntries rest)

end

theorem Expr.chain_le_links (e : Expr) : e.chain ≤ e.links := by
  cases e with
  | binary _ _ _ _ | member _ _ _ | index _ _ _ => exact Nat.le_max_left _ _
  | _ => exact Nat.zero_le _

theorem Expr.chain_lt_height (e : Expr) : e.chain < e.height := by
  match e with
  | .binary _ _ left _ =>
      have := left.chain_lt_height
      simp only [Expr.chain, Expr.height]
      omega
  | .member _ base _ =>
      have := base.chain_lt_height
      simp only [Expr.chain, Expr.height]
      omega
  | .index _ base _ =>
      have := base.chain_lt_height
      simp only [Expr.chain, Expr.height]
      omega
  | .lit _ _ | .var _ _ | .template _ _ | .unary _ _ _ | .group _ _ | .call _ _ _ | .array _ _
  | .object _ _ => exact Nat.succ_pos _

mutual

theorem Expr.links_le_height (e : Expr) : e.links ≤ e.height := by
  match e with
  | .lit _ _ | .var _ _ | .template _ _ => exact Nat.zero_le _
  | .binary _ _ left right =>
      have := left.chain_lt_height
      have := left.links_le_height
      have := right.links_le_height
      simp only [Expr.links, Expr.height]
      omega
  | .unary _ _ operand => exact Nat.le_succ_of_le operand.links_le_height
  | .member _ base _ =>
      have := base.chain_lt_height
      have := base.links_le_height
      simp only [Expr.links, Expr.height]
      omega
  | .index _ base position =>
      have := base.chain_lt_height
      have := base.links_le_height
      have := position.links_le_height
      simp only [Expr.links, Expr.height]
      omega
  | .group _ inner => exact Nat.le_succ_of_le inner.links_le_height
  | .call _ _ args => exact Nat.le_succ_of_le (Expr.linksAll_le_height args)
  | .array _ items => exact Nat.le_succ_of_le (Expr.linksAll_le_height items)
  | .object _ entries => exact Nat.le_succ_of_le (Expr.linksEntries_le_height entries)

theorem Expr.linksAll_le_height (es : List Expr) : Expr.linksAll es ≤ Expr.heightAll es := by
  match es with
  | [] => exact Nat.zero_le _
  | e :: rest =>
      have := e.links_le_height
      have := Expr.linksAll_le_height rest
      simp only [Expr.linksAll, Expr.heightAll]
      omega

theorem Expr.linksEntries_le_height (entries : List (String × Expr)) :
    Expr.linksEntries entries ≤ Expr.heightEntries entries := by
  match entries with
  | [] => exact Nat.zero_le _
  | (_, e) :: rest =>
      have := e.links_le_height
      have := Expr.linksEntries_le_height rest
      simp only [Expr.linksEntries, Expr.heightEntries]
      omega

end

/-! ### Height, levels and chains of an expression -/

section Bound

variable {k : Nat}

/-- What has room in some levels has room in more of them. -/
theorem le_levels_of_le {height levels more : Nat} (le : height ≤ k + levels * (8 * k + 1))
    (fewer : levels ≤ more) : height ≤ k + more * (8 * k + 1) :=
  Nat.le_trans le (Nat.add_le_add_left (Nat.mul_le_mul_right _ fewer) k)

/-- What stands below an expression is higher by no more than a chain. -/
theorem Expr.height_le_of_bound (e : Expr) (links : e.links ≤ k)
    (bound : e.height + (e.rank - 1) * k ≤ e.chain + e.nesting * (8 * k + 1)) :
    e.height ≤ k + e.nesting * (8 * k + 1) := by
  have := e.chain_le_links
  omega

mutual

/-- A chain adds its length, and each of the eight ranks of a level adds the length of the longest
chain. -/
theorem Expr.height_add_le (e : Expr) (normal : e.Normal) (links : e.links ≤ k) :
    e.height + (e.rank - 1) * k ≤ e.chain + e.nesting * (8 * k + 1) := by
  match e with
  | .lit _ _ | .var _ _ | .template _ _ =>
      simp only [Expr.height, Expr.rank, Expr.chain, Expr.nesting]
      omega
  | .binary _ op left right =>
      obtain ⟨leftRank, rightRank, leftNormal, rightNormal⟩ := normal
      simp only [Expr.links, Nat.max_le] at links
      have hleft := left.height_add_le leftNormal links.2.1
      have hright := right.height_add_le rightNormal links.2.2
      have := right.chain_le_links
      have leftSlack : (op.rank - 1) * k ≤ (left.rank - 1) * k :=
        Nat.mul_le_mul_right k (by omega)
      have rightSlack : (op.rank - 1 + 1) * k ≤ (right.rank - 1) * k :=
        Nat.mul_le_mul_right k (by have := op.rank_pos; omega)
      have leftLevels : left.nesting * (8 * k + 1) ≤
          max left.nesting right.nesting * (8 * k + 1) :=
        Nat.mul_le_mul_right _ (Nat.le_max_left _ _)
      have rightLevels : right.nesting * (8 * k + 1) ≤
          max left.nesting right.nesting * (8 * k + 1) :=
        Nat.mul_le_mul_right _ (Nat.le_max_right _ _)
      rw [Nat.succ_mul] at rightSlack
      simp only [Expr.height, Expr.rank, Expr.chain, Expr.nesting]
      omega
  | .unary _ _ operand =>
      obtain ⟨-, operandNormal⟩ := normal
      have := operand.height_le_of_bound links (operand.height_add_le operandNormal links)
      simp only [Expr.height, Expr.rank, Expr.chain, Expr.nesting, Nat.add_mul, Nat.one_mul]
      omega
  | .member _ base _ =>
      obtain ⟨baseRank, baseNormal⟩ := normal
      simp only [Expr.links, Nat.max_le] at links
      have hbase := base.height_add_le baseNormal links.2
      have slack : 7 * k ≤ (base.rank - 1) * k := Nat.mul_le_mul_right k (by omega)
      simp only [Expr.height, Expr.rank, Expr.chain, Expr.nesting]
      omega
  | .index _ base position =>
      obtain ⟨baseRank, baseNormal, positionNormal⟩ := normal
      simp only [Expr.links, Nat.max_le] at links
      have hbase := base.height_add_le baseNormal links.2.1
      have hposition := position.height_le_of_bound links.2.2
        (position.height_add_le positionNormal links.2.2)
      have slack : 7 * k ≤ (base.rank - 1) * k := Nat.mul_le_mul_right k (by omega)
      have baseLevels : base.nesting * (8 * k + 1) ≤
          max base.nesting (position.nesting + 1) * (8 * k + 1) :=
        Nat.mul_le_mul_right _ (Nat.le_max_left _ _)
      have positionLevels : (position.nesting + 1) * (8 * k + 1) ≤
          max base.nesting (position.nesting + 1) * (8 * k + 1) :=
        Nat.mul_le_mul_right _ (Nat.le_max_right _ _)
      rw [Nat.succ_mul] at positionLevels
      simp only [Expr.height, Expr.rank, Expr.chain, Expr.nesting]
      omega
  | .group _ inner =>
      have := inner.height_le_of_bound links (inner.height_add_le normal links)
      simp only [Expr.height, Expr.rank, Expr.chain, Expr.nesting, Nat.add_mul, Nat.one_mul]
      omega
  | .call _ _ args =>
      have := Expr.heightAll_le args normal links
      simp only [Expr.height, Expr.rank, Expr.chain, Expr.nesting, Nat.add_mul, Nat.one_mul]
      omega
  | .array _ items =>
      have := Expr.heightAll_le items normal links
      simp only [Expr.height, Expr.rank, Expr.chain, Expr.nesting, Nat.add_mul, Nat.one_mul]
      omega
  | .object _ entries =>
      have := Expr.heightEntries_le entries normal links
      simp only [Expr.height, Expr.rank, Expr.chain, Expr.nesting, Nat.add_mul, Nat.one_mul]
      omega

theorem Expr.heightAll_le (es : List Expr) (normal : Expr.NormalAll es)
    (links : Expr.linksAll es ≤ k) :
    Expr.heightAll es ≤ k + Expr.nestingAll es * (8 * k + 1) := by
  match es with
  | [] => exact Nat.zero_le _
  | e :: rest =>
      simp only [Expr.linksAll, Nat.max_le] at links
      have first := e.height_le_of_bound links.1 (e.height_add_le normal.1 links.1)
      have others := Expr.heightAll_le rest normal.2 links.2
      rw [Expr.heightAll, Expr.nestingAll, Nat.max_le]
      exact ⟨le_levels_of_le first (Nat.le_max_left _ _),
        le_levels_of_le others (Nat.le_max_right _ _)⟩

theorem Expr.heightEntries_le (entries : List (String × Expr))
    (normal : Expr.NormalEntries entries) (links : Expr.linksEntries entries ≤ k) :
    Expr.heightEntries entries ≤ k + Expr.nestingEntries entries * (8 * k + 1) := by
  match entries with
  | [] => exact Nat.zero_le _
  | (_, e) :: rest =>
      simp only [Expr.linksEntries, Nat.max_le] at links
      have first := e.height_le_of_bound links.1 (e.height_add_le normal.1 links.1)
      have others := Expr.heightEntries_le rest normal.2 links.2
      rw [Expr.heightEntries, Expr.nestingEntries, Nat.max_le]
      exact ⟨le_levels_of_le first (Nat.le_max_left _ _),
        le_levels_of_le others (Nat.le_max_right _ _)⟩

end

/-- An expression in normal form is no higher than its levels, each as high as eight chains, and
one more chain. -/
theorem Expr.height_le {e : Expr} {room : Nat} (normal : e.Normal) (nesting : e.nesting ≤ room)
    (links : e.links ≤ k) : e.height ≤ k + room * (8 * k + 1) :=
  le_levels_of_le (e.height_le_of_bound links (e.height_add_le normal links)) nesting

end Bound

/-! ### Heights and chains of statements -/

/-- The expressions that a statement holds outside the statements in it. -/
def Stmt.operands : Stmt → List Expr
  | .set loc target _ value => [target.toExpr loc, value]
  | .declare _ _ e | .print _ e | .expr _ e | .cond _ e _ _ | .loop _ e _ | .while _ e _
  | .foreach _ _ e _ | .on _ e _ => [e]
  | .return _ value => value.toList
  | .host _ request => request.operands
  | .block _ _ | .break _ | .continue _ | .define _ _ _ _ | .attempt _ _ _ _ => []

/-- The statements that stand directly in a statement. -/
def Stmt.parts : Stmt → List Stmt
  | .block _ body | .define _ _ _ body | .loop _ _ body | .while _ _ body | .foreach _ _ _ body
  | .on _ _ body | .cond _ _ body none => body
  | .cond _ _ body (some other) | .attempt _ body _ other => body ++ other
  | .set _ _ _ _ | .declare _ _ _ | .print _ _ | .break _ | .continue _ | .return _ _ | .expr _ _
  | .host _ _ => []

/-- The largest value of a function at one of the expressions. -/
def Expr.most (f : Expr → Nat) : List Expr → Nat
  | [] => 0
  | e :: rest => max (f e) (Expr.most f rest)

mutual

/-- The largest value of a function at an expression in the statement, where `step` is added for
each statement around it. -/
def Stmt.most (step : Nat) (f : Expr → Nat) : Stmt → Nat
  | .block _ body | .define _ _ _ body => Stmt.mostAll step f body + step
  | .loop _ e body | .while _ e body | .foreach _ _ e body | .on _ e body | .cond _ e body none =>
    max (f e) (Stmt.mostAll step f body) + step
  | .cond _ e body (some other) =>
    max (f e) (max (Stmt.mostAll step f body) (Stmt.mostAll step f other)) + step
  | .attempt _ body _ handler => max (Stmt.mostAll step f body) (Stmt.mostAll step f handler) + step
  | .set loc target _ value => max (f (target.toExpr loc)) (f value) + step
  | .declare _ _ e | .print _ e | .expr _ e => f e + step
  | .return _ value => Expr.most f value.toList + step
  | .host _ request => Expr.most f request.operands + step
  | .break _ | .continue _ => step

/-- The largest such value at one of the statements. -/
def Stmt.mostAll (step : Nat) (f : Expr → Nat) : List Stmt → Nat
  | [] => 0
  | s :: rest => max (s.most step f) (Stmt.mostAll step f rest)

end

/-- The number of statements and expressions on the longest way down one of the statements. -/
def Stmt.heightAll (body : List Stmt) : Nat := Stmt.mostAll 1 Expr.height body

/-- The length of the longest chain in the statements. -/
def Stmt.linksAll (body : List Stmt) : Nat := Stmt.mostAll 0 Expr.links body

section Most

variable {step n : Nat} {f : Expr → Nat}

theorem Expr.most_le_iff {es : List Expr} : Expr.most f es ≤ n ↔ ∀ e ∈ es, f e ≤ n := by
  induction es with
  | nil => simp [Expr.most]
  | cons e rest ih => simp only [Expr.most, Nat.max_le, ih, List.forall_mem_cons]

theorem Stmt.mostAll_le_iff {body : List Stmt} :
    Stmt.mostAll step f body ≤ n ↔ ∀ s ∈ body, s.most step f ≤ n := by
  induction body with
  | nil => simp [Stmt.mostAll]
  | cons s rest ih => simp only [Stmt.mostAll, Nat.max_le, ih, List.forall_mem_cons]

/-- The value at a statement is given by those at its operands and at its parts. -/
theorem Stmt.most_le_iff {s : Stmt} : s.most step f ≤ n + step ↔
    (∀ e ∈ s.operands, f e ≤ n) ∧ ∀ part ∈ s.parts, part.most step f ≤ n := by
  match s with
  | .block _ body | .define _ _ _ body =>
      simp [Stmt.most, Stmt.operands, Stmt.parts, Stmt.mostAll_le_iff]
  | .loop _ e body | .while _ e body | .foreach _ _ e body | .on _ e body | .cond _ e body none =>
      simp only [Stmt.most, Nat.add_le_add_iff_right, Nat.max_le, Stmt.mostAll_le_iff,
        Stmt.operands, Stmt.parts, List.forall_mem_singleton]
  | .cond _ e body (some other) =>
      simp only [Stmt.most, Nat.add_le_add_iff_right, Nat.max_le, Stmt.mostAll_le_iff,
        Stmt.operands, Stmt.parts, List.forall_mem_singleton, List.forall_mem_append]
  | .attempt _ body _ handler =>
      simp only [Stmt.most, Nat.add_le_add_iff_right, Nat.max_le, Stmt.mostAll_le_iff,
        Stmt.operands, Stmt.parts, List.forall_mem_append, List.not_mem_nil, false_implies,
        implies_true, true_and]
  | .set loc target _ value =>
      simp only [Stmt.most, Nat.add_le_add_iff_right, Nat.max_le, Stmt.operands, Stmt.parts,
        List.forall_mem_cons, List.not_mem_nil, false_implies, implies_true, and_true]
  | .declare _ _ e | .print _ e | .expr _ e => simp [Stmt.most, Stmt.operands, Stmt.parts]
  | .return _ _ | .host _ _ => simp [Stmt.most, Stmt.operands, Stmt.parts, Expr.most_le_iff]
  | .break _ | .continue _ => simp [Stmt.most, Stmt.operands, Stmt.parts]

end Most

theorem Expr.most_links_le (es : List Expr) : Expr.most Expr.links es ≤ Expr.most Expr.height es :=
  Expr.most_le_iff.mpr fun e mem =>
    Nat.le_trans e.links_le_height (Expr.most_le_iff.mp (Nat.le_refl _) e mem)

mutual

theorem Stmt.links_le_height (s : Stmt) : s.most 0 Expr.links ≤ s.most 1 Expr.height := by
  match s with
  | .block _ body | .define _ _ _ body => exact Nat.le_succ_of_le (Stmt.linksAll_le_height body)
  | .loop _ e body | .while _ e body | .foreach _ _ e body | .on _ e body | .cond _ e body none =>
      have := e.links_le_height
      have := Stmt.linksAll_le_height body
      simp only [Stmt.most]
      omega
  | .cond _ e body (some other) =>
      have := e.links_le_height
      have := Stmt.linksAll_le_height body
      have := Stmt.linksAll_le_height other
      simp only [Stmt.most]
      omega
  | .attempt _ body _ handler =>
      have := Stmt.linksAll_le_height body
      have := Stmt.linksAll_le_height handler
      simp only [Stmt.most]
      omega
  | .set loc target _ value =>
      have := (target.toExpr loc).links_le_height
      have := value.links_le_height
      simp only [Stmt.most]
      omega
  | .declare _ _ e | .print _ e | .expr _ e => exact Nat.le_succ_of_le e.links_le_height
  | .return _ value => exact Nat.le_succ_of_le (Expr.most_links_le value.toList)
  | .host _ request => exact Nat.le_succ_of_le (Expr.most_links_le request.operands)
  | .break _ | .continue _ => exact Nat.zero_le _

theorem Stmt.linksAll_le_height (body : List Stmt) :
    Stmt.mostAll 0 Expr.links body ≤ Stmt.mostAll 1 Expr.height body := by
  match body with
  | [] => exact Nat.zero_le _
  | s :: rest =>
      have := s.links_le_height
      have := Stmt.linksAll_le_height rest
      simp only [Stmt.mostAll]
      omega

end

end HostScript
