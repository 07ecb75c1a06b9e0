import HostScript.Source.Grammar.Expression

/-!
# Writings of expressions

What the grammar of expressions is about, said without a parser. An expression in normal form has
operands that hold together at least as tightly as the grammar asks for, so that no parentheses
are needed besides those that the tree keeps as groups. A writing of an expression is a sequence
of kinds of tokens. The tree forgets little of it: whether a variable has its dollar sign, whether
a call has its word, whether a comma stands behind the last item of an array or an object, and
what kind of token names a property.

## Implementation notes

Ranks go from 1 for `||` to 6 for products; unary expressions have rank 7, accesses and primary
forms rank 8. Lists inside expressions are covered by functions of their own, so that everything
here is a recursion on the tree.
-/

namespace HostScript

/-! ### Ranks -/

/-- How tightly an operator binds. -/
def BinaryOp.rank : BinaryOp → Nat
  | .either => 1
  | .both => 2
  | .eq | .ne => 3
  | .lt | .le | .gt | .ge => 4
  | .add | .sub => 5
  | .mul | .div | .rem => 6

/-- The mark of a binary operator. -/
def BinaryOp.mark : BinaryOp → Mark
  | .add => .plus | .sub => .minus | .mul => .star | .div => .slash | .rem => .percent
  | .eq => .equal | .ne => .notEqual
  | .lt => .less | .le => .lessEqual | .gt => .greater | .ge => .greaterEqual
  | .both => .both | .either => .either

/-- The mark of a unary operator. -/
def UnaryOp.mark : UnaryOp → Mark
  | .neg => .minus
  | .not => .bang

/-- How tightly an expression holds together. -/
def Expr.rank : Expr → Nat
  | .binary _ op _ _ => op.rank
  | .unary _ _ _ => 7
  | _ => 8

theorem BinaryOp.rank_pos (op : BinaryOp) : 0 < op.rank := by
  cases op <;> decide

theorem BinaryOp.rank_lt (op : BinaryOp) : op.rank < 7 := by
  cases op <;> decide

theorem Expr.rank_pos (e : Expr) : 0 < e.rank := by
  cases e with
  | binary _ op _ _ => exact op.rank_pos
  | _ => exact Nat.succ_pos _

/-! ### Levels of the grammar -/

namespace Source

/-- The operators of the level are those of a rank. -/
def Level.OfRank (level : Level) (q : Nat) : Prop :=
  ∀ m op, level m = some op ↔ op.mark = m ∧ op.rank = q

/-- The ranks of levels go down by one, from below `q`. -/
def RankedFrom : Nat → List Level → Prop
  | _, [] => True
  | q, level :: rest => ∃ q', q = q' + 1 ∧ level.OfRank q' ∧ RankedFrom q' rest

theorem rankedFrom_levels : RankedFrom 7 levels := by
  refine ⟨6, rfl, ?_, 5, rfl, ?_, 4, rfl, ?_, 3, rfl, ?_, 2, rfl, ?_, 1, rfl, ?_, trivial⟩
  all_goals
    intro m op
    constructor
    · intro h
      cases m <;> cases h <;> exact ⟨rfl, rfl⟩
    · rintro ⟨rfl, h⟩
      cases op <;> cases h <;> rfl

/-- The operator of the level that a token stands for. -/
def operatorOf? (level : Level) : TokenKind → Option BinaryOp
  | .mark m => level m
  | _ => none

theorem Level.OfRank.operatorOf?_eq_some_iff {level : Level} {q : Nat} (of : level.OfRank q)
    {kind : TokenKind} {op : BinaryOp} :
    operatorOf? level kind = some op ↔ kind = .mark op.mark ∧ op.rank = q := by
  cases kind with
  | mark m => simpa [operatorOf?, eq_comm] using of m op
  | _ => simp [operatorOf?]

/-- Looking for an operator of a level reads nothing. -/
theorem operatorAt_eq (level : Level) (c : Cursor) :
    operatorAt level c = .ok (operatorOf? level c.next.kind, c) := by
  obtain ⟨last, _ | ⟨⟨kind, lexeme, loc⟩, rest⟩⟩ := c
  · rfl
  · cases kind <;> rfl

end Source

/-- The expression is neither an operator with its operands nor an access. -/
def Expr.primary : Expr → Bool
  | .binary _ _ _ _ | .unary _ _ _ | .member _ _ _ | .index _ _ _ => false
  | _ => true

/-! ### Normal form -/

mutual

/-- Operands hold together as tightly as the grammar asks for: the left operand of a binary
operator at least as tightly as the operator binds, the right one more tightly; the operand of a
unary operator is unary or an access; what is accessed is an access or primary. -/
def Expr.Normal : Expr → Prop
  | .binary _ op left right =>
    op.rank ≤ left.rank ∧ op.rank < right.rank ∧ left.Normal ∧ right.Normal
  | .unary _ _ operand => 7 ≤ operand.rank ∧ operand.Normal
  | .member _ base _ => 8 ≤ base.rank ∧ base.Normal
  | .index _ base position => 8 ≤ base.rank ∧ base.Normal ∧ position.Normal
  | .group _ inner => inner.Normal
  | .call _ _ args => Expr.NormalAll args
  | .array _ items => Expr.NormalAll items
  | .object _ entries => Expr.NormalEntries entries
  | .lit _ _ | .var _ _ | .template _ _ => True

/-- All of the expressions are in normal form. -/
def Expr.NormalAll : List Expr → Prop
  | [] => True
  | e :: rest => e.Normal ∧ Expr.NormalAll rest

/-- The values of all entries are in normal form. -/
def Expr.NormalEntries : List (String × Expr) → Prop
  | [] => True
  | (_, e) :: rest => e.Normal ∧ Expr.NormalEntries rest

end

theorem Expr.normalAll_iff {items : List Expr} :
    Expr.NormalAll items ↔ ∀ e ∈ items, e.Normal := by
  induction items with
  | nil => simp [Expr.NormalAll]
  | cons e rest ih => simp [Expr.NormalAll, ih]

theorem Expr.normalEntries_iff {entries : List (String × Expr)} :
    Expr.NormalEntries entries ↔ ∀ entry ∈ entries, entry.2.Normal := by
  induction entries with
  | nil => simp [Expr.NormalEntries]
  | cons entry rest ih => simp [Expr.NormalEntries, ih]

/-! ### Nesting -/

mutual

/-- How deeply unary and primary forms nest. What stands in brackets is inside the form that the
brackets belong to. -/
def Expr.nesting : Expr → Nat
  | .binary _ _ left right => max left.nesting right.nesting
  | .unary _ _ operand => operand.nesting + 1
  | .member _ base _ => base.nesting
  | .index _ base position => max base.nesting (position.nesting + 1)
  | .group _ inner => inner.nesting + 1
  | .call _ _ args => Expr.nestingAll args + 1
  | .array _ items => Expr.nestingAll items + 1
  | .object _ entries => Expr.nestingEntries entries + 1
  | .lit _ _ | .var _ _ | .template _ _ => 1

/-- The nesting of the deepest expression. -/
def Expr.nestingAll : List Expr → Nat
  | [] => 0
  | e :: rest => max e.nesting (Expr.nestingAll rest)

/-- The nesting of the deepest value. -/
def Expr.nestingEntries : List (String × Expr) → Nat
  | [] => 0
  | (_, e) :: rest => max e.nesting (Expr.nestingEntries rest)

end

theorem Expr.nesting_pos (e : Expr) : 0 < e.nesting := by
  match e with
  | .binary _ _ left _ => exact Nat.lt_of_lt_of_le left.nesting_pos (Nat.le_max_left _ _)
  | .member _ base _ => exact base.nesting_pos
  | .index _ base _ => exact Nat.lt_of_lt_of_le base.nesting_pos (Nat.le_max_left _ _)
  | .unary _ _ _ | .group _ _ | .call _ _ _ | .array _ _ | .object _ _ | .lit _ _ | .var _ _
  | .template _ _ => exact Nat.succ_pos _

theorem Expr.nestingAll_le_iff {items : List Expr} {room : Nat} :
    Expr.nestingAll items ≤ room ↔ ∀ e ∈ items, e.nesting ≤ room := by
  induction items with
  | nil => simp [Expr.nestingAll]
  | cons e rest ih => rw [Expr.nestingAll, Nat.max_le, ih, List.forall_mem_cons]

theorem Expr.nestingEntries_le_iff {entries : List (String × Expr)} {room : Nat} :
    Expr.nestingEntries entries ≤ room ↔ ∀ entry ∈ entries, entry.2.nesting ≤ room := by
  induction entries with
  | nil => simp [Expr.nestingEntries]
  | cons entry rest ih => rw [Expr.nestingEntries, Nat.max_le, ih, List.forall_mem_cons]

/-! ### Positions -/

mutual

/-- The expression without its positions. -/
def Expr.unplaced : Expr → Expr
  | .lit _ v => .lit .unknown v
  | .var _ name => .var .unknown name
  | .template _ parts => .template .unknown parts
  | .binary _ op left right => .binary .unknown op left.unplaced right.unplaced
  | .unary _ op operand => .unary .unknown op operand.unplaced
  | .member _ base key => .member .unknown base.unplaced key
  | .index _ base position => .index .unknown base.unplaced position.unplaced
  | .group _ inner => .group .unknown inner.unplaced
  | .call _ name args => .call .unknown name (Expr.unplacedAll args)
  | .array _ items => .array .unknown (Expr.unplacedAll items)
  | .object _ entries => .object .unknown (Expr.unplacedEntries entries)

/-- The expressions without their positions. -/
def Expr.unplacedAll : List Expr → List Expr
  | [] => []
  | e :: rest => e.unplaced :: Expr.unplacedAll rest

/-- The entries without positions in their values. -/
def Expr.unplacedEntries : List (String × Expr) → List (String × Expr)
  | [] => []
  | (key, e) :: rest => (key, e.unplaced) :: Expr.unplacedEntries rest

end

theorem Expr.unplacedAll_eq_map (es : List Expr) :
    Expr.unplacedAll es = es.map Expr.unplaced := by
  induction es with
  | nil => rfl
  | cons e rest ih => simp [Expr.unplacedAll, ih]

theorem Expr.unplacedEntries_eq_map (entries : List (String × Expr)) :
    Expr.unplacedEntries entries = entries.map fun entry => (entry.1, entry.2.unplaced) := by
  induction entries with
  | nil => rfl
  | cons entry rest ih => simp [Expr.unplacedEntries, ih]

/-! ### Writings -/

/-- The token of a constant. -/
def Literal.token : Literal → TokenKind
  | .undefined => .keyword .undefinedWord
  | .null => .keyword .nullWord
  | .bool true => .keyword .trueWord
  | .bool false => .keyword .falseWord
  | .number x => .number x
  | .text s => .text s

/-- The property that a token names behind a dot. -/
def TokenKind.memberName? : TokenKind → Option String
  | .name s => some s
  | .keyword k => some k.text
  | _ => none

/-- The property that a token names in an object. -/
def TokenKind.entryKey? : TokenKind → Option String
  | .name s => some s
  | .text s => some s
  | .var s => some s
  | .keyword k => some k.text
  | .number x => some (Number.display x)
  | _ => none

/-- Writings of items, separated by commas; `trailing` allows a comma behind the last item. -/
inductive Items {α : Type} (W : α → List TokenKind → Prop) (trailing : Bool) :
    List α → List TokenKind → Prop
  | none : Items W trailing [] []
  | last {a : α} {ts : List TokenKind} (item : W a ts) : Items W trailing [a] ts
  | comma {a : α} {rest : List α} {ts us : List TokenKind} (item : W a ts)
      (others : Items W trailing rest us) (end_ : rest = [] → trailing = true) :
      Items W trailing (a :: rest) (ts ++ .mark .comma :: us)

/-- Items and commas take turns. -/
theorem Items.length_le {α : Type} {W : α → List TokenKind → Prop} {trailing : Bool} {as : List α}
    {ts : List TokenKind} (items : Items W trailing as ts) : as.length ≤ ts.length + 1 := by
  induction items with
  | none => exact Nat.zero_le _
  | last item => exact Nat.le_add_left _ _
  | comma item others end_ ih =>
      simp only [List.length_cons, List.length_append]
      omega

/-- A writing of an entry of an object. -/
inductive Entry (W : Expr → List TokenKind → Prop) : String × Expr → List TokenKind → Prop
  | mk {key : String} {kind : TokenKind} {e : Expr} {ts : List TokenKind}
      (named : kind.entryKey? = some key) (value : W e ts) :
      Entry W (key, e) (kind :: .mark .colon :: ts)

/-- The tokens are a writing of the expression. -/
inductive Expr.Writing : Expr → List TokenKind → Prop
  | lit (loc : Location) (v : Literal) : Writing (.lit loc v) [v.token]
  | template (loc : Location) (parts : List TemplatePart) :
      Writing (.template loc parts) [.template parts]
  /-- A variable may be written without its dollar sign. -/
  | bare (loc : Location) (name : String) : Writing (.var loc name) [.name name]
  | dollar (loc : Location) (name : String) : Writing (.var loc name) [.var name]
  | group {loc : Location} {e : Expr} {ts : List TokenKind} (inner : Writing e ts) :
      Writing (.group loc e) (.mark .openParen :: (ts ++ [.mark .closeParen]))
  | array {loc : Location} {es : List Expr} {ts : List TokenKind}
      (items : Items Writing true es ts) :
      Writing (.array loc es) (.mark .openBracket :: (ts ++ [.mark .closeBracket]))
  | object {loc : Location} {pairs : List (String × Expr)} {ts : List TokenKind}
      (entries : Items (Entry Writing) true pairs ts) :
      Writing (.object loc pairs) (.mark .openBrace :: (ts ++ [.mark .closeBrace]))
  | call {loc : Location} {name : String} {es : List Expr} {ts : List TokenKind}
      (args : Items Writing false es ts) :
      Writing (.call loc name es) (.name name :: .mark .openParen :: (ts ++ [.mark .closeParen]))
  /-- A call may be written with the word `call`. -/
  | callWord {loc : Location} {name : String} {es : List Expr} {ts : List TokenKind}
      (args : Items Writing false es ts) :
      Writing (.call loc name es)
        (.keyword .callWord :: .name name :: .mark .openParen :: (ts ++ [.mark .closeParen]))
  | member {loc : Location} {base : Expr} {key : String} {kind : TokenKind} {ts : List TokenKind}
      (of : Writing base ts) (named : kind.memberName? = some key) :
      Writing (.member loc base key) (ts ++ [.mark .dot, kind])
  | index {loc : Location} {base position : Expr} {ts us : List TokenKind}
      (of : Writing base ts) (at_ : Writing position us) :
      Writing (.index loc base position)
        (ts ++ .mark .openBracket :: (us ++ [.mark .closeBracket]))
  | unary {loc : Location} {op : UnaryOp} {e : Expr} {ts : List TokenKind}
      (operand : Writing e ts) : Writing (.unary loc op e) (.mark op.mark :: ts)
  | binary {loc : Location} {op : BinaryOp} {l r : Expr} {ts us : List TokenKind}
      (left : Writing l ts) (right : Writing r us) :
      Writing (.binary loc op l r) (ts ++ .mark op.mark :: us)

/-! ### Where an expression ends -/

/-- The token opens the arguments of a call, by the name right before it on the line. -/
def Token.Opens (next : Token) (line : Nat) (before : Option TokenKind) : Prop :=
  next.kind = .mark .openParen ∧ next.loc.line = line ∧ ∃ name, before = some (.name name)

/-- The token can continue an expression of rank `q` that ends on the line with the token before
it: by an operator, by an access, or by the arguments of a call. -/
def Token.Continues (q : Nat) (next : Token) (line : Nat) (before : Option TokenKind) : Prop :=
  (∃ op : BinaryOp, q ≤ op.rank ∧ next.kind = .mark op.mark) ∨
  next.kind = .mark .dot ∨
  (next.kind = .mark .openBracket ∧ next.loc.line = line) ∨
  next.Opens line before

theorem Token.Continues.mono {q q' : Nat} {next : Token} {line : Nat} {before : Option TokenKind}
    (h : next.Continues q line before) (le : q' ≤ q) : next.Continues q' line before := by
  obtain ⟨op, higher, here⟩ | others := h
  · exact .inl ⟨op, Nat.le_trans le higher, here⟩
  · exact .inr others

/-- The mark stands behind an item of a list, or behind the last one. -/
def Mark.delimits : Mark → Bool
  | .comma | .closeParen | .closeBracket | .closeBrace => true
  | _ => false

theorem BinaryOp.mark_injective {op op' : BinaryOp} (h : op.mark = op'.mark) : op = op' := by
  cases op <;> cases op' <;> first | rfl | cases h

/-- An operator does not continue an operand of a higher rank. -/
theorem Token.not_continues_of_operator {q : Nat} {next : Token} {op : BinaryOp}
    (here : next.kind = .mark op.mark) (lower : op.rank < q) (line : Nat)
    (before : Option TokenKind) : ¬ next.Continues q line before := by
  have other (m : Mark) (h : ∀ op : BinaryOp, op.mark ≠ m) : next.kind ≠ .mark m := by
    rw [here]
    exact fun same => h op (TokenKind.mark.inj same)
  rintro (⟨op', higher, same⟩ | dot | ⟨bracket, -⟩ | ⟨paren, -⟩)
  · rw [here] at same
    obtain rfl := BinaryOp.mark_injective (TokenKind.mark.inj same)
    exact absurd higher (Nat.not_le.mpr lower)
  · exact other .dot (fun op => by cases op <;> decide) dot
  · exact other .openBracket (fun op => by cases op <;> decide) bracket
  · exact other .openParen (fun op => by cases op <;> decide) paren

/-- What stands behind an item does not continue it. -/
theorem Token.not_continues_of_delimits {next : Token} {m : Mark} (here : next.kind = .mark m)
    (delimits : m.delimits = true) (q line : Nat) (before : Option TokenKind) :
    ¬ next.Continues q line before := by
  have other (m' : Mark) (h : m'.delimits = false) : next.kind ≠ .mark m' := by
    rw [here]
    intro same
    rw [TokenKind.mark.inj same, h] at delimits
    cases delimits
  rintro (⟨op, -, operator⟩ | dot | ⟨bracket, -⟩ | ⟨paren, -⟩)
  · exact other op.mark (by cases op <;> rfl) operator
  · exact other .dot rfl dot
  · exact other .openBracket rfl bracket
  · exact other .openParen rfl paren

/-! ### How writings begin and end -/

/-- A writing begins with a token that can start an expression, and that of an access or a primary
form not with an operator. -/
theorem Expr.exists_head {ts : List TokenKind} (e : Expr) (normal : e.Normal)
    (h : e.Writing ts) : ∃ kind rest, ts = kind :: rest ∧ Source.startsExpr kind = true ∧
      (8 ≤ e.rank → ∀ op : UnaryOp, kind ≠ .mark op.mark) := by
  have mark (m : Mark) (other : m ≠ .minus ∧ m ≠ .bang) (op : UnaryOp) :
      TokenKind.mark m ≠ .mark op.mark := by
    intro same
    cases op with
    | neg => exact other.1 (TokenKind.mark.inj same)
    | not => exact other.2 (TokenKind.mark.inj same)
  match e, h with
  | _, .lit _ v =>
      refine ⟨_, _, rfl, ?_, fun _ op => ?_⟩
      · cases v with
        | bool b => cases b <;> rfl
        | _ => rfl
      · cases v with
        | bool b => cases b <;> exact nofun
        | _ => exact nofun
  | _, .template _ _ => exact ⟨_, _, rfl, rfl, fun _ _ => nofun⟩
  | _, .bare _ _ => exact ⟨_, _, rfl, rfl, fun _ _ => nofun⟩
  | _, .dollar _ _ => exact ⟨_, _, rfl, rfl, fun _ _ => nofun⟩
  | _, .call _ => exact ⟨_, _, rfl, rfl, fun _ _ => nofun⟩
  | _, .callWord _ => exact ⟨_, _, rfl, rfl, fun _ _ => nofun⟩
  | _, .group _ => exact ⟨_, _, rfl, rfl, fun _ => mark _ (by decide)⟩
  | _, .array _ => exact ⟨_, _, rfl, rfl, fun _ => mark _ (by decide)⟩
  | _, .object _ => exact ⟨_, _, rfl, rfl, fun _ => mark _ (by decide)⟩
  | .unary _ op _, .unary _ =>
      refine ⟨_, _, rfl, ?_, fun rank => absurd rank (Nat.not_succ_le_self 7)⟩
      cases op <;> rfl
  | .binary _ op left _, .binary hleft _ =>
      obtain ⟨kind, rest, rfl, starts, -⟩ := left.exists_head normal.2.2.1 hleft
      refine ⟨kind, _, rfl, starts, fun rank => ?_⟩
      exact absurd rank (Nat.not_le.mpr (Nat.lt_succ_of_lt op.rank_lt))
  | .member _ base _, .member of _ =>
      obtain ⟨kind, rest, rfl, starts, plain⟩ := base.exists_head normal.2 of
      exact ⟨kind, _, rfl, starts, fun _ => plain normal.1⟩
  | .index _ base _, .index of _ =>
      obtain ⟨kind, rest, rfl, starts, plain⟩ := base.exists_head normal.2.1 of
      exact ⟨kind, _, rfl, starts, fun _ => plain normal.1⟩

/-- No writing begins with a mark that stands behind items. -/
theorem Expr.head_ne_mark {e : Expr} {ts : List TokenKind} (normal : e.Normal)
    (h : e.Writing ts) {m : Mark} (delimits : m.delimits = true) :
    ∃ kind rest, ts = kind :: rest ∧ kind ≠ .mark m := by
  obtain ⟨kind, rest, rfl, starts, -⟩ := e.exists_head normal h
  refine ⟨kind, rest, rfl, ?_⟩
  rintro rfl
  cases m <;> first | exact absurd starts (by decide) | cases delimits

theorem Entry.head_ne_mark {W : Expr → List TokenKind → Prop} {entry : String × Expr}
    {ts : List TokenKind} (h : Entry W entry ts) (m : Mark) :
    ∃ kind rest, ts = kind :: rest ∧ kind ≠ .mark m := by
  obtain ⟨named, value⟩ := h
  refine ⟨_, _, rfl, ?_⟩
  rintro rfl
  cases named

/-! ### Every expression can be written -/

theorem Items.exists_cons {α : Type} {W : α → List TokenKind → Prop} {trailing : Bool} {a : α}
    {rest : List α} (item : ∃ ts, W a ts) (others : ∃ us, Items W trailing rest us) :
    ∃ ts, Items W trailing (a :: rest) ts := by
  obtain ⟨ts, item⟩ := item
  obtain ⟨us, others⟩ := others
  cases rest with
  | nil => exact ⟨ts, .last item⟩
  | cons b more => exact ⟨_, .comma item others (nomatch ·)⟩

mutual

theorem Expr.exists_writing (e : Expr) : ∃ ts, e.Writing ts := by
  match e with
  | .lit loc v => exact ⟨_, .lit loc v⟩
  | .var loc name => exact ⟨_, .bare loc name⟩
  | .template loc parts => exact ⟨_, .template loc parts⟩
  | .group _ inner =>
      obtain ⟨_, h⟩ := inner.exists_writing
      exact ⟨_, .group h⟩
  | .unary _ _ operand =>
      obtain ⟨_, h⟩ := operand.exists_writing
      exact ⟨_, .unary h⟩
  | .binary _ _ left right =>
      obtain ⟨_, hl⟩ := left.exists_writing
      obtain ⟨_, hr⟩ := right.exists_writing
      exact ⟨_, .binary hl hr⟩
  | .member _ base key =>
      obtain ⟨_, h⟩ := base.exists_writing
      exact ⟨_, .member h (show (TokenKind.name key).memberName? = some key from rfl)⟩
  | .index _ base position =>
      obtain ⟨_, hb⟩ := base.exists_writing
      obtain ⟨_, hp⟩ := position.exists_writing
      exact ⟨_, .index hb hp⟩
  | .call _ _ args =>
      obtain ⟨_, h⟩ := Expr.exists_items false args
      exact ⟨_, .call h⟩
  | .array _ items =>
      obtain ⟨_, h⟩ := Expr.exists_items true items
      exact ⟨_, .array h⟩
  | .object _ entries =>
      obtain ⟨_, h⟩ := Expr.exists_entries entries
      exact ⟨_, .object h⟩

theorem Expr.exists_items (trailing : Bool) (es : List Expr) :
    ∃ ts, Items Expr.Writing trailing es ts := by
  match es with
  | [] => exact ⟨[], .none⟩
  | e :: rest => exact Items.exists_cons e.exists_writing (Expr.exists_items trailing rest)

theorem Expr.exists_entries (entries : List (String × Expr)) :
    ∃ ts, Items (Entry Expr.Writing) true entries ts := by
  match entries with
  | [] => exact ⟨[], .none⟩
  | (key, e) :: rest =>
      obtain ⟨ts, value⟩ := e.exists_writing
      have named : (TokenKind.text key).entryKey? = some key := rfl
      exact Items.exists_cons ⟨_, .mk named value⟩ (Expr.exists_entries rest)

end

end HostScript
