import HostScript.Proofs.Grammar.Writing
import HostScript.Proofs.Parsing

/-!
# The grammar of expressions reads every writing

The tokens of an expression in normal form, on one line and before a token that does not continue
the expression, are read as this expression, and reading stops before that token.

## Implementation notes

Operators of one level are read by a loop that builds its result up from the left, and so are
accesses. A tree of such a form is taken apart from the right, though. So `chain_spine` and
`access_spine` say of a tree how far a loop is when it has read the tokens of the tree: with `k`
rounds behind it, it is where another one with the tree in hand would start. Both are recursions
on the left side of the tree; what stands in brackets nests one level deeper, and is left to the
induction on the levels.
-/

namespace HostScript.Source

/-! ### Parsers that succeed at a cursor -/

section Making

variable {α β : Type}

/-- The parser gets from one cursor to another, and makes something with the property. -/
def Makes (p : Parser α) (P : α → Prop) (c c' : Cursor) : Prop := ∃ a, P a ∧ p c = .ok (a, c')

namespace Makes

variable {p : Parser α} {next : α → Parser β} {P : α → Prop} {R : β → Prop} {c c₁ c' : Cursor}
  {a : α}

theorem pure (h : P a) : Makes (Pure.pure a : Parser α) P c c := ⟨a, h, rfl⟩

theorem bind (first : Makes p P c c₁) (then_ : ∀ a, P a → Makes (next a) R c₁ c') :
    Makes (p >>= next) R c c' := by
  obtain ⟨a, ha, made⟩ := first
  obtain ⟨b, hb, made'⟩ := then_ a ha
  exact ⟨b, hb, (bind_eq_of_ok made).trans made'⟩

/-- What the first parser makes is known. -/
theorem step (first : p c = .ok (a, c₁)) (then_ : Makes (next a) R c₁ c') :
    Makes (p >>= next) R c c' := by
  obtain ⟨b, hb, made⟩ := then_
  exact ⟨b, hb, (bind_eq_of_ok first).trans made⟩

end Makes

variable {last line : Nat} {t : Token} {rest : List Token} {m : Mark} {c : Cursor}

theorem peek_eq : peek ⟨last, t :: rest⟩ = .ok (t, ⟨last, t :: rest⟩) := rfl

theorem advance_eq (line_t : t.loc.line = line) :
    advance ⟨last, t :: rest⟩ = .ok ((), ⟨line, rest⟩) := by
  rw [← line_t]
  rfl

theorem eatMark_eq_true (here : t.kind = .mark m) (line_t : t.loc.line = line) :
    eatMark m ⟨last, t :: rest⟩ = .ok (true, ⟨line, rest⟩) := by
  have found : (Cursor.next ⟨last, t :: rest⟩).kind == .mark m := beq_iff_eq.mpr here
  simp only [eatMark, found, if_true, ← line_t]
  rfl

theorem eatMark_eq_false (other : c.next.kind ≠ .mark m) : eatMark m c = .ok (false, c) := by
  simp only [eatMark, beq_eq_false_iff_ne.mpr other, Bool.false_eq_true, if_false]

theorem expectMark_eq (here : t.kind = .mark m) (line_t : t.loc.line = line) (what : String) :
    expectMark m what ⟨last, t :: rest⟩ = .ok ((), ⟨line, rest⟩) := by
  rw [expectMark, bind_eq_of_ok (eatMark_eq_true here line_t)]
  rfl

theorem atMark_eq_true (here : t.kind = .mark m) :
    atMark m ⟨last, t :: rest⟩ = .ok (true, ⟨last, t :: rest⟩) := by
  have found : (Cursor.next ⟨last, t :: rest⟩).kind == .mark m := beq_iff_eq.mpr here
  simp only [atMark, found]

theorem atMark_eq_false (other : c.next.kind ≠ .mark m) : atMark m c = .ok (false, c) := by
  simp only [atMark, beq_eq_false_iff_ne.mpr other]

end Making

/-! ### Tokens on a line -/

/-- The tokens are of the given kinds and all on one line. -/
structure OnLine (line : Nat) (toks : List Token) (ts : List TokenKind) : Prop where
  kinds : toks.map Token.kind = ts
  lines : ∀ t ∈ toks, t.loc.line = line

namespace OnLine

variable {line : Nat} {toks : List Token} {kind : TokenKind} {ts us : List TokenKind}

theorem nil (h : OnLine line toks []) : toks = [] := List.map_eq_nil_iff.mp h.kinds

theorem cons (h : OnLine line toks (kind :: ts)) :
    ∃ t rest, toks = t :: rest ∧ t.kind = kind ∧ t.loc.line = line ∧ OnLine line rest ts := by
  obtain ⟨t, rest, rfl, here, kinds⟩ := List.map_eq_cons_iff.mp h.kinds
  refine ⟨t, rest, rfl, here, h.lines t List.mem_cons_self, kinds, fun x mem => ?_⟩
  exact h.lines x (List.mem_cons_of_mem t mem)

theorem append (h : OnLine line toks (ts ++ us)) :
    ∃ front back, toks = front ++ back ∧ OnLine line front ts ∧ OnLine line back us := by
  obtain ⟨front, back, rfl, kinds, kinds'⟩ := List.map_eq_append_iff.mp h.kinds
  refine ⟨front, back, rfl, ⟨kinds, fun x mem => ?_⟩, ⟨kinds', fun x mem => ?_⟩⟩
  · exact h.lines x (List.mem_append_left back mem)
  · exact h.lines x (List.mem_append_right front mem)

theorem single (h : OnLine line toks [kind]) :
    ∃ t, toks = [t] ∧ t.kind = kind ∧ t.loc.line = line := by
  obtain ⟨t, rest, rfl, here, line_t, restLine⟩ := h.cons
  obtain rfl := restLine.nil
  exact ⟨t, rfl, here, line_t⟩

/-- What stands between two tokens. -/
theorem enclosed {kind' : TokenKind} (h : OnLine line toks (kind :: (ts ++ [kind']))) :
    ∃ t inside close, toks = t :: (inside ++ [close]) ∧ t.kind = kind ∧ t.loc.line = line ∧
      OnLine line inside ts ∧ close.kind = kind' ∧ close.loc.line = line := by
  obtain ⟨t, rest, rfl, here, line_t, restLine⟩ := h.cons
  obtain ⟨inside, back, rfl, insideLine, backLine⟩ := restLine.append
  obtain ⟨close, rfl, closes, line_close⟩ := backLine.single
  exact ⟨t, inside, close, rfl, here, line_t, insideLine, closes, line_close⟩

/-- The first token is not the mark that none of the writings begins with. -/
theorem next_ne {m : Mark} (h : OnLine line toks ts)
    (head : ∃ kind rest, ts = kind :: rest ∧ kind ≠ .mark m) (last : Nat) (tail : List Token) :
    (Cursor.next ⟨last, toks ++ tail⟩).kind ≠ .mark m := by
  obtain ⟨kind, rest, rfl, differs⟩ := head
  obtain ⟨t, rest, rfl, rfl, -⟩ := h.cons
  exact differs

end OnLine

/-! ### Binary operators -/

/-- The parser reads every writing of expressions in normal form of rank at least `q` that nest at
most `room` levels, and stops behind it. -/
def Complete (q room : Nat) (p : Parser Expr) : Prop :=
  ∀ ⦃e : Expr⦄ ⦃ts : List TokenKind⦄ ⦃line : Nat⦄ ⦃toks tail : List Token⦄ (last : Nat),
    e.Normal → q ≤ e.rank → e.nesting ≤ room → e.Writing ts → OnLine line toks ts →
    ¬ (Cursor.next ⟨line, tail⟩).Continues q line ts.getLast? →
    Makes p (fun e' => e'.unplaced = e.unplaced) ⟨last, toks ++ tail⟩ ⟨line, tail⟩

section Operators

variable {q room line : Nat} {level : Level} {operand : Parser Expr}

/-- The loop of a level ends before a token that is not an operator of the level. -/
theorem chainFrom_eq (of : level.OfRank q) {c : Cursor}
    (other : ∀ op : BinaryOp, op.rank = q → c.next.kind ≠ .mark op.mark) (n : Nat) (left : Expr) :
    chainFrom level operand n left c = .ok (left, c) := by
  cases n with
  | zero => rfl
  | succ n =>
      have none_ : operatorOf? level c.next.kind = none := by
        refine Option.eq_none_iff_forall_ne_some.mpr fun op found => ?_
        obtain ⟨here, rank⟩ := of.operatorOf?_eq_some_iff.mp found
        exact other op rank here
      rw [chainFrom, bind_eq_of_ok (operatorAt_eq level c), none_]
      rfl

/-- After `k` rounds, the loop of a level has read the tokens of a tree and holds the tree. -/
theorem chain_spine (of : level.OfRank q) (below : q < 7) (h : Complete (q + 1) room operand)
    (e : Expr) {ts : List TokenKind} {toks tail : List Token} (last : Nat) (normal : e.Normal)
    (rank : q ≤ e.rank) (nesting : e.nesting ≤ room) (writing : e.Writing ts)
    (onLine : OnLine line toks ts)
    (ends : ¬ (Cursor.next ⟨line, tail⟩).Continues (q + 1) line ts.getLast?) :
    ∃ left c₁ k e', operand ⟨last, toks ++ tail⟩ = .ok (left, c₁) ∧
      k + tail.length ≤ c₁.rest.length ∧ e'.unplaced = e.unplaced ∧
      ∀ n, chainFrom level operand (n + k) left c₁ =
        chainFrom level operand n e' ⟨line, tail⟩ := by
  by_cases tight : q + 1 ≤ e.rank
  · obtain ⟨e', same, made⟩ := h last normal tight nesting writing onLine ends
    exact ⟨e', _, 0, e', made, Nat.le_of_eq (Nat.zero_add _), same, fun n => rfl⟩
  · have level_rank : e.rank = q := Nat.le_antisymm (Nat.le_of_not_lt tight) rank
    match e with
    | .binary loc op l r =>
        obtain ⟨leftRank, rightRank, leftNormal, rightNormal⟩ := normal
        obtain ⟨leftNesting, rightNesting⟩ := Nat.max_le.mp nesting
        have opRank : op.rank = q := level_rank
        rw [opRank] at leftRank rightRank
        cases writing with
        | @binary _ _ _ _ ls rs hl hr =>
            obtain ⟨ltoks, back, rfl, leftLine, backLine⟩ := onLine.append
            obtain ⟨t, rtoks, rfl, here, line_t, rightLine⟩ := backLine.cons
            -- the operator ends its left operand, and what ends the tree ends the right one
            have leftEnds : ¬ (Cursor.next ⟨line, t :: (rtoks ++ tail)⟩).Continues (q + 1) line
                ls.getLast? :=
              Token.not_continues_of_operator here (Nat.lt_succ_of_le (Nat.le_of_eq opRank)) _ _
            obtain ⟨left, c₁, k, l', first, enough, sameLeft, reached⟩ :=
              chain_spine of below h l last leftNormal leftRank leftNesting hl leftLine leftEnds
            have rightEnds : ¬ (Cursor.next ⟨line, tail⟩).Continues (q + 1) line rs.getLast? := by
              obtain ⟨kind, rest, rfl, -⟩ := r.exists_head rightNormal hr
              simpa [List.getLast?_cons] using ends
            have found : operatorOf? level (Cursor.next ⟨line, t :: (rtoks ++ tail)⟩).kind =
                some op := of.operatorOf?_eq_some_iff.mpr ⟨here, opRank⟩
            obtain ⟨r', sameRight, made⟩ :=
              h line rightNormal rightRank rightNesting hr rightLine rightEnds
            refine ⟨left, c₁, k + 1, .binary l'.loc op l' r', ?_, ?_, ?_, fun n => ?_⟩
            · simpa using first
            · simp at enough
              omega
            · simp only [Expr.unplaced, sameLeft, sameRight]
            · rw [show n + (k + 1) = n + 1 + k by omega, reached, chainFrom,
                bind_eq_of_ok (operatorAt_eq _ _), found]
              dsimp only
              rw [bind_eq_of_ok (advance_eq line_t), bind_eq_of_ok made]
    | .unary _ _ _ => exact absurd level_rank (Nat.ne_of_gt below)
    | .lit _ _ | .var _ _ | .template _ _ | .group _ _ | .array _ _ | .object _ _ | .call _ _ _
    | .member _ _ _ | .index _ _ _ =>
        exact absurd level_rank (Nat.ne_of_gt (Nat.lt_succ_of_lt below))

theorem complete_chain (of : level.OfRank q) (below : q < 7) (h : Complete (q + 1) room operand) :
    Complete q room (chain level operand) := by
  intro e ts line toks tail last normal rank nesting writing onLine ends
  have tighter : ¬ (Cursor.next ⟨line, tail⟩).Continues (q + 1) line ts.getLast? :=
    fun continues => ends (continues.mono (Nat.le_succ q))
  obtain ⟨left, c₁, k, e', first, enough, same, reached⟩ :=
    chain_spine of below h e last normal rank nesting writing onLine tighter
  have other (op : BinaryOp) (opRank : op.rank = q) :
      (Cursor.next ⟨line, tail⟩).kind ≠ .mark op.mark :=
    fun here => ends (.inl ⟨op, Nat.le_of_eq opRank.symm, here⟩)
  obtain ⟨n, rounds⟩ : ∃ n, c₁.rest.length = n + k := ⟨c₁.rest.length - k, by omega⟩
  refine ⟨e', same, ?_⟩
  rw [chain, bind_eq_of_ok first]
  change chainFrom level operand c₁.rest.length left c₁ = _
  rw [rounds, reached, chainFrom_eq of other]

theorem complete_levels {levels : List Level} (ranked : RankedFrom q levels) (below : q ≤ 7)
    (h : Complete q room operand) :
    Complete (q - levels.length) room
      (levels.foldl (fun operand level => chain level operand) operand) := by
  induction levels generalizing q operand with
  | nil => exact h
  | cons level rest ih =>
      obtain ⟨q, rfl, of, others⟩ := ranked
      have next := ih others (Nat.le_of_succ_le below) (complete_chain of below h)
      simpa using next

theorem complete_exprOver {unary : Parser Expr} (h : Complete 7 room unary) :
    Complete 1 room (exprOver unary) :=
  complete_levels rankedFrom_levels (Nat.le_refl 7) h

end Operators

/-! ### Lists -/

section Lists

variable {α β : Type} {W : α → List TokenKind → Prop} {item : Parser α} {shape : α → β}
  {line : Nat}

/-- The next token stands behind an item of a list. -/
def Cursor.Delimited (c : Cursor) : Prop := ∃ m : Mark, m.delimits = true ∧ c.next.kind = .mark m

/-- The parser reads every writing of an item of a list, and makes something of the same shape. -/
def ItemComplete (W : α → List TokenKind → Prop) (shape : α → β) (item : Parser α) (a : α) : Prop :=
  ∀ ⦃ts : List TokenKind⦄ ⦃line : Nat⦄ ⦃toks tail : List Token⦄ (last : Nat),
    W a ts → OnLine line toks ts → (Cursor.mk line tail).Delimited →
    Makes item (fun a' => shape a' = shape a) ⟨last, toks ++ tail⟩ ⟨line, tail⟩

theorem Cursor.delimited_cons {t : Token} {m : Mark} (here : t.kind = .mark m)
    (delimits : m.delimits = true) (line : Nat) (tail : List Token) :
    (Cursor.mk line (t :: tail)).Delimited := ⟨m, delimits, here⟩

/-- Where there is no comma there are no further items. -/
theorem commaTail_eq_nil {c : Cursor} (other : c.next.kind ≠ .mark .comma) (n : Nat) :
    commaTail item n c = .ok ([], c) := by
  cases n with
  | zero => rfl
  | succ n =>
      rw [commaTail, bind_eq_of_ok (eatMark_eq_false other)]
      rfl

theorem OnLine.length_le {trailing : Bool} {as : List α} {ts : List TokenKind} {toks : List Token}
    (onLine : OnLine line toks ts) (items : Items W trailing as ts) :
    as.length ≤ toks.length + 1 := by
  rw [← toks.length_map Token.kind, onLine.kinds]
  exact items.length_le

theorem makes_commaTail {as : List α} {us : List TokenKind} (items : Items W false as us)
    (h : ∀ a ∈ as, ItemComplete W shape item a) {t : Token} {toks tail : List Token}
    (comma : t.kind = .mark .comma) (line_t : t.loc.line = line) (some_ : as ≠ [])
    (onLine : OnLine line toks us) (delimited : (Cursor.mk line tail).Delimited)
    (other : (Cursor.next ⟨line, tail⟩).kind ≠ .mark .comma) {n : Nat} (enough : as.length ≤ n) :
    Makes (commaTail item n) (fun as' => as'.map shape = as.map shape)
      ⟨line, t :: (toks ++ tail)⟩ ⟨line, tail⟩ := by
  induction items generalizing t toks n with
  | none => exact absurd rfl some_
  | @last a ts first =>
      obtain ⟨n, rfl⟩ := Nat.exists_eq_add_of_le' enough
      refine .step (eatMark_eq_true comma line_t) ?_
      refine (h a List.mem_cons_self line first onLine delimited).bind fun a' same => ?_
      exact .step (commaTail_eq_nil other n) (.pure (by simp [same]))
  | @comma a rest ts us first others end_ ih =>
      obtain ⟨n, rfl⟩ := Nat.exists_eq_add_of_le' (Nat.le_of_add_left_le enough)
      obtain ⟨front, back, rfl, frontLine, backLine⟩ := onLine.append
      obtain ⟨t', back, rfl, comma', line_t', backLine⟩ := backLine.cons
      have more : rest ≠ [] := fun none => nomatch end_ none
      refine .step (eatMark_eq_true comma line_t) ?_
      rw [List.append_assoc, List.cons_append]
      refine (h a List.mem_cons_self line first frontLine
        (Cursor.delimited_cons comma' rfl line _)).bind fun a' same => ?_
      refine (ih (fun a mem => h a (List.mem_cons_of_mem _ mem)) comma' line_t' more backLine
        (Nat.le_of_succ_le_succ enough)).bind fun as' same' => ?_
      exact .pure (by simp [same, same'])

theorem makes_commaList {as : List α} {ts : List TokenKind} (items : Items W false as ts)
    (h : ∀ a ∈ as, ItemComplete W shape item a) {toks tail : List Token} (some_ : as ≠ [])
    (onLine : OnLine line toks ts) (delimited : (Cursor.mk line tail).Delimited)
    (other : (Cursor.next ⟨line, tail⟩).kind ≠ .mark .comma) :
    Makes (commaList item) (fun as' => as'.map shape = as.map shape)
      ⟨line, toks ++ tail⟩ ⟨line, tail⟩ := by
  cases items with
  | none => exact absurd rfl some_
  | @last a ts first =>
      refine (h a List.mem_cons_self line first onLine delimited).bind fun a' same => ?_
      refine .step (rfl : tokensLeft _ = _) (.step (commaTail_eq_nil other _) (.pure ?_))
      simp [same]
  | @comma a rest ts us first others end_ =>
      obtain ⟨front, back, rfl, frontLine, backLine⟩ := onLine.append
      obtain ⟨t, back, rfl, comma, line_t, backLine⟩ := backLine.cons
      have more : rest ≠ [] := fun none => nomatch end_ none
      have enough : rest.length ≤ (t :: (back ++ tail)).length := by
        have turns := backLine.length_le others
        simp only [List.length_cons, List.length_append]
        omega
      rw [List.append_assoc, List.cons_append]
      refine (h a List.mem_cons_self line first frontLine
        (Cursor.delimited_cons comma rfl line _)).bind fun a' same => ?_
      refine .step (rfl : tokensLeft _ = _) ?_
      refine (makes_commaTail others (fun a mem => h a (List.mem_cons_of_mem _ mem)) comma line_t
        more backLine delimited other enough).bind fun as' same' => ?_
      exact .pure (by simp [same, same'])

/-- The items up to the mark that closes them, which none of them begins with. -/
theorem makes_itemsUntil {close : Mark} (delimits : close.delimits = true)
    (other : close ≠ .comma) {as : List α} {ts : List TokenKind} (items : Items W true as ts)
    (h : ∀ a ∈ as, ItemComplete W shape item a)
    (head : ∀ a ∈ as, ∀ ts, W a ts → ∃ kind rest, ts = kind :: rest ∧ kind ≠ .mark close)
    {t : Token} {toks tail : List Token} (closes : t.kind = .mark close)
    (onLine : OnLine line toks ts) {n : Nat} (enough : as.length ≤ n) :
    Makes (itemsUntil close item n) (fun as' => as'.map shape = as.map shape)
      ⟨line, toks ++ t :: tail⟩ ⟨line, t :: tail⟩ := by
  have past : (Cursor.next ⟨line, t :: tail⟩).kind ≠ .mark .comma := by
    change t.kind ≠ _
    rw [closes]
    exact fun same => other (TokenKind.mark.inj same)
  induction items generalizing toks n with
  | none =>
      obtain rfl := onLine.nil
      cases n with
      | zero => exact .pure rfl
      | succ n => exact .step (atMark_eq_true closes) (.pure rfl)
  | @last a ts first =>
      obtain ⟨n, rfl⟩ := Nat.exists_eq_add_of_le' enough
      have here := head a List.mem_cons_self ts first
      refine .step (atMark_eq_false (onLine.next_ne here line _)) ?_
      refine (h a List.mem_cons_self line first onLine
        (Cursor.delimited_cons closes delimits line tail)).bind fun a' same => ?_
      exact .step (eatMark_eq_false past) (.pure (by simp [same]))
  | @comma a rest ts us first others end_ ih =>
      obtain ⟨n, rfl⟩ := Nat.exists_eq_add_of_le' (Nat.le_of_add_left_le enough)
      obtain ⟨front, back, rfl, frontLine, backLine⟩ := onLine.append
      obtain ⟨t', back, rfl, comma, line_t, backLine⟩ := backLine.cons
      have here := head a List.mem_cons_self ts first
      rw [List.append_assoc, List.cons_append]
      refine .step (atMark_eq_false (frontLine.next_ne here line _)) ?_
      refine (h a List.mem_cons_self line first frontLine
        (Cursor.delimited_cons comma rfl line _)).bind fun a' same => ?_
      refine .step (eatMark_eq_true comma line_t) ?_
      refine (ih (fun a mem => h a (List.mem_cons_of_mem _ mem))
        (fun a mem => head a (List.mem_cons_of_mem _ mem)) backLine
        (Nat.le_of_succ_le_succ enough)).bind fun as' same' => ?_
      exact .pure (by simp [same, same'])

/-- An expression that is made of items, between its opening token and the mark that closes
it. -/
theorem makes_between {close : Mark} (delimits : close.delimits = true) (other : close ≠ .comma)
    {as : List α} {ts : List TokenKind} (items : Items W true as ts)
    (h : ∀ a ∈ as, ItemComplete W shape item a)
    (head : ∀ a ∈ as, ∀ ts, W a ts → ∃ kind rest, ts = kind :: rest ∧ kind ≠ .mark close)
    {t t' : Token} {toks tail : List Token} (line_t : t.loc.line = line)
    (onLine : OnLine line toks ts) (closes : t'.kind = .mark close)
    (line_close : t'.loc.line = line) {make : List α → Expr} {e : Expr}
    (made : ∀ as', as'.map shape = as.map shape → (make as').unplaced = e.unplaced) (last : Nat)
    (what : String) :
    Makes (do
        advance
        let as ← itemsUntil close item (← tokensLeft)
        expectMark close what
        return make as)
      (fun e' => e'.unplaced = e.unplaced) ⟨last, t :: (toks ++ t' :: tail)⟩ ⟨line, tail⟩ := by
  have enough : as.length ≤ (toks ++ t' :: tail).length := by
    have turns := onLine.length_le items
    simp only [List.length_cons, List.length_append]
    omega
  refine .step (advance_eq line_t) (.step (rfl : tokensLeft _ = _) ?_)
  refine (makes_itemsUntil delimits other items h head closes onLine enough).bind
    fun as' same => ?_
  exact .step (expectMark_eq closes line_close what) (.pure (made as' same))

end Lists

/-! ### Primary forms -/

section Primary

variable {room line : Nat} {expr : Parser Expr}

/-- Expressions are complete as items of lists. -/
theorem Complete.item (h : Complete 1 room expr) {e : Expr} (normal : e.Normal)
    (nesting : e.nesting ≤ room) : ItemComplete Expr.Writing Expr.unplaced expr e := by
  rintro ts line toks tail last writing onLine ⟨m, delimits, here⟩
  exact h last normal e.rank_pos nesting writing onLine
    (Token.not_continues_of_delimits here delimits 1 line _)

theorem entryKey_eq {t : Token} {rest : List Token} {key : String} (last : Nat)
    (named : t.kind.entryKey? = some key) (line_t : t.loc.line = line) :
    entryKey ⟨last, t :: rest⟩ = .ok (key, ⟨line, rest⟩) := by
  subst line_t
  obtain ⟨kind, lexeme, loc⟩ := t
  cases kind <;> cases named <;> rfl

theorem memberName_eq {t : Token} {rest : List Token} {key : String} (last : Nat)
    (named : t.kind.memberName? = some key) (line_t : t.loc.line = line) :
    memberName ⟨last, t :: rest⟩ = .ok (key, ⟨line, rest⟩) := by
  subst line_t
  obtain ⟨kind, lexeme, loc⟩ := t
  cases kind <;> cases named <;> rfl

theorem calledName_eq {t : Token} {rest : List Token} {name : String} (last : Nat)
    (named : t.kind = .name name) (line_t : t.loc.line = line) :
    calledName ⟨last, t :: rest⟩ = .ok (name, ⟨line, rest⟩) := by
  rw [calledName, bind_eq_of_ok peek_eq, named]
  exact bind_eq_of_ok (advance_eq line_t)

theorem Complete.entry (h : Complete 1 room expr) {key : String} {e : Expr} (normal : e.Normal)
    (nesting : e.nesting ≤ room) :
    ItemComplete (Entry Expr.Writing) (fun entry => (entry.1, entry.2.unplaced))
      (objectEntry expr) (key, e) := by
  rintro _ line toks tail last ⟨named, value⟩ onLine delimited
  obtain ⟨t, toks, rfl, rfl, line_t, onLine⟩ := onLine.cons
  obtain ⟨colon, toks, rfl, here, line_colon, onLine⟩ := onLine.cons
  refine .step (entryKey_eq last named line_t) (.step (expectMark_eq here line_colon _) ?_)
  refine (h.item normal nesting line value onLine delimited).bind fun e' same => ?_
  exact .pure (by simp [same])

theorem makes_arguments (h : Complete 1 room expr) {es : List Expr} {ts : List TokenKind}
    (normal : Expr.NormalAll es) (nesting : Expr.nestingAll es ≤ room)
    (items : Items Expr.Writing false es ts) {t : Token} {toks tail : List Token}
    (onLine : OnLine line toks ts) (closes : t.kind = .mark .closeParen)
    (line_t : t.loc.line = line) :
    Makes (arguments expr) (fun es' => Expr.unplacedAll es' = Expr.unplacedAll es)
      ⟨line, toks ++ t :: tail⟩ ⟨line, tail⟩ := by
  simp only [Expr.unplacedAll_eq_map]
  rw [Expr.normalAll_iff] at normal
  rw [Expr.nestingAll_le_iff] at nesting
  have closed (es' : List Expr) (same : es'.map Expr.unplaced = es.map Expr.unplaced) :
      Makes (do expectMark .closeParen "')' after arguments"; return es')
        (fun es' => es'.map Expr.unplaced = es.map Expr.unplaced) ⟨line, t :: tail⟩ ⟨line, tail⟩ :=
    .step (expectMark_eq closes line_t _) (.pure same)
  have head (e : Expr) (mem : e ∈ es) (ts : List TokenKind) (writing : e.Writing ts) :
      ∃ kind rest, ts = kind :: rest ∧ kind ≠ .mark .closeParen :=
    Expr.head_ne_mark (normal e mem) writing rfl
  have listed (some_ : es ≠ [])
      (opens : ∃ kind rest, ts = kind :: rest ∧ kind ≠ .mark .closeParen) :
      Makes (arguments expr) (fun es' => es'.map Expr.unplaced = es.map Expr.unplaced)
        ⟨line, toks ++ t :: tail⟩ ⟨line, tail⟩ := by
    have past : (Cursor.next ⟨line, t :: tail⟩).kind ≠ .mark .comma := by
      change t.kind ≠ _
      rw [closes]
      decide
    refine .step (atMark_eq_false (onLine.next_ne opens line _)) ?_
    exact (makes_commaList items (fun e mem => h.item (normal e mem) (nesting e mem)) some_ onLine
      (Cursor.delimited_cons closes rfl line tail) past).bind closed
  cases items with
  | none =>
      obtain rfl := onLine.nil
      exact .step (atMark_eq_true closes) (closed [] rfl)
  | @last e ts first =>
      exact listed (List.cons_ne_nil _ _) (head e List.mem_cons_self ts first)
  | @comma e rest ts us first others end_ =>
      obtain ⟨kind, more, rfl, differs⟩ := head e List.mem_cons_self ts first
      exact listed (List.cons_ne_nil _ _) ⟨kind, _, rfl, differs⟩

/-- Each primary form is read; a name before an opening parenthesis would be that of a call. -/
theorem makes_primaryOver (h : Complete 1 room expr) {e : Expr} (primary : e.primary = true)
    {ts : List TokenKind} {toks tail : List Token} (last : Nat) (normal : e.Normal)
    (nesting : e.nesting ≤ room + 1) (writing : e.Writing ts) (onLine : OnLine line toks ts)
    (ends : ¬ (Cursor.next ⟨line, tail⟩).Opens line ts.getLast?) :
    Makes (primaryOver expr) (fun e' => e'.unplaced = e.unplaced) ⟨last, toks ++ tail⟩
      ⟨line, tail⟩ := by
  cases writing with
  | unary _ => cases primary
  | binary _ _ => cases primary
  | member _ _ => cases primary
  | index _ _ => cases primary
  | lit loc v =>
      obtain ⟨t, rfl, here, line_t⟩ := onLine.single
      refine .step peek_eq ?_
      cases v with
      | bool b =>
          cases b with
          | _ =>
              simp only [here, Literal.token]
              exact .step (advance_eq line_t) (.pure rfl)
      | _ =>
          simp only [here, Literal.token]
          exact .step (advance_eq line_t) (.pure rfl)
  | template loc parts =>
      obtain ⟨t, rfl, here, line_t⟩ := onLine.single
      refine .step peek_eq ?_
      simp only [here]
      exact .step (advance_eq line_t) (.pure rfl)
  | dollar loc name =>
      obtain ⟨t, rfl, here, line_t⟩ := onLine.single
      refine .step peek_eq ?_
      simp only [here]
      exact .step (advance_eq line_t) (.pure rfl)
  | bare loc name =>
      obtain ⟨t, rfl, here, line_t⟩ := onLine.single
      refine .step peek_eq ?_
      simp only [here]
      refine .step (advance_eq line_t) ?_
      refine .step (rfl : atMark .openParen _ = .ok (_, _)) ?_
      refine .step (rfl : onSameLine _ = .ok (_, _)) ?_
      rw [if_neg]
      · exact .pure rfl
      · intro both
        obtain ⟨paren, sameLine⟩ := Bool.and_eq_true_iff.mp both
        exact ends ⟨eq_of_beq paren, eq_of_beq sameLine, name, rfl⟩
  | @group loc e ts inner =>
      have normal : e.Normal := normal
      have nesting : e.nesting ≤ room := Nat.le_of_succ_le_succ nesting
      obtain ⟨t, inside, close, rfl, here, line_t, insideLine, closes, line_close⟩ :=
        onLine.enclosed
      simp only [List.cons_append, List.append_assoc, List.nil_append]
      refine .step peek_eq ?_
      simp only [here]
      refine .step (advance_eq line_t) ?_
      refine (h.item normal nesting line inner insideLine
        (Cursor.delimited_cons closes rfl line tail)).bind fun e' same => ?_
      exact .step (expectMark_eq closes line_close _) (.pure (congrArg (Expr.group _) same))
  | @array loc es ts items =>
      obtain ⟨t, inside, close, rfl, here, line_t, insideLine, closes, line_close⟩ :=
        onLine.enclosed
      have normal : Expr.NormalAll es := normal
      have nesting : Expr.nestingAll es ≤ room := Nat.le_of_succ_le_succ nesting
      rw [Expr.normalAll_iff] at normal
      rw [Expr.nestingAll_le_iff] at nesting
      simp only [List.cons_append, List.append_assoc, List.nil_append]
      refine .step peek_eq ?_
      simp only [here]
      refine makes_between rfl (by decide) items
        (fun e mem => h.item (normal e mem) (nesting e mem))
        (fun e mem ts writing => Expr.head_ne_mark (normal e mem) writing rfl)
        line_t insideLine closes line_close (fun es' same => ?_) last _
      simp only [Expr.unplaced, Expr.unplacedAll_eq_map, same]
  | @object loc entries ts items =>
      obtain ⟨t, inside, close, rfl, here, line_t, insideLine, closes, line_close⟩ :=
        onLine.enclosed
      have normal : Expr.NormalEntries entries := normal
      have nesting : Expr.nestingEntries entries ≤ room := Nat.le_of_succ_le_succ nesting
      rw [Expr.normalEntries_iff] at normal
      rw [Expr.nestingEntries_le_iff] at nesting
      simp only [List.cons_append, List.append_assoc, List.nil_append]
      refine .step peek_eq ?_
      simp only [here]
      refine makes_between rfl (by decide) items
        (fun entry mem => h.entry (normal entry mem) (nesting entry mem))
        (fun entry mem ts writing => Entry.head_ne_mark writing _)
        line_t insideLine closes line_close (fun entries' same => ?_) last _
      simp only [Expr.unplaced, Expr.unplacedEntries_eq_map, same]
  | @call loc name es ts args =>
      obtain ⟨t, rest, rfl, here, line_t, restLine⟩ := onLine.cons
      obtain ⟨paren, inside, close, rfl, opens, line_paren, insideLine, closes, line_close⟩ :=
        restLine.enclosed
      simp only [List.cons_append, List.append_assoc, List.nil_append]
      refine .step peek_eq ?_
      simp only [here]
      refine .step (advance_eq line_t) (.step (atMark_eq_true opens) ?_)
      refine .step (rfl : onSameLine _ = .ok (_, _)) ?_
      rw [if_pos]
      · refine .step (advance_eq line_paren) ?_
        refine (makes_arguments h normal (Nat.le_of_succ_le_succ nesting) args insideLine closes
          line_close).bind fun es' same => ?_
        exact .pure (congrArg (Expr.call _ name) same)
      · exact beq_iff_eq.mpr line_paren
  | @callWord loc name es ts args =>
      obtain ⟨t, rest, rfl, here, line_t, restLine⟩ := onLine.cons
      obtain ⟨called, rest, rfl, named, line_called, restLine⟩ := restLine.cons
      obtain ⟨paren, inside, close, rfl, opens, line_paren, insideLine, closes, line_close⟩ :=
        restLine.enclosed
      simp only [List.cons_append, List.append_assoc, List.nil_append]
      refine .step peek_eq ?_
      simp only [here]
      refine .step (advance_eq line_t) (.step (calledName_eq line named line_called) ?_)
      refine .step (expectMark_eq opens line_paren _) ?_
      refine (makes_arguments h normal (Nat.le_of_succ_le_succ nesting) args insideLine closes
        line_close).bind fun es' same => ?_
      exact .pure (congrArg (Expr.call _ name) same)

/-! ### Accesses -/

/-- The loop of accesses ends before a token that is not one. -/
theorem makes_accessesFrom {c : Cursor} (dot : c.next.kind ≠ .mark .dot)
    (bracket : ¬ (c.next.kind = .mark .openBracket ∧ c.next.loc.line = c.lastLine)) (n : Nat)
    (base : Expr) : Makes (accessesFrom expr n base) (fun e => e = base) c c := by
  cases n with
  | zero => exact .pure rfl
  | succ n =>
      refine .step (rfl : peek c = .ok (c.next, c)) ?_
      split
      · next here => exact absurd here dot
      · next here =>
        refine .step (rfl : onSameLine c = .ok (_, c)) ?_
        rw [if_neg fun same => bracket ⟨here, eq_of_beq same⟩]
        exact .pure rfl
      · exact .pure rfl

theorem accessesFrom_dot {t name : Token} {tail : List Token} {key : String}
    (dot : t.kind = .mark .dot) (line_t : t.loc.line = line)
    (named : name.kind.memberName? = some key) (line_name : name.loc.line = line) (n : Nat)
    (base : Expr) :
    accessesFrom expr (n + 1) base ⟨line, t :: name :: tail⟩ =
      accessesFrom expr n (.member t.loc base key) ⟨line, tail⟩ := by
  rw [accessesFrom, bind_eq_of_ok peek_eq]
  simp only [dot]
  rw [bind_eq_of_ok (advance_eq line_t), bind_eq_of_ok (memberName_eq line named line_name)]

theorem accessesFrom_bracket {t close : Token} {inside tail : List Token} {position : Expr}
    (bracket : t.kind = .mark .openBracket) (line_t : t.loc.line = line)
    (made : expr ⟨line, inside ++ close :: tail⟩ = .ok (position, ⟨line, close :: tail⟩))
    (closes : close.kind = .mark .closeBracket) (line_close : close.loc.line = line) (n : Nat)
    (base : Expr) :
    accessesFrom expr (n + 1) base ⟨line, t :: (inside ++ close :: tail)⟩ =
      accessesFrom expr n (.index t.loc base position) ⟨line, tail⟩ := by
  rw [accessesFrom, bind_eq_of_ok peek_eq]
  simp only [bracket]
  rw [bind_eq_of_ok (rfl : onSameLine _ = .ok (_, _)), if_pos]
  · rw [bind_eq_of_ok (advance_eq line_t), bind_eq_of_ok made,
      bind_eq_of_ok (expectMark_eq closes line_close _)]
  · exact beq_iff_eq.mpr line_t

/-- After `k` rounds, the loop of accesses has read the tokens of an access and holds it. -/
theorem access_spine (h : Complete 1 room expr) (e : Expr) {ts : List TokenKind}
    {toks tail : List Token} (last : Nat) (normal : e.Normal) (rank : 8 ≤ e.rank)
    (nesting : e.nesting ≤ room + 1) (writing : e.Writing ts) (onLine : OnLine line toks ts)
    (ends : ¬ (Cursor.next ⟨line, tail⟩).Opens line ts.getLast?) :
    ∃ base c₁ k e', primaryOver expr ⟨last, toks ++ tail⟩ = .ok (base, c₁) ∧
      k + tail.length ≤ c₁.rest.length ∧ e'.unplaced = e.unplaced ∧
      ∀ n, accessesFrom expr (n + k) base c₁ = accessesFrom expr n e' ⟨line, tail⟩ := by
  by_cases primary : e.primary = true
  · obtain ⟨e', same, made⟩ := makes_primaryOver h primary last normal nesting writing onLine ends
    exact ⟨e', _, 0, e', made, Nat.le_of_eq (Nat.zero_add _), same, fun n => rfl⟩
  · match e with
    | .member loc base key =>
        obtain ⟨baseRank, baseNormal⟩ := normal
        cases writing with
        | @member _ _ _ kind bs of named =>
            obtain ⟨btoks, back, rfl, baseLine, backLine⟩ := onLine.append
            obtain ⟨t, back, rfl, dot, line_t, backLine⟩ := backLine.cons
            obtain ⟨name, rfl, rfl, line_name⟩ := backLine.single
            have baseEnds : ¬ (Cursor.next ⟨line, t :: name :: tail⟩).Opens line bs.getLast? := by
              rintro ⟨paren, -⟩
              cases dot.symm.trans paren
            obtain ⟨first, c₁, k, base', made, enough, same, reached⟩ :=
              access_spine h base last baseNormal baseRank nesting of baseLine baseEnds
            refine ⟨first, c₁, k + 1, .member t.loc base' key, ?_, ?_, ?_, fun n => ?_⟩
            · simpa using made
            · simp only [List.length_cons] at enough
              omega
            · simp only [Expr.unplaced, same]
            · rw [show n + (k + 1) = n + 1 + k by omega, reached,
                accessesFrom_dot dot line_t named line_name]
    | .index loc base position =>
        obtain ⟨baseRank, baseNormal, positionNormal⟩ := normal
        obtain ⟨baseNesting, positionNesting⟩ := Nat.max_le.mp nesting
        cases writing with
        | @index _ _ _ bs ps of at_ =>
            obtain ⟨btoks, back, rfl, baseLine, backLine⟩ := onLine.append
            obtain ⟨t, inside, close, rfl, bracket, line_t, insideLine, closes, line_close⟩ :=
              backLine.enclosed
            have baseEnds : ¬ (Cursor.next ⟨line, t :: (inside ++ close :: tail)⟩).Opens line
                bs.getLast? := by
              rintro ⟨paren, -⟩
              cases bracket.symm.trans paren
            obtain ⟨first, c₁, k, base', made, enough, same, reached⟩ :=
              access_spine h base last baseNormal baseRank baseNesting of baseLine baseEnds
            obtain ⟨position', samePosition, madePosition⟩ :=
              h.item positionNormal (Nat.le_of_succ_le_succ positionNesting) line at_ insideLine
                (Cursor.delimited_cons closes rfl line tail)
            refine ⟨first, c₁, k + 1, .index t.loc base' position', ?_, ?_, ?_, fun n => ?_⟩
            · simpa using made
            · simp only [List.length_cons, List.length_append] at enough
              omega
            · simp only [Expr.unplaced, same, samePosition]
            · rw [show n + (k + 1) = n + 1 + k by omega, reached,
                accessesFrom_bracket bracket line_t madePosition closes line_close]
    | .unary _ _ _ => exact absurd rank (Nat.not_succ_le_self 7)
    | .binary _ op _ _ => exact absurd rank (Nat.not_le.mpr (Nat.lt_succ_of_lt op.rank_lt))
    | .lit _ _ | .var _ _ | .template _ _ | .group _ _ | .array _ _ | .object _ _ | .call _ _ _ =>
        exact absurd rfl primary

theorem complete_postfixOver (h : Complete 1 room expr) :
    Complete 8 (room + 1) (postfixOver expr) := by
  intro e ts line toks tail last normal rank nesting writing onLine ends
  obtain ⟨base, c₁, k, e', made, enough, same, reached⟩ :=
    access_spine h e last normal rank nesting writing onLine fun opens =>
      ends (.inr (.inr (.inr opens)))
  obtain ⟨n, rounds⟩ : ∃ n, c₁.rest.length = n + k := ⟨c₁.rest.length - k, by omega⟩
  obtain ⟨_, rfl, stopped⟩ := makes_accessesFrom (fun dot => ends (.inr (.inl dot)))
    (fun bracket => ends (.inr (.inr (.inl bracket)))) n e'
  refine ⟨_, same, ?_⟩
  rw [postfixOver, bind_eq_of_ok made]
  change accessesFrom expr c₁.rest.length base c₁ = _
  rw [rounds, reached, stopped]

end Primary

/-! ### The whole grammar -/

/-- By induction on the levels that are left. -/
theorem complete_unaryWithin (room : Nat) : Complete 7 room (unaryWithin room) := by
  induction room with
  | zero =>
      intro e ts line toks tail last normal rank nesting writing onLine ends
      exact absurd nesting (Nat.not_le.mpr e.nesting_pos)
  | succ room ih =>
      intro e ts line toks tail last normal rank nesting writing onLine ends
      by_cases access : 8 ≤ e.rank
      · obtain ⟨kind, rest, rfl, -, plain⟩ := e.exists_head normal writing
        have postfix_ := complete_postfixOver (complete_exprOver ih) last normal access nesting
          writing onLine fun continues => ends (continues.mono (Nat.le_succ 7))
        obtain ⟨t, toks, rfl, rfl, -⟩ := onLine.cons
        refine .step peek_eq ?_
        split
        · next minus => exact absurd minus (plain access .neg)
        · next bang => exact absurd bang (plain access .not)
        · exact postfix_
      · match e with
        | .unary loc op operand =>
            obtain ⟨operandRank, operandNormal⟩ := normal
            cases writing with
            | @unary _ _ _ us written =>
                obtain ⟨t, toks, rfl, here, line_t, onLine⟩ := onLine.cons
                have operandEnds : ¬ (Cursor.next ⟨line, tail⟩).Continues 7 line us.getLast? := by
                  obtain ⟨kind, rest, rfl, -⟩ := operand.exists_head operandNormal written
                  simpa [List.getLast?_cons] using ends
                have inner := ih line operandNormal operandRank
                  (Nat.le_of_succ_le_succ nesting) written onLine operandEnds
                refine .step peek_eq ?_
                cases op with
                | _ =>
                    simp only [here, UnaryOp.mark]
                    refine .step (advance_eq line_t) (inner.bind fun e' same => .pure ?_)
                    simp only [Expr.unplaced, same]
        | .binary _ op _ _ => exact absurd rank (Nat.not_le.mpr op.rank_lt)
        | .lit _ _ | .var _ _ | .template _ _ | .group _ _ | .array _ _ | .object _ _
        | .call _ _ _ | .member _ _ _ | .index _ _ _ => exact absurd (Nat.le_refl 8) access

/-- Every expression in normal form that nests at most as deeply as there is room has a writing;
and whenever the tokens of a writing stand on one line before a token that does not continue the
expression, the grammar makes the expression of them, but for positions, and stops right before
that token. -/
theorem exprWithin_complete {room : Nat} {e : Expr} (normal : e.Normal)
    (nesting : e.nesting ≤ room) :
    (∃ ts, e.Writing ts) ∧
    ∀ (ts : List TokenKind) (line last : Nat) (toks : List Token) (next : Token)
      (more : List Token), e.Writing ts → toks.map Token.kind = ts →
      (∀ t ∈ toks, t.loc.line = line) → ¬ next.Continues 1 line ts.getLast? →
      ∃ e', e'.unplaced = e.unplaced ∧
        exprWithin room ⟨last, toks ++ next :: more⟩ = .ok (e', ⟨line, next :: more⟩) := by
  refine ⟨e.exists_writing, ?_⟩
  intro ts line last toks next more writing kinds lines ends
  exact complete_exprOver (complete_unaryWithin room) last normal e.rank_pos nesting writing
    ⟨kinds, lines⟩ ends

/-- The expression of `-a.b * [c, $d,]`. -/
def negatedProduct : Expr :=
  .binary .start .mul (.unary .start .neg (.member .start (.var .start "a") "b"))
    (.array .start [.var .start "c", .var .start "d"])

/-- Its tokens, all on the first line. -/
def negatedProductTokens : List Token :=
  [.mark .minus, .name "a", .mark .dot, .name "b", .mark .star, .mark .openBracket, .name "c",
    .mark .comma, .var "d", .mark .comma, .mark .closeBracket].map fun kind => ⟨kind, "", .start⟩

/-- They are read before a semicolon. -/
theorem negatedProduct_complete : negatedProduct.Normal ∧ negatedProduct.nesting = 2 ∧
    ∃ e', e'.unplaced = negatedProduct.unplaced ∧
      exprWithin 2 ⟨0, negatedProductTokens ++ [⟨.mark .semicolon, "", .start⟩]⟩ =
        .ok (e', ⟨Location.start.line, [⟨.mark .semicolon, "", .start⟩]⟩) := by
  have normal : negatedProduct.Normal :=
    ⟨by decide, by decide, ⟨by decide, by decide, trivial⟩, trivial, trivial, trivial⟩
  have writing : negatedProduct.Writing (negatedProductTokens.map Token.kind) :=
    .binary (.unary (.member (.bare _ "a") (rfl : (TokenKind.name "b").memberName? = some "b")))
      (.array (.comma (.bare _ "c") (.comma (.dollar _ "d") .none fun _ => rfl) (nomatch ·)))
  refine ⟨normal, rfl, ?_⟩
  refine (exprWithin_complete normal (Nat.le_refl 2)).2 _ _ 0 _ _ _ writing rfl ?_ ?_
  · simp [negatedProductTokens]
  · rintro (⟨op, -, here⟩ | here | ⟨here, -⟩ | ⟨here, -⟩)
    · cases op <;> cases here
    · cases here
    · cases here
    · cases here

end HostScript.Source
