import HostScript.Proofs.Grammar.Writing
import HostScript.Source.Grammar.Expression

/-!
# Two streams abreast

The grammar reads two streams of the same kinds of tokens, with line breaks between the same
tokens, in the same way. A parser that starts at one index in both streams stops at one index in
both and makes the same thing up to positions, or it fails in both, with the same words, at the
tokens with one index.

## Implementation notes

A cursor over a given stream is determined by an index, since it takes its line from the token
read last. Results are compared through a view of them, such as an expression without its
positions, so that what is shown of a part carries over to what is made from it. The rule for the
next token (`Abreast.peek`) is where the layout is hidden: a parser is given the same kind twice,
but with another lexeme and another position.
-/

namespace HostScript

namespace Source

/-! ### Two streams side by side -/

/-- The cursor in front of the token at an index. -/
def Cursor.at (tokens : List Token) : Nat → Cursor
  | 0 => .ofTokens tokens
  | i + 1 => (Cursor.at tokens i).advance

/-- Two streams of the same kinds of tokens with line breaks between the same tokens. -/
structure Aligned (s t : List Token) : Prop where
  left : ∀ i, (Cursor.at s i).rest.length = (Cursor.at t i).rest.length
  kind : ∀ i, (Cursor.at s i).next.kind = (Cursor.at t i).next.kind
  sameLine : ∀ i, ((Cursor.at s i).next.loc.line == (Cursor.at s i).lastLine) =
    ((Cursor.at t i).next.loc.line == (Cursor.at t i).lastLine)

/-- The positions are those of the tokens at one index. -/
def Opposite (s t : List Token) (l l' : Location) : Prop :=
  ∃ i, l = (Cursor.at s i).next.loc ∧ l' = (Cursor.at t i).next.loc

variable {α β γ δ : Type}

/-- The same outcome on both streams: results that are the same as far as they are looked at, at
the same token, or failures with the same words at the same token. -/
inductive SameOutcome (s t : List Token) (view : α → γ) :
    Except Fault (α × Cursor) → Except Fault (α × Cursor) → Prop
  | made {a b : α} (i : Nat) (same : view a = view b) :
      SameOutcome s t view (.ok (a, .at s i)) (.ok (b, .at t i))
  | failed {message : String} {hint : Option String} {l l' : Location} (at_ : Opposite s t l l') :
      SameOutcome s t view (.error (.failure .malformed ⟨message, l, hint⟩))
        (.error (.failure .malformed ⟨message, l', hint⟩))

/-- From the same token on, the parsers have the same outcome on both streams. -/
def Abreast (s t : List Token) (view : α → γ) (p q : Parser α) : Prop :=
  ∀ i, SameOutcome s t view (p (.at s i)) (q (.at t i))

namespace Abreast

variable {s t : List Token} {view : α → γ} {view' : β → δ} {p q : Parser α}
  {next next' : α → Parser β}

theorem pure {a b : α} (same : view a = view b) : Abreast s t view (Pure.pure a) (Pure.pure b) :=
  fun i => .made i same

theorem bind (first : Abreast s t view p q)
    (then_ : ∀ a b, view a = view b → Abreast s t view' (next a) (next' b)) :
    Abreast s t view' (p >>= next) (q >>= next') := by
  intro i
  have outcome := first i
  change SameOutcome s t view' (Except.bind (p (.at s i)) _) (Except.bind (q (.at t i)) _)
  generalize p (.at s i) = x at outcome ⊢
  generalize q (.at t i) = y at outcome ⊢
  cases outcome with
  | made j same => exact then_ _ _ same j
  | failed at_ => exact .failed at_

/-- What comes first has one result on both streams. -/
theorem andThen {p q : Parser α} (first : Abreast s t id p q)
    (then_ : ∀ a, Abreast s t view' (next a) (next' a)) :
    Abreast s t view' (p >>= next) (q >>= next') :=
  first.bind fun a b same => by
    cases same
    exact then_ a

theorem map {make make' : α → β} (h : Abreast s t view p q)
    (same : ∀ a b, view a = view b → view' (make a) = view' (make' b)) :
    Abreast s t view' (make <$> p) (make' <$> q) := by
  rw [map_eq_pure_bind, map_eq_pure_bind]
  exact h.bind fun a b hab => .pure (same a b hab)

theorem ite {c : Prop} [Decidable c] {p' q' : Parser α} (yes : Abreast s t view p q)
    (no : Abreast s t view p' q') :
    Abreast s t view (if c then p else p') (if c then q else q') := by
  split
  · exact yes
  · exact no

theorem reject {message : String} {l l' : Location} (at_ : Opposite s t l l') :
    Abreast s t view (Source.reject (.malformed message l))
      (Source.reject (.malformed message l')) :=
  fun _ => .failed at_

theorem nestingTooDeep : Abreast s t view Source.nestingTooDeep Source.nestingTooDeep :=
  fun i => .failed ⟨i, rfl, rfl⟩

theorem advance : Abreast s t id Source.advance Source.advance := fun i => .made (i + 1) rfl

variable (aligned : Aligned s t)
include aligned

/-- Of the next token nothing is told but the kind, and its position to put it into the tree or the
failure. -/
theorem peek {next next' : Token → Parser β}
    (then_ : ∀ kind lexeme lexeme' l l', Opposite s t l l' →
      Abreast s t view' (next ⟨kind, lexeme, l⟩) (next' ⟨kind, lexeme', l'⟩)) :
    Abreast s t view' (Source.peek >>= next) (Source.peek >>= next') := by
  intro i
  have same := aligned.kind i
  change SameOutcome s t view' (next (Cursor.at s i).next _) (next' (Cursor.at t i).next _)
  have at_ : Opposite s t (Cursor.at s i).next.loc (Cursor.at t i).next.loc := ⟨i, rfl, rfl⟩
  generalize (Cursor.at s i).next = x at same at_ ⊢
  generalize (Cursor.at t i).next = y at same at_ ⊢
  obtain ⟨kind, lexeme, l⟩ := x
  obtain ⟨_, lexeme', l'⟩ := y
  cases same
  exact then_ kind lexeme lexeme' l l' at_ i

theorem onSameLine : Abreast s t id Source.onSameLine Source.onSameLine :=
  fun i => .made i (aligned.sameLine i)

theorem tokensLeft : Abreast s t id Source.tokensLeft Source.tokensLeft :=
  fun i => .made i (aligned.left i)

theorem atMark (m : Mark) : Abreast s t id (Source.atMark m) (Source.atMark m) := by
  refine fun i => .made i ?_
  rw [aligned.kind i]

/-- Reading a token if it is of a given kind. -/
theorem eat {eats : Parser Bool} {kind : TokenKind} (eats_eq : ∀ c : Cursor, eats c =
    if c.next.kind == kind then .ok (true, c.advance) else .ok (false, c)) :
    Abreast s t id eats eats := by
  intro i
  rw [eats_eq, eats_eq, aligned.kind i]
  split
  · exact .made (i + 1) rfl
  · exact .made i rfl

theorem eatMark (m : Mark) : Abreast s t id (Source.eatMark m) (Source.eatMark m) :=
  eat aligned fun _ => rfl

theorem eatKeyword (k : Keyword) : Abreast s t id (Source.eatKeyword k) (Source.eatKeyword k) :=
  eat aligned fun _ => rfl

theorem expected (what : String) :
    Abreast s t view (Source.expected what) (Source.expected what) := by
  intro i
  rw [Source.expected, Source.expected, aligned.kind i]
  exact .failed ⟨i, rfl, rfl⟩

theorem expectedWithHint (what hint : String) :
    Abreast s t view (Source.expectedWithHint what hint) (Source.expectedWithHint what hint) := by
  intro i
  rw [Source.expectedWithHint, Source.expectedWithHint, aligned.kind i]
  exact .failed ⟨i, rfl, rfl⟩

end Abreast

section Grammar

variable {s t : List Token} (aligned : Aligned s t)
include aligned

theorem abreast_expectMark (m : Mark) (what : String) :
    Abreast s t id (expectMark m what) (expectMark m what) :=
  (Abreast.eatMark aligned m).andThen fun _ => .ite (.pure rfl) (.expected aligned what)

theorem abreast_expectWord (word : String) :
    Abreast s t id (expectWord word) (expectWord word) :=
  .peek aligned fun _ _ _ _ _ _ => .ite .advance (.expected aligned _)

theorem abreast_eatWord (word : String) : Abreast s t id (eatWord word) (eatWord word) := by
  refine (Abreast.onSameLine aligned).andThen fun sameLine => ?_
  refine .peek aligned fun _ _ _ _ _ _ => .ite ?_ (.pure rfl)
  exact Abreast.advance.andThen fun _ => .pure rfl

theorem abreast_expectVariable : Abreast s t id expectVariable expectVariable := by
  refine .peek aligned fun kind _ _ _ _ _ => ?_
  cases kind with
  | var name | name name => exact Abreast.advance.andThen fun _ => .pure rfl
  | _ => exact .expected aligned _

theorem abreast_operandFollows : Abreast s t id operandFollows operandFollows :=
  (Abreast.onSameLine aligned).andThen fun _ => .peek aligned fun _ _ _ _ _ _ => .pure rfl

/-! ### Lists and operators -/

section Lists

variable {view : α → γ} {item : Parser α} (h : Abreast s t view item item)
include h

theorem abreast_commaTail (n : Nat) :
    Abreast s t (List.map view) (commaTail item n) (commaTail item n) := by
  induction n with
  | zero => exact .pure rfl
  | succ n ih =>
      refine (Abreast.eatMark aligned .comma).andThen fun found => .ite ?_ (.pure rfl)
      refine h.bind fun a b same => ih.bind fun as bs others => .pure ?_
      rw [List.map_cons, List.map_cons, same, others]

theorem abreast_commaList : Abreast s t (List.map view) (commaList item) (commaList item) := by
  refine h.bind fun a b same => (Abreast.tokensLeft aligned).andThen fun n => ?_
  refine (abreast_commaTail aligned h n).bind fun as bs others => .pure ?_
  rw [List.map_cons, List.map_cons, same, others]

theorem abreast_itemsUntil (close : Mark) (n : Nat) :
    Abreast s t (List.map view) (itemsUntil close item n) (itemsUntil close item n) := by
  induction n with
  | zero => exact .pure rfl
  | succ n ih =>
      refine (Abreast.atMark aligned close).andThen fun found => .ite (.pure rfl) ?_
      refine h.bind fun a b same => (Abreast.eatMark aligned .comma).andThen fun more => .ite ?_ ?_
      · refine ih.bind fun as bs others => .pure ?_
        rw [List.map_cons, List.map_cons, same, others]
      · exact .pure (congrArg ([·]) same)

end Lists

theorem abreast_operatorAt (level : Level) :
    Abreast s t id (operatorAt level) (operatorAt level) := by
  refine .peek aligned fun kind _ _ _ _ _ => ?_
  cases kind with
  | mark m => exact .pure rfl
  | _ => exact .pure rfl

section Operators

variable {operand : Parser Expr} (h : Abreast s t Expr.unplaced operand operand)
include h

theorem abreast_chainFrom (level : Level) (n : Nat) {left left' : Expr}
    (same : left.unplaced = left'.unplaced) :
    Abreast s t Expr.unplaced (chainFrom level operand n left)
      (chainFrom level operand n left') := by
  induction n generalizing left left' with
  | zero => exact .pure same
  | succ n ih =>
      refine (abreast_operatorAt aligned level).andThen fun found => ?_
      cases found with
      | none => exact .pure same
      | some op =>
          refine Abreast.advance.andThen fun _ => h.bind fun right right' same' => ih ?_
          simp only [Expr.unplaced, same, same']

theorem abreast_chain (level : Level) :
    Abreast s t Expr.unplaced (chain level operand) (chain level operand) :=
  h.bind fun _ _ same => (Abreast.tokensLeft aligned).andThen fun n =>
    abreast_chainFrom aligned h level n same

theorem abreast_exprOver : Abreast s t Expr.unplaced (exprOver operand) (exprOver operand) := by
  unfold exprOver
  generalize levels = levels
  induction levels generalizing operand with
  | nil => exact h
  | cons level rest ih => exact ih (abreast_chain aligned h level)

end Operators

/-! ### Primary forms and accesses -/

theorem abreast_memberName : Abreast s t id memberName memberName := by
  refine .peek aligned fun kind _ _ _ _ _ => ?_
  cases kind with
  | name _ | keyword _ => exact Abreast.advance.andThen fun _ => .pure rfl
  | _ => exact .expected aligned _

theorem abreast_entryKey : Abreast s t id entryKey entryKey := by
  refine .peek aligned fun kind _ _ _ _ _ => ?_
  cases kind with
  | name _ | text _ | var _ | keyword _ | number _ =>
      exact Abreast.advance.andThen fun _ => .pure rfl
  | _ => exact .expected aligned _

theorem abreast_calledName : Abreast s t id calledName calledName := by
  refine .peek aligned fun kind _ _ _ _ _ => ?_
  cases kind with
  | name _ => exact Abreast.advance.andThen fun _ => .pure rfl
  | _ => exact .expected aligned _

section Primary

variable {expr : Parser Expr} (h : Abreast s t Expr.unplaced expr expr)
include h

theorem abreast_arguments :
    Abreast s t (List.map Expr.unplaced) (arguments expr) (arguments expr) := by
  refine (Abreast.atMark aligned _).andThen fun empty => .ite ?_ ?_
  · exact (abreast_expectMark aligned _ _).andThen fun _ => .pure rfl
  · refine (abreast_commaList aligned h).bind fun args args' same => ?_
    exact (abreast_expectMark aligned _ _).andThen fun _ => .pure same

theorem abreast_objectEntry : Abreast s t (fun e : String × Expr => (e.1, e.2.unplaced))
    (objectEntry expr) (objectEntry expr) := by
  refine (abreast_entryKey aligned).andThen fun key => ?_
  refine (abreast_expectMark aligned _ _).andThen fun _ => h.bind fun e e' same => .pure ?_
  rw [same]

theorem abreast_primaryOver :
    Abreast s t Expr.unplaced (primaryOver expr) (primaryOver expr) := by
  refine .peek aligned fun kind _ _ l l' _ => ?_
  have leaf {e e' : Expr} (same : e.unplaced = e'.unplaced) :
      Abreast s t Expr.unplaced (do advance; return e) (do advance; return e') :=
    Abreast.advance.andThen fun _ => .pure same
  have call (name : String) : Abreast s t Expr.unplaced
      (do return .call l name (← arguments expr)) (do return .call l' name (← arguments expr)) :=
    (abreast_arguments aligned h).bind fun args args' same => .pure (by
      simp only [Expr.unplaced, Expr.unplacedAll_eq_map, same])
  cases kind with
  | number _ | text _ | template _ | var _ => exact leaf rfl
  | name name =>
      refine Abreast.advance.andThen fun _ => (Abreast.atMark aligned _).andThen fun opens => ?_
      refine (Abreast.onSameLine aligned).andThen fun sameLine => .ite ?_ (.pure rfl)
      exact Abreast.advance.andThen fun _ => call name
  | keyword k =>
      cases k with
      | trueWord | falseWord | nullWord | undefinedWord => exact leaf rfl
      | callWord =>
          refine Abreast.advance.andThen fun _ => ?_
          refine (abreast_calledName aligned).andThen fun name => ?_
          exact (abreast_expectMark aligned _ _).andThen fun _ => call name
      | _ => exact .expected aligned _
  | mark m =>
      cases m with
      | openParen =>
          refine Abreast.advance.andThen fun _ => h.bind fun e e' same => ?_
          refine (abreast_expectMark aligned _ _).andThen fun _ => .pure ?_
          simp only [Expr.unplaced, same]
      | openBracket =>
          refine Abreast.advance.andThen fun _ => (Abreast.tokensLeft aligned).andThen fun n => ?_
          refine (abreast_itemsUntil aligned h _ n).bind fun items items' same => ?_
          refine (abreast_expectMark aligned _ _).andThen fun _ => .pure ?_
          simp only [Expr.unplaced, Expr.unplacedAll_eq_map, same]
      | openBrace =>
          refine Abreast.advance.andThen fun _ => (Abreast.tokensLeft aligned).andThen fun n => ?_
          refine (abreast_itemsUntil aligned (abreast_objectEntry aligned h) _ n).bind
            fun entries entries' same => ?_
          refine (abreast_expectMark aligned _ _).andThen fun _ => .pure ?_
          simp only [Expr.unplaced, Expr.unplacedEntries_eq_map, same]
      | _ => exact .expected aligned _
  | eof => exact .expected aligned _

theorem abreast_accessesFrom (n : Nat) {base base' : Expr}
    (same : base.unplaced = base'.unplaced) :
    Abreast s t Expr.unplaced (accessesFrom expr n base) (accessesFrom expr n base') := by
  induction n generalizing base base' with
  | zero => exact .pure same
  | succ n ih =>
      refine .peek aligned fun kind _ _ l l' _ => ?_
      cases kind with
      | mark m =>
          cases m with
          | dot =>
              refine Abreast.advance.andThen fun _ => ?_
              refine (abreast_memberName aligned).andThen fun key => ih ?_
              simp only [Expr.unplaced, same]
          | openBracket =>
              refine (Abreast.onSameLine aligned).andThen fun sameLine => .ite ?_ (.pure same)
              refine Abreast.advance.andThen fun _ => h.bind fun position position' same' => ?_
              refine (abreast_expectMark aligned _ _).andThen fun _ => ih ?_
              simp only [Expr.unplaced, same, same']
          | _ => exact .pure same
      | _ => exact .pure same

theorem abreast_postfixOver : Abreast s t Expr.unplaced (postfixOver expr) (postfixOver expr) :=
  (abreast_primaryOver aligned h).bind fun _ _ same =>
    (Abreast.tokensLeft aligned).andThen fun n => abreast_accessesFrom aligned h n same

end Primary

/-- By induction on the levels that are left. -/
theorem abreast_unaryWithin (room : Nat) :
    Abreast s t Expr.unplaced (unaryWithin room) (unaryWithin room) := by
  induction room with
  | zero => exact .nestingTooDeep
  | succ room ih =>
      refine .peek aligned fun kind _ _ l l' _ => ?_
      have operator (op : UnaryOp) : Abreast s t Expr.unplaced
          (do advance; return .unary l op (← unaryWithin room))
          (do advance; return .unary l' op (← unaryWithin room)) := by
        refine Abreast.advance.andThen fun _ => ih.bind fun e e' same => .pure ?_
        simp only [Expr.unplaced, same]
      have other := abreast_postfixOver aligned (abreast_exprOver aligned ih)
      cases kind with
      | mark m =>
          cases m with
          | minus => exact operator .neg
          | bang => exact operator .not
          | _ => exact other
      | _ => exact other

theorem abreast_exprWithin (room : Nat) :
    Abreast s t Expr.unplaced (exprWithin room) (exprWithin room) :=
  abreast_exprOver aligned (abreast_unaryWithin aligned room)

end Grammar

end Source

end HostScript
