import HostScript.Proofs.Grammar.Abreast
import HostScript.Proofs.Grammar.Consumption

/-!
# Layout matters only through lines

Of the layout of a source text, the grammar sees which neighbours stand on one line. Two streams of
tokens that agree in this and in the kinds of their tokens are the same program up to positions, or
they are refused with the same words at the same token.

## Implementation notes

The statements follow the expressions, rule by rule. A position goes into the tree or into a
failure: where it goes into the tree, nothing is asked of it; only a jump outside of a loop is
refused at a position that is not that of the next token, and there both positions have to be those
of the tokens at one index. That a failure is not behind the end of the stream is known already,
since the grammar never reads its end token.
-/

namespace HostScript

/-! ### Programs without positions -/

/-- The target without positions. -/
def Target.unplaced : Target → Target
  | .var name => .var name
  | .member base key => .member base.unplaced key
  | .index base position => .index base.unplaced position.unplaced

theorem Target.unplaced_toExpr (target : Target) (loc : Location) :
    (target.toExpr loc).unplaced = target.unplaced.toExpr .unknown := by
  cases target <;> simp only [Target.toExpr, Target.unplaced, Expr.unplaced]

/-- The request without positions. -/
def HostRequest.unplaced : HostRequest → HostRequest
  | .emit event payload => .emit event.unplaced (payload.map Expr.unplaced)
  | .launch app options => .launch app.unplaced (options.map Expr.unplaced)
  | .close target => .close (target.map Expr.unplaced)
  | .wait duration => .wait duration.unplaced
  | .window action target => .window action target.unplaced
  | .write content path => .write content.unplaced path.unplaced
  | .read path var => .read path.unplaced var
  | .mkdir path => .mkdir path.unplaced
  | .delete path recursive => .delete path.unplaced recursive
  | .alert message => .alert message.unplaced
  | .confirm message var => .confirm message.unplaced var
  | .prompt message default var => .prompt message.unplaced (default.map Expr.unplaced) var
  | .notify message title => .notify message.unplaced (title.map Expr.unplaced)
  | .play source => .play source.unplaced
  | .stop => .stop
  | .video source => .video source.unplaced
  | .command name args => .command name.unplaced (args.map Expr.unplaced)

mutual

/-- The statement without positions. -/
def Stmt.unplaced : Stmt → Stmt
  | .block _ body => .block .unknown (Stmt.unplacedAll body)
  | .set _ target op value => .set .unknown target.unplaced op value.unplaced
  | .declare _ name value => .declare .unknown name value.unplaced
  | .print _ value => .print .unknown value.unplaced
  | .cond _ test thenBody none => .cond .unknown test.unplaced (Stmt.unplacedAll thenBody) none
  | .cond _ test thenBody (some elseBody) =>
    .cond .unknown test.unplaced (Stmt.unplacedAll thenBody) (some (Stmt.unplacedAll elseBody))
  | .loop _ count body => .loop .unknown count.unplaced (Stmt.unplacedAll body)
  | .while _ test body => .while .unknown test.unplaced (Stmt.unplacedAll body)
  | .foreach _ var items body => .foreach .unknown var items.unplaced (Stmt.unplacedAll body)
  | .break _ => .break .unknown
  | .continue _ => .continue .unknown
  | .return _ value => .return .unknown (value.map Expr.unplaced)
  | .define _ name params body => .define .unknown name params (Stmt.unplacedAll body)
  | .expr _ value => .expr .unknown value.unplaced
  | .attempt _ body var handler =>
    .attempt .unknown (Stmt.unplacedAll body) var (Stmt.unplacedAll handler)
  | .on _ event body => .on .unknown event.unplaced (Stmt.unplacedAll body)
  | .host _ request => .host .unknown request.unplaced

/-- The statements without positions. -/
def Stmt.unplacedAll : List Stmt → List Stmt
  | [] => []
  | s :: rest => s.unplaced :: Stmt.unplacedAll rest

end

namespace Source

section Grammar

variable {s t : List Token} (aligned : Aligned s t)
include aligned

/-! ### Blocks and operands -/

section Blocks

variable {statement : Parser Stmt} (h : Abreast s t Stmt.unplaced statement statement)
include h

theorem abreast_statementsUntilBrace (n : Nat) : Abreast s t Stmt.unplacedAll
    (statementsUntilBrace statement n) (statementsUntilBrace statement n) := by
  induction n with
  | zero => exact .expected aligned _
  | succ n ih =>
      have further : Abreast s t Stmt.unplacedAll
          (do let s ← statement; return s :: (← statementsUntilBrace statement n))
          (do let s ← statement; return s :: (← statementsUntilBrace statement n)) := by
        refine h.bind fun a b same => ih.bind fun as bs others => .pure ?_
        simp only [Stmt.unplacedAll, same, others]
      refine .peek aligned fun kind _ _ _ _ _ => ?_
      cases kind with
      | mark m =>
          cases m with
          | closeBrace => exact Abreast.advance.andThen fun _ => .pure rfl
          | _ => exact further
      | eof => exact .expected aligned _
      | _ => exact further

theorem abreast_block : Abreast s t Stmt.unplacedAll (block statement) (block statement) :=
  (abreast_expectMark aligned _ _).andThen fun _ => (Abreast.tokensLeft aligned).andThen fun n =>
    abreast_statementsUntilBrace aligned h n

end Blocks

theorem abreast_intoVariable : Abreast s t id intoVariable intoVariable := by
  refine (abreast_eatWord aligned _).andThen fun found => .ite ?_ (.pure rfl)
  exact (abreast_expectVariable aligned).andThen fun _ => .pure rfl

section Operands

variable {expr : Parser Expr} (h : Abreast s t Expr.unplaced expr expr)
include h

theorem abreast_optionalOperand :
    Abreast s t (Option.map Expr.unplaced) (optionalOperand expr) (optionalOperand expr) := by
  refine (abreast_operandFollows aligned).andThen fun follows => .ite ?_ (.pure rfl)
  exact h.bind fun _ _ same => .pure (congrArg some same)

theorem abreast_targetFrom (n : Nat) {target target' : Target}
    (same : target.unplaced = target'.unplaced) :
    Abreast s t Target.unplaced (targetFrom expr n target) (targetFrom expr n target') := by
  induction n generalizing target target' with
  | zero => exact .pure same
  | succ n ih =>
      refine .peek aligned fun _ _ _ l l' _ => ?_
      have base : (target.toExpr l).unplaced = (target'.toExpr l').unplaced := by
        rw [target.unplaced_toExpr, target'.unplaced_toExpr, same]
      refine (Abreast.eatMark aligned _).andThen fun dot => .ite ?_ ?_
      · refine (abreast_memberName aligned).andThen fun key => ih ?_
        simp only [Target.unplaced, base]
      · refine (Abreast.eatMark aligned _).andThen fun bracket => .ite ?_ (.pure same)
        refine h.bind fun position position' same' => ?_
        refine (abreast_expectMark aligned _ _).andThen fun _ => ih ?_
        simp only [Target.unplaced, base, same']

theorem abreast_assignment (l l' : Location) :
    Abreast s t Stmt.unplaced (assignment expr l) (assignment expr l') := by
  refine (abreast_expectVariable aligned).andThen fun name => ?_
  refine (Abreast.tokensLeft aligned).andThen fun n => ?_
  refine (abreast_targetFrom aligned h n rfl).bind fun target target' same => ?_
  refine .peek aligned fun kind _ _ _ _ _ => ?_
  cases assignOp? kind with
  | none => exact .expected aligned _
  | some op =>
      refine Abreast.advance.andThen fun _ => h.bind fun value value' same' => .pure ?_
      simp only [Stmt.unplaced, same, same']

theorem abreast_exprStatement (l l' : Location) :
    Abreast s t Stmt.unplaced (exprStatement expr l) (exprStatement expr l') := by
  refine h.bind fun value value' same => .peek aligned fun kind _ _ _ _ _ => ?_
  refine .ite (.expectedWithHint aligned _ _) (.pure ?_)
  simp only [Stmt.unplaced, same]

omit aligned in
/-- A request with one operand. -/
theorem abreast_requestOf {make : Expr → HostRequest}
    (view : ∀ e, (make e).unplaced = make e.unplaced) :
    Abreast s t HostRequest.unplaced (do return make (← expr)) (do return make (← expr)) :=
  h.bind fun e e' same => .pure (by rw [view, view, same])

/-- A request with an operand and another one that may be left out. -/
theorem abreast_requestWith {make : Expr → Option Expr → HostRequest}
    (view : ∀ e other, (make e other).unplaced = make e.unplaced (other.map Expr.unplaced)) :
    Abreast s t HostRequest.unplaced (do let e ← expr; return make e (← optionalOperand expr))
      (do let e ← expr; return make e (← optionalOperand expr)) :=
  h.bind fun e e' same => (abreast_optionalOperand aligned h).bind fun other other' same' =>
    .pure (by rw [view, view, same, same'])

theorem abreast_hostRequest {k : Keyword} {request : Parser HostRequest}
    (found : hostRequest expr k = some request) :
    Abreast s t HostRequest.unplaced request request := by
  cases k with
  | emitWord | launchWord | notifyWord =>
      cases found
      exact abreast_requestWith aligned h fun _ _ => rfl
  | focusWord | minimizeWord | maximizeWord | waitWord | mkdirWord | alertWord | playWord
  | videoWord =>
      cases found
      exact abreast_requestOf h fun _ => rfl
  | closeWord =>
      cases found
      exact (abreast_optionalOperand aligned h).bind fun e e' same =>
        .pure (congrArg HostRequest.close same)
  | writeWord =>
      cases found
      refine h.bind fun content content' same => (abreast_expectWord aligned _).andThen fun _ => ?_
      refine h.bind fun path path' same' => .pure ?_
      simp only [HostRequest.unplaced, same, same']
  | readWord =>
      cases found
      refine h.bind fun path path' same => (abreast_expectWord aligned _).andThen fun _ => ?_
      refine (abreast_expectVariable aligned).andThen fun name => .pure ?_
      simp only [HostRequest.unplaced, same]
  | deleteWord =>
      cases found
      refine h.bind fun path path' same => (abreast_eatWord aligned _).andThen fun found => .pure ?_
      simp only [HostRequest.unplaced, same]
  | confirmWord =>
      cases found
      refine h.bind fun message message' same => ?_
      refine (abreast_intoVariable aligned).andThen fun var => .pure ?_
      simp only [HostRequest.unplaced, same]
  | promptWord =>
      cases found
      refine h.bind fun message message' same => ?_
      have answered {default default' : Option Expr}
          (same' : default.map Expr.unplaced = default'.map Expr.unplaced) :
          Abreast s t HostRequest.unplaced
            (do return .prompt message default (← intoVariable))
            (do return .prompt message' default' (← intoVariable)) := by
        refine (abreast_intoVariable aligned).andThen fun var => .pure ?_
        simp only [HostRequest.unplaced, same, same']
      refine (abreast_eatWord aligned _).andThen fun found => .ite ?_ (answered rfl)
      have some_ : Abreast s t (Option.map Expr.unplaced) (some <$> expr) (some <$> expr) :=
        h.map fun _ _ same => congrArg some same
      exact some_.bind fun _ _ same' => answered same'
  | stopWord =>
      cases found
      exact .pure rfl
  | commandWord =>
      cases found
      refine h.bind fun name name' same => ?_
      refine (abreast_operandFollows aligned).andThen fun follows => .ite ?_ ?_
      · refine (abreast_commaList aligned h).bind fun args args' same' => .pure ?_
        simp only [HostRequest.unplaced, same, same']
      · refine .pure ?_
        simp only [HostRequest.unplaced, same]
  | _ => cases found

end Operands

/-! ### Statements -/

/-- The parsers of a level have the same outcome on both streams. -/
structure StatementLevel.Abreast (s t : List Token) (level : StatementLevel) : Prop where
  statement : ∀ loops,
    Source.Abreast s t Stmt.unplaced (level.statement loops) (level.statement loops)
  elseIf : ∀ loops l l',
    Source.Abreast s t Stmt.unplaced (level.elseIf loops l) (level.elseIf loops l')

section Levels

variable {below : StatementLevel} (hbelow : below.Abreast s t)
include hbelow

theorem abreast_definition (l l' : Location) :
    Abreast s t Stmt.unplaced (definition below l) (definition below l') := by
  refine .peek aligned fun kind _ _ _ _ _ => ?_
  cases kind with
  | name name =>
      have rest (params : List String) : Abreast s t Stmt.unplaced
          (do expectMark .closeParen "')' after parameters"
              return .define l name params (← block (below.statement 0)))
          (do expectMark .closeParen "')' after parameters"
              return .define l' name params (← block (below.statement 0))) := by
        refine (abreast_expectMark aligned _ _).andThen fun _ => ?_
        refine (abreast_block aligned (hbelow.statement 0)).bind fun body body' same => .pure ?_
        simp only [Stmt.unplaced, same]
      refine Abreast.advance.andThen fun _ => (abreast_expectMark aligned _ _).andThen fun _ => ?_
      refine (Abreast.atMark aligned _).andThen fun none_ => .ite (rest []) ?_
      refine (abreast_commaList aligned (abreast_expectVariable aligned)).bind
        fun params params' same => ?_
      rw [List.map_id, List.map_id] at same
      exact same ▸ rest params
  | _ => exact .expected aligned _

theorem abreast_attempt (loops : Nat) (l l' : Location) :
    Abreast s t Stmt.unplaced (attempt below loops l) (attempt below loops l') := by
  have blocks := abreast_block aligned (hbelow.statement loops)
  refine blocks.bind fun body body' same => ?_
  have caught (var : String) : Abreast s t Stmt.unplaced
      (do return .attempt l body var (← block (below.statement loops)))
      (do return .attempt l' body' var (← block (below.statement loops))) := by
    refine blocks.bind fun handler handler' same' => .pure ?_
    simp only [Stmt.unplaced, same, same']
  refine (Abreast.eatKeyword aligned _).andThen fun found => .ite ?_ (.expected aligned _)
  refine (Abreast.atMark aligned _).andThen fun bare => .ite (caught "error") ?_
  exact (abreast_expectVariable aligned).andThen caught

variable {expr : Parser Expr} (h : Abreast s t Expr.unplaced expr expr)
include h

theorem abreast_conditional (loops : Nat) (l l' : Location) :
    Abreast s t Stmt.unplaced (conditional expr below loops l)
      (conditional expr below loops l') := by
  have blocks := abreast_block aligned (hbelow.statement loops)
  refine h.bind fun test test' same => blocks.bind fun thenBody thenBody' sameThen => ?_
  refine (Abreast.eatKeyword aligned _).andThen fun found => .ite ?_ (.pure ?_)
  · refine .peek aligned fun _ _ _ m m' _ => ?_
    refine (Abreast.eatKeyword aligned _).andThen fun again => .ite ?_ ?_
    · refine (hbelow.elseIf loops m m').bind fun inner inner' sameInner => .pure ?_
      simp only [Stmt.unplaced, Stmt.unplacedAll, same, sameThen, sameInner]
    · refine blocks.bind fun elseBody elseBody' sameElse => .pure ?_
      simp only [Stmt.unplaced, same, sameThen, sameElse]
  · simp only [Stmt.unplaced, same, sameThen]

/-- A position is told where a word stands outside of a loop. -/
theorem abreast_keywordStatement (loops : Nat) (k : Keyword) {l l' : Location}
    (at_ : Opposite s t l l') : Abreast s t Stmt.unplaced (keywordStatement expr below loops k l)
      (keywordStatement expr below loops k l') := by
  have blocks (loops : Nat) := abreast_block aligned (hbelow.statement loops)
  have word {p q : Parser Stmt} (rest : Abreast s t Stmt.unplaced p q) :
      Abreast s t Stmt.unplaced (advance >>= fun _ => p) (advance >>= fun _ => q) :=
    Abreast.advance.andThen fun _ => rest
  have jump {k : Keyword} {a b : Stmt} (same : a.unplaced = b.unplaced) :
      Abreast s t Stmt.unplaced (if loops = 0 then outsideLoop k l else return a)
        (if loops = 0 then outsideLoop k l' else return b) :=
    .ite (.reject at_) (.pure same)
  cases k with
  | setWord => exact word (abreast_assignment aligned h l l')
  | ifWord => exact word (abreast_conditional aligned hbelow h loops l l')
  | defWord => exact word (abreast_definition aligned hbelow l l')
  | tryWord => exact word (abreast_attempt aligned hbelow loops l l')
  | breakWord | continueWord => exact word (jump rfl)
  | letWord =>
      refine word ((abreast_expectVariable aligned).andThen fun name => ?_)
      refine (abreast_expectMark aligned _ _).andThen fun _ => ?_
      refine h.bind fun value value' same => .pure ?_
      simp only [Stmt.unplaced, same]
  | printWord =>
      refine word (h.bind fun value value' same => .pure ?_)
      simp only [Stmt.unplaced, same]
  | returnWord =>
      refine word ((abreast_optionalOperand aligned h).bind fun value value' same => .pure ?_)
      simp only [Stmt.unplaced, same]
  | loopWord | whileWord =>
      refine word (h.bind fun e e' same => ?_)
      refine (blocks (loops + 1)).bind fun body body' same' => .pure ?_
      simp only [Stmt.unplaced, same, same']
  | onWord =>
      refine word (h.bind fun e e' same => (blocks 0).bind fun body body' same' => .pure ?_)
      simp only [Stmt.unplaced, same, same']
  | foreachWord =>
      refine word ((abreast_expectVariable aligned).andThen fun var => ?_)
      refine (abreast_expectWord aligned _).andThen fun _ => h.bind fun items items' same => ?_
      refine (blocks (loops + 1)).bind fun body body' same' => .pure ?_
      simp only [Stmt.unplaced, same, same']
  | _ =>
      -- what is left asks the host for something
      simp only [keywordStatement]
      split
      · next request found =>
        refine word ((abreast_hostRequest aligned h found).bind fun r r' same => .pure ?_)
        simp only [Stmt.unplaced, same]
      · exact .expected aligned _

theorem abreast_statementOver (loops : Nat) : Abreast s t Stmt.unplaced
    (statementOver expr below loops) (statementOver expr below loops) := by
  refine .peek aligned fun kind _ _ l l' at_ => ?_
  have ended {p q : Parser Stmt} (made : Abreast s t Stmt.unplaced p q) :
      Abreast s t Stmt.unplaced (do let s ← p; let _ ← eatMark .semicolon; return s)
        (do let s ← q; let _ ← eatMark .semicolon; return s) :=
    made.bind fun a b same => (Abreast.eatMark aligned _).andThen fun _ => .pure same
  have other := abreast_exprStatement aligned h l l'
  cases kind with
  | mark m =>
      cases m with
      | openBrace =>
          have blocks := abreast_block aligned (hbelow.statement loops)
          refine ended (blocks.map fun body body' same => ?_)
          simp only [Stmt.unplaced, same]
      | _ => exact ended other
  | keyword k =>
      exact .ite (ended other) (ended (abreast_keywordStatement aligned hbelow h loops k at_))
  | _ => exact ended other

end Levels

/-- By induction on the levels that are left. -/
theorem abreast_statementsWithin (room : Nat) : (statementsWithin room).Abreast s t := by
  induction room with
  | zero => exact ⟨fun _ => .nestingTooDeep, fun _ _ _ => .nestingTooDeep⟩
  | succ room ih =>
      have expr := abreast_exprWithin aligned room
      exact ⟨abreast_statementOver aligned ih expr, abreast_conditional aligned ih expr⟩

theorem abreast_programFrom {statement : Parser Stmt}
    (h : Abreast s t Stmt.unplaced statement statement) (n : Nat) :
    Abreast s t Stmt.unplacedAll (programFrom statement n) (programFrom statement n) := by
  induction n with
  | zero => exact .pure rfl
  | succ n ih =>
      refine .peek aligned fun kind _ _ _ _ _ => .ite (.pure rfl) ?_
      refine h.bind fun a b same => ih.bind fun as bs others => .pure ?_
      simp only [Stmt.unplacedAll, same, others]

theorem abreast_program : Abreast s t Stmt.unplacedAll program program :=
  (Abreast.tokensLeft aligned).andThen fun n =>
    abreast_programFrom aligned ((abreast_statementsWithin aligned maxNesting).statement 0) n

end Grammar

/-! ### Streams -/

/-- The end token of the stream is the last one and the only one, and lines count from one. -/
structure IsStream (tokens : List Token) : Prop where
  ends : ∃ body last, tokens = body ++ [last] ∧ last.kind = .eof ∧ ∀ x ∈ body, x.kind ≠ .eof
  lines : ∀ x ∈ tokens, 1 ≤ x.loc.line

theorem Cursor.rest_at (tokens : List Token) (i : Nat) :
    (Cursor.at tokens i).rest = tokens.drop i := by
  induction i with
  | zero => rfl
  | succ i ih =>
      change (Cursor.at tokens i).rest.tail = _
      rw [ih, List.tail_drop]

theorem Cursor.next_at (tokens : List Token) (i : Nat) :
    (Cursor.at tokens i).next = tokens[i]?.getD endToken := by
  rw [Cursor.next, Cursor.rest_at, List.head?_drop]

section Streams

variable {s t : List Token}

theorem IsStream.line_pos (hs : IsStream s) {i : Nat} {x : Token} (at_ : s[i]? = some x) :
    x.loc.line ≠ 0 :=
  Nat.one_le_iff_ne_zero.mp (hs.lines x (List.mem_of_getElem? at_))

/-- Neither in front of the first token nor behind the last one there is a token on the same
line. -/
theorem aligned_of_isStream (hs : IsStream s) (ht : IsStream t)
    (kinds : s.map Token.kind = t.map Token.kind)
    (lines : ∀ i x x' y y', s[i]? = some x → s[i + 1]? = some x' → t[i]? = some y →
      t[i + 1]? = some y' → (x.loc.line = x'.loc.line ↔ y.loc.line = y'.loc.line)) :
    Aligned s t := by
  have length : s.length = t.length := by simpa using congrArg List.length kinds
  have both (i : Nat) : (s[i]? = none ∧ t[i]? = none) ∨
      ∃ x y, s[i]? = some x ∧ t[i]? = some y ∧ x.kind = y.kind := by
    have kind : s[i]?.map Token.kind = t[i]?.map Token.kind := by
      rw [← List.getElem?_map, ← List.getElem?_map, kinds]
    cases hx : s[i]? <;> cases hy : t[i]? <;> simp_all
  refine ⟨fun i => ?_, fun i => ?_, fun i => ?_⟩
  · rw [Cursor.rest_at, Cursor.rest_at, List.length_drop, List.length_drop, length]
  · rw [Cursor.next_at, Cursor.next_at]
    obtain ⟨hx, hy⟩ | ⟨x, y, hx, hy, same⟩ := both i
    · rw [hx, hy]
    · rw [hx, hy]
      exact same
  · rw [Bool.eq_iff_iff, beq_iff_eq, beq_iff_eq, Cursor.next_at, Cursor.next_at]
    cases i with
    | zero =>
        change _ = 0 ↔ _ = 0
        obtain ⟨hx, hy⟩ | ⟨x, y, hx, hy, -⟩ := both 0
        · rw [hx, hy]
        · rw [hx, hy]
          exact iff_of_false (hs.line_pos hx) (ht.line_pos hy)
    | succ i =>
        change _ = (Cursor.at s i).next.loc.line ↔ _ = (Cursor.at t i).next.loc.line
        rw [Cursor.next_at, Cursor.next_at]
        obtain ⟨hx, hy⟩ | ⟨x, y, hx, hy, -⟩ := both i
        · have behind : s[i + 1]? = none ∧ t[i + 1]? = none := by
            simp only [List.getElem?_eq_none_iff] at hx hy ⊢
            omega
          rw [hx, hy, behind.1, behind.2]
        · obtain ⟨hx', hy'⟩ | ⟨x', y', hx', hy', -⟩ := both (i + 1)
          · rw [hx, hy, hx', hy']
            exact iff_of_false (hs.line_pos hx).symm (ht.line_pos hy).symm
          · rw [hx, hy, hx', hy']
            exact eq_comm.trans ((lines i x x' y y' hx hx' hy hy').trans eq_comm)

/-- Two streams of the same kinds of tokens in which the same neighbours stand on one line are the
same program up to positions, or both are refused with the same words at the same token. -/
theorem programOfTokens_layout (s t : List Token) (hs : IsStream s) (ht : IsStream t)
    (kinds : s.map Token.kind = t.map Token.kind)
    (lines : ∀ i x x' y y', s[i]? = some x → s[i + 1]? = some x' → t[i]? = some y →
      t[i + 1]? = some y' → (x.loc.line = x'.loc.line ↔ y.loc.line = y'.loc.line)) :
    (∃ p q, programOfTokens s = .ok p ∧ programOfTokens t = .ok q ∧
      Stmt.unplacedAll p = Stmt.unplacedAll q) ∨
    ∃ (i : Nat) (x y : Token) (message : String) (hint : Option String),
      s[i]? = some x ∧ t[i]? = some y ∧
      programOfTokens s = .error (.failure .malformed ⟨message, x.loc, hint⟩) ∧
      programOfTokens t = .error (.failure .malformed ⟨message, y.loc, hint⟩) := by
  have outcome := abreast_program (aligned_of_isStream hs ht kinds lines) 0
  change SameOutcome s t _ (program (.ofTokens s)) (program (.ofTokens t)) at outcome
  -- a failure stands at a token, so it is not behind the end of the stream
  have failed : ∀ f, program (.ofTokens s) = .error f → ∃ d, f = .failure .malformed d ∧
      d.loc.line ≠ 0 := by
    intro f result
    obtain ⟨body, last, rfl, eof, -⟩ := hs.ends
    obtain ⟨d, rfl, x, mem, here⟩ :=
      (proceeds_program [] (Cursor.in_ofTokens body eof)).failed f result
    exact ⟨d, rfl, here ▸ Nat.one_le_iff_ne_zero.mp (hs.lines x mem)⟩
  simp only [programOfTokens]
  generalize program (.ofTokens s) = first at outcome failed ⊢
  generalize program (.ofTokens t) = second at outcome ⊢
  cases outcome with
  | made i same => exact .inl ⟨_, _, rfl, rfl, same⟩
  | @failed message hint _ _ at_ =>
      obtain ⟨i, rfl, rfl⟩ := at_
      obtain ⟨_, ⟨⟩, known⟩ := failed _ rfl
      have length : s.length = t.length := by simpa using congrArg List.length kinds
      rw [Cursor.next_at] at known
      have below : i < s.length := by
        refine Nat.lt_of_not_le fun behind => known ?_
        rw [List.getElem?_eq_none behind]
        rfl
      refine .inr ⟨i, s[i], t[i], message, hint, List.getElem?_eq_getElem _,
        List.getElem?_eq_getElem _, ?_⟩
      rw [Cursor.next_at, Cursor.next_at, List.getElem?_eq_getElem below,
        List.getElem?_eq_getElem (length ▸ below)]
      exact ⟨rfl, rfl⟩

/-- The statement `print x` on one line, with the variable at a column. -/
def printStream (line column : Nat) : List Token :=
  [⟨.keyword .printWord, "print", ⟨line, 1, 0⟩⟩, ⟨.name "x", "x", ⟨line, column, column - 1⟩⟩,
    ⟨.eof, "", ⟨line + 1, 1, column + 1⟩⟩]

theorem isStream_printStream (line column : Nat) : IsStream (printStream (line + 1) column) where
  ends := ⟨(printStream (line + 1) column).take 2, _, rfl, rfl, by simp [printStream]⟩
  lines := by simp [printStream]

theorem lines_printStream (line column line' column' : Nat) : ∀ (i : Nat) (x x' y y' : Token),
    (printStream line column)[i]? = some x → (printStream line column)[i + 1]? = some x' →
    (printStream line' column')[i]? = some y → (printStream line' column')[i + 1]? = some y' →
    (x.loc.line = x'.loc.line ↔ y.loc.line = y'.loc.line) := by
  rintro (_ | _ | i) x x' y y' hx ⟨⟩ hy ⟨⟩
  · cases hx
    cases hy
    exact iff_of_true rfl rfl
  · cases hx
    cases hy
    simp

/-- The same statement on another line and with more blanks. -/
theorem programOfTokens_printStream : IsStream (printStream 1 7) ∧ IsStream (printStream 4 30) ∧
    ∃ p q, programOfTokens (printStream 1 7) = .ok p ∧ programOfTokens (printStream 4 30) = .ok q ∧
      Stmt.unplacedAll p = Stmt.unplacedAll q := by
  have hs := isStream_printStream 0 7
  have ht := isStream_printStream 3 30
  refine ⟨hs, ht, ?_⟩
  obtain made | ⟨i, x, y, message, hint, -, -, failed, -⟩ :=
    programOfTokens_layout (printStream 1 7) (printStream 4 30) hs ht rfl
      (lines_printStream 1 7 4 30)
  · exact made
  · have read : programOfTokens (printStream 1 7) =
        .ok [.print ⟨1, 1, 0⟩ (.var ⟨1, 7, 6⟩ "x")] := rfl
    rw [read] at failed
    cases failed

end Streams

end Source

end HostScript
