import HostScript.Proofs.Grammar.Consumption
import HostScript.Proofs.Grammar.Levels
import HostScript.Proofs.Grammar.Seams

/-!
# Programs one behind the other

A source text that ends with a semicolon and another one on the lines behind it make up a program:
that of the first text, followed by that of the second one at the positions it has there.

## Implementation notes

The seam between the two texts is the semicolon. The statements of the first text are read in front
of it, and the last of them takes it. For the second text the seam is its end token, with nothing
behind it, and all that happens is that positions move. So one passage through the grammar serves
for both. To the first text it is applied with further tokens behind the end token, as many as make
the two streams equally long.
-/

namespace HostScript.Source

/-! ### Statements -/

/-- As for parsers that follow, but a statement may take the semicolon at the seam. -/
def ClosesAt (s : Seam) (p q : Parser Stmt) (c d : Cursor) : Prop :=
  ∀ a c', p c = .ok (a, c') → ∃ d', q d = .ok (a.relocate s.move, d') ∧
    (c'.Faces s d' ∨ c'.Past s d')

/-- The parsers make the same statements wherever they are in front of the seam. -/
def Closes (s : Seam) (p q : Parser Stmt) : Prop := ∀ c d, c.Faces s d → ClosesAt s p q c d

namespace ClosesAt

variable {s : Seam} {c d : Cursor} {p q p' q' : Parser Stmt}

theorem peek {next next' : Token → Parser Stmt} (faces : c.Faces s d)
    (then_ : ∀ kind lexeme loc, c.next = ⟨kind, lexeme, loc⟩ →
      ClosesAt s (next ⟨kind, lexeme, loc⟩) (next' ⟨kind, lexeme, s.move loc⟩) c d) :
    ClosesAt s (Source.peek >>= next) (Source.peek >>= next') c d := by
  have seen : Source.peek d = .ok (c.next.relocate s.move, d) := by
    rw [← faces.rest.next_eq]
    rfl
  intro a c' made
  rw [bind_eq_of_ok seen]
  exact then_ _ _ _ rfl a c' made

theorem ite {b : Prop} [Decidable b] (yes : ClosesAt s p q c d) (no : ClosesAt s p' q' c d) :
    ClosesAt s (if b then p else p') (if b then q else q') c d := by
  split
  · exact yes
  · exact no

end ClosesAt

section Grammar

variable {s : Seam} {c d : Cursor}

/-- Behind the seam the first stream is over. -/
theorem Cursor.Past.next_kind (past : c.Past s d) : c.next.kind = .eof := by
  rw [Cursor.next, past.left]
  exact s.finished

/-- Taking the semicolon behind a statement, if it is there. -/
theorem closesAt_semicolon {p q : Parser Stmt}
    (made : FollowsAt s (Stmt.relocate s.move) p q c d) :
    ClosesAt s (do let a ← p; let _ ← eatMark .semicolon; return a)
      (do let a ← q; let _ ← eatMark .semicolon; return a) c d := by
  intro a c' result
  obtain ⟨a, c₁, first, rest⟩ := bind_eq_ok_iff.mp result
  obtain ⟨d₁, first', faces⟩ := made a c₁ first
  obtain ⟨taken, c₂, ate, ended⟩ := bind_eq_ok_iff.mp rest
  cases ended
  have same : d₁.next.kind = c₁.next.kind := by
    rw [faces.rest.next_eq]
    rfl
  rw [bind_eq_of_ok first']
  rw [eatMark] at ate
  split at ate
  · next here =>
    cases ate
    refine ⟨d₁.advance, ?_, faces.advance_cases.imp_right And.right⟩
    rw [bind_eq_of_ok (p := eatMark .semicolon) (a := true)]
    · rfl
    · rw [eatMark, same, if_pos here]
  · next other =>
    cases ate
    refine ⟨d₁, ?_, .inl faces⟩
    rw [bind_eq_of_ok (p := eatMark .semicolon) (a := false)]
    · rfl
    · rw [eatMark, same, if_neg other]

/-! ### Blocks and operands -/

section Blocks

variable {statement : Parser Stmt}

theorem statementsUntilBrace_end (n : Nat) (end_ : c.next.kind = .eof) :
    ∃ f, statementsUntilBrace statement n c = .error f := by
  cases n with
  | zero => exact ⟨_, rfl⟩
  | succ n =>
      rw [statementsUntilBrace, bind_eq_of_ok (p := peek) (a := c.next) rfl, end_]
      exact ⟨_, rfl⟩

variable (h : Closes s statement statement)
include h

/-- A block is not over at the seam, where the first stream is: only its brace closes it. -/
theorem follows_statementsUntilBrace (n : Nat) : Follows s (Stmt.relocateAll s.move)
    (statementsUntilBrace statement n) (statementsUntilBrace statement n) := by
  induction n with
  | zero => exact fun c d faces => .expected _
  | succ n ih =>
      intro c d faces
      have further : FollowsAt s (Stmt.relocateAll s.move)
          (do let a ← statement; return a :: (← statementsUntilBrace statement n))
          (do let a ← statement; return a :: (← statementsUntilBrace statement n)) c d := by
        intro body c' made
        obtain ⟨a, c₁, first, rest⟩ := bind_eq_ok_iff.mp made
        obtain ⟨d₁, first', faces₁ | past⟩ := h c d faces a c₁ first
        · have others : FollowsAt s (Stmt.relocateAll s.move)
              (do return a :: (← statementsUntilBrace statement n))
              (do return a.relocate s.move :: (← statementsUntilBrace statement n)) c₁ d₁ :=
            (ih c₁ d₁ faces₁).bind fun as c₂ d₂ faces₂ => .pure faces₂ rfl
          rw [bind_eq_of_ok first']
          exact others body c' rest
        · obtain ⟨f, failed⟩ := statementsUntilBrace_end n past.next_kind
          obtain ⟨as, c₂, made₂, -⟩ := bind_eq_ok_iff.mp rest
          cases failed.symm.trans made₂
      refine .peek faces fun kind lexeme loc here => ?_
      cases kind with
      | mark m =>
          cases m with
          | closeBrace => exact .advance faces here rfl fun c₁ d₁ faces₁ => .pure faces₁ rfl
          | _ => exact further
      | eof => exact .expected _
      | _ => exact further

theorem follows_block :
    Follows s (Stmt.relocateAll s.move) (block statement) (block statement) := by
  intro c d faces
  refine (follows_expectMark _ rfl c d faces).bind fun _ c₁ d₁ faces₁ => ?_
  exact .tokensLeft faces₁ fun n => follows_statementsUntilBrace h n c₁ d₁ faces₁

end Blocks

theorem follows_intoVariable : Follows s id intoVariable intoVariable := by
  intro c d faces
  refine (follows_eatWord _ c d faces).bind fun found c₁ d₁ faces₁ => .ite ?_ (.pure faces₁ rfl)
  exact (follows_expectVariable c₁ d₁ faces₁).bind fun name c₂ d₂ faces₂ => .pure faces₂ rfl

section Operands

variable {expr : Parser Expr} (h : Follows s (Expr.relocate s.move) expr expr)
include h

theorem follows_optionalOperand : Follows s (Option.map (Expr.relocate s.move))
    (optionalOperand expr) (optionalOperand expr) := by
  intro c d faces
  refine (follows_operandFollows c d faces).bind fun found c₁ d₁ faces₁ => ?_
  refine .ite ?_ (.pure faces₁ rfl)
  exact (h c₁ d₁ faces₁).bind fun e c₂ d₂ faces₂ => .pure faces₂ rfl

theorem follows_targetFrom (n : Nat) (target : Target) :
    Follows s (Target.relocate s.move) (targetFrom expr n target)
      (targetFrom expr n (target.relocate s.move)) := by
  induction n generalizing target with
  | zero => exact fun c d faces => .pure faces rfl
  | succ n ih =>
      intro c d faces
      refine .peek faces fun kind lexeme loc here => ?_
      refine .eatMark faces rfl fun dot c₁ d₁ faces₁ => .ite ?_ ?_
      · refine (follows_memberName c₁ d₁ faces₁).bind fun key c₂ d₂ faces₂ => ?_
        have grown := ih (.member (target.toExpr loc) key) c₂ d₂ faces₂
        rw [Target.relocate, Target.relocate_toExpr] at grown
        exact grown
      · refine .eatMark faces₁ rfl fun bracket c₂ d₂ faces₂ => .ite ?_ (.pure faces₂ rfl)
        refine (h c₂ d₂ faces₂).bind fun position c₃ d₃ faces₃ => ?_
        refine (follows_expectMark _ rfl c₃ d₃ faces₃).bind fun _ c₄ d₄ faces₄ => ?_
        have grown := ih (.index (target.toExpr loc) position) c₄ d₄ faces₄
        rw [Target.relocate, Target.relocate_toExpr] at grown
        exact grown

omit h in
theorem endsStatement_of_assignOp? {kind : TokenKind} {op : AssignOp}
    (found : assignOp? kind = some op) : endsStatement kind = false := by
  cases kind with
  | mark m =>
      cases m with
      | semicolon => cases found
      | _ => rfl
  | eof => cases found
  | _ => rfl

theorem follows_assignment (loc : Location) :
    Follows s (Stmt.relocate s.move) (assignment expr loc) (assignment expr (s.move loc)) := by
  intro c d faces
  refine (follows_expectVariable c d faces).bind fun name c₁ d₁ faces₁ => ?_
  refine .tokensLeft faces₁ fun n => ?_
  refine (follows_targetFrom h n (.var name) c₁ d₁ faces₁).bind fun target c₂ d₂ faces₂ => ?_
  refine .peek faces₂ fun kind lexeme _ here => ?_
  dsimp only
  cases found : assignOp? kind with
  | none => exact .expected _
  | some op =>
      refine .advance faces₂ here (endsStatement_of_assignOp? found) fun c₃ d₃ faces₃ => ?_
      exact (h c₃ d₃ faces₃).bind fun value c₄ d₄ faces₄ => .pure faces₄ rfl

theorem follows_exprStatement (loc : Location) : Follows s (Stmt.relocate s.move)
    (exprStatement expr loc) (exprStatement expr (s.move loc)) := by
  intro c d faces
  refine (h c d faces).bind fun value c₁ d₁ faces₁ => ?_
  exact .peek faces₁ fun kind lexeme _ here => .ite (.fails rfl) (.pure faces₁ rfl)

/-- A request with one operand. -/
theorem follows_requestOf {make : Expr → HostRequest}
    (view : ∀ e, (make e).relocate s.move = make (e.relocate s.move)) :
    Follows s (HostRequest.relocate s.move) (do return make (← expr)) (do return make (← expr)) :=
  fun c d faces => (h c d faces).bind fun e _ _ faces₁ => .pure faces₁ (view e)

/-- A request with an operand and another one that may be left out. -/
theorem follows_requestWith {make : Expr → Option Expr → HostRequest}
    (view : ∀ e other, (make e other).relocate s.move =
      make (e.relocate s.move) (other.map (Expr.relocate s.move))) :
    Follows s (HostRequest.relocate s.move)
      (do let e ← expr; return make e (← optionalOperand expr))
      (do let e ← expr; return make e (← optionalOperand expr)) :=
  fun c d faces => (h c d faces).bind fun e c₁ d₁ faces₁ =>
    (follows_optionalOperand h c₁ d₁ faces₁).bind fun other _ _ faces₂ =>
      .pure faces₂ (view e other)

theorem follows_hostRequest {k : Keyword} {request : Parser HostRequest}
    (found : hostRequest expr k = some request) :
    Follows s (HostRequest.relocate s.move) request request := by
  intro c d faces
  cases k with
  | emitWord | launchWord | notifyWord =>
      cases found
      exact follows_requestWith h (fun _ _ => rfl) c d faces
  | focusWord | minimizeWord | maximizeWord | waitWord | mkdirWord | alertWord | playWord
  | videoWord =>
      cases found
      exact follows_requestOf h (fun _ => rfl) c d faces
  | closeWord =>
      cases found
      exact (follows_optionalOperand h c d faces).bind fun e c₁ d₁ faces₁ => .pure faces₁ rfl
  | writeWord =>
      cases found
      refine (h c d faces).bind fun content c₁ d₁ faces₁ => ?_
      refine (follows_expectWord _ c₁ d₁ faces₁).bind fun _ c₂ d₂ faces₂ => ?_
      exact (h c₂ d₂ faces₂).bind fun path c₃ d₃ faces₃ => .pure faces₃ rfl
  | readWord =>
      cases found
      refine (h c d faces).bind fun path c₁ d₁ faces₁ => ?_
      refine (follows_expectWord _ c₁ d₁ faces₁).bind fun _ c₂ d₂ faces₂ => ?_
      exact (follows_expectVariable c₂ d₂ faces₂).bind fun var c₃ d₃ faces₃ => .pure faces₃ rfl
  | deleteWord =>
      cases found
      refine (h c d faces).bind fun path c₁ d₁ faces₁ => ?_
      exact (follows_eatWord _ c₁ d₁ faces₁).bind fun all c₂ d₂ faces₂ => .pure faces₂ rfl
  | confirmWord =>
      cases found
      refine (h c d faces).bind fun message c₁ d₁ faces₁ => ?_
      exact (follows_intoVariable c₁ d₁ faces₁).bind fun var c₂ d₂ faces₂ => .pure faces₂ rfl
  | promptWord =>
      cases found
      refine (h c d faces).bind fun message c₁ d₁ faces₁ => ?_
      have answered (default : Option Expr) (c₂ d₂ : Cursor) (faces₂ : c₂.Faces s d₂) :
          FollowsAt s (HostRequest.relocate s.move)
            (do return .prompt message default (← intoVariable))
            (do let var ← intoVariable
                return .prompt (message.relocate s.move) (default.map (Expr.relocate s.move)) var)
            c₂ d₂ :=
        (follows_intoVariable c₂ d₂ faces₂).bind fun var c₃ d₃ faces₃ => .pure faces₃ rfl
      refine (follows_eatWord _ c₁ d₁ faces₁).bind fun given c₂ d₂ faces₂ => ?_
      refine .ite ?_ (answered none c₂ d₂ faces₂)
      have some_ : FollowsAt s (Option.map (Expr.relocate s.move)) (some <$> expr) (some <$> expr)
          c₂ d₂ := (h c₂ d₂ faces₂).map fun _ => rfl
      exact some_.bind answered
  | stopWord =>
      cases found
      exact .pure faces rfl
  | commandWord =>
      cases found
      refine (h c d faces).bind fun name c₁ d₁ faces₁ => ?_
      refine (follows_operandFollows c₁ d₁ faces₁).bind fun given c₂ d₂ faces₂ => ?_
      refine .ite ?_ (.pure faces₂ rfl)
      exact (follows_commaList h c₂ d₂ faces₂).bind fun args c₃ d₃ faces₃ => .pure faces₃ rfl
  | _ => cases found

end Operands

/-! ### Levels -/

/-- The parsers of a level make the same statements of both streams. -/
structure StatementLevel.Closes (s : Seam) (level : StatementLevel) : Prop where
  statement : ∀ loops, Source.Closes s (level.statement loops) (level.statement loops)
  elseIf : ∀ loops loc, Follows s (Stmt.relocate s.move) (level.elseIf loops loc)
    (level.elseIf loops (s.move loc))

section Levels

variable {below : StatementLevel} (hbelow : below.Closes s)
include hbelow

theorem follows_definition (loc : Location) : Follows s (Stmt.relocate s.move)
    (definition below loc) (definition below (s.move loc)) := by
  intro c d faces
  refine .peek faces fun kind lexeme _ here => ?_
  cases kind with
  | name name =>
      have rest (params : List String) (c₁ d₁ : Cursor) (faces₁ : c₁.Faces s d₁) :
          FollowsAt s (Stmt.relocate s.move)
            (do expectMark .closeParen "')' after parameters"
                return .define loc name params (← block (below.statement 0)))
            (do expectMark .closeParen "')' after parameters"
                return .define (s.move loc) name params (← block (below.statement 0))) c₁ d₁ := by
        refine (follows_expectMark _ rfl c₁ d₁ faces₁).bind fun _ c₂ d₂ faces₂ => ?_
        refine (follows_block (hbelow.statement 0) c₂ d₂ faces₂).bind fun body c₃ d₃ faces₃ => ?_
        exact .pure faces₃ rfl
      refine .advance faces here rfl fun c₁ d₁ faces₁ => ?_
      refine (follows_expectMark _ rfl c₁ d₁ faces₁).bind fun _ c₂ d₂ faces₂ => ?_
      refine .atMark faces₂ fun none_ _ => .ite (rest [] c₂ d₂ faces₂) ?_
      refine (follows_commaList follows_expectVariable c₂ d₂ faces₂).bind
        fun params c₃ d₃ faces₃ => ?_
      rw [List.map_id]
      exact rest params c₃ d₃ faces₃
  | _ => exact .expected _

theorem follows_attempt (loops : Nat) (loc : Location) : Follows s (Stmt.relocate s.move)
    (attempt below loops loc) (attempt below loops (s.move loc)) := by
  intro c d faces
  have blocks := follows_block (hbelow.statement loops)
  refine (blocks c d faces).bind fun body c₁ d₁ faces₁ => ?_
  have caught (var : String) (c₂ d₂ : Cursor) (faces₂ : c₂.Faces s d₂) :
      FollowsAt s (Stmt.relocate s.move)
        (do return .attempt loc body var (← block (below.statement loops)))
        (do let handler ← block (below.statement loops)
            return .attempt (s.move loc) (Stmt.relocateAll s.move body) var handler) c₂ d₂ :=
    (blocks c₂ d₂ faces₂).bind fun handler c₃ d₃ faces₃ => .pure faces₃ rfl
  refine .eatKeyword faces₁ fun found c₂ d₂ faces₂ => .ite ?_ (.expected _)
  refine .atMark faces₂ fun bare _ => .ite (caught "error" c₂ d₂ faces₂) ?_
  exact (follows_expectVariable c₂ d₂ faces₂).bind caught

variable {expr : Parser Expr} (h : Follows s (Expr.relocate s.move) expr expr)
include h

theorem follows_conditional (loops : Nat) (loc : Location) : Follows s (Stmt.relocate s.move)
    (conditional expr below loops loc) (conditional expr below loops (s.move loc)) := by
  intro c d faces
  have blocks := follows_block (hbelow.statement loops)
  refine (h c d faces).bind fun test c₁ d₁ faces₁ => ?_
  refine (blocks c₁ d₁ faces₁).bind fun thenBody c₂ d₂ faces₂ => ?_
  refine .eatKeyword faces₂ fun found c₃ d₃ faces₃ => .ite ?_ (.pure faces₃ rfl)
  refine .peek faces₃ fun kind lexeme at_ here => ?_
  refine .eatKeyword faces₃ fun again c₄ d₄ faces₄ => .ite ?_ ?_
  · refine (hbelow.elseIf loops at_ c₄ d₄ faces₄).bind fun inner c₅ d₅ faces₅ => ?_
    exact .pure faces₅ rfl
  · exact (blocks c₄ d₄ faces₄).bind fun elseBody c₅ d₅ faces₅ => .pure faces₅ rfl

/-- A statement that starts with a reserved word, which is the next token. -/
theorem follows_keywordStatement (loops : Nat) (k : Keyword) {lexeme : String} {loc : Location}
    (faces : c.Faces s d) (here : c.next = ⟨.keyword k, lexeme, loc⟩) :
    FollowsAt s (Stmt.relocate s.move) (keywordStatement expr below loops k loc)
      (keywordStatement expr below loops k (s.move loc)) c d := by
  have blocks (loops : Nat) := follows_block (hbelow.statement loops)
  have word {p q : Parser Stmt} (rest : Follows s (Stmt.relocate s.move) p q) :
      FollowsAt s (Stmt.relocate s.move) (advance >>= fun _ => p) (advance >>= fun _ => q) c d :=
    .advance faces here rfl rest
  have jump (k : Keyword) {a b : Stmt} (same : a.relocate s.move = b) :
      Follows s (Stmt.relocate s.move) (if loops = 0 then outsideLoop k loc else return a)
        (if loops = 0 then outsideLoop k (s.move loc) else return b) :=
    fun c d faces => .ite (.reject _) (.pure faces same)
  cases k with
  | setWord => exact word (follows_assignment h loc)
  | ifWord => exact word (follows_conditional hbelow h loops loc)
  | defWord => exact word (follows_definition hbelow loc)
  | tryWord => exact word (follows_attempt hbelow loops loc)
  | breakWord => exact word (jump .breakWord rfl)
  | continueWord => exact word (jump .continueWord rfl)
  | letWord =>
      refine word fun c d faces => ?_
      refine (follows_expectVariable c d faces).bind fun name c₁ d₁ faces₁ => ?_
      refine (follows_expectMark _ rfl c₁ d₁ faces₁).bind fun _ c₂ d₂ faces₂ => ?_
      exact (h c₂ d₂ faces₂).bind fun value c₃ d₃ faces₃ => .pure faces₃ rfl
  | printWord =>
      exact word fun c d faces => (h c d faces).bind fun value c₁ d₁ faces₁ => .pure faces₁ rfl
  | returnWord =>
      refine word fun c d faces => (follows_optionalOperand h c d faces).bind
        fun value c₁ d₁ faces₁ => .pure faces₁ rfl
  | loopWord | whileWord =>
      refine word fun c d faces => (h c d faces).bind fun e c₁ d₁ faces₁ => ?_
      exact (blocks (loops + 1) c₁ d₁ faces₁).bind fun body c₂ d₂ faces₂ => .pure faces₂ rfl
  | onWord =>
      refine word fun c d faces => (h c d faces).bind fun e c₁ d₁ faces₁ => ?_
      exact (blocks 0 c₁ d₁ faces₁).bind fun body c₂ d₂ faces₂ => .pure faces₂ rfl
  | foreachWord =>
      refine word fun c d faces => ?_
      refine (follows_expectVariable c d faces).bind fun var c₁ d₁ faces₁ => ?_
      refine (follows_expectWord _ c₁ d₁ faces₁).bind fun _ c₂ d₂ faces₂ => ?_
      refine (h c₂ d₂ faces₂).bind fun items c₃ d₃ faces₃ => ?_
      exact (blocks (loops + 1) c₃ d₃ faces₃).bind fun body c₄ d₄ faces₄ => .pure faces₄ rfl
  | _ =>
      -- what is left asks the host for something
      simp only [keywordStatement]
      split
      · next request found =>
        refine word fun c d faces => (follows_hostRequest h found c d faces).bind
          fun request c₁ d₁ faces₁ => .pure faces₁ rfl
      · exact .expected _

theorem closes_statementOver (loops : Nat) :
    Closes s (statementOver expr below loops) (statementOver expr below loops) := by
  intro c d faces
  refine .peek faces fun kind lexeme loc here => ?_
  have other := closesAt_semicolon (follows_exprStatement h loc c d faces)
  cases kind with
  | mark m =>
      cases m with
      | openBrace =>
          have blocks := follows_block (hbelow.statement loops) c d faces
          exact closesAt_semicolon (blocks.map fun _ => rfl)
      | _ => exact other
  | keyword k =>
      have named := follows_keywordStatement hbelow h loops k faces here
      exact .ite other (closesAt_semicolon named)
  | _ => exact other

end Levels

/-- By induction on the levels that are left. -/
theorem closes_statementsWithin (room : Nat) : (statementsWithin room).Closes s := by
  induction room with
  | zero =>
      refine ⟨fun loops c d faces a c' made => ?_, fun loops loc c d faces => .fails rfl⟩
      cases made
  | succ room ih =>
      have expr : Follows s (Expr.relocate s.move) (exprWithin room) (exprWithin room) :=
        follows_exprWithin room
      exact ⟨closes_statementOver ih expr, follows_conditional ih expr⟩

/-- A statement of a program is read with all levels left and with no loop open. -/
theorem closes_statement :
    Closes s ((statementsWithin maxNesting).statement 0)
      ((statementsWithin maxNesting).statement 0) :=
  (closes_statementsWithin maxNesting).statement 0

end Grammar

/-! ### Programs -/

section Ends

variable {α β : Type} {p : Parser α} {next : α → Parser β} {c : Cursor}

theorem bind_eq_of_error {f : Fault} (failed : p c = .error f) : (p >>= next) c = .error f := by
  change Except.bind (p c) _ = _
  rw [failed]
  rfl

theorem exprOver_eq_of_error {operand : Parser Expr} {f : Fault} (failed : operand c = .error f) :
    exprOver operand c = .error f := by
  unfold exprOver
  generalize levels = levels
  induction levels generalizing operand with
  | nil => exact failed
  | cons level rest ih => exact ih (bind_eq_of_error failed)

variable (end_ : c.next.kind = .eof)
include end_

/-- No expression begins at the end token. -/
theorem exprWithin_end (room : Nat) : ∃ f, exprWithin room c = .error f := by
  cases room with
  | zero => exact ⟨_, exprOver_eq_of_error rfl⟩
  | succ room =>
      have failed (expr : Parser Expr) : ∃ f, primaryOver expr c = .error f := by
        rw [primaryOver, bind_eq_of_ok (p := peek) (a := c.next) rfl, end_]
        exact ⟨_, rfl⟩
      obtain ⟨f, failed⟩ := failed (exprOver (unaryWithin room))
      refine ⟨f, exprOver_eq_of_error ?_⟩
      rw [unaryWithin, bind_eq_of_ok (p := peek) (a := c.next) rfl, end_]
      exact bind_eq_of_error failed

/-- No statement begins at the end token. -/
theorem statementsWithin_end (room loops : Nat) :
    ∃ f, (statementsWithin room).statement loops c = .error f := by
  cases room with
  | zero => exact ⟨_, rfl⟩
  | succ room =>
      obtain ⟨f, failed⟩ := exprWithin_end end_ room
      refine ⟨f, ?_⟩
      change statementOver (exprWithin room) (statementsWithin room) loops c = _
      rw [statementOver, bind_eq_of_ok (p := peek) (a := c.next) rfl, end_]
      exact bind_eq_of_error (bind_eq_of_error failed)

end Ends

section Programs

variable {statement : Parser Stmt} {c c₁ c' d : Cursor} {p q : Program}

theorem InTurn.append (first : InTurn statement c p c₁) (then_ : InTurn statement c₁ q c') :
    InTurn statement c (p ++ q) c' := by
  induction first with
  | nil => exact then_
  | cons made others ih => exact .cons made (ih then_)

/-- Statements that are read in turn up to the end token are a program. -/
theorem InTurn.programFrom_eq (turns : InTurn ((statementsWithin maxNesting).statement 0) c p c')
    (end_ : c'.next.kind = .eof) {n : Nat} (enough : p.length < n) :
    programFrom ((statementsWithin maxNesting).statement 0) n c = .ok (p, c') := by
  induction turns generalizing n with
  | nil c =>
      obtain ⟨n, rfl⟩ := Nat.exists_eq_add_one_of_ne_zero (Nat.ne_of_gt enough)
      exact programFrom_end n end_
  | @cons c c₁ c' a rest first others ih =>
      obtain ⟨n, rfl⟩ := Nat.exists_eq_add_one_of_ne_zero (Nat.ne_of_gt (Nat.zero_lt_of_lt enough))
      refine programFrom_cons (fun ended => ?_) first (ih end_ (Nat.lt_of_succ_lt_succ enough))
      obtain ⟨f, failed⟩ := statementsWithin_end ended maxNesting 0
      cases failed.symm.trans first

theorem InTurn.program_eq {tokens : List Token}
    (turns : InTurn ((statementsWithin maxNesting).statement 0) (.ofTokens tokens) p c')
    (end_ : c'.next.kind = .eof) (short : p.length < tokens.length) :
    program (.ofTokens tokens) = .ok (p, c') :=
  turns.programFrom_eq end_ short

/-- Statements in turn do the same where further tokens follow. -/
theorem InTurn.followedBy {tokens extra : List Token} {Q : Stmt → Prop}
    (h : Proceeds tokens extra 1 statement Q) (inside : c.In tokens)
    (turns : InTurn statement c p c') :
    InTurn statement (c.followedBy extra) p (c'.followedBy extra) := by
  induction turns with
  | nil c => exact .nil _
  | @cons c c₁ c' a rest first others ih =>
      have same : statement (c.followedBy extra) = .ok (a, c₁.followedBy extra) := by
        rw [(h c inside).blind, first]
        rfl
      exact .cons same (ih ((h c inside).made a c₁ first).1)

/-- The statements of a program, read in turn in front of a seam. Nothing is read behind it, since
no statement begins there. -/
theorem InTurn.closes {s : Seam} (faces : c.Faces s d)
    (turns : InTurn ((statementsWithin maxNesting).statement 0) c p c') :
    ∃ d', InTurn ((statementsWithin maxNesting).statement 0) d (p.map (Stmt.relocate s.move)) d' ∧
      (c'.Faces s d' ∨ c'.Past s d') := by
  induction turns generalizing d with
  | nil c => exact ⟨d, .nil d, .inl faces⟩
  | @cons c c₁ c' a rest first others ih =>
      obtain ⟨d₁, first', faces₁ | past⟩ := closes_statement c d faces a c₁ first
      · obtain ⟨d', others', ended⟩ := ih faces₁
        exact ⟨d', .cons first' others', ended⟩
      · cases others with
        | nil => exact ⟨d₁, .cons first' (.nil d₁), .inr past⟩
        | cons next _ =>
            obtain ⟨f, failed⟩ := statementsWithin_end past.next_kind maxNesting 0
            cases failed.symm.trans next

/-- Each statement takes a token. -/
theorem InTurn.length_le {tokens : List Token} {Q : Stmt → Prop}
    (h : Proceeds tokens [] 1 statement Q) (inside : c.In tokens)
    (turns : InTurn statement c p c') : p.length + c'.rest.length ≤ c.rest.length := by
  induction turns with
  | nil c => simp
  | @cons c c₁ c' a rest first others ih =>
      obtain ⟨inside₁, read, -⟩ := (h c inside).made a c₁ first
      have := ih inside₁
      rw [List.length_cons]
      omega

end Programs

/-- The statements of the program are read in turn from the tokens of the text, up to the last one,
which is the end token. -/
structure Composes (source : String) (p : Program) (body : List Token) (last : Token) : Prop where
  scanned : tokenize source = .ok (body ++ [last])
  eof : last.kind = .eof
  turns : ∃ c, InTurn ((statementsWithin maxNesting).statement 0) (.ofTokens (body ++ [last])) p c ∧
    c.rest = [last]
  short : p.length ≤ body.length

theorem exists_of_parse_ok {source : String} {p : Program} (parsed : parse source = .ok p) :
    ∃ body last, Composes source p body last := by
  obtain ⟨tokens, c, scanned, made⟩ := exists_of_parse parsed
  obtain ⟨body, last, rfl, eof, one, -⟩ := tokens_of_tokenize scanned
  have inside := Cursor.in_ofTokens body eof
  obtain ⟨inside', -, -⟩ := (proceeds_program [] inside).made p c made
  obtain ⟨turns, end_⟩ :=
    inTurn_of_programFrom (proceeds_statement []) inside (Nat.le_refl _) made
  have rest : c.rest = [last] := inside'.rest_eq_last one end_
  have short := turns.length_le (proceeds_statement []) inside
  rw [rest, Cursor.ofTokens, List.length_append] at short
  exact ⟨body, last, scanned, eof, ⟨c, turns, rest⟩, Nat.le_of_add_le_add_right short⟩

/-- The seam at a semicolon, where one stream ends and another one goes on. -/
def Seam.atSemicolon {semicolon last : Token} (kind : semicolon.kind = .mark .semicolon)
    (eof : last.kind = .eof) (t : Token) (others : List Token) : Seam where
  move := id
  token := semicolon
  left := last :: others
  right := t :: others
  lines _ _ := Iff.rfl
  ends := by rw [kind]; rfl
  long := rfl
  finished := eof

/-- The seam at the end of a stream that has moved as a whole. -/
def Seam.atEnd (lines bytes : Nat) {last : Token} (eof : last.kind = .eof) : Seam where
  move := Location.moved lines bytes
  token := last
  left := []
  right := []
  lines _ _ := Nat.add_right_cancel_iff
  ends := by rw [eof]; rfl
  long := rfl
  finished := rfl

section Parts

variable {source : String} {p : Program} {body : List Token} {last : Token}

/-- The program of a text that ends with a semicolon, in front of other tokens. -/
theorem Composes.inTurn_first {front : List Token} {semicolon : Token}
    (h : Composes source p (front ++ [semicolon]) last) (kind : semicolon.kind = .mark .semicolon)
    (t : Token) (others : List Token) :
    InTurn ((statementsWithin maxNesting).statement 0)
      (.ofTokens (front ++ semicolon :: t :: others)) p ⟨semicolon.loc.line, t :: others⟩ := by
  obtain ⟨c, turns, rest⟩ := h.turns
  have inside := Cursor.in_ofTokens (front ++ [semicolon]) h.eof
  have longer := turns.followedBy (proceeds_statement others) inside
  have faces : ((Cursor.ofTokens (front ++ [semicolon] ++ [last])).followedBy others).Faces
      (.atSemicolon kind h.eof t others) (.ofTokens (front ++ semicolon :: t :: others)) := by
    have abuts : ((Cursor.ofTokens (front ++ [semicolon] ++ [last])).followedBy others).Abuts
        (.atSemicolon kind h.eof t others) (.ofTokens (front ++ semicolon :: t :: others)) := by
      refine ⟨front, by simp [Cursor.followedBy, Cursor.ofTokens, Seam.atSemicolon], ?_⟩
      simp [Cursor.ofTokens, Seam.atSemicolon, Token.relocate_id]
    refine ⟨abuts, ?_⟩
    rw [abuts.next_eq]
    rfl
  obtain ⟨d, turns', faces' | past⟩ := longer.closes faces
  · -- The end token is all that is left of the first text, so the seam is not ahead.
    obtain ⟨front', left, -⟩ := faces'.rest
    have length := congrArg List.length left
    simp [Cursor.followedBy, rest, Seam.atSemicolon] at length
    omega
  · have moved : p.map (Stmt.relocate id) = p := by
      rw [← Stmt.relocateAll_eq_map, Stmt.relocateAll_id]
    rw [past.right] at turns'
    exact moved ▸ turns'

/-- The program of a text at another place, behind a token on a line before it. -/
theorem Composes.inTurn_second (h : Composes source p body last) {lines line : Nat} (bytes : Nat)
    (before : line ≤ lines) :
    ∃ d, InTurn ((statementsWithin maxNesting).statement 0)
        ⟨line, (body ++ [last]).map (Token.relocate (Location.moved lines bytes))⟩
        (p.map (Stmt.relocate (Location.moved lines bytes))) d ∧ d.next.kind = .eof := by
  obtain ⟨c, turns, rest⟩ := h.turns
  have faces : (Cursor.ofTokens (body ++ [last])).Faces (.atEnd lines bytes h.eof)
      ⟨line, (body ++ [last]).map (Token.relocate (Location.moved lines bytes))⟩ := by
    have abuts : (Cursor.ofTokens (body ++ [last])).Abuts (.atEnd lines bytes h.eof)
        ⟨line, (body ++ [last]).map (Token.relocate (Location.moved lines bytes))⟩ :=
      ⟨body, rfl, by simp [Seam.atEnd]⟩
    -- Neither is there a line before the first one, nor does a line before the text reach into it.
    have known : 0 < (Cursor.ofTokens (body ++ [last])).next.loc.line := by
      obtain ⟨t, mem, here⟩ := (Cursor.in_ofTokens body h.eof).standsAt
      obtain ⟨-, -, -, -, -, known⟩ := tokens_of_tokenize h.scanned
      exact here ▸ of_decide_eq_true (known t mem)
    have first : ((Cursor.ofTokens (body ++ [last])).next.loc.line == 0) = false :=
      beq_eq_false_iff_ne.mpr (Nat.ne_of_gt known)
    have second : ((Cursor.ofTokens (body ++ [last])).next.loc.line + lines == line) = false :=
      beq_eq_false_iff_ne.mpr (by omega)
    refine ⟨abuts, ?_⟩
    rw [abuts.next_eq]
    exact first.trans second.symm
  have here : c.next = last := by
    rw [Cursor.next, rest]
    rfl
  obtain ⟨d, turns', faces' | past⟩ := turns.closes faces
  · refine ⟨d, turns', ?_⟩
    rw [faces'.rest.next_eq, here]
    exact h.eof
  · cases rest.symm.trans past.left

/-- A token of a text stands on a line before those behind the text. -/
theorem Composes.line_le (h : Composes source p body last) {t : Token} (mem : t ∈ body) :
    t.loc.line ≤ (source ++ "\n").toList.count '\n' := by
  obtain ⟨body', text, gap, tokens, split, tiling, -⟩ :=
    tiling_of_scan_eq_ok Location.marks_start h.scanned
  obtain ⟨rfl, -⟩ := List.append_inj' tokens rfl
  obtain ⟨-, -, front, back, rfl, marks⟩ := tiling.exists_slice mem
  have newline : "\n".toList.count '\n' = 1 := by decide
  rw [marks.line, String.toList_append, split, List.nil_append]
  simp only [List.count_append, newline]
  omega

variable {second : String} {q : Program} {body' : List Token} {last' : Token}

/-- The tokens of two texts on lines of their own. -/
theorem Composes.tokenize_append (h : Composes source p body last)
    (h' : Composes second q body' last') :
    tokenize (source ++ "\n" ++ second) =
      .ok (body ++ (body' ++ [last']).map (Token.relocate (.behind source))) := by
  have line : (source ++ "\n").toList = source.toList ++ ['\n'] := String.toList_append
  have others : Scans (Location.start.behind source) second.toList
      ((body' ++ [last']).map (Token.relocate (.behind source))) :=
    (scans_of_scan h'.scanned).moved _ _
  rw [← Location.afterAll_newline, line] at others
  have scans := (scans_of_scan h.scanned).append_line others
  rw [List.dropLast_concat] at scans
  rw [tokenize, String.toList_append, line, List.append_assoc, List.singleton_append]
  exact scans.scan_eq

/-- The statements of two texts, read in turn. -/
theorem Composes.inTurn_append (h : Composes source p body last)
    (h' : Composes second q body' last')
    (closed : body = [] ∨ ∃ t, body.getLast? = some t ∧ t.kind = .mark .semicolon) :
    ∃ d, InTurn ((statementsWithin maxNesting).statement 0)
      (.ofTokens (body ++ (body' ++ [last']).map (Token.relocate (.behind source))))
      (p ++ q.map (Stmt.relocate (.behind source))) d ∧ d.next.kind = .eof := by
  obtain rfl | ⟨semicolon, ends, kind⟩ := closed
  · have none_ : p = [] := List.eq_nil_of_length_eq_zero (Nat.le_zero.mp h.short)
    subst none_
    exact h'.inTurn_second _ (Nat.zero_le _)
  · obtain ⟨front, rfl⟩ := List.getLast?_eq_some_iff.mp ends
    have before : semicolon.loc.line ≤ (source ++ "\n").toList.count '\n' := h.line_le (by simp)
    obtain ⟨d, turns, end_⟩ := h'.inTurn_second (source ++ "\n").utf8ByteSize before
    refine ⟨d, ?_, end_⟩
    cases behind : (body' ++ [last']).map (Token.relocate (.behind source)) with
    | nil => simp at behind
    | cons t others =>
        rw [← Location.behind, behind] at turns
        rw [List.append_assoc, List.singleton_append]
        exact (h.inTurn_first kind t others).append turns

end Parts

/-- Programs compose by concatenation. Two texts that parse, the first of which has no tokens or
ends with a semicolon, make up a program when the second one is put on the lines behind the first:
the program of the first text, followed by that of the second one with its positions moved down by
the lines and on by the bytes before it. -/
theorem parse_concatenation (first second : String) (p q : Program)
    (parsed : parse first = .ok p) (parsed' : parse second = .ok q)
    (closed : ∀ tokens, tokenize first = .ok tokens →
      tokens.dropLast = [] ∨ ∃ t, tokens.dropLast.getLast? = some t ∧ t.kind = .mark .semicolon) :
    parse (first ++ "\n" ++ second) = .ok (p ++ q.map (Stmt.relocate (.behind first))) := by
  obtain ⟨body, last, h⟩ := exists_of_parse_ok parsed
  obtain ⟨body', last', h'⟩ := exists_of_parse_ok parsed'
  have ended := closed _ h.scanned
  rw [List.dropLast_concat] at ended
  obtain ⟨d, turns, end_⟩ := h.inTurn_append h' ended
  have short : (p ++ q.map (Stmt.relocate (.behind first))).length <
      (body ++ (body' ++ [last']).map (Token.relocate (.behind first))).length := by
    have := Nat.add_le_add h.short h'.short
    simp only [List.length_append, List.length_map, List.length_singleton]
    omega
  rw [parse_eq (h.tokenize_append h'), turns.program_eq end_ short]
  rfl

/-- A text that ends with a semicolon and a comment behind it. -/
def haltingSource : String := "stop; # é"

/-- Two statements, each from a text of its own. -/
theorem haltingSource_concatenated :
    parse (haltingSource ++ "\n" ++ "\nstop") =
      .ok [.host ⟨1, 1, 0⟩ .stop, .host ⟨3, 1, 12⟩ .stop] := by
  have scanned : tokenize haltingSource = .ok [⟨.keyword .stopWord, "stop", ⟨1, 1, 0⟩⟩,
      ⟨.mark .semicolon, ";", ⟨1, 5, 4⟩⟩, ⟨.eof, "", ⟨1, 10, 10⟩⟩] :=
    tokenize_eq_of_toOption (by decide +kernel)
  have scanned' : tokenize "\nstop" = .ok [⟨.keyword .stopWord, "stop", ⟨2, 1, 1⟩⟩,
      ⟨.eof, "", ⟨2, 5, 5⟩⟩] := tokenize_eq_of_toOption (by decide +kernel)
  have place : Location.behind haltingSource ⟨2, 1, 1⟩ = ⟨3, 1, 12⟩ := by decide
  have both := parse_concatenation haltingSource "\nstop" [.host ⟨1, 1, 0⟩ .stop]
    [.host ⟨2, 1, 1⟩ .stop] (parse_eq scanned) (parse_eq scanned') (by
      intro tokens read
      cases scanned.symm.trans read
      exact .inr ⟨_, rfl, rfl⟩)
  rw [← place]
  exact both

end HostScript.Source
