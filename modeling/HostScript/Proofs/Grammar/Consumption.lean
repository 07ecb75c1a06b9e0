import HostScript.Proofs.Grammar.Progress
import HostScript.Proofs.Tiling
import HostScript.Source.Grammar.Statement

/-!
# A program is all of its source

The grammar of statements proceeds like that of expressions, and a program goes on until the end
token is the next one. So a source text is a program if statements can be read from it up to its
end, each behind the one before, and otherwise it is refused at one of its tokens.

## Implementation notes

How many levels are left and how many loops are open are arguments of the rules and not part of the
cursor. What a rule is given is what the rules after it are given, whatever happens in between:
every statement of a program is read with all levels left and with no loop open.
-/

namespace HostScript.Source

variable {tokens extra : List Token}

section Statements

variable {expr : Parser Expr} {statement : Parser Stmt} {below : StatementLevel} {c : Cursor}

/-! ### Blocks -/

/-- By induction on the rounds; each of them reads a statement. -/
theorem proceeds_statementsUntilBrace
    (h : Proceeds tokens extra 1 statement (Stmt.Placed (StandsAt tokens))) {n n' : Nat}
    (inside : c.In tokens) (enough : c.rest.length ≤ n) (enough' : c.rest.length ≤ n') :
    ProceedsAt tokens extra 0 (statementsUntilBrace statement n) (statementsUntilBrace statement n')
      (Stmt.PlacedAll (StandsAt tokens)) c := by
  have some_ := inside.length_pos
  induction n generalizing n' c with
  | zero => omega
  | succ n ih =>
      obtain ⟨n', rfl⟩ : ∃ k, n' = k + 1 := ⟨n' - 1, by omega⟩
      refine .peek inside ?_
      split
      · next here => exact .advance inside (by simp [here]) fun inside₁ => .pure inside₁ trivial
      · exact .expected inside _
      · refine (h c inside).bind fun s c₁ inside₁ read₁ placed => ?_
        refine (ih inside₁ (by omega) (by omega) inside₁.length_pos).bind
          fun rest c₂ inside₂ _ others => ?_
        exact .pure inside₂ ⟨placed, others⟩

theorem proceeds_block (h : Proceeds tokens extra 1 statement (Stmt.Placed (StandsAt tokens))) :
    Proceeds tokens extra 1 (block statement) (Stmt.PlacedAll (StandsAt tokens)) := by
  intro c inside
  refine (proceeds_expectMark _ _ c inside).bind fun _ c₁ inside₁ _ _ => ?_
  exact .rounds fun n n' enough enough' => proceeds_statementsUntilBrace h inside₁ enough enough'

/-- What the parsers of a level make is placed. A condition behind `else if` is given its
position. -/
structure StatementLevel.Proceeds (tokens extra : List Token) (level : StatementLevel) :
    Prop where
  statement : ∀ loops,
    Source.Proceeds tokens extra 1 (level.statement loops) (Stmt.Placed (StandsAt tokens))
  elseIf : ∀ loops loc, StandsAt tokens loc →
    Source.Proceeds tokens extra 1 (level.elseIf loops loc) (Stmt.Placed (StandsAt tokens))

/-! ### Operands -/

theorem ProceedsAt.operandFollows {β : Type} {g : Nat} {next next' : Bool → Parser β} {R : β → Prop}
    (inside : c.In tokens) (then_ : ∀ b, ProceedsAt tokens extra g (next b) (next' b) R c) :
    ProceedsAt tokens extra g (Source.operandFollows >>= next) (Source.operandFollows >>= next')
      R c := by
  refine .look (a := c.next.loc.line == c.lastLine && startsExpr c.next.kind) rfl ?_ (then_ _)
  have same : (c.followedBy extra).next = c.next := inside.next_followedBy
  rw [← same]
  rfl

theorem assignOp?_ne_eof {op : AssignOp} {kind : TokenKind} (found : assignOp? kind = some op) :
    kind ≠ .eof := by
  rintro rfl
  cases found

theorem proceeds_intoVariable : Proceeds tokens extra 0 intoVariable fun _ => True := by
  intro c inside
  refine (proceeds_eatWord _ c inside).bind fun found c₁ inside₁ _ _ => ?_
  refine .ite ?_ (.pure inside₁ trivial)
  exact (proceeds_expectVariable c₁ inside₁).bind fun name c₂ inside₂ _ _ => .pure inside₂ trivial

section Operands

variable (h : Proceeds tokens extra 1 expr (Expr.Placed (StandsAt tokens)))
include h

theorem proceeds_optionalOperand : Proceeds tokens extra 0 (optionalOperand expr)
    fun e => Expr.PlacedAll (StandsAt tokens) e.toList := by
  intro c inside
  refine .operandFollows inside fun follows => .ite ?_ (.pure inside trivial)
  refine (h c inside).bind fun e c₁ inside₁ _ placed => ?_
  exact .pure inside₁ ⟨placed, trivial⟩

/-- By induction on the rounds; each of them reads an access. -/
theorem proceeds_targetFrom {n n' : Nat} {target : Target} (inside : c.In tokens)
    (enough : c.rest.length ≤ n) (enough' : c.rest.length ≤ n')
    (placed : Expr.PlacedAll (StandsAt tokens) target.operands) :
    ProceedsAt tokens extra 0 (targetFrom expr n target) (targetFrom expr n' target)
      (fun target => Expr.PlacedAll (StandsAt tokens) target.operands) c := by
  have some_ := inside.length_pos
  induction n generalizing n' c target with
  | zero => omega
  | succ n ih =>
      obtain ⟨n', rfl⟩ : ∃ k, n' = k + 1 := ⟨n' - 1, by omega⟩
      have base := Target.placed_toExpr placed inside.standsAt
      refine .peek inside (.eatMark inside (fun inside₁ read₁ => ?_) ?_)
      · refine (proceeds_memberName _ inside₁).bind fun key c₂ inside₂ read₂ _ => ?_
        exact ih inside₂ (by omega) (by omega) ⟨base, trivial⟩ inside₂.length_pos
      · refine .eatMark inside (fun inside₁ read₁ => ?_) (.pure inside placed)
        refine (h _ inside₁).bind fun position c₂ inside₂ read₂ hposition => ?_
        refine (proceeds_expectMark _ _ c₂ inside₂).bind fun _ c₃ inside₃ read₃ _ => ?_
        exact ih inside₃ (by omega) (by omega) ⟨base, hposition, trivial⟩ inside₃.length_pos

theorem proceeds_assignment {loc : Location} (at_ : StandsAt tokens loc) :
    Proceeds tokens extra 1 (assignment expr loc) (Stmt.Placed (StandsAt tokens)) := by
  intro c inside
  refine (proceeds_expectVariable c inside).bind fun name c₁ inside₁ _ _ => ?_
  have bare : Expr.PlacedAll (StandsAt tokens) (Target.var name).operands := trivial
  refine .rounds fun n n' enough enough' => ?_
  refine (proceeds_targetFrom h inside₁ enough enough' bare).bind
    fun target c₂ inside₂ _ htarget => .peek inside₂ ?_
  split
  · next op found =>
    refine .advance inside₂ (assignOp?_ne_eof found) fun inside₃ => ?_
    refine (h _ inside₃).bind fun value c₄ inside₄ _ hvalue => ?_
    exact .pure inside₄ ⟨at_, htarget, hvalue⟩
  · exact .expected inside₂ _

theorem proceeds_exprStatement {loc : Location} (at_ : StandsAt tokens loc) :
    Proceeds tokens extra 1 (exprStatement expr loc) (Stmt.Placed (StandsAt tokens)) := by
  intro c inside
  refine (h c inside).bind fun value c₁ inside₁ _ placed => .peek inside₁ ?_
  exact .ite (.expectedWithHint inside₁ _ _) (.pure inside₁ ⟨at_, placed⟩)

/-- A request with one operand. -/
theorem proceeds_requestOf {make : Expr → HostRequest} (operands : ∀ e, (make e).operands = [e]) :
    Proceeds tokens extra 0 (do return make (← expr))
      fun request => Expr.PlacedAll (StandsAt tokens) request.operands := by
  intro c inside
  refine (h c inside).bind fun e c₁ inside₁ _ placed => .pure inside₁ ?_
  rw [operands]
  exact ⟨placed, trivial⟩

/-- A request with an operand and another one that may be left out. -/
theorem proceeds_requestWith {make : Expr → Option Expr → HostRequest}
    (operands : ∀ e other, (make e other).operands = e :: other.toList) :
    Proceeds tokens extra 0 (do let e ← expr; return make e (← optionalOperand expr))
      fun request => Expr.PlacedAll (StandsAt tokens) request.operands := by
  intro c inside
  refine (h c inside).bind fun e c₁ inside₁ _ placed => ?_
  refine (proceeds_optionalOperand h c₁ inside₁).bind fun other c₂ inside₂ _ hother => ?_
  refine .pure inside₂ ?_
  rw [operands]
  exact ⟨placed, hother⟩

theorem proceeds_hostRequest {k : Keyword} {request : Parser HostRequest}
    (found : hostRequest expr k = some request) :
    Proceeds tokens extra 0 request
      fun request => Expr.PlacedAll (StandsAt tokens) request.operands := by
  cases k with
  | emitWord | launchWord | notifyWord =>
      cases found
      exact proceeds_requestWith h fun _ _ => rfl
  | focusWord | minimizeWord | maximizeWord | waitWord | mkdirWord | alertWord | playWord
  | videoWord =>
      cases found
      exact proceeds_requestOf h fun _ => rfl
  | closeWord =>
      cases found
      intro c inside
      refine (proceeds_optionalOperand h c inside).bind fun e c₁ inside₁ _ placed => ?_
      exact .pure inside₁ placed
  | writeWord =>
      cases found
      intro c inside
      refine (h c inside).bind fun content c₁ inside₁ _ hcontent => ?_
      refine (proceeds_expectWord _ c₁ inside₁).bind fun _ c₂ inside₂ _ _ => ?_
      refine (h c₂ inside₂).bind fun path c₃ inside₃ _ hpath => ?_
      exact .pure inside₃ ⟨hcontent, hpath, trivial⟩
  | readWord =>
      cases found
      intro c inside
      refine (h c inside).bind fun path c₁ inside₁ _ hpath => ?_
      refine (proceeds_expectWord _ c₁ inside₁).bind fun _ c₂ inside₂ _ _ => ?_
      refine (proceeds_expectVariable c₂ inside₂).bind fun name c₃ inside₃ _ _ => ?_
      exact .pure inside₃ ⟨hpath, trivial⟩
  | deleteWord =>
      cases found
      intro c inside
      refine (h c inside).bind fun path c₁ inside₁ _ hpath => ?_
      refine (proceeds_eatWord _ c₁ inside₁).bind fun recursive c₂ inside₂ _ _ => ?_
      exact .pure inside₂ ⟨hpath, trivial⟩
  | confirmWord =>
      cases found
      intro c inside
      refine (h c inside).bind fun message c₁ inside₁ _ hmessage => ?_
      refine (proceeds_intoVariable c₁ inside₁).bind fun var c₂ inside₂ _ _ => ?_
      exact .pure inside₂ ⟨hmessage, trivial⟩
  | promptWord =>
      cases found
      intro c inside
      refine (h c inside).bind fun message c₁ inside₁ _ hmessage => ?_
      have answered (default : Option Expr) (c₂ : Cursor) (inside₂ : c₂.In tokens)
          (placed : Expr.PlacedAll (StandsAt tokens) default.toList) :
          ProceedsAt tokens extra 0 (do return HostRequest.prompt message default (← intoVariable))
            (do return HostRequest.prompt message default (← intoVariable))
            (fun request => Expr.PlacedAll (StandsAt tokens) request.operands) c₂ := by
        refine (proceeds_intoVariable c₂ inside₂).bind fun var c₃ inside₃ _ _ => ?_
        exact .pure inside₃ ⟨hmessage, placed⟩
      refine (proceeds_eatWord _ c₁ inside₁).bind fun found c₂ inside₂ _ _ => .ite ?_ ?_
      · have some_ : ProceedsAt tokens extra 1 (some <$> expr) (some <$> expr)
            (fun default => Expr.PlacedAll (StandsAt tokens) default.toList) c₂ :=
          (h c₂ inside₂).map fun e placed => ⟨placed, trivial⟩
        exact some_.bind fun default c₃ inside₃ _ placed => answered default c₃ inside₃ placed
      · exact answered none c₂ inside₂ trivial
  | stopWord =>
      cases found
      exact fun c inside => .pure inside trivial
  | commandWord =>
      cases found
      intro c inside
      refine (h c inside).bind fun name c₁ inside₁ _ hname => ?_
      refine .operandFollows inside₁ fun follows => .ite ?_ ?_
      · refine (proceeds_commaList h c₁ inside₁).bind fun args c₂ inside₂ _ hargs => ?_
        exact .pure inside₂ ⟨hname, Expr.placedAll_iff.mpr hargs⟩
      · exact .pure inside₁ ⟨hname, trivial⟩
  | _ => cases found

end Operands

/-! ### Statements -/

section Levels

variable (hbelow : below.Proceeds tokens extra)
include hbelow

theorem proceeds_definition {loc : Location} (at_ : StandsAt tokens loc) :
    Proceeds tokens extra 1 (definition below loc) (Stmt.Placed (StandsAt tokens)) := by
  intro c inside
  refine .peek inside ?_
  split
  · next name here =>
    have rest (params : List String) (c₁ : Cursor) (inside₁ : c₁.In tokens) :
        ProceedsAt tokens extra 0
          (do expectMark .closeParen "')' after parameters"
              return .define loc name params (← block (below.statement 0)))
          (do expectMark .closeParen "')' after parameters"
              return .define loc name params (← block (below.statement 0)))
          (Stmt.Placed (StandsAt tokens)) c₁ := by
      refine (proceeds_expectMark _ _ c₁ inside₁).bind fun _ c₂ inside₂ _ _ => ?_
      refine (proceeds_block (hbelow.statement 0) c₂ inside₂).bind fun body c₃ inside₃ _ hbody => ?_
      exact .pure inside₃ ⟨at_, hbody⟩
    refine .advance inside (by simp [here]) fun inside₁ => ?_
    refine (proceeds_expectMark _ _ _ inside₁).bind fun _ c₂ inside₂ _ _ => ?_
    refine .atMark inside₂ (fun _ => rest [] c₂ inside₂) ?_
    refine (proceeds_commaList proceeds_expectVariable c₂ inside₂).bind
      fun params c₃ inside₃ _ _ => ?_
    exact rest params c₃ inside₃
  · exact .expected inside _

theorem proceeds_attempt (loops : Nat) {loc : Location} (at_ : StandsAt tokens loc) :
    Proceeds tokens extra 1 (attempt below loops loc) (Stmt.Placed (StandsAt tokens)) := by
  intro c inside
  have blocks := proceeds_block (hbelow.statement loops)
  refine (blocks c inside).bind fun body c₁ inside₁ _ hbody => ?_
  have caught (var : String) (c₂ : Cursor) (inside₂ : c₂.In tokens) :
      ProceedsAt tokens extra 0
        (do return .attempt loc body var (← block (below.statement loops)))
        (do return .attempt loc body var (← block (below.statement loops)))
        (Stmt.Placed (StandsAt tokens)) c₂ :=
    (blocks c₂ inside₂).bind fun handler c₃ inside₃ _ hhandler =>
      .pure inside₃ ⟨at_, hbody, hhandler⟩
  refine .eatKeyword inside₁ (fun inside₂ => ?_) (.expected inside₁ _)
  refine .atMark inside₂ (fun _ => caught "error" _ inside₂) ?_
  refine (proceeds_expectVariable _ inside₂).bind fun var c₃ inside₃ _ _ => ?_
  exact caught var c₃ inside₃

variable (h : Proceeds tokens extra 1 expr (Expr.Placed (StandsAt tokens)))
include h

theorem proceeds_conditional (loops : Nat) {loc : Location} (at_ : StandsAt tokens loc) :
    Proceeds tokens extra 1 (conditional expr below loops loc)
      (Stmt.Placed (StandsAt tokens)) := by
  intro c inside
  have blocks := proceeds_block (hbelow.statement loops)
  refine (h c inside).bind fun test c₁ inside₁ _ htest => ?_
  refine (blocks c₁ inside₁).bind fun thenBody c₂ inside₂ _ hthen => ?_
  refine .eatKeyword inside₂ (fun inside₃ => .peek inside₃ ?_) (.pure inside₂ ⟨at_, htest, hthen⟩)
  refine .eatKeyword inside₃ (fun inside₄ => ?_) ?_
  · refine (hbelow.elseIf loops _ inside₃.standsAt _ inside₄).bind
      fun inner c₅ inside₅ _ hinner => ?_
    exact .pure inside₅ ⟨at_, htest, hthen, hinner, trivial⟩
  · refine (blocks _ inside₃).bind fun elseBody c₄ inside₄ _ helse => ?_
    exact .pure inside₄ ⟨at_, htest, hthen, helse⟩

/-- A statement that starts with a reserved word, which is the next token. -/
theorem proceeds_keywordStatement (loops : Nat) {k : Keyword} (inside : c.In tokens)
    (here : c.next.kind = .keyword k) :
    ProceedsAt tokens extra 1 (keywordStatement expr below loops k c.next.loc)
      (keywordStatement expr below loops k c.next.loc) (Stmt.Placed (StandsAt tokens)) c := by
  have at_ := inside.standsAt
  have word {p : Parser Stmt} {g : Nat}
      (rest : Proceeds tokens extra g p (Stmt.Placed (StandsAt tokens))) :
      ProceedsAt tokens extra 1 (advance >>= fun _ => p) (advance >>= fun _ => p)
        (Stmt.Placed (StandsAt tokens)) c :=
    .advance inside (by simp [here]) fun inside₁ => (rest _ inside₁).fewer (Nat.zero_le g)
  have blocks (loops : Nat) := proceeds_block (hbelow.statement loops)
  have jump (k : Keyword) (s : Stmt) (placed : s.Placed (StandsAt tokens)) :
      Proceeds tokens extra 0 (if loops = 0 then outsideLoop k c.next.loc else pure s)
        (Stmt.Placed (StandsAt tokens)) :=
    fun c inside => .ite (.reject at_) (.pure inside placed)
  cases k with
  | setWord => exact word (proceeds_assignment h at_)
  | ifWord => exact word (proceeds_conditional hbelow h loops at_)
  | tryWord => exact word (proceeds_attempt hbelow loops at_)
  | defWord => exact word (proceeds_definition hbelow at_)
  | letWord =>
      refine word (g := 1) fun c inside => ?_
      refine (proceeds_expectVariable c inside).bind fun name c₁ inside₁ _ _ => ?_
      refine (proceeds_expectMark _ _ c₁ inside₁).bind fun _ c₂ inside₂ _ _ => ?_
      refine (h c₂ inside₂).bind fun value c₃ inside₃ _ hvalue => ?_
      exact .pure inside₃ ⟨at_, hvalue⟩
  | printWord =>
      refine word (g := 1) fun c inside => (h c inside).bind fun value c₁ inside₁ _ hvalue => ?_
      exact .pure inside₁ ⟨at_, hvalue⟩
  | returnWord =>
      refine word (g := 0) fun c inside => ?_
      refine (proceeds_optionalOperand h c inside).bind fun value c₁ inside₁ _ hvalue => ?_
      exact .pure inside₁ ⟨at_, hvalue⟩
  | loopWord =>
      refine word (g := 1) fun c inside => (h c inside).bind fun count c₁ inside₁ _ hcount => ?_
      refine (blocks (loops + 1) c₁ inside₁).bind fun body c₂ inside₂ _ hbody => ?_
      exact .pure inside₂ ⟨at_, hcount, hbody⟩
  | whileWord =>
      refine word (g := 1) fun c inside => (h c inside).bind fun test c₁ inside₁ _ htest => ?_
      refine (blocks (loops + 1) c₁ inside₁).bind fun body c₂ inside₂ _ hbody => ?_
      exact .pure inside₂ ⟨at_, htest, hbody⟩
  | onWord =>
      refine word (g := 1) fun c inside => (h c inside).bind fun event c₁ inside₁ _ hevent => ?_
      refine (blocks 0 c₁ inside₁).bind fun body c₂ inside₂ _ hbody => ?_
      exact .pure inside₂ ⟨at_, hevent, hbody⟩
  | foreachWord =>
      refine word (g := 1) fun c inside => ?_
      refine (proceeds_expectVariable c inside).bind fun var c₁ inside₁ _ _ => ?_
      refine (proceeds_expectWord _ c₁ inside₁).bind fun _ c₂ inside₂ _ _ => ?_
      refine (h c₂ inside₂).bind fun items c₃ inside₃ _ hitems => ?_
      refine (blocks (loops + 1) c₃ inside₃).bind fun body c₄ inside₄ _ hbody => ?_
      exact .pure inside₄ ⟨at_, hitems, hbody⟩
  | breakWord => exact word (jump .breakWord (.break c.next.loc) at_)
  | continueWord => exact word (jump .continueWord (.continue c.next.loc) at_)
  | _ =>
      -- what is left asks the host for something
      simp only [keywordStatement]
      split
      · next request found =>
        refine word (g := 0) fun c inside => ?_
        refine (proceeds_hostRequest h found c inside).bind fun request c₁ inside₁ _ placed => ?_
        exact .pure inside₁ ⟨at_, placed⟩
      · exact .expected inside _

/-- The parsers of a level over those of the level below. -/
theorem proceeds_statementOver (loops : Nat) :
    Proceeds tokens extra 1 (statementOver expr below loops) (Stmt.Placed (StandsAt tokens)) := by
  intro c inside
  have at_ := inside.standsAt
  have ended (s : Stmt) (c₁ : Cursor) (inside₁ : c₁.In tokens)
      (_ : c₁.rest.length + 1 ≤ c.rest.length) (placed : s.Placed (StandsAt tokens)) :
      ProceedsAt tokens extra 0 (do let _ ← eatMark .semicolon; return s)
        (do let _ ← eatMark .semicolon; return s) (Stmt.Placed (StandsAt tokens)) c₁ :=
    .eatMark inside₁ (fun inside₂ _ => .pure inside₂ placed) (.pure inside₁ placed)
  refine .peek inside ?_
  dsimp only
  split
  · have made : ProceedsAt tokens extra 1 (.block c.next.loc <$> block (below.statement loops))
        (.block c.next.loc <$> block (below.statement loops)) (Stmt.Placed (StandsAt tokens)) c :=
      (proceeds_block (hbelow.statement loops) c inside).map fun body hbody => ⟨at_, hbody⟩
    exact made.bind ended
  · next k here =>
    split
    · exact (proceeds_exprStatement h at_ c inside).bind ended
    · exact (proceeds_keywordStatement hbelow h loops inside here).bind ended
  · exact (proceeds_exprStatement h at_ c inside).bind ended

end Levels

/-- By induction on the levels that are left. -/
theorem proceeds_statementsWithin (room : Nat) :
    (statementsWithin room).Proceeds tokens extra := by
  induction room with
  | zero =>
      constructor
      · exact fun loops c inside => .nestingTooDeep inside
      · exact fun loops loc at_ c inside => .nestingTooDeep inside
  | succ room ih =>
      constructor
      · exact fun loops => proceeds_statementOver ih (proceeds_exprWithin room) loops
      · exact fun loops loc at_ => proceeds_conditional ih (proceeds_exprWithin room) loops at_

/-! ### Programs -/

/-- By induction on the rounds; each of them reads a statement. -/
theorem proceeds_programFrom
    (h : Proceeds tokens extra 1 statement (Stmt.Placed (StandsAt tokens))) {n n' : Nat}
    (inside : c.In tokens) (enough : c.rest.length ≤ n) (enough' : c.rest.length ≤ n') :
    ProceedsAt tokens extra 0 (programFrom statement n) (programFrom statement n')
      (Stmt.PlacedAll (StandsAt tokens)) c := by
  have some_ := inside.length_pos
  induction n generalizing n' c with
  | zero => omega
  | succ n ih =>
      obtain ⟨n', rfl⟩ : ∃ k, n' = k + 1 := ⟨n' - 1, by omega⟩
      refine .peek inside (.ite (.pure inside trivial) ?_)
      refine (h c inside).bind fun s c₁ inside₁ read₁ placed => ?_
      refine (ih inside₁ (by omega) (by omega) inside₁.length_pos).bind
        fun rest c₂ inside₂ _ others => ?_
      exact .pure inside₂ ⟨placed, others⟩

/-- The program is read from one cursor to another, each statement where the one before ends. -/
inductive InTurn (statement : Parser Stmt) : Cursor → Program → Cursor → Prop
  | nil (c : Cursor) : InTurn statement c [] c
  | cons {c c₁ c' : Cursor} {s : Stmt} {rest : Program} (first : statement c = .ok (s, c₁))
      (others : InTurn statement c₁ rest c') : InTurn statement c (s :: rest) c'

/-- A program that is read has been read to the end. -/
theorem inTurn_of_programFrom
    (h : Proceeds tokens extra 1 statement (Stmt.Placed (StandsAt tokens))) {n : Nat}
    {program : Program} {c' : Cursor} (inside : c.In tokens) (enough : c.rest.length ≤ n)
    (made : programFrom statement n c = .ok (program, c')) :
    InTurn statement c program c' ∧ c'.next.kind = .eof := by
  have some_ := inside.length_pos
  induction n generalizing c program with
  | zero => omega
  | succ n ih =>
      rw [programFrom, bind_eq_of_ok (p := peek) (a := c.next) rfl] at made
      split at made
      · next here =>
        cases made
        exact ⟨.nil _, eq_of_beq here⟩
      · obtain ⟨s, c₁, first, rest⟩ := bind_eq_ok_iff.mp made
        obtain ⟨others, c₂, read, ended⟩ := bind_eq_ok_iff.mp rest
        cases ended
        obtain ⟨inside₁, shorter, -⟩ := (h c inside).made s c₁ first
        obtain ⟨turns, end_⟩ := ih inside₁ (by omega) read inside₁.length_pos
        exact ⟨.cons first turns, end_⟩

end Statements

/-- In a stream with one end token, a cursor at the end token has nothing else left. -/
theorem Cursor.In.rest_eq_last {body : List Token} {last : Token} {c : Cursor}
    (inside : c.In (body ++ [last])) (one : ∀ t ∈ body, t.kind ≠ .eof)
    (end_ : c.next.kind = .eof) : c.rest = [last] := by
  obtain nothing | ⟨front, split, suffix⟩ := List.suffix_concat_iff.mp inside.suffix
  · have := inside.length_pos
    rw [nothing] at this
    cases this
  · cases front with
    | nil => exact split
    | cons t front =>
        have first : c.next = t := by
          rw [Cursor.next, split]
          rfl
        have mem : t ∈ body := suffix.subset List.mem_cons_self
        exact absurd end_ (first ▸ one t mem)

theorem Cursor.in_ofTokens (body : List Token) {last : Token} (eof : last.kind = .eof) :
    (Cursor.ofTokens (body ++ [last])).In (body ++ [last]) :=
  ⟨List.suffix_refl _, last, List.getLast?_concat, eof⟩

/-- A statement of a program is read with all levels left and with no loop open. -/
theorem proceeds_statement (extra : List Token) :
    Proceeds tokens extra 1 ((statementsWithin maxNesting).statement 0)
      (Stmt.Placed (StandsAt tokens)) :=
  (proceeds_statementsWithin maxNesting).statement 0

theorem proceeds_program (extra : List Token) (inside : (Cursor.ofTokens tokens).In tokens) :
    ProceedsAt tokens extra 0 program program (Stmt.PlacedAll (StandsAt tokens))
      (.ofTokens tokens) :=
  .rounds fun _ _ enough enough' =>
    proceeds_programFrom (proceeds_statement extra) inside enough enough'

/-- The positions in a program are those of tokens. -/
theorem placed_of_parse {source : String} {p : Program} (scanned : tokenize source = .ok tokens)
    (h : parse source = .ok p) : Stmt.PlacedAll (StandsAt tokens) p := by
  obtain ⟨body, last, rfl, eof, -, -⟩ := tokens_of_tokenize scanned
  obtain ⟨tokens, c, scanned', made⟩ := exists_of_parse h
  obtain rfl : body ++ [last] = tokens := Except.ok.inj (scanned.symm.trans scanned')
  exact ((proceeds_program [] (Cursor.in_ofTokens body eof)).made p c made).2.2

/-- A source text is a program or it is malformed. The statements of a program are read in turn,
each with all levels left and no loop open, and at the end the end token is all that is left. A
text that is malformed is refused at one of its tokens, or where no token can be read. What stands
behind the end token makes no difference. -/
theorem parse_total (source : String) :
    match tokenize source with
    | .error f => parse source = .error f ∧ ∃ d before c rest e, f = .failure .malformed d ∧
        d.loc.isKnown = true ∧ source.toList = before ++ c :: rest ∧
        readLexeme c rest = .error e ∧ d.loc.Marks before
    | .ok tokens => ∃ body last, tokens = body ++ [last] ∧ last.kind = .eof ∧
        (∀ t ∈ body, t.kind ≠ .eof) ∧
        ((∃ p c, parse source = .ok p ∧ program (.ofTokens tokens) = .ok (p, c) ∧
            InTurn ((statementsWithin maxNesting).statement 0) (.ofTokens tokens) p c ∧
            c.rest = [last]) ∨
          ∃ d, parse source = .error (.failure .malformed d) ∧ d.loc.isKnown = true ∧
            StandsAt tokens d.loc) ∧
        ∀ extra, program (.ofTokens (tokens ++ extra)) =
          (program (.ofTokens tokens)).map fun r => (r.1, r.2.followedBy extra) := by
  cases scanned : tokenize source with
  | error f =>
      obtain ⟨body, text, gap, c, rest, e, split, -, -, unread, rfl⟩ :=
        tiling_of_scan_eq_error Location.marks_start scanned
      have marks := Location.marks_start.afterAll (text ++ gap)
      refine ⟨?_, _, text ++ gap, c, rest, e, e.toFault_eq _, marks.isKnown, split, unread, marks⟩
      rw [parse, scanned]
      rfl
  | ok tokens =>
      obtain ⟨body, last, rfl, eof, one, known⟩ := tokens_of_tokenize scanned
      have inside := Cursor.in_ofTokens body eof
      refine ⟨body, last, rfl, eof, one, ?_, fun extra => (proceeds_program extra inside).blind⟩
      have proceeds := proceeds_program [] inside
      rw [parse_eq scanned]
      cases made : program (.ofTokens (body ++ [last])) with
      | ok r =>
          obtain ⟨p, c⟩ := r
          obtain ⟨inside', -, -⟩ := proceeds.made p c made
          obtain ⟨turns, end_⟩ :=
            inTurn_of_programFrom (proceeds_statement []) inside (Nat.le_refl _) made
          exact .inl ⟨p, c, rfl, rfl, turns, inside'.rest_eq_last one end_⟩
      | error f =>
          obtain ⟨d, rfl, at_⟩ := proceeds.failed f made
          obtain ⟨t, mem, here⟩ := at_
          exact .inr ⟨d, rfl, here ▸ known t mem, t, mem, here⟩

end HostScript.Source
