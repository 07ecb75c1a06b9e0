import HostScript.Source.Grammar.Expression
import HostScript.Source.Scan

/-! # The grammar of statements

A statement starts with a reserved word, with a brace, or with an expression.
A line break ends nothing by itself, but an operand that may be left out has to
stand on the line of what it belongs to. `break` and `continue` stand inside a
loop of the same body, so a parser for statements is told how many loops are
open.

As for expressions, the rules of one level are written over the parsers of the
level below. -/

namespace HostScript.Source

/-- The statement parsers of one level: they are given the number of open loops. -/
structure StatementLevel where
  /-- A statement. -/
  statement : (loops : Nat) → Parser Stmt
  /-- A condition behind `else if`, at the position of that `if`. -/
  elseIf : (loops : Nat) → Location → Parser Stmt

/-- The statements of a block, behind the opening brace. -/
def statementsUntilBrace (statement : Parser Stmt) : Nat → Parser (List Stmt)
  | 0 => expected "'\x7d'"
  | n + 1 => do
    match (← peek).kind with
    | .mark .closeBrace => advance; return []
    | .eof => expected "'\x7d'"
    | _ =>
      let s ← statement
      let rest ← statementsUntilBrace statement n
      return s :: rest

/-- A block. -/
def block (statement : Parser Stmt) : Parser (List Stmt) := do
  expectMark .openBrace "'\x7b'"
  statementsUntilBrace statement (← tokensLeft)

/-- An operand that may be left out. -/
def optionalOperand (expr : Parser Expr) : Parser (Option Expr) := do
  if ← operandFollows then return some (← expr) else return none

/-- A variable behind the word `into`, if it is there. -/
def intoVariable : Parser (Option String) := do
  if ← eatWord "into" then return some (← expectVariable) else return none

/-- Extend a target by member and index accesses. -/
def targetFrom (expr : Parser Expr) : Nat → Target → Parser Target
  | 0, target => pure target
  | n + 1, target => do
    let token ← peek
    if ← eatMark .dot then
      let key ← memberName
      targetFrom expr n (.member (target.toExpr token.loc) key)
    else if ← eatMark .openBracket then
      let position ← expr
      expectMark .closeBracket "']'"
      targetFrom expr n (.index (target.toExpr token.loc) position)
    else return target

/-- The assignment operator that a token spells. -/
def assignOp? : TokenKind → Option AssignOp
  | .mark .assign => some .set
  | .mark .plusAssign => some .add
  | .mark .minusAssign => some .sub
  | .mark .starAssign => some .mul
  | .mark .slashAssign => some .div
  | _ => none

/-- The rest of a `set` statement. -/
def assignment (expr : Parser Expr) (loc : Location) : Parser Stmt := do
  let name ← expectVariable
  let target ← targetFrom expr (← tokensLeft) (.var name)
  match assignOp? (← peek).kind with
  | some op =>
    advance
    return .set loc target op (← expr)
  | none => expected "'=' or a compound assignment"

/-- The rest of a `def` statement. -/
def definition (below : StatementLevel) (loc : Location) : Parser Stmt := do
  match (← peek).kind with
  | .name name =>
    advance
    expectMark .openParen "'('"
    let params ← if ← atMark .closeParen then pure [] else commaList expectVariable
    expectMark .closeParen "')' after parameters"
    return .define loc name params (← block (below.statement 0))
  | _ => expected "a function name"

/-- The rest of an `if` statement. -/
def conditional (expr : Parser Expr) (below : StatementLevel) (loops : Nat) (loc : Location) :
    Parser Stmt := do
  let test ← expr
  let thenBody ← block (below.statement loops)
  if ← eatKeyword .elseWord then
    let token ← peek
    if ← eatKeyword .ifWord then
      let inner ← below.elseIf loops token.loc
      return .cond loc test thenBody (some [inner])
    else return .cond loc test thenBody (some (← block (below.statement loops)))
  else return .cond loc test thenBody none

/-- The rest of a `try` statement. -/
def attempt (below : StatementLevel) (loops : Nat) (loc : Location) : Parser Stmt := do
  let body ← block (below.statement loops)
  if ← eatKeyword .catchWord then
    let var ← if ← atMark .openBrace then pure "error" else expectVariable
    return .attempt loc body var (← block (below.statement loops))
  else expected "'catch'"

/-- The rest of a statement that asks the host for something. -/
def hostRequest (expr : Parser Expr) : Keyword → Option (Parser HostRequest)
  | .emitWord => some do
    let event ← expr
    return .emit event (← optionalOperand expr)
  | .launchWord => some do
    let app ← expr
    return .launch app (← optionalOperand expr)
  | .closeWord => some do return .close (← optionalOperand expr)
  | .focusWord => some do return .window .focus (← expr)
  | .minimizeWord => some do return .window .minimize (← expr)
  | .maximizeWord => some do return .window .maximize (← expr)
  | .waitWord => some do return .wait (← expr)
  | .writeWord => some do
    let content ← expr
    expectWord "to"
    return .write content (← expr)
  | .readWord => some do
    let path ← expr
    expectWord "into"
    return .read path (← expectVariable)
  | .mkdirWord => some do return .mkdir (← expr)
  | .deleteWord => some do
    let path ← expr
    return .delete path (← eatWord "recursive")
  | .alertWord => some do return .alert (← expr)
  | .confirmWord => some do
    let message ← expr
    return .confirm message (← intoVariable)
  | .promptWord => some do
    let message ← expr
    let default ← if ← eatWord "default" then some <$> expr else pure none
    return .prompt message default (← intoVariable)
  | .notifyWord => some do
    let message ← expr
    return .notify message (← optionalOperand expr)
  | .playWord => some do return .play (← expr)
  | .stopWord => some (pure .stop)
  | .videoWord => some do return .video (← expr)
  | .commandWord => some do
    let name ← expr
    let args ← if ← operandFollows then commaList expr else pure []
    return .command name args
  | _ => none

/-- Fail because `break` or `continue` stands outside every loop. -/
def outsideLoop {α : Type} (k : Keyword) (loc : Location) : Parser α :=
  reject (.malformed s!"'{k.text}' outside of a loop" loc)

/-- A statement that starts with the reserved word `k` at `loc`, which is the next token. -/
def keywordStatement (expr : Parser Expr) (below : StatementLevel) (loops : Nat) (k : Keyword)
    (loc : Location) : Parser Stmt := do
  match k with
  | .setWord => advance; assignment expr loc
  | .letWord =>
    advance
    let name ← expectVariable
    expectMark .assign "'='"
    return .declare loc name (← expr)
  | .printWord => advance; return .print loc (← expr)
  | .ifWord => advance; conditional expr below loops loc
  | .loopWord =>
    advance
    let count ← expr
    return .loop loc count (← block (below.statement (loops + 1)))
  | .whileWord =>
    advance
    let test ← expr
    return .while loc test (← block (below.statement (loops + 1)))
  | .foreachWord =>
    advance
    let var ← expectVariable
    expectWord "in"
    let items ← expr
    return .foreach loc var items (← block (below.statement (loops + 1)))
  | .breakWord => advance; if loops = 0 then outsideLoop k loc else return .break loc
  | .continueWord => advance; if loops = 0 then outsideLoop k loc else return .continue loc
  | .returnWord => advance; return .return loc (← optionalOperand expr)
  | .defWord => advance; definition below loc
  | .tryWord => advance; attempt below loops loc
  | .onWord =>
    advance
    let event ← expr
    return .on loc event (← block (below.statement 0))
  | _ =>
    match hostRequest expr k with
    | some request => advance; return .host loc (← request)
    | none => expected "a statement"

/-- A statement that starts with an expression. -/
def exprStatement (expr : Parser Expr) (loc : Location) : Parser Stmt := do
  let value ← expr
  if (assignOp? (← peek).kind).isSome then
    expectedWithHint "a statement" "assign with `set $name = value`"
  else return .expr loc value

/-- A statement over the parsers of the level below. -/
def statementOver (expr : Parser Expr) (below : StatementLevel) (loops : Nat) : Parser Stmt := do
  let token ← peek
  let s ← match token.kind with
    | .mark .openBrace => .block token.loc <$> block (below.statement loops)
    | .keyword k =>
      if startsExpr (.keyword k) then exprStatement expr token.loc
      else keywordStatement expr below loops k token.loc
    | _ => exprStatement expr token.loc
  let _ ← eatMark .semicolon
  return s

/-- The statement parsers with `room` levels left. -/
def statementsWithin : (room : Nat) → StatementLevel
  | 0 => ⟨fun _ => nestingTooDeep, fun _ _ => nestingTooDeep⟩
  | room + 1 =>
    let below := statementsWithin room
    ⟨statementOver (exprWithin room) below, conditional (exprWithin room) below⟩

/-- Statements up to the end of the stream. -/
def programFrom (statement : Parser Stmt) : Nat → Parser Program
  | 0 => pure []
  | n + 1 => do
    if (← peek).kind == .eof then return []
    else
      let s ← statement
      let rest ← programFrom statement n
      return s :: rest

/-- A program: statements up to the end of the stream. -/
def program : Parser Program := do
  programFrom ((statementsWithin maxNesting).statement 0) (← tokensLeft)

/-- The program of a stream of tokens. -/
def programOfTokens (tokens : List Token) : Except Fault Program :=
  (program (.ofTokens tokens)).map Prod.fst

/-- The expression at the front of a stream of tokens; what follows it is ignored. -/
def exprOfTokens (tokens : List Token) : Except Fault Expr :=
  (exprWithin maxNesting (.ofTokens tokens)).map Prod.fst

/-- The program of a source text. -/
def parse (src : String) : Except Fault Program := do
  programOfTokens (← tokenize src)

end HostScript.Source
