import HostScript.Source.Cursor
import HostScript.Source.Tree

/-! # The grammar of expressions

From loosest to tightest: `||`, `&&`, equality, order, sums, products, unary
operators, member and index access, and the primary forms. Binary operators
group to the left.

The nesting of unary and primary forms is bounded. The rules for one level are
written over a parser for the level below, so the whole grammar is a recursion
on the number of levels that are left, and every repetition inside a level is
bounded by the number of tokens. -/

namespace HostScript.Source

/-- The number of levels of blocks and expressions that may nest. -/
def maxNesting : Nat := 128

/-- Fail because the next construct would nest too deeply. -/
def nestingTooDeep {α : Type} : Parser α := fun c =>
  .error ((Fault.malformed "nesting too deep" c.next.loc).withHint
    s!"nest at most {maxNesting} levels of blocks and expressions")

/-- The token can start an expression. -/
def startsExpr : TokenKind → Bool
  | .number _ | .text _ | .template _ | .name _ | .var _ => true
  | .mark m => [.openParen, .openBracket, .openBrace, .minus, .bang].contains m
  | .keyword k => [.callWord, .trueWord, .falseWord, .nullWord, .undefinedWord].contains k
  | .eof => false

/-- An expression follows on the same line. -/
def operandFollows : Parser Bool := do
  return (← onSameLine) && startsExpr (← peek).kind

/-! ### Binary operators -/

/-- The operators of one precedence level. -/
abbrev Level := Mark → Option BinaryOp

/-- The precedence levels of the binary operators, tightest first. -/
def levels : List Level :=
  [ fun | .star => some .mul | .slash => some .div | .percent => some .rem | _ => none,
    fun | .plus => some .add | .minus => some .sub | _ => none,
    fun | .less => some .lt | .lessEqual => some .le | .greater => some .gt
        | .greaterEqual => some .ge | _ => none,
    fun | .equal => some .eq | .notEqual => some .ne | _ => none,
    fun | .both => some .both | _ => none,
    fun | .either => some .either | _ => none ]

/-- The operator of the level that comes next. -/
def operatorAt (level : Level) : Parser (Option BinaryOp) := do
  match (← peek).kind with
  | .mark m => return level m
  | _ => return none

/-- Extend `left` by operators of the level and their right operands. -/
def chainFrom (level : Level) (operand : Parser Expr) : Nat → Expr → Parser Expr
  | 0, left => pure left
  | n + 1, left => do
    match ← operatorAt level with
    | none => return left
    | some op =>
      advance
      let right ← operand
      chainFrom level operand n (.binary left.loc op left right)

/-- Operands of a level, joined by its operators from the left. -/
def chain (level : Level) (operand : Parser Expr) : Parser Expr := do
  let left ← operand
  chainFrom level operand (← tokensLeft) left

/-- Expressions over a parser for unary expressions. -/
def exprOver (unary : Parser Expr) : Parser Expr :=
  levels.foldl (fun operand level => chain level operand) unary

/-! ### Lists -/

/-- Further items, each after a comma. -/
def commaTail {α : Type} (item : Parser α) : Nat → Parser (List α)
  | 0 => pure []
  | n + 1 => do
    if ← eatMark .comma then
      let x ← item
      let xs ← commaTail item n
      return x :: xs
    else return []

/-- One or more items separated by commas. -/
def commaList {α : Type} (item : Parser α) : Parser (List α) := do
  let x ← item
  let xs ← commaTail item (← tokensLeft)
  return x :: xs

/-- Items separated by commas up to the mark `close`, with an optional comma at the end. -/
def itemsUntil {α : Type} (close : Mark) (item : Parser α) : Nat → Parser (List α)
  | 0 => pure []
  | n + 1 => do
    if ← atMark close then return []
    else
      let x ← item
      if ← eatMark .comma then
        let xs ← itemsUntil close item n
        return x :: xs
      else return [x]

/-! ### Primary and postfix forms -/

/-- The name of a property; reserved words are allowed. -/
def memberName : Parser String := do
  match (← peek).kind with
  | .name s => advance; return s
  | .keyword k => advance; return k.text
  | _ => expected "a property name"

/-- The arguments of a call, behind the opening parenthesis. -/
def arguments (expr : Parser Expr) : Parser (List Expr) := do
  let args ← if ← atMark .closeParen then pure [] else commaList expr
  expectMark .closeParen "')' after arguments"
  return args

/-- The key of an object entry. -/
def entryKey : Parser String := do
  match (← peek).kind with
  | .name s => advance; return s
  | .text s => advance; return s
  | .var s => advance; return s
  | .keyword k => advance; return k.text
  | .number x => advance; return Number.display x
  | _ => expected "an object key"

/-- An entry of an object. -/
def objectEntry (expr : Parser Expr) : Parser (String × Expr) := do
  let key ← entryKey
  expectMark .colon "':' after object key"
  let value ← expr
  return (key, value)

/-- The name behind the word `call`. -/
def calledName : Parser String := do
  match (← peek).kind with
  | .name s => advance; return s
  | _ => expected "a function name after 'call'"

/-- A primary expression over a parser for expressions. -/
def primaryOver (expr : Parser Expr) : Parser Expr := do
  let token ← peek
  let loc := token.loc
  match token.kind with
  | .number x => advance; return .lit loc (.number x)
  | .text s => advance; return .lit loc (.text s)
  | .template parts => advance; return .template loc parts
  | .var name => advance; return .var loc name
  | .name name =>
    advance
    if (← atMark .openParen) && (← onSameLine) then
      advance
      return .call loc name (← arguments expr)
    else return .var loc name
  | .keyword .trueWord => advance; return .lit loc (.bool true)
  | .keyword .falseWord => advance; return .lit loc (.bool false)
  | .keyword .nullWord => advance; return .lit loc .null
  | .keyword .undefinedWord => advance; return .lit loc .undefined
  | .keyword .callWord =>
    advance
    let name ← calledName
    expectMark .openParen "'('"
    return .call loc name (← arguments expr)
  | .mark .openParen =>
    advance
    let inner ← expr
    expectMark .closeParen "')'"
    return .group loc inner
  | .mark .openBracket =>
    advance
    let items ← itemsUntil .closeBracket expr (← tokensLeft)
    expectMark .closeBracket "']'"
    return .array loc items
  | .mark .openBrace =>
    advance
    let entries ← itemsUntil .closeBrace (objectEntry expr) (← tokensLeft)
    expectMark .closeBrace "'\x7d'"
    return .object loc entries
  | _ => expected "an expression"

/-- Extend `base` by member and index accesses. An index stands on the line of what it
indexes. -/
def accessesFrom (expr : Parser Expr) : Nat → Expr → Parser Expr
  | 0, base => pure base
  | n + 1, base => do
    let token ← peek
    match token.kind with
    | .mark .dot =>
      advance
      let key ← memberName
      accessesFrom expr n (.member token.loc base key)
    | .mark .openBracket =>
      if ← onSameLine then
        advance
        let position ← expr
        expectMark .closeBracket "']'"
        accessesFrom expr n (.index token.loc base position)
      else return base
    | _ => return base

/-- A primary expression with its accesses. -/
def postfixOver (expr : Parser Expr) : Parser Expr := do
  let base ← primaryOver expr
  accessesFrom expr (← tokensLeft) base

/-- A unary expression with `room` levels left. -/
def unaryWithin : (room : Nat) → Parser Expr
  | 0 => nestingTooDeep
  | room + 1 => do
    let token ← peek
    match token.kind with
    | .mark .minus => advance; return .unary token.loc .neg (← unaryWithin room)
    | .mark .bang => advance; return .unary token.loc .not (← unaryWithin room)
    | _ => postfixOver (exprOver (unaryWithin room))

/-- An expression with `room` levels left. -/
def exprWithin (room : Nat) : Parser Expr :=
  exprOver (unaryWithin room)

end HostScript.Source
