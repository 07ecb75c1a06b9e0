import HostScript.Fault
import HostScript.Source.Token

/-! # Reading a stream of tokens

A cursor holds the tokens that are left and the line of the token read last;
the line decides whether the next token stands on the same line. A parser is a
function of the cursor that returns a result with the cursor after it, or a
fault. The end token of a stream is looked at but never read. -/

namespace HostScript.Source

/-- A place in a stream of tokens. -/
structure Cursor where
  /-- The line of the token read last; zero before the first one. -/
  lastLine : Nat
  /-- The tokens not yet read. -/
  rest : List Token

/-- The cursor before the first token. -/
def Cursor.ofTokens (tokens : List Token) : Cursor := ⟨0, tokens⟩

/-- Functions of a cursor that may fail. -/
abbrev Parser := StateT Cursor (Except Fault)

/-- The end token that stands behind every stream. -/
def endToken : Token := ⟨.eof, "", .unknown⟩

/-- The next token. -/
def Cursor.next (c : Cursor) : Token := c.rest.head?.getD endToken

/-- The cursor behind the next token. -/
def Cursor.advance (c : Cursor) : Cursor := ⟨c.next.loc.line, c.rest.tail⟩

/-- Look at the next token. -/
def peek : Parser Token := fun c => .ok (c.next, c)

/-- Read the next token. -/
def advance : Parser Unit := fun c => .ok ((), c.advance)

/-- The number of tokens left. A loop that reads at least one token in each round takes no
more rounds than that. -/
def tokensLeft : Parser Nat := fun c => .ok (c.rest.length, c)

/-- The next token stands on the line of the token read last. -/
def onSameLine : Parser Bool := fun c => .ok (c.next.loc.line == c.lastLine, c)

/-- Fail with a fault. -/
def reject {α : Type} (f : Fault) : Parser α := fun _ => .error f

/-- Fail at the next token, which is not what was expected. -/
def expected {α : Type} (what : String) : Parser α := fun c =>
  .error (.malformed s!"expected {what}, found {c.next.kind.describe}" c.next.loc)

/-- Fail at the next token, which is not what was expected, with a hint. -/
def expectedWithHint {α : Type} (what hint : String) : Parser α := fun c =>
  .error ((Fault.malformed s!"expected {what}, found {c.next.kind.describe}" c.next.loc).withHint
    hint)

/-- The next token is the mark `m`. -/
def atMark (m : Mark) : Parser Bool := fun c => .ok (c.next.kind == .mark m, c)

/-- Read the next token if it is the mark `m`, and say whether it was. -/
def eatMark (m : Mark) : Parser Bool := fun c =>
  if c.next.kind == .mark m then .ok (true, c.advance) else .ok (false, c)

/-- Read the next token if it is the reserved word `k`, and say whether it was. -/
def eatKeyword (k : Keyword) : Parser Bool := fun c =>
  if c.next.kind == .keyword k then .ok (true, c.advance) else .ok (false, c)

/-- Read the mark `m`, described as `what` when it is missing. -/
def expectMark (m : Mark) (what : String) : Parser Unit := do
  if ← eatMark m then pure () else expected what

/-- Read the contextual word `word`. -/
def expectWord (word : String) : Parser Unit := do
  if (← peek).kind == .name word then advance else expected s!"'{word}'"

/-- Read the contextual word `word` if it comes next on the same line. -/
def eatWord (word : String) : Parser Bool := do
  if (← onSameLine) && (← peek).kind == .name word then
    advance
    return true
  else return false

/-- Read a variable, written with or without a dollar sign. -/
def expectVariable : Parser String := do
  match (← peek).kind with
  | .var name => advance; return name
  | .name name => advance; return name
  | _ => expected "a variable name"

end HostScript.Source
