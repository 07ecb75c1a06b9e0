/-! # Problems in a pattern

A pattern that cannot be read is reported with the pattern itself and marks
under the span that is wrong. A pattern of several lines is shown with line
numbers between two rules. -/

namespace HostScript.Pattern

/-- A place in a pattern, line and column counted from one. -/
structure Point where
  line : Nat := 1
  column : Nat := 1
  deriving DecidableEq, Repr

/-- The place behind a character. -/
def Point.after (p : Point) (c : Char) : Point :=
  if c = '\n' then ⟨p.line + 1, 1⟩ else ⟨p.line, p.column + 1⟩

/-- A part of a pattern, from its first place to the place behind it. -/
structure Span where
  first : Point
  last : Point
  deriving DecidableEq, Repr

/-- What is wrong with a pattern. -/
inductive Problem where
  | groupUnclosed | groupUnopened
  | groupNameEmpty | groupNameInvalid | groupNameUnclosed
  /-- The name was given to another group, which stands at `earlier`. -/
  | groupNameRepeated (earlier : Span)
  | flagDangling | flagUnknown | flagMissing
  | flagRepeated (earlier : Span)
  | negationRepeated (earlier : Span)
  | repetitionMissing | countUnclosed | countNotDecimal | countInvalid | decimalInvalid
  | escapeIncomplete | escapeUnknown
  | hexEmpty | hexInvalid | hexInvalidDigit
  | backreference | lookAround
  | classUnclosed | classRangeInvalid | classRangeNotLiteral | classEscapeInvalid
  | propertyInvalid | propertyUnknown | propertyValueUnknown
  | boundaryUnclosed | boundaryUnknown | boundaryIncomplete
  | notText
  /-- A character beyond ASCII, or a property, where only ASCII counts. -/
  | beyondAscii
  | nestedTooDeep (limit : Nat)
  deriving DecidableEq, Repr

/-- The words for a problem. -/
def Problem.message : Problem → String
  | .groupUnclosed => "unclosed group"
  | .groupUnopened => "unopened group"
  | .groupNameEmpty => "empty capture group name"
  | .groupNameInvalid => "invalid capture group character"
  | .groupNameUnclosed => "unclosed capture group name"
  | .groupNameRepeated _ => "duplicate capture group name"
  | .flagDangling => "dangling flag negation operator"
  | .flagUnknown => "unrecognized flag"
  | .flagMissing => "expected flag but got end of regex"
  | .flagRepeated _ => "duplicate flag"
  | .negationRepeated _ => "flag negation operator repeated"
  | .repetitionMissing => "repetition operator missing expression"
  | .countUnclosed => "unclosed counted repetition"
  | .countNotDecimal => "repetition quantifier expects a valid decimal"
  | .countInvalid => "invalid repetition count range, the start must be <= the end"
  | .decimalInvalid => "decimal literal invalid"
  | .escapeIncomplete => "incomplete escape sequence, reached end of pattern prematurely"
  | .escapeUnknown => "unrecognized escape sequence"
  | .hexEmpty => "hexadecimal literal empty"
  | .hexInvalid => "hexadecimal literal is not a Unicode scalar value"
  | .hexInvalidDigit => "invalid hexadecimal digit"
  | .backreference => "backreferences are not supported"
  | .lookAround => "look-around, including look-ahead and look-behind, is not supported"
  | .classUnclosed => "unclosed character class"
  | .classRangeInvalid => "invalid character class range, the start must be <= the end"
  | .classRangeNotLiteral => "invalid range boundary, must be a literal"
  | .classEscapeInvalid => "invalid escape sequence found in character class"
  | .propertyInvalid => "invalid Unicode character class"
  | .propertyUnknown => "Unicode property not found"
  | .propertyValueUnknown => "Unicode property value not found"
  | .boundaryUnclosed =>
    "special word boundary assertion is either unclosed or contains an invalid character"
  | .boundaryUnknown =>
    "unrecognized special word boundary assertion, valid choices are: " ++
      "start, end, start-half or end-half"
  | .boundaryIncomplete =>
    "found either the beginning of a special word boundary or a bounded repetition on a \\b " ++
      "with an opening brace, but no closing brace"
  | .notText => "pattern can match invalid UTF-8"
  | .beyondAscii => "Unicode not allowed here"
  | .nestedTooDeep limit =>
    s!"exceed the maximum number of nested parentheses/brackets ({limit})"

/-- The earlier span that a problem refers to. -/
def Problem.earlier? : Problem → Option Span
  | .groupNameRepeated s => some s
  | .flagRepeated s => some s
  | .negationRepeated s => some s
  | _ => none

/-- A problem and the part of the pattern that is wrong. -/
structure PatternError where
  problem : Problem
  span : Span
  deriving DecidableEq, Repr

/-! ### The report -/

/-- The text cut at line feeds; an empty last line does not count. -/
def patternLines (cs : List Char) : List (List Char) :=
  go [] cs
where
  /-- The lines of the rest, with the current line kept last character first. -/
  go (line : List Char) : List Char → List (List Char)
    | [] => if line.isEmpty then [] else [line.reverse]
    | c :: rest =>
      if c = '\n' then
        let l := if line.head? = some '\r' then line.tail else line
        l.reverse :: go [] rest
      else go (c :: line) rest

/-- Marks under the spans of one line, which are in order; `column` marks are written. -/
def caretsFrom (column : Nat) : List Span → List Char
  | [] => []
  | s :: rest =>
    let gap := s.first.column - 1 - column
    let width := max 1 (s.last.column - s.first.column)
    List.replicate gap ' ' ++ List.replicate width '^' ++ caretsFrom (column + gap + width) rest

/-- The spans of an error in the order in which they are marked. -/
def PatternError.spans (e : PatternError) : List Span :=
  match e.problem.earlier? with
  | none => [e.span]
  | some s =>
    if s.first.line < e.span.first.line ∨
        (s.first.line = e.span.first.line ∧ s.first.column ≤ e.span.first.column) then
      [s, e.span]
    else [e.span, s]

/-- The line `line` of a report, and the marks under it if there are any. -/
def reportLine (numberWidth : Nat) (spans : List Span) (line : Nat) (cs : List Char) :
    List Char :=
  let digits := Nat.toDigits 10 line
  let margin :=
    if numberWidth = 0 then List.replicate 4 ' '
    else List.replicate (numberWidth - digits.length) ' ' ++ digits ++ [':', ' ']
  let here := spans.filter fun s => s.first.line = line ∧ s.last.line = line
  let marks :=
    if here.isEmpty then []
    else List.replicate margin.length ' ' ++ caretsFrom 0 here ++ ['\n']
  margin ++ cs ++ ['\n'] ++ marks

/-- The note for a span over several lines. -/
def spanNote (s : Span) : String :=
  s!"on line {s.first.line} (column {s.first.column}) through line {s.last.line} " ++
    s!"(column {s.last.column - 1})\n"

/-- The report of an error in the pattern `cs`. -/
def PatternError.report (e : PatternError) (cs : List Char) : String :=
  let lines := patternLines cs
  let count := lines.length + (if cs.getLast? = some '\n' then 1 else 0)
  let numberWidth := if count ≤ 1 then 0 else (Nat.toDigits 10 count).length
  let body := String.ofList
    ((lines.zipIdx 1).flatMap fun l => reportLine numberWidth e.spans l.2 l.1)
  let head := "regex parse error:\n"
  let last := "error: " ++ e.problem.message
  if cs.contains '\n' then
    let rule := String.ofList (List.replicate 79 '~') ++ "\n"
    let notes := String.join ((e.spans.filter fun s => s.first.line ≠ s.last.line).map spanNote)
    head ++ rule ++ body ++ rule ++ notes ++ last
  else head ++ body ++ last

end HostScript.Pattern
