import HostScript.Document.Basic
import HostScript.Number.Reading
import HostScript.Text.Ranges

/-! # Reading documents

The reader goes through the text once and stops at the first error. Positions
count lines from one and the bytes read on the line. An error about a byte
that was only looked at counts that byte too; at the end of the text there is
no such byte. Lists and records nest at most 127 deep. -/

namespace HostScript.Document.Reading

/-- Why a text is not a document. -/
inductive ReadProblem where
  | endInValue | endInList | endInRecord | endInText
  | expectedValue | expectedWord | trailingCharacters | trailingComma | keyNotText
  | expectedColon | expectedListComma | expectedRecordComma
  | invalidNumber | numberOutOfRange
  | invalidEscape | endOfHexEscape | loneSurrogate | controlCharacter
  | tooDeep
  deriving DecidableEq, Repr

/-- The words for a problem. -/
def ReadProblem.message : ReadProblem → String
  | .endInValue => "EOF while parsing a value"
  | .endInList => "EOF while parsing a list"
  | .endInRecord => "EOF while parsing an object"
  | .endInText => "EOF while parsing a string"
  | .expectedValue => "expected value"
  | .expectedWord => "expected ident"
  | .trailingCharacters => "trailing characters"
  | .trailingComma => "trailing comma"
  | .keyNotText => "key must be a string"
  | .expectedColon => "expected `:`"
  | .expectedListComma => "expected `,` or `]`"
  | .expectedRecordComma => "expected `,` or `\x7d`"
  | .invalidNumber => "invalid number"
  | .numberOutOfRange => "number out of range"
  | .invalidEscape => "invalid escape"
  | .endOfHexEscape => "unexpected end of hex escape"
  | .loneSurrogate => "lone leading surrogate in hex escape"
  | .controlCharacter => "control character (\\u0000-\\u001F) found while parsing a string"
  | .tooDeep => "recursion limit exceeded"

/-- A problem and where it was found. -/
structure ReadError where
  problem : ReadProblem
  line : Nat
  column : Nat
  deriving DecidableEq, Repr

/-- The text that reports an error. -/
def ReadError.message (e : ReadError) : String :=
  s!"{e.problem.message} at line {e.line} column {e.column}"

/-- A place in the text: what is left, the line, and the bytes read on it. -/
structure Place where
  rest : List Char
  line : Nat := 1
  column : Nat := 0

/-- The place behind the character `c`, which is followed by `rest`. -/
def Place.behind (p : Place) (c : Char) (rest : List Char) : Place :=
  if c = '\n' then ⟨rest, p.line + 1, 0⟩ else ⟨rest, p.line, p.column + c.utf8Size⟩

/-- The error `problem` at the place. -/
def Place.error (p : Place) (problem : ReadProblem) : ReadError :=
  ⟨problem, p.line, p.column⟩

/-- The error `problem` one byte behind the place, if there is a byte. -/
def Place.errorAhead (p : Place) (problem : ReadProblem) : ReadError :=
  match p.rest with
  | [] => p.error problem
  | c :: _ => if c = '\n' then ⟨problem, p.line + 1, 0⟩ else ⟨problem, p.line, p.column + 1⟩

/-- Functions of a place that may fail. -/
abbrev Reader := StateT Place (Except ReadError)

/-- Fail at the place. -/
def fail {α : Type} (problem : ReadProblem) : Reader α := fun p => .error (p.error problem)

/-- Fail at the byte that comes next. -/
def failAhead {α : Type} (problem : ReadProblem) : Reader α := fun p =>
  .error (p.errorAhead problem)

/-- The next character. -/
def peekChar : Reader (Option Char) := fun p => .ok (p.rest.head?, p)

/-- Read the next character, if there is one. -/
def skipChar : Reader Unit := fun p =>
  match p.rest with
  | [] => .ok ((), p)
  | c :: rest => .ok ((), p.behind c rest)

/-- The number of characters left, which bounds every loop that reads at least one. -/
def charsLeft : Reader Nat := fun p => .ok (p.rest.length, p)

/-- A blank of the format. -/
def isFormatBlank (c : Char) : Bool := c == ' ' || c == '\n' || c == '\t' || c == '\r'

/-- The place behind leading blanks. -/
def skipBlanksFrom (line column : Nat) : List Char → Place
  | [] => ⟨[], line, column⟩
  | c :: rest =>
    if isFormatBlank c then
      if c = '\n' then skipBlanksFrom (line + 1) 0 rest else skipBlanksFrom line (column + 1) rest
    else ⟨c :: rest, line, column⟩

/-- Read blanks and look at what follows. -/
def peekBehindBlanks : Reader (Option Char) := fun p =>
  let p' := skipBlanksFrom p.line p.column p.rest
  .ok (p'.rest.head?, p')

/-- Read the rest of a word. -/
def word : List Char → Reader Unit
  | [] => pure ()
  | c :: cs => do
    match ← peekChar with
    | none => fail .endInValue
    | some d => if d = c then do skipChar; word cs else failAhead .expectedWord

/-! ### Numbers -/

/-- Read decimal digits. -/
def digits : Reader (List Char) := fun p =>
  let ds := p.rest.takeWhile Char.isDigit
  .ok (ds, ⟨p.rest.dropWhile Char.isDigit, p.line, p.column + ds.length⟩)

/-- Read an optional fraction: a point and at least one digit. -/
def fraction : Reader (List Char) := do
  if (← peekChar) = some '.' then
    skipChar
    let ds ← digits
    if ds.isEmpty then
      if (← peekChar).isSome then failAhead .invalidNumber else failAhead .endInValue
    else return ds
  else return []

/-- The largest exponent that is read to its end. -/
def maxExponent : Nat := 0x7FFFFFFF

/-- The exponent of at least one digit: its value, or how many digits are read when the
value becomes too large. -/
def exponentDigits : Nat → List Char → Nat ⊕ List Char
  | n, [] => .inl n
  | n, c :: rest =>
    let m := 10 * n + (c.toNat - 48)
    if m > maxExponent then .inr rest else exponentDigits m rest

/-- Read an optional exponent. An exponent that is too large makes a number that is not
zero out of range, and otherwise counts as the most negative one. -/
def exponent (significandIsZero : Bool) : Reader Int := do
  match ← peekChar with
  | some c =>
    if c = 'e' || c = 'E' then
      skipChar
      let sign ← peekChar
      let negative := sign == some '-'
      if sign == some '-' || sign == some '+' then skipChar
      match ← peekChar with
      | none => fail .endInValue
      | some d =>
        if d.isDigit then
          fun p =>
            let ds := p.rest.takeWhile Char.isDigit
            let behind : Place := ⟨p.rest.dropWhile Char.isDigit, p.line, p.column + ds.length⟩
            match exponentDigits 0 ds with
            | .inl n => .ok (if negative then -(n : Int) else n, behind)
            | .inr left =>
              if !significandIsZero && !negative then
                .error ⟨.numberOutOfRange, p.line, p.column + (ds.length - left.length)⟩
              else .ok (-(maxExponent : Int), behind)
        else failAhead .invalidNumber
    else return 0
  | none => return 0

/-- Read a number behind its sign. -/
def number (negative : Bool) : Reader Document := do
  match ← peekChar with
  | none => fail .endInValue
  | some c =>
    if !c.isDigit then failAhead .invalidNumber
    else
      if c = '0' then
        skipChar
        if (← peekChar).any Char.isDigit then failAhead .invalidNumber
      let whole ← if c = '0' then pure ['0'] else digits
      let part ← fraction
      let significand := Number.decimalValue (whole ++ part)
      let e ← exponent (significand == 0)
      let x := Number.ofDecimal significand (e - part.length)
      if x.isInf then fail .numberOutOfRange
      else return .number (if negative then -x else x)

/-! ### Texts -/

/-- The error place `n` bytes behind a place. -/
def bytesBehind : Nat → Place → Place
  | 0, p => p
  | n + 1, p =>
    match p.rest with
    | [] => p
    | c :: rest =>
      if c.utf8Size ≤ n + 1 then bytesBehind (n + 1 - c.utf8Size) (p.behind c rest)
      else ⟨rest, p.line, p.column + (n + 1)⟩
termination_by n => n
decreasing_by
  have := Char.utf8Size_pos c
  omega

/-- Read four hexadecimal digits. -/
def hexQuad : Reader Nat := fun p =>
  let size := (p.rest.take 4).foldl (fun n c => n + c.utf8Size) 0
  match p.rest with
  | a :: b :: c :: d :: rest =>
    match Text.hexDigit? a, Text.hexDigit? b, Text.hexDigit? c, Text.hexDigit? d with
    | some w, some x, some y, some z =>
      .ok (((w * 16 + x) * 16 + y) * 16 + z, ⟨rest, p.line, p.column + 4⟩)
    | _, _, _, _ => .error ((bytesBehind 4 p).error .invalidEscape)
  | _ =>
    if size ≥ 4 then .error ((bytesBehind 4 p).error .invalidEscape)
    else .error ((bytesBehind size p).error .endInText)

/-- Read the character `c`, or fail behind the byte that stands in its place. -/
def surrogateMark (c : Char) : Reader Unit := do
  match ← peekChar with
  | none => fail .endInText
  | some d => if d = c then skipChar else failAhead .endOfHexEscape

/-- Read the digits of a code escape; two escapes in a row may form one character. -/
def codeEscape : Reader Char := do
  let n ← hexQuad
  if 0xDC00 ≤ n ∧ n ≤ 0xDFFF then fail .loneSurrogate
  else if n < 0xD800 ∨ 0xDBFF < n then return Char.ofNat n
  else
    surrogateMark '\\'
    surrogateMark 'u'
    let m ← hexQuad
    if m < 0xDC00 ∨ 0xDFFF < m then fail .loneSurrogate
    else return Char.ofNat (0x10000 + (n - 0xD800) * 0x400 + (m - 0xDC00))

/-- Read an escape behind the backslash. -/
def escape : Reader Char := do
  match ← peekChar with
  | none => fail .endInText
  | some c =>
    match c with
    | '"' => skipChar; return '"'
    | '\\' => skipChar; return '\\'
    | '/' => skipChar; return '/'
    | 'b' => skipChar; return Char.ofNat 8
    | 'f' => skipChar; return Char.ofNat 12
    | 'n' => skipChar; return '\n'
    | 'r' => skipChar; return '\r'
    | 't' => skipChar; return '\t'
    | 'u' => skipChar; codeEscape
    | _ => failAhead .invalidEscape

/-- Read the characters of a text behind the opening quote, up to the closing one. -/
def textChars : Nat → Reader (List Char)
  | 0 => fail .endInText
  | n + 1 => do
    match ← peekChar with
    | none => fail .endInText
    | some c =>
      if c = '"' then
        skipChar
        return []
      else if c = '\\' then
        skipChar
        let d ← escape
        return d :: (← textChars n)
      else if c.toNat < 32 then failAhead .controlCharacter
      else
        skipChar
        return c :: (← textChars n)

/-- Read a text behind the opening quote. -/
def textBody : Reader String := do
  let n ← charsLeft
  return String.ofList (← textChars (n + 1))

/-! ### Lists and records -/

/-- Read the items of a list behind the opening bracket; `first` says that no item was
read yet. -/
def items (value : Reader Document) : (first : Bool) → Nat → Reader (List Document)
  | _, 0 => failAhead .endInList
  | first, n + 1 => do
    match ← peekBehindBlanks with
    | none => failAhead .endInList
    | some c =>
      if c = ']' then
        skipChar
        return []
      else if first then
        let d ← value
        return d :: (← items value false n)
      else if c = ',' then
        skipChar
        match ← peekBehindBlanks with
        | none => failAhead .endInValue
        | some c =>
          if c = ']' then failAhead .trailingComma
          else
            let d ← value
            return d :: (← items value false n)
      else failAhead .expectedListComma

/-- Read the colon behind a key. -/
def colon : Reader Unit := do
  match ← peekBehindBlanks with
  | none => failAhead .endInRecord
  | some c => if c = ':' then skipChar else failAhead .expectedColon

/-- Read an entry of a record, of which the opening quote comes next. -/
def entry (value : Reader Document) : Reader (String × Document) := do
  skipChar
  let key ← textBody
  colon
  return (key, ← value)

/-- Read the entries of a record behind the opening brace; `first` says that no entry was
read yet. -/
def entries (value : Reader Document) : (first : Bool) → Nat → Reader (List (String × Document))
  | _, 0 => failAhead .endInRecord
  | first, n + 1 => do
    match ← peekBehindBlanks with
    | none => failAhead .endInRecord
    | some c =>
      if c = '}' then
        skipChar
        return []
      else if first then
        if c = '"' then
          let e ← entry value
          return e :: (← entries value false n)
        else failAhead .keyNotText
      else if c = ',' then
        skipChar
        match ← peekBehindBlanks with
        | none => failAhead .endInValue
        | some c =>
          if c = '"' then
            let e ← entry value
            return e :: (← entries value false n)
          else if c = '}' then failAhead .trailingComma
          else failAhead .keyNotText
      else failAhead .expectedRecordComma

/-- Lists and records nest at most this deep. -/
def maxReadDepth : Nat := 127

/-- Read a value; `inner` reads the values inside a list or record, if one may stand
here. -/
def valueOver (inner : Option (Reader Document)) : Reader Document := do
  match ← peekBehindBlanks with
  | none => failAhead .endInValue
  | some c =>
    match c, inner with
    | 'n', _ => skipChar; word "ull".toList; return .null
    | 't', _ => skipChar; word "rue".toList; return .bool true
    | 'f', _ => skipChar; word "alse".toList; return .bool false
    | '"', _ => skipChar; return .text (← textBody)
    | '-', _ => skipChar; number true
    | '[', some value =>
      skipChar
      let n ← charsLeft
      return .list (← items value true (n + 1))
    | '{', some value =>
      skipChar
      let n ← charsLeft
      return .record (← entries value true (n + 1))
    | '[', none => failAhead .tooDeep
    | '{', none => failAhead .tooDeep
    | _, _ => if c.isDigit then number false else failAhead .expectedValue

/-- Read a value in which lists and records nest at most `room` deep. -/
def valueWithin : (room : Nat) → Reader Document
  | 0 => valueOver none
  | room + 1 => valueOver (some (valueWithin room))

/-- Read a document that takes up the whole text. -/
def document : Reader Document := do
  let d ← valueWithin maxReadDepth
  if (← peekBehindBlanks).isSome then failAhead .trailingCharacters
  else return d

end HostScript.Document.Reading

/-- The document of a text. -/
def HostScript.Document.read (s : String) :
    Except HostScript.Document.Reading.ReadError HostScript.Document :=
  (HostScript.Document.Reading.document { rest := s.toList }).map Prod.fst
