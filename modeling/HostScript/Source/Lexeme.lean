import HostScript.Number.Reading
import HostScript.Source.Token
import HostScript.Text.Alphabetic

/-! # Lexemes: single tokens at the front of a text

Each reader takes the characters of a text and returns a token kind together
with the characters that follow the token. What a reader leaves is always a
suffix of what it was given.

Main statement: `readLexeme_suffix`. -/

namespace HostScript.Source

open HostScript.Text

/-- A character that may start a name. -/
def isNameStart (c : Char) : Bool := isLetter c || c == '_'

/-- A character that may continue a name. -/
def isNameChar (c : Char) : Bool := isLetter c || isNumeral c || c == '_'

/-- Why the text at some place is not a token. -/
inductive LexicalError where
  | badHexadecimal
  | badNumber (text : String)
  /-- The text ends inside a string literal that started with `quote`. -/
  | unterminated (quote : Char)
  /-- The text ends just after a backslash inside a string literal. -/
  | unterminatedEscape
  /-- A dollar sign without a name. -/
  | missingName
  | unexpected (c : Char)
  deriving DecidableEq, Repr

namespace LexicalError

/-- The message for a lexical error. -/
def message : LexicalError → String
  | .badHexadecimal => "invalid hexadecimal literal"
  | .badNumber text => s!"invalid number '{text}'"
  | .unterminated _ => "unterminated string literal"
  | .unterminatedEscape => "unterminated string literal"
  | .missingName => "expected a variable name after '$'"
  | .unexpected c => s!"unexpected character '{c}'"

/-- The hint for a lexical error, if there is one. -/
def hint? : LexicalError → Option String
  | .unterminated quote => some s!"add a closing {quote}"
  | .unexpected '&' => some "use '&&' for logical and"
  | .unexpected '|' => some "use '||' for logical or"
  | _ => none

end LexicalError

/-- Drop blanks and comments from the front of a text; `inComment` says that the text
starts inside a comment, which lasts to the end of its line. -/
def skipTrivia (inComment : Bool) : List Char → List Char
  | [] => []
  | c :: rest =>
    if inComment then skipTrivia (c != '\n') rest
    else if isBlank c then skipTrivia false rest
    else if c == '#' then skipTrivia true rest
    else if c == '/' && rest.head? == some '/' then skipTrivia true rest
    else c :: rest

theorem skipTrivia_suffix (b : Bool) (cs : List Char) : skipTrivia b cs <:+ cs := by
  induction cs generalizing b with
  | nil => exact List.suffix_refl _
  | cons c rest ih =>
    unfold skipTrivia
    repeat' split
    all_goals first
      | exact List.suffix_refl _
      | exact (ih _).trans (List.suffix_cons c rest)

/-- A character of a hexadecimal literal. -/
def isHexDigit (c : Char) : Bool := (hexDigit? c).isSome

/-- Read the digits of a hexadecimal literal. Its value fits a signed 64-bit word. -/
def readHexadecimal (cs : List Char) : Except LexicalError (TokenKind × List Char) :=
  let digits := cs.takeWhile isHexDigit
  let value := hexNumber digits
  if digits.isEmpty || value ≥ 0x8000000000000000 then .error .badHexadecimal
  else .ok (.number (Number.ofNat value), cs.dropWhile isHexDigit)

/-- The fraction at the front of a text: a point and at least one digit. -/
def splitFraction : List Char → List Char × List Char
  | '.' :: rest =>
    if rest.head?.any Char.isDigit then
      ('.' :: rest.takeWhile Char.isDigit, rest.dropWhile Char.isDigit)
    else ([], '.' :: rest)
  | cs => ([], cs)

/-- The exponent at the front of a text: an `e` that is followed by a digit or a sign. -/
def splitExponent : List Char → List Char × List Char
  | c :: d :: rest =>
    if (c == 'e' || c == 'E') && d.isDigit then
      ('e' :: (d :: rest).takeWhile Char.isDigit, (d :: rest).dropWhile Char.isDigit)
    else if (c == 'e' || c == 'E') && (d == '+' || d == '-') then
      ('e' :: d :: rest.takeWhile Char.isDigit, rest.dropWhile Char.isDigit)
    else ([], c :: d :: rest)
  | cs => ([], cs)

/-- Read a decimal literal. -/
def readDecimal (cs : List Char) : Except LexicalError (TokenKind × List Char) :=
  let whole := cs.takeWhile Char.isDigit
  let (fraction, rest) := splitFraction (cs.dropWhile Char.isDigit)
  let (exponent, rest) := splitExponent rest
  let spelling := whole ++ fraction ++ exponent
  match Number.ofDigits? spelling with
  | some x => .ok (.number x, rest)
  | none => .error (.badNumber (String.ofList spelling))

/-- Read a number, of which `c` is the first digit. -/
def readNumber (c : Char) (cs : List Char) : Except LexicalError (TokenKind × List Char) :=
  if c == '0' && (cs.head? == some 'x' || cs.head? == some 'X') then
    readHexadecimal (cs.drop 1)
  else readDecimal (c :: cs)

/-- The character that `c` stands for after a backslash. -/
def unescape (c : Char) : Char :=
  if c == 'n' then '\n' else if c == 't' then '\t' else if c == 'r' then '\r' else c

/-- Add the text gathered so far, which is kept last character first, to the parts of a
string literal, which are kept last part first. -/
def flushText (text : List Char) (parts : List TemplatePart) : List TemplatePart :=
  if text.isEmpty then parts else .text (String.ofList text.reverse) :: parts

/-- A reference to a variable at the front of the text after a dollar sign: a name, or a
name in braces. -/
def splitReference : List Char → Option (List Char × List Char)
  | [] => none
  | c :: rest =>
    if isNameStart c then
      some ((c :: rest).takeWhile isNameChar, (c :: rest).dropWhile isNameChar)
    else if c == '{' && rest.head?.any isNameStart
        && (rest.dropWhile isNameChar).head? == some '}' then
      some (rest.takeWhile isNameChar, (rest.dropWhile isNameChar).drop 1)
    else none

theorem splitReference_suffix {cs name rest : List Char}
    (h : splitReference cs = some (name, rest)) : rest <:+ cs := by
  cases cs with
  | nil => simp [splitReference] at h
  | cons c tail =>
    simp only [splitReference] at h
    split at h
    · cases h; exact List.dropWhile_suffix _
    · split at h
      · cases h
        exact ((List.drop_suffix _ _).trans (List.dropWhile_suffix _)).trans
          (List.suffix_cons c tail)
      · cases h

/-- The kind of a string literal with the given parts, last part first. -/
def literalKind (text : List Char) (parts : List TemplatePart) : TokenKind :=
  match parts with
  | [] => .text (String.ofList text.reverse)
  | _ => .template (flushText text parts).reverse

/-- Read a string literal after its opening quote. The text since the last part is kept
last character first, and the parts last part first. -/
def readLiteral (quote : Char) (text : List Char) (parts : List TemplatePart) (cs : List Char) :
    Except LexicalError (TokenKind × List Char) :=
  match cs with
  | [] => .error (.unterminated quote)
  | c :: rest =>
    if c == '\\' then
      match rest with
      | [] => .error .unterminatedEscape
      | d :: rest => readLiteral quote (unescape d :: text) parts rest
    else if c == quote then .ok (literalKind text parts, rest)
    else if c == '$' then
      match h : splitReference rest with
      | some (name, left) =>
        have : left.length ≤ rest.length := (splitReference_suffix h).length_le
        readLiteral quote [] (.var (String.ofList name) :: flushText text parts) left
      | none => readLiteral quote ('$' :: text) parts rest
    else readLiteral quote (c :: text) parts rest
termination_by cs.length
decreasing_by all_goals (simp only [List.length_cons]; omega)

theorem readLiteral_suffix {quote : Char} {text : List Char} {parts : List TemplatePart}
    {cs rest : List Char} {k : TokenKind} (h : readLiteral quote text parts cs = .ok (k, rest)) :
    rest <:+ cs := by
  fun_induction readLiteral quote text parts cs with
  | case1 => cases h
  | case2 => cases h
  | case3 text parts c hc d tail ih =>
    exact ((ih h).trans (List.suffix_cons d tail)).trans (List.suffix_cons c _)
  | case4 => cases h; exact List.suffix_cons _ _
  | case5 text parts c tail hc hq hd name left hs hl ih =>
    exact ((ih h).trans (splitReference_suffix hs)).trans (List.suffix_cons _ _)
  | case6 text parts c tail hc hq hd hs ih => exact (ih h).trans (List.suffix_cons _ _)
  | case7 text parts c tail hc hq hd ih => exact (ih h).trans (List.suffix_cons _ _)

/-- The kind of a word: a reserved word or a name. -/
def wordKind (word : String) : TokenKind :=
  match Keyword.ofText? word with
  | some k => .keyword k
  | none => .name word

/-- The mark with the first character `c` and, if `second` follows, the longer one. -/
def markOf (c : Char) : Option (Mark × Option (Char × Mark)) :=
  match c with
  | '+' => some (.plus, some ('=', .plusAssign))
  | '-' => some (.minus, some ('=', .minusAssign))
  | '*' => some (.star, some ('=', .starAssign))
  | '/' => some (.slash, some ('=', .slashAssign))
  | '%' => some (.percent, none)
  | '!' => some (.bang, some ('=', .notEqual))
  | '=' => some (.assign, some ('=', .equal))
  | '<' => some (.less, some ('=', .lessEqual))
  | '>' => some (.greater, some ('=', .greaterEqual))
  | '(' => some (.openParen, none)
  | ')' => some (.closeParen, none)
  | '{' => some (.openBrace, none)
  | '}' => some (.closeBrace, none)
  | '[' => some (.openBracket, none)
  | ']' => some (.closeBracket, none)
  | ',' => some (.comma, none)
  | ':' => some (.colon, none)
  | '.' => some (.dot, none)
  | ';' => some (.semicolon, none)
  | _ => none

/-- Read a mark, of which `c` is the first character. -/
def readMark (c : Char) (cs : List Char) : Except LexicalError (TokenKind × List Char) :=
  if c == '&' && cs.head? == some '&' then .ok (.mark .both, cs.drop 1)
  else if c == '|' && cs.head? == some '|' then .ok (.mark .either, cs.drop 1)
  else match markOf c with
    | some (short, some (second, long)) =>
      if cs.head? == some second then .ok (.mark long, cs.drop 1) else .ok (.mark short, cs)
    | some (short, none) => .ok (.mark short, cs)
    | none => .error (.unexpected c)

/-- Read the token of which `c` is the first character. -/
def readLexeme (c : Char) (cs : List Char) : Except LexicalError (TokenKind × List Char) :=
  if c.isDigit then readNumber c cs
  else if c == '"' || c == '\'' then readLiteral c [] [] cs
  else if isNameStart c then
    .ok (wordKind (String.ofList (c :: cs.takeWhile isNameChar)), cs.dropWhile isNameChar)
  else if c == '$' then
    if cs.head?.any isNameStart then
      .ok (.var (String.ofList (cs.takeWhile isNameChar)), cs.dropWhile isNameChar)
    else .error .missingName
  else readMark c cs

/-! ### What a reader leaves is a suffix of what it was given -/

theorem splitFraction_suffix (cs : List Char) : (splitFraction cs).2 <:+ cs := by
  unfold splitFraction
  split
  · split
    · exact (List.dropWhile_suffix _).trans (List.suffix_cons _ _)
    · exact List.suffix_refl _
  · exact List.suffix_refl _

theorem splitExponent_suffix (cs : List Char) : (splitExponent cs).2 <:+ cs := by
  unfold splitExponent
  split
  · split
    · exact (List.dropWhile_suffix _).trans (List.suffix_cons _ _)
    · split
      · exact ((List.dropWhile_suffix _).trans (List.suffix_cons _ _)).trans
          (List.suffix_cons _ _)
      · exact List.suffix_refl _
  · exact List.suffix_refl _

theorem readHexadecimal_suffix {cs rest : List Char} {k : TokenKind}
    (h : readHexadecimal cs = .ok (k, rest)) : rest <:+ cs := by
  simp only [readHexadecimal] at h
  split at h
  · cases h
  · cases h; exact List.dropWhile_suffix _

/-- A decimal literal that starts with a digit leaves less than it was given. -/
theorem readDecimal_suffix {c : Char} {cs rest : List Char} {k : TokenKind} (hc : c.isDigit = true)
    (h : readDecimal (c :: cs) = .ok (k, rest)) : rest <:+ cs := by
  simp only [readDecimal] at h
  split at h
  · cases h
    have hd : (c :: cs).dropWhile Char.isDigit = cs.dropWhile Char.isDigit := by
      simp [hc]
    rw [hd]
    exact ((splitExponent_suffix _).trans (splitFraction_suffix _)).trans
      (List.dropWhile_suffix _)
  · cases h

theorem readNumber_suffix {c : Char} {cs rest : List Char} {k : TokenKind} (hc : c.isDigit = true)
    (h : readNumber c cs = .ok (k, rest)) : rest <:+ cs := by
  unfold readNumber at h
  split at h
  · exact (readHexadecimal_suffix h).trans (List.drop_suffix _ _)
  · exact readDecimal_suffix hc h

theorem readMark_suffix {c : Char} {cs rest : List Char} {k : TokenKind}
    (h : readMark c cs = .ok (k, rest)) : rest <:+ cs := by
  unfold readMark at h
  repeat' split at h
  all_goals first
    | (cases h; exact List.drop_suffix _ _)
    | (cases h; exact List.suffix_refl _)
    | cases h

/-- Reading a token leaves a suffix of the characters after its first one. -/
theorem readLexeme_suffix {c : Char} {cs rest : List Char} {k : TokenKind}
    (h : readLexeme c cs = .ok (k, rest)) : rest <:+ cs := by
  unfold readLexeme at h
  split at h
  case isTrue hc => exact readNumber_suffix hc h
  case isFalse =>
    split at h
    · exact readLiteral_suffix h
    · split at h
      · cases h; exact List.dropWhile_suffix _
      · split at h
        · split at h
          · cases h; exact List.dropWhile_suffix _
          · cases h
        · exact readMark_suffix h

end HostScript.Source
