import HostScript.Number.Reading
import HostScript.Pattern.Tree
import HostScript.Text.Alphabetic

/-! # Reading patterns

The reader goes through a pattern once. Groups are kept on a stack of frames,
so that a missing closing parenthesis is reported at the innermost group that
is open. With the flag for it, blanks and comments between the parts of a
pattern are passed over. -/

namespace HostScript.Pattern

open HostScript.Text

/-- A place in a pattern and what was read so far. -/
structure Reading where
  rest : List Char
  here : Point := {}
  ignoreBlanks : Bool := false
  /-- The number of capturing groups so far. -/
  groups : Nat := 0
  /-- The names of capturing groups, newest first. -/
  names : List (String × Nat × Span) := []

/-- Functions of a reading that may fail. -/
abbrev PatternReader := StateT Reading (Except PatternError)

/-- Fail at a span. -/
def failAt {α : Type} (problem : Problem) (span : Span) : PatternReader α :=
  fun _ => .error ⟨problem, span⟩

/-- The next character. -/
def next : PatternReader (Option Char) := fun r => .ok (r.rest.head?, r)

/-- The character behind the next one. -/
def nextButOne : PatternReader (Option Char) := fun r => .ok (r.rest[1]?, r)

/-- The current place. -/
def here : PatternReader Point := fun r => .ok (r.here, r)

/-- The empty span at the current place. -/
def hereSpan : PatternReader Span := fun r => .ok (⟨r.here, r.here⟩, r)

/-- The span of the next character. -/
def charSpan : PatternReader Span := fun r =>
  .ok (⟨r.here, match r.rest with | [] => r.here | c :: _ => r.here.after c⟩, r)

/-- The span from `first` to the current place. -/
def spanFrom (first : Point) : PatternReader Span := fun r => .ok (⟨first, r.here⟩, r)

/-- Read one character, if there is one. -/
def step : PatternReader Unit := fun r =>
  match r.rest with
  | [] => .ok ((), r)
  | c :: rest => .ok ((), { r with rest, here := r.here.after c })

/-- The text and place behind blanks and comments. -/
def behindBlanks (inComment : Bool) (here : Point) : List Char → List Char × Point
  | [] => ([], here)
  | c :: rest =>
    if inComment then behindBlanks (c != '\n') (here.after c) rest
    else if isBlank c then behindBlanks false (here.after c) rest
    else if c = '#' then behindBlanks true (here.after c) rest
    else (c :: rest, here)

/-- Pass over blanks and comments, if they are ignored. -/
def skipBlanks : PatternReader Unit := fun r =>
  if r.ignoreBlanks then
    let (rest, here) := behindBlanks false r.here r.rest
    .ok ((), { r with rest, here })
  else .ok ((), r)

/-- Read one character and the blanks behind it. -/
def stepOver : PatternReader Unit := do
  step
  skipBlanks

/-- The first character that is not blank and does not start a comment; a comment is not
passed over, so that its first character may be the one. -/
def firstVisible (inComment : Bool) : List Char → Option Char
  | [] => none
  | c :: rest =>
    if isBlank c then firstVisible inComment rest
    else if c = '#' ∧ !inComment then firstVisible true rest
    else some c

/-- The character behind the next one and the blanks behind it. -/
def nextButOneOverBlanks : PatternReader (Option Char) := fun r =>
  .ok (if r.ignoreBlanks then firstVisible false r.rest.tail else r.rest.tail.head?, r)

/-- Read the text `s` if it comes next, and say whether it did. -/
def eatText (s : String) : PatternReader Bool := fun r =>
  let cs := s.toList
  if cs.isPrefixOf r.rest then
    .ok (true, { r with rest := r.rest.drop cs.length, here := cs.foldl Point.after r.here })
  else .ok (false, r)

/-- The number of characters left. -/
def lengthLeft : PatternReader Nat := fun r => .ok (r.rest.length, r)

/-- Go back to an earlier place. -/
def goBack (rest : List Char) (here : Point) : PatternReader Unit := fun r =>
  .ok ((), { r with rest, here })

/-! ### Escapes -/

/-- A part of a pattern that may also stand in a character class. -/
inductive Atom where
  | char (c : Char) (isByte : Bool)
  | anchor (a : Anchor)
  | letter (k : LetterClass) (negated : Bool)
  | property (q : PropertyQuery)
  | dot

/-- Characters with a meaning of their own. -/
def isMeta (c : Char) : Bool := "\\.+*?()|[]\x7b\x7d^$#&-~".toList.contains c

/-- A backslash before the character stands for the character itself. -/
def isEscapable (c : Char) : Bool :=
  isMeta c || (c.toNat < 128 && !c.isAlphanum && c != '<' && c != '>')

/-- Read the characters up to a closing brace, which is left. -/
def untilBrace : Nat → PatternReader (List Char)
  | 0 => pure []
  | n + 1 => do
    stepOver
    match ← next with
    | none => return []
    | some '}' => return []
    | some c => return c :: (← untilBrace n)

/-- The character with the code written in hexadecimal digits. -/
def charOfHex? (digits : List Char) : Option Char :=
  let n := hexNumber digits
  if n < 0xD800 ∨ (0xDFFF < n ∧ n < 0x110000) then some (Char.ofNat n) else none

/-- Read hexadecimal digits up to a closing brace, which is left; a character that is no
digit is an error. -/
def hexUntilBrace : Nat → PatternReader (List Char)
  | 0 => pure []
  | n + 1 => do
    stepOver
    match ← next with
    | none => return []
    | some '}' => return []
    | some c =>
      if (hexDigit? c).isSome then return c :: (← hexUntilBrace n)
      else failAt .hexInvalidDigit (← charSpan)

/-- Read a character code in braces. -/
def hexInBraces : PatternReader Atom := do
  let brace ← here
  let first := (← charSpan).last
  let digits ← hexUntilBrace (← lengthLeft)
  if (← next).isNone then failAt .escapeIncomplete (← spanFrom brace)
  else
    let last ← here
    stepOver
    if digits.isEmpty then failAt .hexEmpty (← spanFrom brace)
    else match charOfHex? digits with
      | some c => return .char c false
      | none => failAt .hexInvalid ⟨first, last⟩

/-- Read `n` hexadecimal digits, of which the first comes next. -/
def hexDigits : Nat → PatternReader (List Char)
  | 0 => pure []
  | n + 1 => do
    match ← next with
    | none => failAt .escapeIncomplete (← hereSpan)
    | some c =>
      if (hexDigit? c).isSome then
        stepOver
        return c :: (← hexDigits n)
      else failAt .hexInvalidDigit (← charSpan)

/-- Read a character code behind the letter `k`. -/
def hexEscape (k : Char) : PatternReader Atom := do
  stepOver
  match ← next with
  | none => failAt .escapeIncomplete (← hereSpan)
  | some '{' => hexInBraces
  | some _ =>
    let first ← here
    let digits ← hexDigits (if k = 'x' then 2 else if k = 'u' then 4 else 8)
    match charOfHex? digits with
    | some c => return .char c (k == 'x')
    | none => failAt .hexInvalid (← spanFrom first)

/-- A property name, or a name and a value with a sign between them. -/
def PropertyQuery.ofText (negated : Bool) (s : String) : PropertyQuery :=
  match s.splitOn "!=" with
  | name :: value :: more =>
    { name, value := some ("!=".intercalate (value :: more)), negated := !negated }
  | _ =>
    match s.splitOn ":" with
    | name :: value :: more => { name, value := some (":".intercalate (value :: more)), negated }
    | _ =>
      match s.splitOn "=" with
      | name :: value :: more => { name, value := some ("=".intercalate (value :: more)), negated }
      | _ => { name := s, negated }

/-- Read a character property behind the letter. -/
def propertyEscape (negated : Bool) : PatternReader Atom := do
  stepOver
  match ← next with
  | none => failAt .escapeIncomplete (← hereSpan)
  | some '{' =>
    let name ← untilBrace (← lengthLeft)
    if (← next).isNone then failAt .escapeIncomplete (← hereSpan)
    else
      step
      return .property (.ofText negated (String.ofList name))
  | some c =>
    if c = '\\' then failAt .propertyInvalid (← charSpan)
    else
      stepOver
      return .property { name := String.singleton c, negated }

/-- A character in the name of a word boundary. -/
def isBoundaryChar (c : Char) : Bool := c.isAlpha || c == '-'

/-- Read the characters of the name of a word boundary. -/
def boundaryName : Nat → PatternReader (List Char)
  | 0 => pure []
  | n + 1 => do
    match ← next with
    | none => return []
    | some c =>
      if isBoundaryChar c then
        stepOver
        return c :: (← boundaryName n)
      else return []

/-- Read what may follow a word boundary that starts at `first`: a name in braces makes it
a special one, anything else in braces is a count. -/
def specialBoundary (first : Point) : PatternReader Anchor := do
  match ← next with
  | some '{' =>
    let r ← get
    stepOver
    match ← next with
    | none => failAt .boundaryIncomplete (← spanFrom first)
    | some c =>
      if isBoundaryChar c then
        let contents ← here
        let name ← boundaryName (← lengthLeft)
        if (← next) = some '}' then
          let last ← here
          step
          match String.ofList name with
          | "start" => return .wordStart
          | "end" => return .wordEnd
          | "start-half" => return .wordStartHalf
          | "end-half" => return .wordEndHalf
          | _ => failAt .boundaryUnknown ⟨contents, last⟩
        else failAt .boundaryUnclosed (← spanFrom r.here)
      else
        goBack r.rest r.here
        return .boundary
  | _ => return .boundary

/-- The character that a letter stands for behind a backslash. -/
def letterChar? : Char → Option Char
  | 'a' => some (Char.ofNat 7)
  | 'f' => some (Char.ofNat 12)
  | 't' => some '\t'
  | 'n' => some '\n'
  | 'r' => some '\r'
  | 'v' => some (Char.ofNat 11)
  | _ => none

/-- Read an escape. -/
def escape : PatternReader Atom := do
  let first ← here
  step
  match ← next with
  | none => failAt .escapeIncomplete (← spanFrom first)
  | some c =>
    if c.isDigit then failAt .backreference ⟨first, (← charSpan).last⟩
    else match c with
      | 'x' => hexEscape c
      | 'u' => hexEscape c
      | 'U' => hexEscape c
      | 'p' => propertyEscape false
      | 'P' => propertyEscape true
      | 'd' => step; return .letter .digit false
      | 'D' => step; return .letter .digit true
      | 's' => step; return .letter .space false
      | 'S' => step; return .letter .space true
      | 'w' => step; return .letter .word false
      | 'W' => step; return .letter .word true
      | _ =>
        step
        if isEscapable c then return .char c false
        else match letterChar? c, c with
          | some d, _ => return .char d false
          | none, 'A' => return .anchor .textStart
          | none, 'z' => return .anchor .textEnd
          | none, 'b' => return .anchor (← specialBoundary first)
          | none, 'B' => return .anchor .notBoundary
          | none, '<' => return .anchor .wordStart
          | none, '>' => return .anchor .wordEnd
          | none, _ => failAt .escapeUnknown (← spanFrom first)

/-! ### Character classes -/

/-- Read an atom of a character class with its span. -/
def classAtom : PatternReader (Atom × Span) := do
  let first ← here
  match ← next with
  | some '\\' =>
    let a ← escape
    return (a, ← spanFrom first)
  | some c =>
    step
    return (.char c false, ← spanFrom first)
  | none => return (.dot, ← spanFrom first)

/-- An atom as a member of a character class. -/
def classMember (a : Atom) (span : Span) : PatternReader ClassItem :=
  match a with
  | .char c isByte => pure (.char ⟨c, isByte, span⟩)
  | .letter k negated => pure (.letter k negated span)
  | .property q => pure (.property q span)
  | _ => failAt .classEscapeInvalid span

/-- An atom as an end of a range. -/
def rangeEnd (a : Atom) (span : Span) : PatternReader Literal :=
  match a with
  | .char c isByte => pure ⟨c, isByte, span⟩
  | _ => failAt .classRangeNotLiteral span

/-- Read a member or a range of a class that was opened at `opened`. -/
def classRange (opened : Span) : PatternReader ClassItem := do
  let (a, aSpan) ← classAtom
  skipBlanks
  match ← next with
  | none => failAt .classUnclosed opened
  | some c =>
    let second ← nextButOneOverBlanks
    if c != '-' || second == some ']' || second == some '-' then classMember a aSpan
    else
      stepOver
      if (← next).isNone then failAt .classUnclosed opened
      else
        let (b, bSpan) ← classAtom
        let low ← rangeEnd a aSpan
        let high ← rangeEnd b bSpan
        if high.char < low.char then failAt .classRangeInvalid ⟨aSpan.first, bSpan.last⟩
        else return .range low high

/-- Read the name of an ASCII class in a class, brackets and colons included; if there is
none, nothing is read. -/
def namedClass : PatternReader (Option ClassItem) := fun r =>
  match r.rest with
  | '[' :: ':' :: inner =>
    let (negated, body) : Bool × List Char :=
      match inner with
      | '^' :: body => (true, body)
      | _ => (false, inner)
    let name := body.takeWhile (· != ':')
    match body.dropWhile (· != ':'), namedClass? (String.ofList name) with
    | ':' :: ']' :: rest, some ranges =>
      let read := r.rest.take (r.rest.length - rest.length)
      let last := read.foldl Point.after r.here
      .ok (some (.named ranges negated ⟨r.here, last⟩), { r with rest, here := last })
    | _, _ => .ok (none, r)
  | _ => .ok (none, r)

/-- Read the dashes at the start of a class, which stand for themselves. -/
def leadingDashes (first : Point) : Nat → PatternReader (List ClassItem)
  | 0 => pure []
  | n + 1 => do
    if (← next) = some '-' then
      let span ← charSpan
      stepOver
      if (← next).isNone then failAt .classUnclosed ⟨first, first⟩
      else return .char { char := '-', span } :: (← leadingDashes first n)
    else return []

/-- What was read at the start of a class. -/
structure ClassOpening where
  span : Span
  negated : Bool
  /-- Where the members start. -/
  start : Point
  members : List ClassItem

/-- Read the start of a class: the bracket, a caret, and the members that may only stand
first. -/
def classOpening : PatternReader ClassOpening := do
  let first ← here
  stepOver
  if (← next).isNone then failAt .classUnclosed (← spanFrom first)
  let negated := (← next) == some '^'
  if negated then
    stepOver
    if (← next).isNone then failAt .classUnclosed (← spanFrom first)
  let start ← here
  let dashes ← leadingDashes first (← lengthLeft)
  if dashes.isEmpty && (← next) == some ']' then
    let span ← charSpan
    stepOver
    if (← next).isNone then failAt .classUnclosed (← spanFrom first)
    return ⟨← spanFrom first, negated, start, [.char { char := ']', span }]⟩
  else return ⟨← spanFrom first, negated, start, dashes⟩

/-- The members read last, from `start` on and newest first, combined with what stands before
an operator. -/
def closeOperand (before : Option (ClassOp × ClassBody)) (start : Point)
    (members : List ClassItem) : ClassBody :=
  match before with
  | none => .items start members.reverse
  | some (op, left) => .combine op left (.items start members.reverse)

/-- The operator that comes next in a class. -/
def classOperator? : PatternReader (Option ClassOp) := do
  if ← eatText "&&" then return some .intersection
  else if ← eatText "--" then return some .difference
  else if ← eatText "~~" then return some .symmetricDifference
  else return none

/-- Read the rest of a class that was opened at `opened`, up to its closing bracket. -/
def classFrom : Nat → (opened : Span) → Option (ClassOp × ClassBody) → (start : Point) →
    List ClassItem → PatternReader ClassBody
  | 0, opened, _, _, _ => failAt .classUnclosed opened
  | n + 1, opened, before, start, members => do
    skipBlanks
    match ← next with
    | none => failAt .classUnclosed opened
    | some '[' =>
      match ← namedClass with
      | some item => classFrom n opened before start (item :: members)
      | none =>
        let opening ← classOpening
        let body ← classFrom n opening.span none opening.start opening.members.reverse
        let span ← spanFrom opening.span.first
        classFrom n opened before start (.bracketed opening.negated body span :: members)
    | some ']' =>
      step
      return closeOperand before start members
    | some _ =>
      match ← classOperator? with
      | some op => classFrom n opened (some (op, closeOperand before start members)) (← here) []
      | none =>
        let item ← classRange opened
        classFrom n opened before start (item :: members)

/-- Read a character class. -/
def characterClass : PatternReader Tree := do
  let n ← lengthLeft
  let opening ← classOpening
  let body ← classFrom (n + 1) opening.span none opening.start opening.members.reverse
  return .bracketed opening.negated body (← spanFrom opening.span.first)

/-! ### Repetitions -/

/-- Read decimal digits and the blanks between them. -/
def decimalDigits : Nat → PatternReader (List Char)
  | 0 => pure []
  | n + 1 => do
    match ← next with
    | none => return []
    | some c =>
      if c.isDigit then
        stepOver
        return c :: (← decimalDigits n)
      else return []

/-- Pass over blanks. -/
def skipBlankChars : Nat → PatternReader Unit
  | 0 => pure ()
  | n + 1 => do
    if (← next).any isBlank then
      step
      skipBlankChars n

/-- Read a count; what is wrong with it is returned, since it may be reported later. -/
def count : PatternReader (Except PatternError Nat) := do
  skipBlankChars (← lengthLeft)
  let first ← here
  let digits ← decimalDigits (← lengthLeft)
  let span ← spanFrom first
  skipBlankChars (← lengthLeft)
  let n := Number.decimalValue digits
  if digits.isEmpty then return .error ⟨.countNotDecimal, span⟩
  else if n < 0x100000000 then return .ok n
  else return .error ⟨.decimalInvalid, span⟩

/-- Take a count that was read. -/
def takeCount (c : Except PatternError Nat) : PatternReader Nat := fun r =>
  match c with
  | .ok n => .ok (n, r)
  | .error e => .error e

/-- Read a lazy mark behind a repetition operator. -/
def isGreedy : PatternReader Bool := do
  if (← next) = some '?' then
    step
    return false
  else return true

/-- The bounds of a counted repetition, behind the opening brace at `first`. -/
def countBounds (first : Point) : PatternReader (Nat × Option Nat) := do
  stepOver
  if (← next).isNone then failAt .countUnclosed (← spanFrom first)
  let least ← count
  match ← next with
  | none => failAt .countUnclosed (← spanFrom first)
  | some ',' =>
    stepOver
    match ← next with
    | none => failAt .countUnclosed (← spanFrom first)
    | some '}' => return (← takeCount least, none)
    | some _ =>
      let low ← takeCount least
      let high ← takeCount (← count)
      return (low, some high)
  | some _ =>
    let n ← takeCount least
    return (n, some n)

/-- Read a counted repetition of `sub`. -/
def countedRepetition (sub : Tree) : PatternReader Tree := do
  let first ← here
  let (least, most) ← countBounds first
  if (← next) != some '}' then failAt .countUnclosed (← spanFrom first)
  stepOver
  let greedy ← isGreedy
  if most.any (· < least) then failAt .countInvalid (← spanFrom first)
  else return .repetition least most greedy sub ⟨sub.span.first, ← here⟩

/-- Take the last part of a sequence, newest first, to repeat it. -/
def repeatable : List Tree → PatternReader (Tree × List Tree)
  | [] => do failAt .repetitionMissing (← hereSpan)
  | .flags _ _ :: _ => do failAt .repetitionMissing (← hereSpan)
  | t :: rest => pure (t, rest)

/-! ### Groups -/

/-- The alternatives of a group, or of the whole pattern, as far as they are read. -/
structure Branches where
  /-- Where the first alternative starts. -/
  first : Point
  /-- Where the current alternative starts. -/
  start : Point
  /-- The alternatives that are complete, newest first. -/
  complete : List Tree := []
  /-- The current alternative, newest part first. -/
  items : List Tree := []

/-- No alternatives yet. -/
def Branches.startingAt (p : Point) : Branches := { first := p, start := p }

/-- Add a part to the current alternative. -/
def Branches.push (b : Branches) (t : Tree) : Branches := { b with items := t :: b.items }

/-- The current alternative, which ends at `last`, as one tree. -/
def Branches.current (b : Branches) (last : Point) : Tree :=
  match b.items with
  | [] => .empty ⟨b.start, last⟩
  | [t] => t
  | items => .concat items.reverse ⟨b.start, last⟩

/-- The alternatives, which end at `last`, as one tree. -/
def Branches.tree (b : Branches) (last : Point) : Tree :=
  match b.complete with
  | [] => b.current last
  | complete => .alternation (b.current last :: complete).reverse ⟨b.first, last⟩

/-- A group that is open, and the alternatives of what encloses it. -/
structure Frame where
  span : Span
  /-- The number of a capturing group, or the flags of another one. -/
  kind : Nat ⊕ FlagChange
  outer : Branches
  ignoreBlanks : Bool

/-- The flag with the given letter. -/
def flag? : Char → Option Flag
  | 'i' => some .ignoreCase
  | 'm' => some .multiLine
  | 's' => some .dotAll
  | 'U' => some .swapGreed
  | 'u' => some .unicode
  | 'R' => some .carriageReturn
  | 'x' => some .ignoreBlanks
  | _ => none

/-- A flag or a negation with its span. -/
abbrev FlagItem := Option Flag × Span

/-- Read flags up to a colon or a closing parenthesis, which is left. -/
def flagItems (seen : List FlagItem) : Nat → PatternReader (List FlagItem)
  | 0 => pure seen
  | n + 1 => do
    match ← next with
    | none => return seen
    | some ':' => return seen
    | some ')' => return seen
    | some c =>
      let span ← charSpan
      let item : Option Flag ← if c = '-' then pure none else
        match flag? c with
        | some f => pure (some f)
        | none => failAt .flagUnknown span
      match seen.find? fun e => e.1 == item with
      | some (some _, earlier) => failAt (.flagRepeated earlier) span
      | some (none, earlier) => failAt (.negationRepeated earlier) span
      | none =>
        step
        if (← next).isNone then failAt .flagMissing (← hereSpan)
        else flagItems (seen ++ [(item, span)]) n

/-- The change that a list of flags makes. -/
def FlagChange.ofItems (items : List FlagItem) : FlagChange :=
  { set := (items.takeWhile fun e => e.1.isSome).filterMap Prod.fst
    cleared := (items.dropWhile fun e => e.1.isSome).filterMap Prod.fst }

/-- A character in the name of a group. -/
def isGroupNameChar (first : Bool) (c : Char) : Bool :=
  if first then c == '_' || isLetter c
  else c == '_' || c == '.' || c == '[' || c == ']' || isLetter c || isNumeral c

/-- Read the characters of the name of a group. -/
def groupNameChars (first : Bool) : Nat → PatternReader (List Char)
  | 0 => pure []
  | n + 1 => do
    match ← next with
    | none => return []
    | some '>' => return []
    | some c =>
      if isGroupNameChar first c then
        step
        return c :: (← groupNameChars false n)
      else failAt .groupNameInvalid (← charSpan)

/-- Read the name of the capturing group `index`, behind the opening angle bracket. -/
def groupName (index : Nat) : PatternReader Unit := do
  if (← next).isNone then failAt .groupNameUnclosed (← hereSpan)
  let first ← here
  let name ← groupNameChars true (← lengthLeft)
  let span ← spanFrom first
  if (← next).isNone then failAt .groupNameUnclosed (← hereSpan)
  step
  if name.isEmpty then failAt .groupNameEmpty ⟨first, first⟩
  let name := String.ofList name
  match (← get).names.find? fun e => e.1 == name with
  | some (_, _, earlier) => failAt (.groupNameRepeated earlier) span
  | none => modify fun r => { r with names := (name, index, span) :: r.names }

/-- The number of the next capturing group. -/
def newGroup : PatternReader Nat := fun r =>
  .ok (r.groups + 1, { r with groups := r.groups + 1 })

/-- Read the start of a group: a change of flags that is no group, or the kind of a
group. -/
def groupStart : PatternReader ((FlagChange × Span) ⊕ (Span × (Nat ⊕ FlagChange))) := do
  let opened ← charSpan
  step
  skipBlanks
  if (← eatText "?=") || (← eatText "?!") || (← eatText "?<=") || (← eatText "?<!") then
    failAt .lookAround (← spanFrom opened.first)
  else
    let inner ← hereSpan
    if (← eatText "?P<") || (← eatText "?<") then
      let index ← newGroup
      groupName index
      return .inr (opened, .inl index)
    else if ← eatText "?" then
      if (← next).isNone then failAt .groupUnclosed opened
      let items ← flagItems [] (← lengthLeft)
      match items.getLast? with
      | some (none, span) => failAt .flagDangling span
      | _ =>
        let closing ← next
        step
        if closing = some ')' then
          if items.isEmpty then failAt .repetitionMissing inner
          else return .inl (.ofItems items, ← spanFrom opened.first)
        else return .inr (opened, .inr (.ofItems items))
    else return .inr (opened, .inl (← newGroup))

/-- A group that is closed at `last`. -/
def Frame.close (f : Frame) (sub : Tree) (last : Point) : Tree :=
  match f.kind with
  | .inl index => .capture index sub ⟨f.span.first, last⟩
  | .inr change => .group change sub ⟨f.span.first, last⟩

/-- Set whether blanks are ignored. -/
def setIgnoreBlanks (b : Bool) : PatternReader Unit := fun r =>
  .ok ((), { r with ignoreBlanks := b })

/-- Read an atom of a pattern. -/
def atomTree : PatternReader Tree := do
  let first ← here
  match ← next with
  | none => return .empty (← hereSpan)
  | some '\\' =>
    let a ← escape
    let span ← spanFrom first
    match a with
    | .char c isByte => return .char ⟨c, isByte, span⟩
    | .anchor a => return .anchor a span
    | .letter k negated => return .letter k negated span
    | .property q => return .property q span
    | .dot => return .dot span
  | some '.' => step; return .dot (← spanFrom first)
  | some '^' => step; return .anchor .caret (← spanFrom first)
  | some '$' => step; return .anchor .dollar (← spanFrom first)
  | some c => step; return .char { char := c, span := ← spanFrom first }

/-- Read the rest of a pattern; `frames` are the open groups, innermost first, and `b` the
alternatives of the innermost one. -/
def patternFrom : Nat → (frames : List Frame) → (b : Branches) → PatternReader Tree
  | 0, frames, b => do
    match frames with
    | [] => return b.tree (← here)
    | f :: _ => failAt .groupUnclosed f.span
  | n + 1, frames, b => do
    skipBlanks
    match ← next with
    | none =>
      match frames with
      | [] => return b.tree (← here)
      | f :: _ => failAt .groupUnclosed f.span
    | some '(' =>
      match ← groupStart with
      | .inl (change, span) =>
        match change.value? .ignoreBlanks with
        | some ignored => setIgnoreBlanks ignored
        | none => pure ()
        patternFrom n frames (b.push (.flags change span))
      | .inr (span, kind) =>
        let old := (← get).ignoreBlanks
        let ignoreBlanks := match kind with
          | .inl _ => old
          | .inr change => (change.value? .ignoreBlanks).getD old
        setIgnoreBlanks ignoreBlanks
        patternFrom n ({ span, kind, outer := b, ignoreBlanks := old } :: frames)
          (.startingAt (← here))
    | some ')' =>
      match frames with
      | [] => failAt .groupUnopened (← charSpan)
      | f :: frames =>
        setIgnoreBlanks f.ignoreBlanks
        let sub := b.tree (← here)
        step
        patternFrom n frames (f.outer.push (f.close sub (← here)))
    | some '|' =>
      let complete := b.current (← here) :: b.complete
      step
      patternFrom n frames { b with start := ← here, complete, items := [] }
    | some '[' =>
      let t ← characterClass
      patternFrom n frames (b.push t)
    | some '?' => uncounted n frames b 0 (some 1)
    | some '*' => uncounted n frames b 0 none
    | some '+' => uncounted n frames b 1 none
    | some '{' =>
      let (sub, before) ← repeatable b.items
      let t ← countedRepetition sub
      patternFrom n frames { b with items := t :: before }
    | some _ =>
      let t ← atomTree
      patternFrom n frames (b.push t)
where
  /-- Read a repetition operator of one character, then the rest of the pattern. -/
  uncounted (n : Nat) (frames : List Frame) (b : Branches) (least : Nat) (most : Option Nat) :
      PatternReader Tree := do
    let (sub, before) ← repeatable b.items
    step
    let greedy ← isGreedy
    let t := .repetition least most greedy sub ⟨sub.span.first, ← here⟩
    patternFrom n frames { b with items := t :: before }

/-- A pattern that was read: its tree, the number of capturing groups, and their names. -/
structure Parsed where
  tree : Tree
  groups : Nat
  names : List (String × Nat)

/-- Read a pattern. -/
def readPattern (cs : List Char) : Except PatternError Parsed := do
  let (tree, r) ← patternFrom (cs.length + 1) [] (.startingAt {}) { rest := cs }
  return { tree, groups := r.groups, names := r.names.map fun e => (e.1, e.2.1) }

end HostScript.Pattern
