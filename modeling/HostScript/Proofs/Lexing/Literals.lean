import HostScript.Source.Lexeme

/-!
# String literals, piece by piece

Between its quotes a string literal is a row of pieces: characters that stand for themselves,
characters behind a backslash, and references to variables, with or without braces. The reader
accepts exactly the texts that are such rows up to a closing quote, and what it makes of one is told
by the pieces alone, whatever stands behind the quote.

## Implementation notes

A dollar sign refers to a variable wherever it can, and a name without braces is as long as it can
be, so a text is a row of pieces in one way only. The reader gathers its text and its parts back to
front. `gathered` puts them in front of the parts that are still to come, and one step of the reader
moves a piece from the one side to the other.
-/

namespace HostScript.Source

open HostScript.Text

/-! ### Names and quotes -/

/-- A name: a character that may start one, then characters that may continue it. -/
def isName (word : List Char) : Bool := word.head?.any isNameStart && word.all isNameChar

/-- What a string literal begins and ends with. -/
inductive Quote : Char → Prop
  | double : Quote '"'
  | single : Quote '\''

section Characters

variable {c quote : Char} {word rest : List Char}

theorem isNameChar_of_isNameStart (h : isNameStart c = true) : isNameChar c = true := by
  unfold isNameStart at h
  unfold isNameChar
  grind

/-- The test of the scanner for quotes. -/
theorem Quote.of_beq (h : (quote == '"' || quote == '\'') = true) : Quote quote := by
  simp only [Bool.or_eq_true, beq_iff_eq] at h
  obtain rfl | rfl := h
  · exact .double
  · exact .single

theorem Quote.isNameChar_eq_false (h : Quote quote) : isNameChar quote = false := by
  cases h <;> decide

theorem Quote.ne_backslash (h : Quote quote) : quote ≠ '\\' := by
  cases h <;> decide

theorem Quote.ne_dollar (h : Quote quote) : quote ≠ '$' := by
  cases h <;> decide

theorem Quote.ne_closeBrace (h : Quote quote) : quote ≠ '}' := by
  cases h <;> decide

theorem exists_of_isName (h : isName word = true) :
    (∀ c ∈ word, isNameChar c = true) ∧ ∃ c more, word = c :: more ∧ isNameStart c = true := by
  unfold isName at h
  cases word with
  | nil => simp at h
  | cons c more =>
      rw [Bool.and_eq_true_iff, List.all_eq_true] at h
      exact ⟨h.2, c, more, rfl, h.1⟩

/-- The longest name at the front of a text that begins like a name. -/
theorem isName_takeWhile (h : isNameStart c = true) :
    isName ((c :: rest).takeWhile isNameChar) = true := by
  rw [isName, List.takeWhile_cons_of_pos (isNameChar_of_isNameStart h)]
  simp [h, isNameChar_of_isNameStart h]

theorem head?_dropWhile_any (p : Char → Bool) (cs : List Char) :
    (cs.dropWhile p).head?.any p = false := by
  cases left : cs.dropWhile p with
  | nil => rfl
  | cons c more =>
      have := List.head?_dropWhile_not p cs
      rw [left] at this
      simpa using this

/-- A run of characters of a class ends where a character of another class stands. -/
theorem takeWhile_append_of_ends {p : Char → Bool} (all : ∀ c ∈ word, p c = true)
    (ends : rest.head?.any p = false) : (word ++ rest).takeWhile p = word := by
  rw [List.takeWhile_append_of_pos all]
  cases rest with
  | nil => simp
  | cons c more =>
      rw [List.takeWhile_cons_of_neg (by simpa using ends), List.append_nil]

theorem dropWhile_append_of_ends {p : Char → Bool} (all : ∀ c ∈ word, p c = true)
    (ends : rest.head?.any p = false) : (word ++ rest).dropWhile p = rest := by
  rw [List.dropWhile_append_of_pos all]
  cases rest with
  | nil => rfl
  | cons c more => exact List.dropWhile_cons_of_neg (by simpa using ends)

end Characters

/-! ### References -/

section References

variable {word rest left cs : List Char}

theorem splitReference_bare (name : isName word = true) (ends : rest.head?.any isNameChar = false) :
    splitReference (word ++ rest) = some (word, rest) := by
  obtain ⟨all, c, more, rfl, starts⟩ := exists_of_isName name
  rw [List.cons_append, splitReference, if_pos starts, ← List.cons_append,
    takeWhile_append_of_ends all ends, dropWhile_append_of_ends all ends]

theorem splitReference_braced (name : isName word = true) :
    splitReference ('{' :: word ++ '}' :: rest) = some (word, rest) := by
  obtain ⟨all, c, more, rfl, starts⟩ := exists_of_isName name
  have ends : ('}' :: rest).head?.any isNameChar = false := by
    change isNameChar '}' = false
    decide
  have open_ : isNameStart '{' = false := by decide
  have start : ((c :: more) ++ '}' :: rest).head?.any isNameStart = true := starts
  rw [List.cons_append, splitReference, takeWhile_append_of_ends all ends,
    dropWhile_append_of_ends all ends, start, open_]
  rfl

/-- A reference is a name that is as long as it can be, or a name in braces. -/
theorem splitReference_cases (h : splitReference cs = some (word, left)) : isName word = true ∧
    ((cs = word ++ left ∧ left.head?.any isNameChar = false) ∨
      cs = '{' :: word ++ '}' :: left) := by
  cases cs with
  | nil => cases h
  | cons c rest =>
      rw [splitReference] at h
      split at h
      · next starts =>
        cases h
        refine ⟨isName_takeWhile starts, .inl ⟨List.takeWhile_append_dropWhile.symm, ?_⟩⟩
        exact head?_dropWhile_any isNameChar (c :: rest)
      · split at h
        · next braces =>
          cases h
          simp only [Bool.and_eq_true, beq_iff_eq] at braces
          obtain ⟨⟨rfl, starts⟩, closes⟩ := braces
          obtain ⟨left, closed⟩ := List.head?_eq_some_iff.mp closes
          cases rest with
          | nil => cases starts
          | cons d more =>
              refine ⟨isName_takeWhile starts, .inr ?_⟩
              have split := List.takeWhile_append_dropWhile (p := isNameChar) (l := d :: more)
              rw [closed] at split ⊢
              rw [List.drop_one, List.tail_cons, List.cons_append, split]
        · cases h

/-- A reference begins right behind a dollar sign. -/
def Refers (rest : List Char) : Prop :=
  ∃ word more, isName word = true ∧ (rest = word ++ more ∨ rest = '{' :: word ++ '}' :: more)

/-- A name holds no quote, so it does not reach behind one. -/
theorem exists_of_append_eq {quote : Char} {more : List Char} (isQuote : Quote quote)
    (name : ∀ c ∈ word, isNameChar c = true) (h : rest ++ quote :: left = word ++ more) :
    ∃ behind, rest = word ++ behind ∧ more = behind ++ quote :: left := by
  obtain ⟨behind, rfl, split⟩ | ⟨behind, rfl, split⟩ := List.append_eq_append_iff.mp h
  · cases behind with
    | nil => exact ⟨[], by simp, split.symm⟩
    | cons c behind =>
        cases split
        have := name quote (by simp)
        rw [isQuote.isNameChar_eq_false] at this
        cases this
  · exact ⟨behind, rfl, split⟩

/-- A dollar sign refers to a variable if a reference begins behind it, before the literal ends. -/
theorem splitReference_eq_none_iff {quote : Char} (isQuote : Quote quote) :
    splitReference (rest ++ quote :: left) = none ↔ ¬ Refers rest := by
  constructor
  · rintro none ⟨word, more, name, rfl | rfl⟩
    · obtain ⟨-, c, word, rfl, starts⟩ := exists_of_isName name
      rw [List.cons_append, List.cons_append, splitReference, if_pos starts] at none
      cases none
    · rw [List.append_assoc, List.cons_append, List.cons_append, ← List.cons_append,
        splitReference_braced name] at none
      cases none
  · intro no
    rw [Option.eq_none_iff_forall_ne_some]
    rintro ⟨word, behind⟩ found
    obtain ⟨name, ⟨split, -⟩ | split⟩ := splitReference_cases found
    · obtain ⟨more, rfl, -⟩ := exists_of_append_eq isQuote (exists_of_isName name).1 split
      exact no ⟨word, more, name, .inl rfl⟩
    · cases rest with
      | nil =>
          obtain ⟨rfl, -⟩ := List.cons.inj split
          cases isQuote
      | cons c rest =>
          obtain ⟨rfl, inside⟩ := List.cons.inj split
          obtain ⟨more, rfl, closed⟩ := exists_of_append_eq isQuote (exists_of_isName name).1 inside
          cases more with
          | nil => exact isQuote.ne_closeBrace (List.cons.inj closed).1.symm
          | cons d more =>
              obtain ⟨rfl, -⟩ := List.cons.inj closed
              exact no ⟨word, more, name, .inr rfl⟩

end References

/-! ### Pieces -/

/-- A piece of a string literal. -/
inductive Piece where
  | char (c : Char)
  /-- A character behind a backslash. -/
  | escape (c : Char)
  | reference (braces : Bool) (word : List Char)
  deriving DecidableEq

/-- The piece as it is written. -/
def Piece.written : Piece → List Char
  | .char c => [c]
  | .escape c => ['\\', c]
  | .reference false word => '$' :: word
  | .reference true word => '$' :: '{' :: word ++ ['}']

/-- The text between the quotes is a row of pieces. -/
inductive Spells (quote : Char) : List Piece → List Char → Prop
  | nil : Spells quote [] []
  | char {c : Char} {pieces : List Piece} {rest : List Char}
      (ordinary : c ≠ '\\' ∧ c ≠ quote ∧ c ≠ '$') (others : Spells quote pieces rest) :
      Spells quote (.char c :: pieces) (c :: rest)
  | dollar {pieces : List Piece} {rest : List Char} (alone : ¬ Refers rest)
      (others : Spells quote pieces rest) : Spells quote (.char '$' :: pieces) ('$' :: rest)
  | escape (c : Char) {pieces : List Piece} {rest : List Char} (others : Spells quote pieces rest) :
      Spells quote (.escape c :: pieces) ('\\' :: c :: rest)
  | bare {word rest : List Char} {pieces : List Piece} (name : isName word = true)
      (longest : rest.head?.any isNameChar = false) (others : Spells quote pieces rest) :
      Spells quote (.reference false word :: pieces) ('$' :: (word ++ rest))
  | braced {word rest : List Char} {pieces : List Piece} (name : isName word = true)
      (others : Spells quote pieces rest) :
      Spells quote (.reference true word :: pieces) ('$' :: '{' :: word ++ '}' :: rest)

/-- Put a character in front of the parts of a literal. -/
def consChar (c : Char) : List TemplatePart → List TemplatePart
  | .text s :: rest => .text (String.ofList (c :: s.toList)) :: rest
  | parts => .text (String.ofList [c]) :: parts

/-- Put what a piece stands for in front of the parts of a literal. -/
def Piece.consPart : Piece → List TemplatePart → List TemplatePart
  | .char c => consChar c
  | .escape c => consChar (unescape c)
  | .reference _ word => (.var (String.ofList word) :: ·)

/-- The parts of a literal, from its pieces. -/
def partsOf (pieces : List Piece) : List TemplatePart := pieces.foldr Piece.consPart []

/-- The kind of a literal with the given parts: without references it is a text. -/
def kindOf : List TemplatePart → TokenKind
  | [] => .text ""
  | [.text s] => .text s
  | parts => .template parts

/-! ### Reading -/

/-- What the reader has gathered, in front of the parts that are still to come. -/
def gathered (text : List Char) (parts others : List TemplatePart) : List TemplatePart :=
  parts.reverse ++ text.reverse.foldr consChar others

section Gathering

variable {text : List Char} {parts others : List TemplatePart} {c : Char} {name : String}

theorem gathered_char :
    gathered (c :: text) parts others = gathered text parts (consChar c others) := by
  simp [gathered]

theorem foldr_consChar_var (text : List Char) (name : String) (others : List TemplatePart) :
    text.foldr consChar (.var name :: others) =
      if text.isEmpty then .var name :: others
      else .text (String.ofList text) :: .var name :: others := by
  induction text with
  | nil => rfl
  | cons c text ih =>
      rw [List.foldr_cons, ih]
      cases text with
      | nil => rfl
      | cons d text => simp [consChar]

theorem foldr_consChar_nil (text : List Char) : text.foldr consChar [] =
    if text.isEmpty then [] else [.text (String.ofList text)] := by
  induction text with
  | nil => rfl
  | cons c text ih =>
      rw [List.foldr_cons, ih]
      cases text with
      | nil => rfl
      | cons d text => simp [consChar]

/-- A reference closes the text before it. -/
theorem gathered_var : gathered [] (.var name :: flushText text parts) others =
    gathered text parts (.var name :: others) := by
  rw [gathered, gathered, foldr_consChar_var, flushText, List.isEmpty_reverse]
  split
  · simp
  · simp

/-- The reader has closed a part only in front of a reference. -/
def Closed (parts : List TemplatePart) : Prop := parts = [] ∨ ∃ name, .var name ∈ parts

theorem closed_var : Closed (.var name :: parts) := .inr ⟨name, List.mem_cons_self⟩

theorem kindOf_of_var (mem : .var name ∈ parts) : kindOf parts = .template parts := by
  unfold kindOf
  split
  · cases mem
  · simp at mem
  · rfl

theorem literalKind_eq (closed : Closed parts) :
    literalKind text parts = kindOf (gathered text parts []) := by
  rw [gathered, foldr_consChar_nil, List.isEmpty_reverse]
  obtain rfl | ⟨name, mem⟩ := closed
  · cases text with
    | nil => rfl
    | cons c text => simp [literalKind, kindOf]
  · have made : (flushText text parts).reverse = parts.reverse ++
        if text.isEmpty then [] else [.text (String.ofList text.reverse)] := by
      rw [flushText]
      split
      · simp
      · simp
    have kept : .var name ∈ (flushText text parts).reverse := by simp [made, mem]
    rw [← made, kindOf_of_var kept]
    cases parts with
    | nil => cases mem
    | cons part others => rfl

end Gathering

section Reading

variable {quote : Char} {text cs left body : List Char} {parts : List TemplatePart}
  {kind : TokenKind} {pieces : List Piece}

/-- What the reader accepts is a row of pieces up to a quote. -/
theorem spells_of_readLiteral (isQuote : Quote quote) (closed : Closed parts)
    (h : readLiteral quote text parts cs = .ok (kind, left)) :
    ∃ pieces body, cs = body ++ quote :: left ∧ Spells quote pieces body ∧
      kind = kindOf (gathered text parts (partsOf pieces)) := by
  fun_induction readLiteral quote text parts cs with
  | case1 => cases h
  | case2 => cases h
  | case3 text parts c isEscape d tail ih =>
      obtain ⟨pieces, body, rfl, spells, rfl⟩ := ih closed h
      cases eq_of_beq isEscape
      refine ⟨.escape d :: pieces, '\\' :: d :: body, rfl, .escape d spells, ?_⟩
      rw [gathered_char]
      rfl
  | case4 text parts c tail notEscape ends =>
      cases h
      cases eq_of_beq ends
      exact ⟨[], [], rfl, .nil, literalKind_eq closed⟩
  | case5 text parts c tail notEscape notQuote isDollar name rest found shorter ih =>
      cases eq_of_beq isDollar
      obtain ⟨pieces, body, rfl, spells, rfl⟩ := ih closed_var h
      have made : gathered [] (.var (String.ofList name) :: flushText text parts) (partsOf pieces) =
          gathered text parts (.var (String.ofList name) :: partsOf pieces) := gathered_var
      obtain ⟨isName, ⟨rfl, longest⟩ | rfl⟩ := splitReference_cases found
      · refine ⟨.reference false name :: pieces, '$' :: (name ++ body), by simp,
          .bare isName ?_ spells, congrArg kindOf made⟩
        cases body with
        | nil => rfl
        | cons d body => exact longest
      · exact ⟨.reference true name :: pieces, '$' :: '{' :: name ++ '}' :: body, by simp,
          .braced isName spells, congrArg kindOf made⟩
  | case6 text parts c tail notEscape notQuote isDollar found ih =>
      cases eq_of_beq isDollar
      obtain ⟨pieces, body, rfl, spells, rfl⟩ := ih closed h
      have alone : ¬ Refers body := (splitReference_eq_none_iff isQuote).mp found
      refine ⟨.char '$' :: pieces, '$' :: body, rfl, .dollar alone spells, ?_⟩
      rw [gathered_char]
      rfl
  | case7 text parts c tail notEscape notQuote notDollar ih =>
      obtain ⟨pieces, body, rfl, spells, rfl⟩ := ih closed h
      have ordinary : c ≠ '\\' ∧ c ≠ quote ∧ c ≠ '$' := by
        simpa using And.intro notEscape (And.intro notQuote notDollar)
      refine ⟨.char c :: pieces, c :: body, rfl, .char ordinary spells, ?_⟩
      rw [gathered_char]
      rfl

theorem readLiteral_quote (isQuote : Quote quote) :
    readLiteral quote text parts (quote :: left) = .ok (literalKind text parts, left) := by
  rw [readLiteral.eq_def]
  simp [isQuote.ne_backslash]

theorem readLiteral_char {c : Char} (ordinary : c ≠ '\\' ∧ c ≠ quote ∧ c ≠ '$') :
    readLiteral quote text parts (c :: cs) = readLiteral quote (c :: text) parts cs := by
  rw [readLiteral.eq_def]
  simp [ordinary]

theorem readLiteral_escape (c : Char) : readLiteral quote text parts ('\\' :: c :: cs) =
    readLiteral quote (unescape c :: text) parts cs := by
  rw [readLiteral.eq_def]
  rfl

theorem readLiteral_dollar (isQuote : Quote quote) (alone : splitReference cs = none) :
    readLiteral quote text parts ('$' :: cs) = readLiteral quote ('$' :: text) parts cs := by
  rw [readLiteral.eq_def]
  simp only [Char.reduceBEq, Bool.false_eq_true, ↓reduceIte, beq_iff_eq, isQuote.ne_dollar.symm]
  split
  · next found => cases alone.symm.trans found
  · rfl

theorem readLiteral_reference {word : List Char} (isQuote : Quote quote)
    (refers : splitReference cs = some (word, left)) :
    readLiteral quote text parts ('$' :: cs) =
      readLiteral quote [] (.var (String.ofList word) :: flushText text parts) left := by
  rw [readLiteral.eq_def]
  simp only [Char.reduceBEq, Bool.false_eq_true, ↓reduceIte, beq_iff_eq, isQuote.ne_dollar.symm]
  split
  · next found =>
    cases refers.symm.trans found
    rfl
  · next found => cases refers.symm.trans found

/-- A row of pieces is read up to the quote behind it. -/
theorem readLiteral_of_spells (isQuote : Quote quote) (closed : Closed parts)
    (spells : Spells quote pieces body) (left : List Char) :
    readLiteral quote text parts (body ++ quote :: left) =
      .ok (kindOf (gathered text parts (partsOf pieces)), left) := by
  induction spells generalizing text parts with
  | nil =>
      rw [List.nil_append, readLiteral_quote isQuote, literalKind_eq closed]
      rfl
  | char ordinary others ih =>
      rw [List.cons_append, readLiteral_char ordinary, ih closed, gathered_char]
      rfl
  | dollar alone others ih =>
      rw [List.cons_append,
        readLiteral_dollar isQuote ((splitReference_eq_none_iff isQuote).mpr alone), ih closed,
        gathered_char]
      rfl
  | escape c others ih =>
      rw [List.cons_append, List.cons_append, readLiteral_escape, ih closed, gathered_char]
      rfl
  | @bare word rest pieces name longest others ih =>
      have ends : (rest ++ quote :: left).head?.any isNameChar = false := by
        cases rest with
        | nil => exact isQuote.isNameChar_eq_false
        | cons d rest => exact longest
      rw [List.cons_append, List.append_assoc,
        readLiteral_reference isQuote (splitReference_bare name ends), ih closed_var, gathered_var]
      rfl
  | @braced word rest pieces name others ih =>
      have split : '$' :: '{' :: word ++ '}' :: rest ++ quote :: left =
          '$' :: ('{' :: word ++ '}' :: (rest ++ quote :: left)) := by simp
      rw [split, readLiteral_reference isQuote (splitReference_braced name), ih closed_var,
        gathered_var]
      rfl

/-- A string literal is a row of pieces and a quote, and its pieces tell its kind. -/
theorem readLiteral_eq_ok_iff (isQuote : Quote quote) :
    readLiteral quote [] [] cs = .ok (kind, left) ↔
      ∃ pieces body, cs = body ++ quote :: left ∧ Spells quote pieces body ∧
        kind = kindOf (partsOf pieces) := by
  constructor
  · exact spells_of_readLiteral isQuote (.inl rfl)
  · rintro ⟨pieces, body, rfl, spells, rfl⟩
    exact readLiteral_of_spells isQuote (.inl rfl) spells left

end Reading

end HostScript.Source
