import HostScript.Document.Reading
import HostScript.Proofs.Documents.Grammar

/-!
# Reading what was written

A document whose numbers are integers is read back from the text it is written as, up to the bits
of its numbers: from the digits of an integer the number nearest to it is read. Documents in which
lists and records nest too deep are the only ones that are rejected, and for no other reason.

## Implementation notes

`Ends` says what a reader does with a text without its lines and columns, so that the rules for a
sequence of readers carry no positions. A result is stated as a conditional on the depth: the same
induction on the document then shows that a shallow one is read and that a deep one is rejected.
The text that follows a number must not go on with a digit, a point or an exponent (`Closed`); this
holds wherever a document ends.
-/

namespace HostScript

theorem Number.shortWhole?_eq_some_iff {x : Float} {n : Int} :
    shortWhole? x = some n ↔ whole? x = some n ∧ n.natAbs < 1000000000000000 := by
  unfold shortWhole?
  cases whole? x with
  | none => simp
  | some m =>
      simp only [Option.some.injEq, Option.ite_none_right_eq_some]
      constructor
      · rintro ⟨small, rfl⟩
        exact ⟨rfl, small⟩
      · rintro ⟨rfl, small⟩
        exact ⟨small, rfl⟩

namespace Document

mutual

/-- How deep lists and records nest. -/
def depth : Document → Nat
  | .list items => depthAll items + 1
  | .record entries => depthEntries entries + 1
  | _ => 0

def depthAll : List Document → Nat
  | [] => 0
  | d :: rest => max d.depth (depthAll rest)

def depthEntries : List (String × Document) → Nat
  | [] => 0
  | (_, d) :: rest => max d.depth (depthEntries rest)

end

mutual

/-- Every number is an integer that is written with its digits alone. -/
def Whole : Document → Prop
  | .number x => ∃ n, Number.shortWhole? x = some n
  | .list items => WholeAll items
  | .record entries => WholeEntries entries
  | _ => True

def WholeAll : List Document → Prop
  | [] => True
  | d :: rest => d.Whole ∧ WholeAll rest

def WholeEntries : List (String × Document) → Prop
  | [] => True
  | (_, d) :: rest => d.Whole ∧ WholeEntries rest

end

mutual

/-- The document that is read back: every number is the one nearest to the integer that stands for
it in the text. -/
def restored : Document → Document
  | .number x =>
    match Number.shortWhole? x with
    | some n => .number (Number.ofInt n)
    | none => .number x
  | .list items => .list (restoredAll items)
  | .record entries => .record (restoredEntries entries)
  | d => d

def restoredAll : List Document → List Document
  | [] => []
  | d :: rest => d.restored :: restoredAll rest

def restoredEntries : List (String × Document) → List (String × Document)
  | [] => []
  | (key, d) :: rest => (key, d.restored) :: restoredEntries rest

end

/-! ### What characters are written as -/

theorem hexDigit?_digitChar : ∀ n < 16, Text.hexDigit? (Nat.digitChar n) = some n := by
  decide

theorem hexadecimal_code (n : Nat) :
    ∀ d ∈ '0' :: '0' :: hexPair n, d ∈ "0123456789abcdefABCDEF".toList := by
  have hexadecimal : ∀ k < 16, Nat.digitChar k ∈ "0123456789abcdefABCDEF".toList := by decide
  intro d mem
  simp only [hexPair, List.mem_cons, List.not_mem_nil, or_false] at mem
  obtain rfl | rfl | rfl | rfl := mem
  · decide
  · decide
  · exact hexadecimal _ (Nat.mod_lt _ (by decide))
  · exact hexadecimal _ (Nat.mod_lt _ (by decide))

theorem hexNumber_code {n : Nat} (small : n < 256) :
    Text.hexNumber ('0' :: '0' :: hexPair n) = n := by
  have zero : Text.hexDigit? '0' = some 0 := by decide
  simp only [Text.hexNumber, hexPair, List.foldl_cons, List.foldl_nil, zero,
    hexDigit?_digitChar _ (Nat.mod_lt _ (by decide : 16 > 0))]
  omega

/-- A character is written as what stands for it. -/
theorem standsFor_writeChar (c : Char) : Json.StandsFor (writeChar c) c := by
  unfold writeChar
  iterate 5
    split
    · next same =>
      rw [eq_of_beq same]
      exact .escape (by decide)
  iterate 2
    split
    · next code =>
      rw [← Char.ofNat_toNat c, code]
      exact .escape (by decide)
  split
  · next control =>
    exact .code rfl (hexadecimal_code c.toNat) (hexNumber_code (by omega))
  · next quote backslash _ _ _ _ _ printable =>
    exact .plain (by simpa using quote) (by simpa using backslash) (Nat.not_lt.mp printable)

end Document

theorem Json.StandsFor.length_pos {s : List Char} {c : Char} (stands : Json.StandsFor s c) :
    0 < s.length := by
  cases stands <;> exact Nat.succ_pos _

namespace Document.Reading

variable {α β : Type} {r : Reader α} {f : α → Reader β} {text rest mid : List Char}
  {problem : ReadProblem} {a : α}

/-- What a reader does with a text, at whatever line and column it starts: the result and what is
left of the text, or the problem. -/
def Ends (r : Reader α) (text : List Char) (result : Except ReadProblem (α × List Char)) : Prop :=
  ∀ line column, ((r ⟨text, line, column⟩).map fun q => (q.1, q.2.rest)).mapError
    ReadError.problem = result

theorem ends_ok_iff : Ends r text (.ok (a, rest)) ↔
    ∀ line column, ∃ line' column', r ⟨text, line, column⟩ = .ok (a, ⟨rest, line', column'⟩) := by
  refine forall_congr' fun line => forall_congr' fun column => ?_
  cases r ⟨text, line, column⟩ with
  | error e => simp [Except.map, Except.mapError]
  | ok q =>
      obtain ⟨b, left, line', column'⟩ := q
      simp [Except.map, Except.mapError]

theorem ends_error_iff : Ends r text (.error problem) ↔
    ∀ line column, ∃ e, r ⟨text, line, column⟩ = .error e ∧ e.problem = problem := by
  refine forall_congr' fun line => forall_congr' fun column => ?_
  cases r ⟨text, line, column⟩ with
  | error e => simp [Except.map, Except.mapError]
  | ok q => simp [Except.map, Except.mapError]

theorem Ends.bind {result : Except ReadProblem (β × List Char)}
    (first : Ends r text (.ok (a, mid))) (second : Ends (f a) mid result) :
    Ends (r >>= f) text result := by
  intro line column
  obtain ⟨line', column', ran⟩ := ends_ok_iff.mp first line column
  rw [← second line' column']
  simp only [Bind.bind, StateT.bind, ran, Except.bind]

theorem Ends.stop (first : Ends r text (.error problem)) :
    Ends (r >>= f) text (.error problem) := by
  refine ends_error_iff.mpr fun line column => ?_
  obtain ⟨e, ran, same⟩ := ends_error_iff.mp first line column
  exact ⟨e, by simp only [Bind.bind, StateT.bind, ran, Except.bind], same⟩

theorem ends_pure : Ends (pure a) text (.ok (a, text)) := fun _ _ => rfl

theorem ends_peekChar : Ends peekChar text (.ok (text.head?, text)) := fun _ _ => rfl

theorem ends_charsLeft : Ends charsLeft text (.ok (text.length, text)) := fun _ _ => rfl

theorem ends_failAhead : Ends (failAhead problem : Reader α) text (.error problem) := by
  intro line column
  simp only [failAhead, Place.errorAhead]
  split
  · rfl
  · split <;> rfl

theorem ends_skipChar (c : Char) : Ends skipChar (c :: rest) (.ok ((), rest)) := by
  intro line column
  simp only [skipChar, Place.behind]
  split <;> rfl

theorem ends_peekBehindBlanks (solid : ∀ c ∈ text.head?, isFormatBlank c = false) :
    Ends peekBehindBlanks text (.ok (text.head?, text)) := by
  intro line column
  cases text with
  | nil => rfl
  | cons c rest => simp [peekBehindBlanks, skipBlanksFrom, solid c rfl, Except.map, Except.mapError]

theorem ends_look {c : Char} (solid : isFormatBlank c = false) :
    Ends peekBehindBlanks (c :: rest) (.ok (some c, c :: rest)) :=
  ends_peekBehindBlanks fun _ same => Option.some.inj same ▸ solid

theorem ends_word (cs : List Char) : Ends (word cs) (cs ++ rest) (.ok ((), rest)) := by
  induction cs with
  | nil => exact ends_pure
  | cons c cs ih =>
      refine ends_peekChar.bind ?_
      rw [List.cons_append, List.head?_cons]
      simp only [if_true]
      exact (ends_skipChar c).bind ih

/-! ### Texts -/

theorem exists_hexDigit? {d : Char} (hexadecimal : d ∈ "0123456789abcdefABCDEF".toList) :
    ∃ n, Text.hexDigit? d = some n := by
  have known : "0123456789abcdefABCDEF".toList.all (fun d => (Text.hexDigit? d).isSome) = true := by
    decide
  exact Option.isSome_iff_exists.mp (List.all_eq_true.mp known d hexadecimal)

/-- Four hexadecimal digits are read as their number. -/
theorem ends_hexQuad {ds : List Char} (four : ds.length = 4)
    (hexadecimal : ∀ d ∈ ds, d ∈ "0123456789abcdefABCDEF".toList) :
    Ends hexQuad (ds ++ rest) (.ok (Text.hexNumber ds, rest)) := by
  intro line column
  obtain ⟨a, ds, rfl⟩ := List.exists_cons_of_length_eq_add_one four
  obtain ⟨b, ds, rfl⟩ := List.exists_cons_of_length_eq_add_one (Nat.succ.inj four)
  obtain ⟨c, ds, rfl⟩ := List.exists_cons_of_length_eq_add_one (Nat.succ.inj (Nat.succ.inj four))
  obtain ⟨d, rfl⟩ := List.length_eq_one_iff.mp (Nat.succ.inj (Nat.succ.inj (Nat.succ.inj four)))
  obtain ⟨w, first⟩ := exists_hexDigit? (hexadecimal a (by simp))
  obtain ⟨x, second⟩ := exists_hexDigit? (hexadecimal b (by simp))
  obtain ⟨y, third⟩ := exists_hexDigit? (hexadecimal c (by simp))
  obtain ⟨z, fourth⟩ := exists_hexDigit? (hexadecimal d (by simp))
  simp only [hexQuad, List.cons_append, List.nil_append, first, second, third, fourth, Except.map,
    Except.mapError, Text.hexNumber, List.foldl_cons, List.foldl_nil]
  congr 2
  omega

/-- The code of a character is read as the character: no character has the code of one half of a
pair. -/
theorem ends_codeEscape {ds : List Char} {c : Char} (four : ds.length = 4)
    (hexadecimal : ∀ d ∈ ds, d ∈ "0123456789abcdefABCDEF".toList)
    (value : Text.hexNumber ds = c.toNat) : Ends codeEscape (ds ++ rest) (.ok (c, rest)) := by
  have valid : c.toNat < 0xD800 ∨ 0xDFFF < c.toNat ∧ c.toNat < 0x110000 := c.valid
  refine (ends_hexQuad four hexadecimal).bind ?_
  rw [value, if_neg (by omega), if_pos (by omega), Char.ofNat_toNat]
  exact ends_pure

theorem ends_escape {letter c : Char} (pair : (letter, c) ∈ Json.escapes) :
    Ends escape (letter :: text) (.ok (c, text)) := by
  simp only [Json.escapes, List.mem_cons, Prod.mk.injEq, List.not_mem_nil, or_false] at pair
  obtain ⟨rfl, rfl⟩ | ⟨rfl, rfl⟩ | ⟨rfl, rfl⟩ | ⟨rfl, rfl⟩ | ⟨rfl, rfl⟩ | ⟨rfl, rfl⟩ | ⟨rfl, rfl⟩ |
    ⟨rfl, rfl⟩ := pair
  all_goals exact ends_peekChar.bind ((ends_skipChar _).bind ends_pure)

/-- What stands for a character is read as the character. -/
theorem ends_textChars_cons {n : Nat} {s cs : List Char} {c : Char} (stands : Json.StandsFor s c)
    (further : Ends (textChars n) text (.ok (cs, rest))) :
    Ends (textChars (n + 1)) (s ++ text) (.ok (c :: cs, rest)) := by
  have escaped (code : List Char) (read : Ends escape (code ++ text) (.ok (c, text))) :
      Ends (textChars (n + 1)) ('\\' :: code ++ text) (.ok (c :: cs, rest)) :=
    ends_peekChar.bind ((ends_skipChar _).bind (read.bind (further.bind ends_pure)))
  cases stands with
  | plain quote backslash printable =>
      refine ends_peekChar.bind ?_
      simp only [List.singleton_append, List.head?_cons]
      rw [if_neg quote, if_neg backslash, if_neg (Nat.not_lt.mpr printable)]
      exact (ends_skipChar c).bind (further.bind ends_pure)
  | @escape letter _ pair => exact escaped [letter] (ends_escape pair)
  | @code ds _ four hexadecimal value =>
      apply escaped ('u' :: ds)
      exact ends_peekChar.bind ((ends_skipChar _).bind (ends_codeEscape four hexadecimal value))

theorem ends_textChars (cs : List Char) (n : Nat) (room : cs.length < n) :
    Ends (textChars n) (cs.flatMap writeChar ++ '"' :: rest) (.ok (cs, rest)) := by
  induction cs generalizing n with
  | nil =>
      obtain ⟨n, rfl⟩ : ∃ m, n = m + 1 := ⟨n - 1, by simp at room; omega⟩
      exact ends_peekChar.bind ((ends_skipChar _).bind ends_pure)
  | cons c cs ih =>
      obtain ⟨n, rfl⟩ : ∃ m, n = m + 1 := ⟨n - 1, by simp at room; omega⟩
      rw [List.flatMap_cons, List.append_assoc]
      exact ends_textChars_cons (standsFor_writeChar c) (ih n (by simpa using room))

theorem length_le_length_flatMap_writeChar (cs : List Char) :
    cs.length ≤ (cs.flatMap writeChar).length := by
  induction cs with
  | nil => simp
  | cons c cs ih =>
      have some_ := (standsFor_writeChar c).length_pos
      simp only [List.flatMap_cons, List.length_append, List.length_cons]
      omega

theorem ends_textBody (s : String) :
    Ends textBody (s.toList.flatMap writeChar ++ '"' :: rest) (.ok (s, rest)) := by
  have room := length_le_length_flatMap_writeChar s.toList
  refine ends_charsLeft.bind ((ends_textChars _ _ ?_).bind ?_)
  · simp only [List.length_append, List.length_cons]
    omega
  · rw [String.ofList_toList]
    exact ends_pure

/-! ### Numbers -/

/-- The text does not go on with a number. -/
def Closed (rest : List Char) : Prop := ∀ c ∈ rest.head?, c = ',' ∨ c = ']' ∨ c = '}'

theorem Closed.not_isDigit (closed : Closed rest) : ∀ c ∈ rest.head?, c.isDigit = false := by
  intro c next
  obtain rfl | rfl | rfl := closed c next <;> decide

/-- Only zero begins with the digit zero. -/
theorem head?_digitText {n : Nat} (some_ : n ≠ 0) : (Number.digitText n).head? ≠ some '0' := by
  unfold Number.digitText
  induction n using Nat.strong_induction_on with
  | _ n ih =>
      rw [Nat.toDigits_eq_if (by decide)]
      split
      · simpa using some_
      · rw [List.head?_append_of_ne_nil _ Nat.toDigits_ne_nil]
        exact ih _ (by omega) (by omega)

theorem isDigit_of_mem_digitText {n : Nat} : ∀ c ∈ Number.digitText n, c.isDigit = true :=
  fun _ => Nat.isDigit_of_mem_toDigits (by decide) (by decide)

theorem exists_digitText (n : Nat) :
    ∃ c cs, Number.digitText n = c :: cs ∧ c.isDigit = true := by
  obtain ⟨c, cs, shape⟩ := List.exists_cons_of_ne_nil (Nat.toDigits_ne_nil (n := n) (b := 10))
  exact ⟨c, cs, shape, isDigit_of_mem_digitText (n := n) c (by simp [Number.digitText, shape])⟩

theorem decimalValue_digitText (n : Nat) : Number.decimalValue (Number.digitText n) = n := by
  rw [Number.decimalValue, Number.digitText]
  exact Nat.ofDigitChars_eq_foldl.symm.trans Nat.ofDigitChars_ten_toDigits

/-- A natural number that is not too large is read as itself. -/
theorem ofDecimal_zero {n : Nat} (small : n < 1000000000000000) :
    Number.ofDecimal n 0 = Number.ofNat n := by
  have length : Number.decimalLength n ≤ 15 :=
    (Nat.length_toDigits_le_iff (by decide) (by decide)).mpr small
  unfold Number.ofDecimal
  split
  · next none_ =>
    rw [none_]
    rfl
  · simp only
    rw [if_neg (by omega), if_neg (by omega)]
    rfl

theorem ends_digits {n : Nat} (closed : Closed rest) :
    Ends digits (Number.digitText n ++ rest) (.ok (Number.digitText n, rest)) := by
  intro line column
  have stop : rest.takeWhile Char.isDigit = [] ∧ rest.dropWhile Char.isDigit = rest := by
    cases rest with
    | nil => simp
    | cons c rest => simp [closed.not_isDigit c rfl]
  simp only [digits, List.takeWhile_append_of_pos isDigit_of_mem_digitText,
    List.dropWhile_append_of_pos isDigit_of_mem_digitText, stop, List.append_nil]
  rfl

theorem ends_fraction (closed : Closed rest) : Ends fraction rest (.ok ([], rest)) := by
  refine ends_peekChar.bind ?_
  rw [if_neg]
  · exact ends_pure
  · intro point
    obtain h | h | h := closed '.' point <;> cases h

theorem ends_exponent (zero : Bool) (closed : Closed rest) :
    Ends (exponent zero) rest (.ok (0, rest)) := by
  refine ends_peekChar.bind ?_
  cases rest with
  | nil => exact ends_pure
  | cons c rest =>
      simp only [List.head?_cons]
      rw [if_neg]
      · exact ends_pure
      · obtain rfl | rfl | rfl := closed c rfl <;> decide

/-- The digits of a natural number are read back. -/
theorem ends_number {n : Nat} (negative : Bool) (small : n < 1000000000000000)
    (closed : Closed rest) :
    Ends (number negative) (Number.digitText n ++ rest)
      (.ok (.number (if negative then -Number.ofNat n else Number.ofNat n), rest)) := by
  have finish : Ends (do
      let part ← fraction
      let significand := Number.decimalValue (Number.digitText n ++ part)
      let e ← exponent (significand == 0)
      let x := Number.ofDecimal significand (e - part.length)
      if x.isInf then fail .numberOutOfRange
      else return Document.number (if negative then -x else x)) rest
      (.ok (.number (if negative then -Number.ofNat n else Number.ofNat n), rest)) := by
    refine (ends_fraction closed).bind ((ends_exponent _ closed).bind ?_)
    simp only [List.append_nil, decimalValue_digitText, List.length_nil, Nat.cast_zero, sub_zero,
      ofDecimal_zero small]
    rw [Number.isInf_ofNat (small.trans (by decide))]
    exact ends_pure
  by_cases none_ : n = 0
  · subst none_
    have ahead : rest.head?.any Char.isDigit = false := by
      cases rest with
      | nil => rfl
      | cons c rest => exact closed.not_isDigit c rfl
    refine ends_peekChar.bind ((@ends_skipChar rest '0').bind (ends_peekChar.bind ?_))
    rw [if_neg (by simp [ahead])]
    exact ends_pure.bind finish
  · obtain ⟨c, cs, shape, digit⟩ := exists_digitText n
    have first : c ≠ '0' := by
      have nonzero := head?_digitText none_
      rw [shape] at nonzero
      simpa using nonzero
    have head : (Number.digitText n ++ rest).head? = some c := by simp [shape]
    refine ends_peekChar.bind ?_
    rw [head]
    simp only [digit, first, if_false, Bool.not_true, Bool.false_eq_true]
    exact (ends_digits closed).bind finish

theorem isFormatBlank_of_isDigit {c : Char} (digit : c.isDigit = true) :
    isFormatBlank c = false := by
  simp only [isFormatBlank, Bool.or_eq_false_iff, beq_eq_false_iff_ne]
  refine ⟨⟨⟨?_, ?_⟩, ?_⟩, ?_⟩ <;>
    · rintro rfl
      exact absurd digit (by decide)

theorem ends_valueOver_int (inner : Option (Reader Document)) {n : Int}
    (small : n.natAbs < 1000000000000000) (closed : Closed rest) :
    Ends (valueOver inner) ((Number.intText n).toList ++ rest)
      (.ok (.number (Number.ofInt n), rest)) := by
  unfold Number.intText Number.ofInt
  split
  · next below =>
    have written : ("-" ++ String.ofList (Number.digitText n.natAbs)).toList ++ rest =
        '-' :: (Number.digitText n.natAbs ++ rest) := by simp
    rw [written]
    exact (ends_look rfl).bind ((ends_skipChar _).bind (ends_number true small closed))
  · next above =>
    have read := ends_number false small closed
    obtain ⟨c, cs, shape, digit⟩ := exists_digitText n.natAbs
    rw [String.toList_ofList]
    rw [shape] at read ⊢
    refine (ends_look (isFormatBlank_of_isDigit digit)).bind ?_
    simp only
    split <;> first
      | exact absurd digit (by decide)
      | exact (if_pos digit).symm ▸ read

/-! ### Lists and records -/

section Loops

variable {value : Reader Document} {d : Document}

/-- Pieces behind an opening bracket, or behind a piece. -/
def separated (first : Bool) (pieces : List (List Char)) : List Char :=
  if first then commaSeparated pieces else pieces.flatMap (',' :: ·)

theorem separated_cons_append (first : Bool) (p : List Char) (ps : List (List Char))
    (tail : List Char) : separated first (p :: ps) ++ tail =
      (if first then [] else [',']) ++ (p ++ (separated false ps ++ tail)) := by
  have commas (p : List Char) : commaSeparated (p :: ps) = p ++ ps.flatMap (',' :: ·) := by
    induction ps generalizing p with
    | nil => simp [commaSeparated]
    | cons q qs ih => simp [commaSeparated, ih]
  cases first with
  | true => simp [separated, commas]
  | false => simp [separated]

/-- There are enough rounds for all pieces, since there is a comma in front of each but the
first. -/
theorem length_lt_separated (ps : List (List Char)) (c : Char) (rest : List Char) :
    ps.length < (separated true ps ++ c :: rest).length + 1 := by
  have commas (ps : List (List Char)) : ps.length ≤ (ps.flatMap (',' :: ·)).length := by
    induction ps with
    | nil => simp
    | cons p ps ih =>
        simp only [List.flatMap_cons, List.length_append, List.length_cons]
        omega
  cases ps with
  | nil => simp
  | cons p ps =>
      have := commas ps
      rw [separated_cons_append]
      simp only [separated, List.length_append, List.length_cons, Bool.false_eq_true, if_false]
      omega

theorem closed_separated (ps : List (List Char)) {c : Char} (closing : c = ']' ∨ c = '}')
    (rest : List Char) :
    Closed (separated false ps ++ c :: rest) := by
  cases ps with
  | nil =>
      rintro _ ⟨⟩
      exact .inr closing
  | cons p ps =>
      rintro _ ⟨⟩
      exact .inl rfl

theorem Ends.returns {p : Prop} [Decidable p]
    (read : Ends r text (if p then .ok (a, rest) else .error problem)) (g : α → β) :
    Ends (do return g (← r)) text (if p then .ok (g a, rest) else .error problem) := by
  by_cases hp : p
  · rw [if_pos hp] at read ⊢
    exact read.bind ends_pure
  · rw [if_neg hp] at read ⊢
    exact read.stop

/-- A piece and the pieces behind it are read if all of them are. -/
theorem Ends.cons {r : Reader α} {loop : Reader (List α)} {as : List α} {p q : Prop} [Decidable p]
    [Decidable q] (first : Ends r text (if p then .ok (a, mid) else .error problem))
    (others : Ends loop mid (if q then .ok (as, rest) else .error problem)) :
    Ends (do let a ← r; return a :: (← loop)) text
      (if p ∧ q then .ok (a :: as, rest) else .error problem) := by
  by_cases hp : p
  · by_cases hq : q
    · rw [if_pos hp] at first
      rw [if_pos hq] at others
      rw [if_pos ⟨hp, hq⟩]
      exact first.bind (others.bind ends_pure)
    · rw [if_pos hp] at first
      rw [if_neg hq] at others
      rw [if_neg fun both => hq both.2]
      exact first.bind others.stop
  · rw [if_neg hp] at first
    rw [if_neg fun both => hp both.1]
    exact first.stop

theorem ends_items_nil (first : Bool) (n : Nat) :
    Ends (items value first (n + 1)) (']' :: rest) (.ok ([], rest)) :=
  (ends_look rfl).bind ((ends_skipChar _).bind ends_pure)

theorem ends_items_cons {result : Except ReadProblem (List Document × List Char)} (first : Bool)
    (n : Nat) {c : Char} (solid : isFormatBlank c = false) (open_ : c ≠ ']')
    (next : Ends (do let d ← value; return d :: (← items value false n)) (c :: text) result) :
    Ends (items value first (n + 1)) ((if first then [] else [',']) ++ c :: text) result := by
  cases first with
  | true =>
      refine (ends_look solid).bind ?_
      simp only [if_neg open_, if_true]
      exact next
  | false =>
      refine (ends_look rfl).bind ((ends_skipChar ',').bind ((ends_look solid).bind ?_))
      simp only [if_neg open_]
      exact next

theorem ends_entry {p : Prop} [Decidable p] (key : String)
    (read : Ends value text (if p then .ok (d, rest) else .error problem)) :
    Ends (entry value) (writeText key ++ ':' :: text)
      (if p then .ok ((key, d), rest) else .error problem) := by
  have colon_ : Ends colon (':' :: text) (.ok ((), text)) :=
    (ends_look rfl).bind (ends_skipChar _)
  have written : writeText key ++ ':' :: text =
      '"' :: (key.toList.flatMap writeChar ++ '"' :: ':' :: text) := by simp [writeText]
  rw [written]
  refine (ends_skipChar _).bind ((ends_textBody key).bind (colon_.bind ?_))
  exact read.returns (key, ·)

theorem ends_entries_nil (first : Bool) (n : Nat) :
    Ends (entries value first (n + 1)) ('}' :: rest) (.ok ([], rest)) :=
  (ends_look rfl).bind ((ends_skipChar _).bind ends_pure)

theorem ends_entries_cons {result : Except ReadProblem (List (String × Document) × List Char)}
    (first : Bool) (n : Nat)
    (next : Ends (do let e ← entry value; return e :: (← entries value false n)) ('"' :: text)
      result) :
    Ends (entries value first (n + 1)) ((if first then [] else [',']) ++ '"' :: text) result := by
  cases first with
  | true => exact (ends_look rfl).bind next
  | false => exact (ends_look rfl).bind ((ends_skipChar ',').bind ((ends_look rfl).bind next))

end Loops

/-- No document is written with a blank or a closing bracket in front. -/
theorem exists_write {d : Document} (whole : d.Whole) :
    ∃ c text, d.write = c :: text ∧ isFormatBlank c = false ∧ c ≠ ']' := by
  cases d with
  | null => exact ⟨_, _, rfl, by decide, by decide⟩
  | bool b => cases b <;> exact ⟨_, _, rfl, by decide, by decide⟩
  | number x =>
      obtain ⟨n, short⟩ := whole
      simp only [write, Number.documentText, short, Number.intText]
      obtain ⟨c, cs, shape, digit⟩ := exists_digitText n.natAbs
      split
      · exact ⟨'-', c :: cs, by simp [shape], by decide, by decide⟩
      · refine ⟨c, cs, by simp [shape], isFormatBlank_of_isDigit digit, ?_⟩
        rintro rfl
        exact absurd digit (by decide)
  | text s => exact ⟨'"', _, by rw [write, writeText, List.cons_append], by decide, by decide⟩
  | list items => exact ⟨'[', _, by rw [write, List.cons_append], by decide, by decide⟩
  | record entries => exact ⟨'{', _, by rw [write, List.cons_append], by decide, by decide⟩

theorem length_writeItems (ds : List Document) : (writeItems ds).length = ds.length := by
  induction ds with
  | nil => rfl
  | cons d ds ih => simp [writeItems, ih]

theorem length_writeEntries (es : List (String × Document)) :
    (writeEntries es).length = es.length := by
  induction es with
  | nil => rfl
  | cons e es ih => simp [writeEntries, ih]

/-- What is neither a list nor a record is read with any room. -/
theorem ends_valueWithin_of_flat {d d' : Document} (flat : d.depth = 0)
    (read : ∀ inner, Ends (valueOver inner) text (.ok (d', rest))) (room : Nat) :
    Ends (valueWithin room) text
      (if d.depth ≤ room then .ok (d', rest) else .error .tooDeep) := by
  rw [flat, if_pos (Nat.zero_le room)]
  cases room with
  | zero => exact read none
  | succ room => exact read (some (valueWithin room))

mutual

/-- A document that nests no deeper than there is room for is read back from its text. -/
theorem ends_valueWithin (room : Nat) : ∀ (d : Document), d.Whole → ∀ rest, Closed rest →
    Ends (valueWithin room) (d.write ++ rest)
      (if d.depth ≤ room then .ok (d.restored, rest) else .error .tooDeep)
  | .null, _, rest, _ => by
    refine ends_valueWithin_of_flat rfl (fun inner => (ends_look rfl).bind ?_) room
    exact (ends_skipChar _).bind ((ends_word "ull".toList).bind ends_pure)
  | .bool true, _, rest, _ => by
    refine ends_valueWithin_of_flat rfl (fun inner => (ends_look rfl).bind ?_) room
    exact (ends_skipChar _).bind ((ends_word "rue".toList).bind ends_pure)
  | .bool false, _, rest, _ => by
    refine ends_valueWithin_of_flat rfl (fun inner => (ends_look rfl).bind ?_) room
    exact (ends_skipChar _).bind ((ends_word "alse".toList).bind ends_pure)
  | .number x, ⟨n, short⟩, rest, closed => by
    refine ends_valueWithin_of_flat rfl (fun inner => ?_) room
    simp only [write, Number.documentText, restored, short]
    exact ends_valueOver_int inner (Number.shortWhole?_eq_some_iff.mp short).2 closed
  | .text s, _, rest, _ => by
    refine ends_valueWithin_of_flat rfl (fun inner => ?_) room
    rw [write, writeText, List.cons_append, List.cons_append, List.append_assoc]
    exact (ends_look rfl).bind ((ends_skipChar _).bind ((ends_textBody s).bind ends_pure))
  | .list ds, whole, rest, _ => by
    have written : (Document.list ds).write ++ rest =
        '[' :: (separated true (writeItems ds) ++ ']' :: rest) := by simp [write, separated]
    rw [written]
    cases room with
    | zero =>
        rw [if_neg (by simp [depth])]
        exact (ends_look rfl).bind ends_failAhead
    | succ room =>
        have fuel := length_lt_separated (writeItems ds) ']' rest
        rw [length_writeItems] at fuel
        have read := (ends_items room ds whole true _ fuel rest).returns Document.list
        simp only [depth, Nat.add_le_add_iff_right, restored]
        exact (ends_look rfl).bind ((ends_skipChar _).bind (ends_charsLeft.bind read))
  | .record es, whole, rest, _ => by
    have written : (Document.record es).write ++ rest =
        '{' :: (separated true (writeEntries es) ++ '}' :: rest) := by simp [write, separated]
    rw [written]
    cases room with
    | zero =>
        rw [if_neg (by simp [depth])]
        exact (ends_look rfl).bind ends_failAhead
    | succ room =>
        have fuel := length_lt_separated (writeEntries es) '}' rest
        rw [length_writeEntries] at fuel
        have read := (ends_entries room es whole true _ fuel rest).returns Document.record
        simp only [depth, Nat.add_le_add_iff_right, restored]
        exact (ends_look rfl).bind ((ends_skipChar _).bind (ends_charsLeft.bind read))

theorem ends_items (room : Nat) : ∀ (ds : List Document), WholeAll ds → ∀ (first : Bool) (n : Nat),
    ds.length < n → ∀ rest, Ends (items (valueWithin room) first n)
      (separated first (writeItems ds) ++ ']' :: rest)
      (if depthAll ds ≤ room then .ok (restoredAll ds, rest) else .error .tooDeep)
  | [], _, first, n + 1, _, rest => by
    cases first <;> exact ends_items_nil _ n
  | d :: ds, ⟨whole, wholes⟩, first, n + 1, fuel, rest => by
    obtain ⟨c, text, written, solid, open_⟩ := exists_write whole
    have value := ends_valueWithin room d whole _
      (closed_separated (writeItems ds) (.inl rfl) rest)
    have next := value.cons (ends_items room ds wholes false n (by simpa using fuel) rest)
    rw [writeItems, separated_cons_append]
    simp only [written, depthAll, max_le_iff, restoredAll] at next ⊢
    exact ends_items_cons first n solid open_ next

theorem ends_entries (room : Nat) : ∀ (es : List (String × Document)), WholeEntries es →
    ∀ (first : Bool) (n : Nat), es.length < n → ∀ rest, Ends (entries (valueWithin room) first n)
      (separated first (writeEntries es) ++ '}' :: rest)
      (if depthEntries es ≤ room then .ok (restoredEntries es, rest) else .error .tooDeep)
  | [], _, first, n + 1, _, rest => by
    cases first <;> exact ends_entries_nil _ n
  | (key, d) :: es, ⟨whole, wholes⟩, first, n + 1, fuel, rest => by
    have value := ends_valueWithin room d whole _
      (closed_separated (writeEntries es) (.inr rfl) rest)
    have next := (ends_entry key value).cons
      (ends_entries room es wholes false n (by simpa using fuel) rest)
    rw [writeEntries, separated_cons_append, List.append_assoc]
    simp only [depthEntries, max_le_iff, restoredEntries]
    exact ends_entries_cons first n next

end

theorem ends_document {d : Document} (whole : d.Whole) :
    Ends document d.write
      (if d.depth ≤ maxReadDepth then .ok (d.restored, []) else .error .tooDeep) := by
  have read := ends_valueWithin maxReadDepth d whole [] nofun
  rw [List.append_nil] at read
  by_cases fits : d.depth ≤ maxReadDepth
  · rw [if_pos fits] at read ⊢
    exact read.bind ((ends_peekBehindBlanks (by simp)).bind ends_pure)
  · rw [if_neg fits] at read ⊢
    exact read.stop

end Document.Reading

namespace Document

open Reading

variable {d : Document}

/-- A document that does not nest too deep is read back from its text. -/
theorem read_toText (whole : d.Whole) (fits : d.depth ≤ maxReadDepth) :
    read d.toText = .ok d.restored := by
  have ends := ends_document whole
  rw [if_pos fits] at ends
  obtain ⟨line, column, ran⟩ := ends_ok_iff.mp ends 1 0
  rw [read, toText, String.toList_ofList, ran]
  rfl

/-- A document that nests too deep is rejected for that. -/
theorem read_toText_of_deep (whole : d.Whole) (deep : maxReadDepth < d.depth) :
    ∃ e, read d.toText = .error e ∧ e.problem = .tooDeep := by
  have ends := ends_document whole
  rw [if_neg (Nat.not_le.mpr deep)] at ends
  obtain ⟨e, ran, problem⟩ := ends_error_iff.mp ends 1 0
  refine ⟨e, ?_, problem⟩
  rw [read, toText, String.toList_ofList, ran]
  rfl

end Document

end HostScript
