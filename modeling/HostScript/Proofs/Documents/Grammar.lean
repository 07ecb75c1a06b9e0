import HostScript.Document.Basic
import HostScript.Proofs.Documents.Decimals
import HostScript.Text.Ranges

/-!
# Texts and the documents that they stand for

The grammar of JSON, without blanks between the tokens, and what a text with this grammar stands
for: lists and records with their items and entries in order, texts character by character, integers
by their digits, and other numbers by a decimal that rounds to them. Both are stated without a
reader and without the writer.

## Implementation notes

`Json n s` says that `s` is a value in which at most `n` arrays and objects are nested, and
`Document.Written d s` that `s` is a text of the document `d`. Numbers are the part in which a
writer can go wrong: the digits before the point must not begin with a zero, unless zero is the only
one. A character beyond the first 65536 stands for itself only: pairs of codes are left out.
-/

namespace HostScript

/-! ### The grammar -/

namespace Json

/-- One or more decimal digits. -/
def Digits (s : List Char) : Prop := s ≠ [] ∧ ∀ c ∈ s, c.isDigit = true

/-- Digits that do not begin with a zero, unless there is no other digit. -/
def WholePart (s : List Char) : Prop := Digits s ∧ (s.head? = some '0' → s = ['0'])

/-- A point with digits behind it, or nothing. -/
def FractionPart (s : List Char) : Prop := s = [] ∨ ∃ ds, Digits ds ∧ s = '.' :: ds

/-- The mark of an exponent, perhaps a sign, and digits; or nothing. -/
def ExponentPart (s : List Char) : Prop :=
  s = [] ∨ ∃ mark sign ds, mark ∈ ['e', 'E'] ∧ sign ∈ [[], ['+'], ['-']] ∧ Digits ds ∧
    s = mark :: (sign ++ ds)

/-- A number without a sign. -/
def Unsigned (s : List Char) : Prop :=
  ∃ whole fraction exponent, WholePart whole ∧ FractionPart fraction ∧ ExponentPart exponent ∧
    s = whole ++ fraction ++ exponent

/-- A number. -/
def Numeral (s : List Char) : Prop := Unsigned s ∨ ∃ t, Unsigned t ∧ s = '-' :: t

/-- One character of a text: itself, an escape, or the code of a character in four hexadecimal
digits. -/
inductive TextChar : List Char → Prop
  | plain {c : Char} (quote : c ≠ '"') (backslash : c ≠ '\\') (printable : 32 ≤ c.toNat) :
      TextChar [c]
  | escape {c : Char} (letter : c ∈ ['"', '\\', '/', 'b', 'f', 'n', 'r', 't']) :
      TextChar ['\\', c]
  | code {ds : List Char} (four : ds.length = 4)
      (hexadecimal : ∀ c ∈ ds, c ∈ "0123456789abcdefABCDEF".toList) : TextChar ('\\' :: 'u' :: ds)

/-- A text: characters between quotes. -/
def Quoted (s : List Char) : Prop :=
  ∃ chars : List (List Char), (∀ c ∈ chars, TextChar c) ∧ s = '"' :: (chars.flatten ++ ['"'])

end Json

/-- A value in which at most so many arrays and objects are nested. -/
inductive Json : Nat → List Char → Prop
  | nullWord {n : Nat} : Json n "null".toList
  | trueWord {n : Nat} : Json n "true".toList
  | falseWord {n : Nat} : Json n "false".toList
  | number {n : Nat} {s : List Char} (numeral : Json.Numeral s) : Json n s
  | text {n : Nat} {s : List Char} (quoted : Json.Quoted s) : Json n s
  | array {n : Nat} {items : List (List Char)} (inner : ∀ s ∈ items, Json n s) :
      Json (n + 1) ('[' :: ([','].intercalate items ++ [']']))
  | object {n : Nat} {members : List (List Char × List Char)}
      (keys : ∀ e ∈ members, Json.Quoted e.1) (inner : ∀ e ∈ members, Json n e.2) :
      Json (n + 1) ('{' :: ([','].intercalate (members.map fun e => e.1 ++ ':' :: e.2) ++ ['}']))

/-! ### What a text stands for -/

namespace Json

/-- The digits behind the point; there is no point if there are none. -/
def FractionDigits (s ds : List Char) : Prop := (s = [] ∧ ds = []) ∨ (Digits ds ∧ s = '.' :: ds)

/-- The power of ten that is asked for; none is the power of zero. -/
def Shifts (s : List Char) (k : Int) : Prop :=
  (s = [] ∧ k = 0) ∨ ∃ mark sign ds, mark ∈ ['e', 'E'] ∧ Digits ds ∧ s = mark :: (sign ++ ds) ∧
    ((sign ∈ [[], ['+']] ∧ k = Number.decimalValue ds) ∨
      (sign = ['-'] ∧ k = -Number.decimalValue ds))

/-- A number without a sign, and its value. -/
def Measures (s : List Char) (x : ℚ) : Prop :=
  ∃ whole fraction ds exponent k, WholePart whole ∧ FractionDigits fraction ds ∧
    Shifts exponent k ∧ s = whole ++ fraction ++ exponent ∧
    x = Number.decimalValue (whole ++ ds) * 10 ^ (k - ds.length)

/-- The text of a number: the digits of an integer below `10 ^ 15`, a decimal that rounds to another
finite number, and null for what is not finite. -/
inductive NumberText (x : Float) : List Char → Prop
  | integer {n : Int} {ds : List Char} (value : Number.HasValue x n)
      (small : n.natAbs < 10 ^ 15) (whole : WholePart ds)
      (digits : Number.decimalValue ds = n.natAbs) : NumberText x (if n < 0 then '-' :: ds else ds)
  | rounded {negative : Bool} {m : Nat} {e : Int} {s : List Char} {y : ℚ}
      (taken : Number.parts x = .finite negative m e)
      (other : ∀ n : Int, Number.HasValue x n → 10 ^ 15 ≤ n.natAbs)
      (measures : Measures s y) (nearest : Number.Nearest m e y) :
      NumberText x (if negative then '-' :: s else s)
  | null (none_ : ∀ y, ¬Number.HasValue x y) : NumberText x "null".toList

/-- The letters of the short escapes, and the characters that they stand for. -/
def escapes : List (Char × Char) :=
  [('"', '"'), ('\\', '\\'), ('/', '/'), ('b', Char.ofNat 8), ('f', Char.ofNat 12), ('n', '\n'),
    ('r', '\r'), ('t', '\t')]

/-- What stands for a character inside a text: the character itself, an escape, or its code in four
hexadecimal digits. -/
inductive StandsFor : List Char → Char → Prop
  | plain {c : Char} (quote : c ≠ '"') (backslash : c ≠ '\\') (printable : 32 ≤ c.toNat) :
      StandsFor [c] c
  | escape {letter c : Char} (pair : (letter, c) ∈ escapes) : StandsFor ['\\', letter] c
  | code {ds : List Char} {c : Char} (four : ds.length = 4)
      (hexadecimal : ∀ d ∈ ds, d ∈ "0123456789abcdefABCDEF".toList)
      (value : Text.hexNumber ds = c.toNat) : StandsFor ('\\' :: 'u' :: ds) c

/-- The characters between quotes stand for those of the text, one by one. -/
def Quotes (s : List Char) (text : String) : Prop :=
  ∃ pieces, List.Forall₂ StandsFor pieces text.toList ∧ s = '"' :: (pieces.flatten ++ ['"'])

end Json

/-- The text says what is in the document: the items of a list in their order, and the entries of a
record with their keys in theirs. -/
inductive Document.Written : Document → List Char → Prop
  | null : Written .null "null".toList
  | true_ : Written (.bool true) "true".toList
  | false_ : Written (.bool false) "false".toList
  | number {x : Float} {s : List Char} (number : Json.NumberText x s) : Written (.number x) s
  | text {t : String} {s : List Char} (quotes : Json.Quotes s t) : Written (.text t) s
  | list {ds : List Document} {items : List (List Char)} (size : items.length = ds.length)
      (inner : ∀ (i : Nat) (d : Document) (s : List Char),
        ds[i]? = some d → items[i]? = some s → Written d s) :
      Written (.list ds) ('[' :: ([','].intercalate items ++ [']']))
  | record {es : List (String × Document)} {members : List (List Char × List Char)}
      (size : members.length = es.length)
      (keys : ∀ (i : Nat) (e : String × Document) (m : List Char × List Char),
        es[i]? = some e → members[i]? = some m → Json.Quotes m.1 e.1)
      (inner : ∀ (i : Nat) (e : String × Document) (m : List Char × List Char),
        es[i]? = some e → members[i]? = some m → Written e.2 m.2) :
      Written (.record es)
        ('{' :: ([','].intercalate (members.map fun m => m.1 ++ ':' :: m.2) ++ ['}']))

end HostScript
