import HostScript.Number.Binary

/-! # Numbers read from decimal text

`ofDecimal` is the number nearest to `m · 10 ^ e`. `ofDigits?` reads the plain
form of a number: digits with an optional point and an optional exponent.
`ofText?` adds a sign and the words for infinity and not-a-number. `wordOf?`
reads whole numbers.

Main statement: `wordOf?_eq_some_iff`, the texts that are read as a whole number
are the numerals of the numbers up to a bound. -/

namespace HostScript.Number

/-- The value of a run of decimal digits. -/
def decimalValue (cs : List Char) : Nat :=
  cs.foldl (fun n c => 10 * n + (c.toNat - 48)) 0

/-- The number of decimal digits of a natural number. -/
def decimalLength (n : Nat) : Nat := (Nat.toDigits 10 n).length

/-- The number nearest to `m · 10 ^ e`. Exponents beyond the range of numbers are cut off
first, so the powers that are formed stay small. -/
def ofDecimal (m : Nat) (e : Int) : Float :=
  if m = 0 then zero false
  else
    let top := e + decimalLength m
    if top > 400 then infinity false
    else if top < -400 then zero false
    else Float.ofScientific m (e < 0) e.natAbs

/-- The exponent written after an `e`: an optional sign and at least one digit. -/
def exponentOf? (cs : List Char) : Option Int :=
  let (negative, digits) : Bool × List Char :=
    match cs with
    | '-' :: rest => (true, rest)
    | '+' :: rest => (false, rest)
    | _ => (false, cs)
  if digits.isEmpty || !(digits.all Char.isDigit) then none
  else
    let n : Int := decimalValue digits
    some (if negative then -n else n)

/-- Read digits with an optional point and an optional exponent; at least one digit stands
before or after the point. -/
def ofDigits? (cs : List Char) : Option Float :=
  let whole := cs.takeWhile Char.isDigit
  let rest := cs.dropWhile Char.isDigit
  let (fraction, rest) : List Char × List Char :=
    match rest with
    | '.' :: more => (more.takeWhile Char.isDigit, more.dropWhile Char.isDigit)
    | _ => ([], rest)
  if whole.isEmpty && fraction.isEmpty then none
  else
    let value (e : Int) : Float :=
      ofDecimal (decimalValue (whole ++ fraction)) (e - fraction.length)
    match rest with
    | [] => some (value 0)
    | c :: more =>
      if c = 'e' || c = 'E' then (exponentOf? more).map value else none

/-- Read a number without a sign: digits, or a word for infinity or not-a-number in any
case. -/
def ofUnsigned? (cs : List Char) : Option Float :=
  let word := cs.map Char.toLower
  if word = "inf".toList || word = "infinity".toList then some (infinity false)
  else if word = "nan".toList then some nan
  else ofDigits? cs

/-- Read a number with an optional sign. -/
def ofText? (cs : List Char) : Option Float :=
  match cs with
  | '-' :: rest => (ofUnsigned? rest).map (- ·)
  | '+' :: rest => ofUnsigned? rest
  | _ => ofUnsigned? cs

/-- A text without the plus sign that it may begin with. -/
def withoutPlus (cs : List Char) : List Char := if cs.head? = some '+' then cs.drop 1 else cs

/-- The natural number written by an optional plus sign and at least one decimal digit,
when it is less than `2 ^ 64`. -/
def wordOf? (s : String) : Option Nat :=
  let digits := withoutPlus s.toList
  if digits.isEmpty || !(digits.all Char.isDigit) then none
  else
    let n := decimalValue digits
    if n ≤ maxWord then some n else none

/-- Decimal digits, perhaps behind a plus sign, that stand for a natural number. -/
def IsNumeral (cs : List Char) (n : Nat) : Prop :=
  ∃ digits, (cs = digits ∨ cs = '+' :: digits) ∧ digits ≠ [] ∧
    (∀ c ∈ digits, c.isDigit = true) ∧ decimalValue digits = n

theorem eq_withoutPlus_or (cs : List Char) : cs = withoutPlus cs ∨ cs = '+' :: withoutPlus cs := by
  cases cs with
  | nil => exact .inl rfl
  | cons c rest =>
    by_cases plus : c = '+'
    · exact .inr (by simp [withoutPlus, plus])
    · exact .inl (by simp [withoutPlus, plus])

theorem withoutPlus_eq {cs digits : List Char} (spelled : cs = digits ∨ cs = '+' :: digits)
    (decimal : ∀ c ∈ digits, c.isDigit = true) : withoutPlus cs = digits := by
  obtain rfl | rfl := spelled
  · rw [withoutPlus, if_neg]
    intro plus
    have digit : '+'.isDigit = true := decimal '+' (List.mem_of_mem_head? plus)
    cases digit
  · rfl

/-- Words are numerals below a bound. -/
theorem wordOf?_eq_some_iff {s : String} {n : Nat} :
    wordOf? s = some n ↔ IsNumeral s.toList n ∧ n ≤ maxWord := by
  have read : wordOf? s = some n ↔ withoutPlus s.toList ≠ [] ∧
      (∀ c ∈ withoutPlus s.toList, c.isDigit = true) ∧
      decimalValue (withoutPlus s.toList) = n ∧ n ≤ maxWord := by
    simp only [wordOf?, Option.ite_none_left_eq_some, Option.ite_none_right_eq_some,
      Option.some.injEq, Bool.or_eq_true, Bool.not_eq_true', not_or, Bool.not_eq_false,
      List.isEmpty_iff, List.all_eq_true]
    constructor
    · rintro ⟨⟨some_, decimal⟩, within, rfl⟩
      exact ⟨some_, decimal, rfl, within⟩
    · rintro ⟨some_, decimal, rfl, within⟩
      exact ⟨⟨some_, decimal⟩, within, rfl⟩
  rw [read]
  constructor
  · rintro ⟨some_, decimal, value, within⟩
    exact ⟨⟨_, eq_withoutPlus_or _, some_, decimal, value⟩, within⟩
  · rintro ⟨⟨digits, spelled, some_, decimal, value⟩, within⟩
    rw [withoutPlus_eq spelled decimal]
    exact ⟨some_, decimal, value, within⟩

end HostScript.Number
