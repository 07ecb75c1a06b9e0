import HostScript.Number.Shortest

/-! # The text of a number

Which digits are written is settled by `shortest`; a style settles how they are
laid out: where positional notation ends, what marks a whole number, how an
exponent is written, and the words for infinities and not-a-number.

Three styles are in use: `plain` for messages and printed numbers, `exact` for
inspection, and `document` for documents. -/

namespace HostScript.Number

/-- How the digits of a number are laid out. -/
structure Style where
  /-- Exponents of the leading digit for which positional notation is used; no bounds
  means always. -/
  positional : Option (Int × Int)
  /-- Written after a whole number in positional notation. -/
  wholeMark : String
  /-- Written before an exponent that is not negative. -/
  plusMark : String
  /-- The text of not-a-number. -/
  nanText : String
  /-- The texts of the positive and of the negative infinity. -/
  infinityTexts : String × String

/-- Positional notation at every size, whole numbers without a point. -/
def Style.plain : Style :=
  { positional := none, wholeMark := "", plusMark := ""
    nanText := "NaN", infinityTexts := ("inf", "-inf") }

/-- Positional notation from 0.0001 to below 10^16, whole numbers with `.0`. -/
def Style.exact : Style :=
  { positional := some (-4, 15), wholeMark := ".0", plusMark := ""
    nanText := "NaN", infinityTexts := ("inf", "-inf") }

/-- Positional notation from 0.00001 to below 10^16, signed exponents, and no text for
numbers that are not finite. -/
def Style.document : Style :=
  { positional := some (-5, 15), wholeMark := ".0", plusMark := "+"
    nanText := "null", infinityTexts := ("null", "null") }

/-- `n` zeros. -/
def zeros (n : Nat) : String := String.ofList (List.replicate n '0')

/-- The decimal digits of a natural number. -/
def digitText (n : Nat) : List Char := Nat.toDigits 10 n

/-- Positional notation of a decimal. -/
def positionalText (style : Style) (d : Decimal) : String :=
  let digits := digitText d.digits
  if d.exponent ≥ 0 then
    String.ofList digits ++ zeros d.exponent.toNat ++ style.wholeMark
  else
    let places := (-d.exponent).toNat
    if digits.length > places then
      String.ofList (digits.take (digits.length - places)) ++ "." ++
        String.ofList (digits.drop (digits.length - places))
    else "0." ++ zeros (places - digits.length) ++ String.ofList digits

/-- Exponent notation of a decimal: one digit before the point. -/
def exponentText (style : Style) (d : Decimal) : String :=
  let digits := digitText d.digits
  let lead : Int := d.exponent + digits.length - 1
  let mantissa :=
    match digits with
    | [] => "0"
    | [c] => String.ofList [c]
    | c :: rest => String.ofList (c :: '.' :: rest)
  let mark := if lead < 0 then "-" else style.plusMark
  mantissa ++ "e" ++ mark ++ String.ofList (digitText lead.natAbs)

/-- The text of a positive decimal. -/
def decimalText (style : Style) (d : Decimal) : String :=
  let lead : Int := d.exponent + (digitText d.digits).length - 1
  match style.positional with
  | none => positionalText style d
  | some (low, high) =>
    if low ≤ lead ∧ lead ≤ high then positionalText style d else exponentText style d

/-- The text of a number in a style. -/
def text (style : Style) (x : Float) : String :=
  match parts x with
  | .nan => style.nanText
  | .infinite negative => if negative then style.infinityTexts.2 else style.infinityTexts.1
  | .finite negative m e =>
    let body := if m = 0 then "0" ++ style.wholeMark else decimalText style (shortest m e)
    if negative then "-" ++ body else body

/-- The integer of a whole number below 10^15, which is written without a point. -/
def shortWhole? (x : Float) : Option Int :=
  match whole? x with
  | some n => if n.natAbs < 1000000000000000 then some n else none
  | none => none

/-- The text of an integer. -/
def intText (n : Int) : String :=
  if n < 0 then "-" ++ String.ofList (digitText n.natAbs) else String.ofList (digitText n.natAbs)

/-- The text under which a number is printed. -/
def display (x : Float) : String :=
  match shortWhole? x with
  | some n => intText n
  | none => text .plain x

/-- The text of a number in a document. -/
def documentText (x : Float) : String :=
  match shortWhole? x with
  | some n => intText n
  | none => text .document x

end HostScript.Number
