/-! # Numbers as dyadic fractions

Every finite number of the language is `± m · 2 ^ e` for a natural number `m`
and an integer `e`. This module reads that form off the bits of a number and
writes it back, so that rounding, remainders and tests for whole numbers are
statements about natural numbers. -/

namespace HostScript.Number

/-- A number taken apart: not a number, an infinity, or `± mantissa · 2 ^ exponent`. -/
inductive Parts where
  | nan
  | infinite (negative : Bool)
  | finite (negative : Bool) (mantissa : Nat) (exponent : Int)
  deriving DecidableEq, Repr

/-- The place value of the sign in the bits of a number, `2 ^ 63`. -/
def signBit : Nat := 0x8000000000000000

/-- The place value of the lowest bit of the exponent, `2 ^ 52`: the fractions are below
it. -/
def fractionSize : Nat := 0x10000000000000

/-- Take a number apart. -/
def parts (x : Float) : Parts :=
  let bits := x.toBits.toNat
  let negative : Bool := bits / signBit == 1
  let biased : Nat := bits / fractionSize % 2048
  let fraction : Nat := bits % fractionSize
  if biased = 2047 then
    if fraction = 0 then .infinite negative else .nan
  else if biased = 0 then .finite negative fraction (-1074)
  else .finite negative (fractionSize + fraction) ((biased : Int) - 1075)

/-- Not a number. -/
def nan : Float := Float.ofBits 0x7FF8000000000000

/-- The positive or the negative infinity. -/
def infinity (negative : Bool) : Float :=
  Float.ofBits (if negative then 0xFFF0000000000000 else 0x7FF0000000000000)

/-- The number `± 0`. -/
def zero (negative : Bool) : Float :=
  Float.ofBits (if negative then 0x8000000000000000 else 0)

/-- The number with the given bits of sign, biased exponent and fraction. -/
def ofFields (negative : Bool) (biased fraction : Nat) : Float :=
  Float.ofBits (UInt64.ofNat
    ((if negative then signBit else 0) + biased * fractionSize + fraction))

/-- The number `± m · 2 ^ e` when it is exact; otherwise its nearest neighbour towards
zero, or an infinity. -/
def ofDyadic (negative : Bool) (m : Nat) (e : Int) : Float :=
  if m = 0 then zero negative
  else
    -- The exponent that brings the mantissa to 53 bits, but not below the smallest one.
    let wanted : Int := max (e + (Nat.log2 m : Int) - 52) (-1074)
    let shift := wanted - e
    let m' := if shift ≥ 0 then m / Nat.pow 2 shift.toNat else m * Nat.pow 2 (-shift).toNat
    if m' < fractionSize then ofFields negative 0 m'
    else if wanted + 1075 ≥ 2047 then infinity negative
    else ofFields negative (wanted + 1075).toNat (m' - fractionSize)

/-- The nearest number to a natural number. -/
def ofNat (n : Nat) : Float := Float.ofScientific n false 0

/-- The nearest number to an integer. -/
def ofInt (n : Int) : Float :=
  if n < 0 then -(ofNat n.natAbs) else ofNat n.natAbs

/-- Whole part and doubled remainder comparison of `m · 2 ^ e`: the whole part, whether
anything is left over, and whether what is left over is at least one half. -/
def wholePart (m : Nat) (e : Int) : Nat × Bool × Bool :=
  if e ≥ 0 then (m * Nat.pow 2 e.toNat, false, false)
  else
    let d := Nat.pow 2 (-e).toNat
    (m / d, m % d != 0, 2 * (m % d) ≥ d)

/-- The value of a finite number with the fraction dropped. -/
def truncated? (x : Float) : Option Int :=
  match parts x with
  | .finite negative m e =>
    let w := (wholePart m e).1
    some (if negative then -(w : Int) else w)
  | _ => none

/-- The value of a finite number that has no fraction. -/
def whole? (x : Float) : Option Int :=
  match parts x with
  | .finite negative m e =>
    match wholePart m e with
    | (w, false, _) => some (if negative then -(w : Int) else w)
    | _ => none
  | _ => none

/-- The number of a sign and a whole magnitude. -/
def ofSign (negative : Bool) (magnitude : Nat) : Float :=
  if negative then -(ofNat magnitude) else ofNat magnitude

/-- Round by a rule that sees the sign, the whole part, whether there is a remainder and
whether it is at least one half; numbers that are not finite stay. -/
def roundBy (rule : Bool → Nat → Bool → Bool → Nat) (x : Float) : Float :=
  match parts x with
  | .finite negative m e =>
    let (w, rest, half) := wholePart m e
    ofSign negative (rule negative w rest half)
  | _ => x

/-- Drop the fraction. -/
def trunc (x : Float) : Float := roundBy (fun _ w _ _ => w) x

/-- The greatest whole number that is not greater. -/
def floor (x : Float) : Float :=
  roundBy (fun negative w rest _ => if negative && rest then w + 1 else w) x

/-- The least whole number that is not less. -/
def ceil (x : Float) : Float :=
  roundBy (fun negative w rest _ => if !negative && rest then w + 1 else w) x

/-- The nearest whole number; a half goes away from zero. -/
def round (x : Float) : Float :=
  roundBy (fun _ w _ half => if half then w + 1 else w) x

/-- The number without its sign. -/
def magnitude (x : Float) : Float :=
  Float.ofBits (UInt64.ofNat (x.toBits.toNat % signBit))

/-- The remainder of a division that rounds towards zero; it has the sign of the
dividend. -/
def remainder (x y : Float) : Float :=
  match parts x, parts y with
  | .finite negative m e, .finite _ n f =>
    if n = 0 then nan
    else
      let low := min e f
      let a := m * Nat.pow 2 (e - low).toNat
      let b := n * Nat.pow 2 (f - low).toNat
      ofDyadic negative (a % b) low
  | .finite _ _ _, .infinite _ => x
  | _, _ => nan

/-- The smaller of two numbers; a number wins over not-a-number. -/
def least (x y : Float) : Float :=
  if x.isNaN then y else if y.isNaN then x else if y < x then y else x

/-- The larger of two numbers; a number wins over not-a-number. -/
def greatest (x y : Float) : Float :=
  if x.isNaN then y else if y.isNaN then x else if x < y then y else x

/-- The whole part of a number, no less than zero and no more than `top`; not-a-number
gives zero. -/
def clampNat (top : Nat) (x : Float) : Nat :=
  match parts x with
  | .nan => 0
  | .infinite negative => if negative then 0 else top
  | .finite negative m e => if negative then 0 else min (wholePart m e).1 top

/-- The largest value of an unsigned 64-bit word. -/
def maxWord : Nat := 0xFFFFFFFFFFFFFFFF

end HostScript.Number
