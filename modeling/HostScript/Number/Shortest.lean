import HostScript.Number.Binary

/-! # The shortest decimal of a number

The decimals that read back as a given number form an interval around it.
`shortest` gives the one with the fewest digits, and of those the nearest. It
tries one digit, two digits and so on, and looks on each decimal grid only at
the two neighbours of the number: if any point of a grid lies in the interval,
so does one of these. -/

namespace HostScript.Number

/-- The decimal `digits · 10 ^ exponent`. -/
structure Decimal where
  digits : Nat
  exponent : Int
  deriving DecidableEq, Repr

/-- A positive fraction `num / den`. -/
structure Fraction where
  num : Nat
  den : Nat
  deriving Repr

/-- `d · 10 ^ e` is at most the fraction. -/
def Fraction.atLeast (q : Fraction) (d : Nat) (e : Int) : Bool :=
  if e ≥ 0 then d * Nat.pow 10 e.toNat * q.den ≤ q.num
  else d * q.den ≤ q.num * Nat.pow 10 (-e).toNat

/-- `d · 10 ^ e` is less than the fraction. -/
def Fraction.exceeds (q : Fraction) (d : Nat) (e : Int) : Bool :=
  if e ≥ 0 then d * Nat.pow 10 e.toNat * q.den < q.num
  else d * q.den < q.num * Nat.pow 10 (-e).toNat

/-- The greatest `d` with `d · 10 ^ e` at most the fraction. -/
def Fraction.gridFloor (q : Fraction) (e : Int) : Nat :=
  if e ≥ 0 then q.num / (q.den * Nat.pow 10 e.toNat)
  else q.num * Nat.pow 10 (-e).toNat / q.den

/-- The numbers that round to `m · 2 ^ e`: the value, the two ends, and whether the ends
belong to it. -/
structure Interval where
  value : Fraction
  low : Fraction
  high : Fraction
  closed : Bool

/-- The interval of `m · 2 ^ e`. Below a power of two the neighbour is nearer, unless the
exponent is the smallest one. -/
def Interval.of (m : Nat) (e : Int) : Interval :=
  let scale (n : Nat) : Fraction :=
    if e ≥ 2 then ⟨n * Nat.pow 2 (e - 2).toNat, 1⟩ else ⟨n, Nat.pow 2 (2 - e).toNat⟩
  let below := if m = fractionSize ∧ e > -1074 then 1 else 2
  { value := scale (4 * m), low := scale (4 * m - below), high := scale (4 * m + 2)
    closed := m % 2 == 0 }

/-- The decimal `d · 10 ^ e` lies in the interval. -/
def Interval.contains (i : Interval) (d : Nat) (e : Int) : Bool :=
  if i.closed then !(i.low.exceeds d e) && i.high.atLeast d e
  else !(i.low.atLeast d e) && i.high.exceeds d e

/-- The exponent of the leading decimal digit of a positive number `m · 2 ^ e`. -/
def leadingExponent (value : Fraction) (m : Nat) (e : Int) : Int :=
  let guess : Int := Int.fdiv (((Nat.log2 m : Int) + e) * 30103) 100000
  if value.atLeast 1 (guess + 1) then guess + 1
  else if value.atLeast 1 guess then guess
  else guess - 1

/-- Look for a decimal with `n` digits, then with one more, at most `fuel` times. -/
def searchDigits (i : Interval) (lead : Int) : (fuel n : Nat) → Decimal
  | 0, n =>
    let e := lead + 1 - n
    ⟨i.value.gridFloor e, e⟩
  | fuel + 1, n =>
    let e := lead + 1 - n
    let d := i.value.gridFloor e
    let lower := i.contains d e
    let upper := i.contains (d + 1) e
    if lower && upper then
      -- The midpoint decides which neighbour is nearer.
      if i.value.atLeast (10 * d + 5) (e - 1) then ⟨d + 1, e⟩ else ⟨d, e⟩
    else if lower then ⟨d, e⟩
    else if upper then ⟨d + 1, e⟩
    else searchDigits i lead fuel (n + 1)

/-- Drop the zeros at the end of a decimal, at most `fuel` of them. -/
def Decimal.trimZeros (fuel : Nat) (d : Decimal) : Decimal :=
  match fuel with
  | 0 => d
  | fuel + 1 =>
    if d.digits ≠ 0 ∧ d.digits % 10 = 0 then
      Decimal.trimZeros fuel ⟨d.digits / 10, d.exponent + 1⟩
    else d

/-- The shortest decimal that reads back as the positive number `m · 2 ^ e`. -/
def shortest (m : Nat) (e : Int) : Decimal :=
  let i := Interval.of m e
  (searchDigits i (leadingExponent i.value m e) 17 1).trimZeros 20

end HostScript.Number
