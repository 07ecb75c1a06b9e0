import HostScript.Number.Layout
import HostScript.Proofs.Numbers

/-!
# The shortest decimal of a number

The decimal that is written for a positive number rounds to this number: no other number with 53
bits is nearer to the decimal, and one that is just as near is there only if the mantissa of the
number is even.

## Implementation notes

Fractions and decimals are compared as rationals, and all powers have integer exponents. The
decimals that round to a number are those in the interval around it, which ends half-way to its
neighbours. On the grid of seventeen digits the points are close enough for one of them to lie in
the interval, so the search stops there at the latest. This needs the exponent of the leading digit
not to be too large, and the guess for it multiplies the exponent of two by 0.30103: powers of ten
are compared with powers of two by `10 ^ 59 ≤ 2 ^ 196` and `2 ^ 93 ≤ 10 ^ 28`.
-/

namespace HostScript.Number

variable {m n d : Nat} {e f lead : Int} {i : Interval} {q : Fraction} {x : ℚ}

/-! ### Values -/

/-- The value of a finite number. -/
def HasValue (y : Float) (x : ℚ) : Prop :=
  ∃ negative m e, parts y = .finite negative m e ∧
    x = if negative then -(m * 2 ^ e : ℚ) else (m * 2 ^ e : ℚ)

theorem wholePart_eq_iff {w : Nat} :
    (∃ half, wholePart m e = (w, false, half)) ↔ (m * 2 ^ e : ℚ) = w := by
  simp only [wholePart, Nat.pow_eq]
  split
  · next nonneg =>
    obtain ⟨j, rfl⟩ := Int.eq_ofNat_of_zero_le nonneg
    simp only [Int.toNat_natCast, Prod.mk.injEq, true_and, exists_and_left, exists_eq', and_true,
      zpow_natCast]
    exact_mod_cast Iff.rfl
  · next neg =>
    obtain ⟨j, rfl⟩ := Int.exists_eq_neg_ofNat (Int.not_le.mp neg).le
    simp only [neg_neg, Int.toNat_natCast, Prod.mk.injEq, exists_and_left, exists_eq', and_true,
      bne_eq_false_iff_eq]
    rw [zpow_neg, zpow_natCast, ← div_eq_mul_inv, div_eq_iff (by positivity)]
    have multiple : m / 2 ^ j = w ∧ m % 2 ^ j = 0 ↔ m = w * 2 ^ j := by
      constructor
      · rintro ⟨rfl, none_⟩
        exact (Nat.div_mul_cancel (Nat.dvd_of_mod_eq_zero none_)).symm
      · rintro rfl
        exact ⟨Nat.mul_div_cancel _ (Nat.pow_pos (by decide)), Nat.mul_mod_left ..⟩
    rw [multiple]
    exact_mod_cast Iff.rfl

/-- A number is whole if its value is an integer. -/
theorem whole?_eq_some_iff {y : Float} {k : Int} : whole? y = some k ↔ HasValue y k := by
  constructor
  · intro whole
    unfold whole? at whole
    split at whole
    · next negative m e taken =>
      refine ⟨negative, m, e, taken, ?_⟩
      split at whole
      · next w half part =>
        obtain rfl := Option.some.inj whole
        rw [wholePart_eq_iff.mp ⟨half, part⟩]
        cases negative <;> simp
      · cases whole
    · cases whole
  · rintro ⟨negative, m, e, taken, value⟩
    have nonneg : (0 : ℚ) ≤ m * 2 ^ e := by positivity
    have size : (m * 2 ^ e : ℚ) = k.natAbs := by
      rw [Nat.cast_natAbs, Int.cast_abs, value]
      cases negative <;> simp [abs_of_nonneg nonneg]
    obtain ⟨half, part⟩ := wholePart_eq_iff.mpr size
    rw [size] at value
    have signed : ((if negative then -(k.natAbs : Int) else k.natAbs : Int) : ℚ) = k := by
      rw [value]
      cases negative <;> simp
    simp only [whole?, taken, part]
    exact congrArg some (Int.cast_inj.mp signed)

/-! ### Rounding -/

/-- The number `m · 2 ^ e` is what `x` rounds to: every other number with 53 bits is farther away,
or just as far while `m` is even. -/
def Nearest (m : Nat) (e : Int) (x : ℚ) : Prop :=
  ∀ (n : Nat) (f : Int), n < 2 ^ 53 → -1074 ≤ f → (n * 2 ^ f : ℚ) ≠ m * 2 ^ e →
    |x - m * 2 ^ e| < |x - n * 2 ^ f| ∨ (|x - m * 2 ^ e| = |x - n * 2 ^ f| ∧ Even m)

/-- A positive number as it is taken apart: the mantissa has 53 bits, unless the exponent is the
smallest one. -/
structure Normal (m : Nat) (e : Int) : Prop where
  pos : 0 < m
  small : m < 2 ^ 53
  least : -1074 ≤ e
  most : e ≤ 971
  large : -1074 < e → 2 ^ 52 ≤ m

theorem normal_of_parts {y : Float} {negative : Bool} (taken : parts y = .finite negative m e)
    (some_ : m ≠ 0) : Normal m e := by
  have pos := Nat.pos_of_ne_zero some_
  obtain ⟨small, least⟩ | ⟨large, small, least, most⟩ := range_of_parts taken
  · exact ⟨pos, by omega, by omega, by omega, by omega⟩
  · exact ⟨pos, small, least, most, fun _ => large⟩

/-- The distance to the next number below, in units of the last place: half of it below a power of
two, unless the exponent is the smallest one. -/
def unitBelow (m : Nat) (e : Int) : ℚ := if m = 2 ^ 52 ∧ -1074 < e then 1 / 2 else 1

theorem unitBelow_cases (m : Nat) (e : Int) :
    (m = 2 ^ 52 ∧ -1074 < e ∧ unitBelow m e = 1 / 2) ∨
      (¬(m = 2 ^ 52 ∧ -1074 < e) ∧ unitBelow m e = 1) := by
  unfold unitBelow
  split
  · next power => exact .inl ⟨power.1, power.2, rfl⟩
  · next other => exact .inr ⟨other, rfl⟩

theorem unitBelow_pos (m : Nat) (e : Int) : 0 < unitBelow m e := by
  obtain ⟨-, -, step⟩ | ⟨-, step⟩ := unitBelow_cases m e <;> rw [step] <;> norm_num

theorem two_zpow_pos (e : Int) : (0 : ℚ) < 2 ^ e := zpow_pos (by norm_num) e

/-- A number with a larger exponent is a multiple of the unit of a smaller one. -/
theorem exists_eq_mul_zpow (n : Nat) (le : e ≤ f) : ∃ k : Nat, (n * 2 ^ f : ℚ) = k * 2 ^ e := by
  obtain ⟨j, rfl⟩ := Int.le.dest le
  refine ⟨n * 2 ^ j, ?_⟩
  rw [zpow_add₀ (by norm_num), zpow_natCast]
  push_cast
  ring

/-- A number with a smaller exponent than `e` is less than the smallest one with 53 bits and this
exponent. -/
theorem mul_zpow_lt (small : n < 2 ^ 53) {k : Nat} (lower : f ≤ e - k) :
    (n * 2 ^ f : ℚ) < 2 ^ (53 - k : Int) * 2 ^ e := by
  have bound : (n : ℚ) < 2 ^ 53 := by exact_mod_cast small
  calc (n * 2 ^ f : ℚ) < 2 ^ 53 * 2 ^ f := mul_lt_mul_of_pos_right bound (two_zpow_pos f)
    _ ≤ 2 ^ 53 * 2 ^ (e - k) :=
        mul_le_mul_of_nonneg_left (zpow_le_zpow_right₀ (by norm_num) lower) (by norm_num)
    _ = 2 ^ (53 - k : Int) * 2 ^ e := by
        rw [← zpow_natCast, ← zpow_add₀ (by norm_num), ← zpow_add₀ (by norm_num)]
        congr 1
        push_cast
        ring

/-- The next number above is one unit away. -/
theorem above (normal : Normal m e) (small : n < 2 ^ 53) (least : -1074 ≤ f)
    (greater : (m * 2 ^ e : ℚ) < n * 2 ^ f) : (m * 2 ^ e + 2 ^ e : ℚ) ≤ n * 2 ^ f := by
  have unit := two_zpow_pos e
  by_cases le : e ≤ f
  · obtain ⟨k, same⟩ := exists_eq_mul_zpow n le
    rw [same] at greater ⊢
    have more : m < k := by exact_mod_cast lt_of_mul_lt_mul_right greater unit.le
    have more' : (m + 1 : ℚ) ≤ k := by exact_mod_cast more
    calc (m * 2 ^ e + 2 ^ e : ℚ) = (m + 1) * 2 ^ e := by ring
      _ ≤ k * 2 ^ e := mul_le_mul_of_nonneg_right more' unit.le
  · have large : (2 ^ 52 : ℚ) ≤ m := by exact_mod_cast normal.large (by omega)
    have less := mul_zpow_lt (k := 1) small (show f ≤ e - (1 : Nat) by omega)
    have least' : (2 ^ 52 * 2 ^ e : ℚ) ≤ m * 2 ^ e := mul_le_mul_of_nonneg_right large unit.le
    norm_num at less least'
    linarith

/-- The next number below is one unit away, or half of one. -/
theorem below (normal : Normal m e) (small : n < 2 ^ 53) (least : -1074 ≤ f)
    (less : (n * 2 ^ f : ℚ) < m * 2 ^ e) :
    (n * 2 ^ f : ℚ) ≤ m * 2 ^ e - unitBelow m e * 2 ^ e := by
  have unit := two_zpow_pos e
  by_cases le : e ≤ f
  · obtain ⟨k, same⟩ := exists_eq_mul_zpow n le
    rw [same] at less ⊢
    have fewer : k < m := by exact_mod_cast lt_of_mul_lt_mul_right less unit.le
    have fewer' : (k + 1 : ℚ) ≤ m := by exact_mod_cast fewer
    have apart : ((k + 1) * 2 ^ e : ℚ) ≤ m * 2 ^ e := mul_le_mul_of_nonneg_right fewer' unit.le
    obtain ⟨-, -, step⟩ | ⟨-, step⟩ := unitBelow_cases m e <;> rw [step] <;> linarith
  · obtain ⟨power, -, step⟩ | ⟨other, step⟩ := unitBelow_cases m e
    · -- just below a power of two the numbers lie twice as close
      rw [step, power]
      by_cases next : f = e - 1
      · have half : (2 ^ f : ℚ) = 2 ^ e / 2 := by rw [next, zpow_sub₀ (by norm_num), zpow_one]
        have bound : (n + 1 : ℚ) ≤ 2 ^ 53 := by exact_mod_cast small
        have apart : ((n + 1) * 2 ^ e : ℚ) ≤ 2 ^ 53 * 2 ^ e :=
          mul_le_mul_of_nonneg_right bound unit.le
        rw [half]
        norm_num at apart ⊢
        linarith
      · have less' := mul_zpow_lt (k := 2) small (show f ≤ e - (2 : Nat) by omega)
        norm_num at less' ⊢
        linarith
    · have larger : 2 ^ 52 < m :=
        lt_of_le_of_ne (normal.large (by omega)) fun power => other ⟨power.symm, by omega⟩
      have larger' : (2 ^ 52 + 1 : ℚ) ≤ m := by exact_mod_cast larger
      have least' : ((2 ^ 52 + 1) * 2 ^ e : ℚ) ≤ m * 2 ^ e :=
        mul_le_mul_of_nonneg_right larger' unit.le
      have less' := mul_zpow_lt (k := 1) small (show f ≤ e - (1 : Nat) by omega)
      rw [step]
      norm_num at less' least'
      linarith

/-- Between the points half-way to the neighbours of a number, or one of these points if the
mantissa is even. -/
structure Within (m : Nat) (e : Int) (x : ℚ) : Prop where
  low : m * 2 ^ e - unitBelow m e * 2 ^ e / 2 ≤ x
  high : x ≤ m * 2 ^ e + 2 ^ e / 2
  ends : x = m * 2 ^ e - unitBelow m e * 2 ^ e / 2 ∨ x = m * 2 ^ e + 2 ^ e / 2 → Even m

theorem within_of_lt (low : m * 2 ^ e - unitBelow m e * 2 ^ e / 2 < x)
    (high : x < m * 2 ^ e + 2 ^ e / 2) : Within m e x :=
  ⟨low.le, high.le, fun ends => ends.elim (absurd · low.ne') (absurd · high.ne)⟩

/-- What lies between these points rounds to the number. -/
theorem Within.nearest (within : Within m e x) (normal : Normal m e) : Nearest m e x := by
  intro n f small least other
  have decided (le : |x - m * 2 ^ e| ≤ |x - n * 2 ^ f|)
      (tie : |x - m * 2 ^ e| = |x - n * 2 ^ f| → Even m) :
      |x - m * 2 ^ e| < |x - n * 2 ^ f| ∨ (|x - m * 2 ^ e| = |x - n * 2 ^ f| ∧ Even m) :=
    (lt_or_eq_of_le le).imp_right fun same => ⟨same, tie same⟩
  obtain ⟨low, high, ends⟩ := within
  have unit := two_zpow_pos e
  have unit' : (0 : ℚ) < unitBelow m e * 2 ^ e := mul_pos (unitBelow_pos m e) unit
  obtain less | greater := lt_or_gt_of_ne other
  · have gap := below normal small least less
    have apart : |x - n * 2 ^ f| = x - n * 2 ^ f := abs_of_nonneg (by linarith)
    rw [apart] at decided ⊢
    apply decided
    · rw [abs_le]
      constructor <;> linarith
    · intro same
      apply ends
      left
      obtain ⟨distance, -⟩ | ⟨distance, -⟩ := abs_cases (x - m * 2 ^ e) <;> linarith
  · have gap := above normal small least greater
    have apart : |x - n * 2 ^ f| = n * 2 ^ f - x := by
      rw [abs_sub_comm]
      exact abs_of_nonneg (by linarith)
    rw [apart] at decided ⊢
    apply decided
    · rw [abs_le]
      constructor <;> linarith
    · intro same
      apply ends
      right
      obtain ⟨distance, -⟩ | ⟨distance, -⟩ := abs_cases (x - m * 2 ^ e) <;> linarith

/-! ### Fractions -/

/-- The rational number of a fraction. -/
def Fraction.toRat (q : Fraction) : ℚ := q.num / q.den

theorem atLeast_iff (den : 0 < q.den) : q.atLeast d e = true ↔ (d * 10 ^ e : ℚ) ≤ q.toRat := by
  have den' : (0 : ℚ) < q.den := by exact_mod_cast den
  rw [Fraction.toRat, le_div_iff₀ den', Fraction.atLeast]
  split
  · next nonneg =>
    obtain ⟨k, rfl⟩ := Int.eq_ofNat_of_zero_le nonneg
    rw [decide_eq_true_eq, Int.toNat_natCast, zpow_natCast]
    exact_mod_cast Iff.rfl
  · next neg =>
    obtain ⟨k, rfl⟩ := Int.exists_eq_neg_ofNat (Int.not_le.mp neg).le
    have ten : (0 : ℚ) < 10 ^ k := by positivity
    rw [decide_eq_true_eq, neg_neg, Int.toNat_natCast, zpow_neg, zpow_natCast, ← div_eq_mul_inv,
      div_mul_eq_mul_div, div_le_iff₀ ten]
    exact_mod_cast Iff.rfl

theorem exceeds_iff (den : 0 < q.den) : q.exceeds d e = true ↔ (d * 10 ^ e : ℚ) < q.toRat := by
  have den' : (0 : ℚ) < q.den := by exact_mod_cast den
  rw [Fraction.toRat, lt_div_iff₀ den', Fraction.exceeds]
  split
  · next nonneg =>
    obtain ⟨k, rfl⟩ := Int.eq_ofNat_of_zero_le nonneg
    rw [decide_eq_true_eq, Int.toNat_natCast, zpow_natCast]
    exact_mod_cast Iff.rfl
  · next neg =>
    obtain ⟨k, rfl⟩ := Int.exists_eq_neg_ofNat (Int.not_le.mp neg).le
    have ten : (0 : ℚ) < 10 ^ k := by positivity
    rw [decide_eq_true_eq, neg_neg, Int.toNat_natCast, zpow_neg, zpow_natCast, ← div_eq_mul_inv,
      div_mul_eq_mul_div, div_lt_iff₀ ten]
    exact_mod_cast Iff.rfl

theorem atLeast_iff_le_gridFloor (den : 0 < q.den) : q.atLeast d e = true ↔ d ≤ q.gridFloor e := by
  simp only [Fraction.atLeast, Fraction.gridFloor, Nat.pow_eq]
  split
  · rw [decide_eq_true_eq, Nat.le_div_iff_mul_le (Nat.mul_pos den (Nat.pow_pos (by decide))),
      Nat.mul_comm q.den, Nat.mul_assoc]
  · rw [decide_eq_true_eq, Nat.le_div_iff_mul_le den]

theorem gridFloor_le (den : 0 < q.den) (e : Int) : (q.gridFloor e * 10 ^ e : ℚ) ≤ q.toRat :=
  (atLeast_iff den).mp ((atLeast_iff_le_gridFloor den).mpr le_rfl)

theorem lt_gridFloor_succ (den : 0 < q.den) (e : Int) :
    q.toRat < ((q.gridFloor e + 1 : Nat) * 10 ^ e : ℚ) := by
  rw [← not_le, ← atLeast_iff den, atLeast_iff_le_gridFloor den]
  exact Nat.not_succ_le_self _

/-! ### The interval of a number -/

/-- A multiple of a quarter of the unit, as a fraction. -/
theorem toRat_quarters (n : Nat) (e : Int) :
    (if e ≥ 2 then (⟨n * Nat.pow 2 (e - 2).toNat, 1⟩ : Fraction)
      else ⟨n, Nat.pow 2 (2 - e).toNat⟩).toRat = n * 2 ^ e / 4 := by
  have four : (4 : ℚ) = 2 ^ (2 : Int) := by norm_num
  rw [four, mul_div_assoc, ← zpow_sub₀ (by norm_num)]
  split
  · next ge =>
    obtain ⟨k, same⟩ := Int.eq_ofNat_of_zero_le (Int.sub_nonneg.mpr ge)
    rw [same, Int.toNat_natCast, zpow_natCast, Fraction.toRat, Nat.pow_eq]
    push_cast
    rw [div_one]
  · next lt =>
    obtain ⟨k, same⟩ := Int.eq_ofNat_of_zero_le (Int.sub_nonneg.mpr (Int.not_le.mp lt).le)
    have same' : e - 2 = -(k : Int) := by omega
    rw [same, same', Int.toNat_natCast, zpow_neg, zpow_natCast, ← div_eq_mul_inv, Fraction.toRat,
      Nat.pow_eq]
    push_cast
    rfl

theorem den_quarters_pos (n : Nat) (e : Int) :
    0 < (if e ≥ 2 then (⟨n * Nat.pow 2 (e - 2).toNat, 1⟩ : Fraction)
      else ⟨n, Nat.pow 2 (2 - e).toNat⟩).den := by
  split
  · exact Nat.one_pos
  · exact Nat.pow_pos (by decide)

theorem den_value_pos (m : Nat) (e : Int) : 0 < (Interval.of m e).value.den :=
  den_quarters_pos _ e

theorem toRat_value (m : Nat) (e : Int) : (Interval.of m e).value.toRat = m * 2 ^ e := by
  refine (toRat_quarters _ e).trans ?_
  push_cast
  ring

theorem toRat_high (m : Nat) (e : Int) :
    (Interval.of m e).high.toRat = m * 2 ^ e + 2 ^ e / 2 := by
  refine (toRat_quarters _ e).trans ?_
  push_cast
  ring

theorem toRat_low (pos : 0 < m) (e : Int) :
    (Interval.of m e).low.toRat = m * 2 ^ e - unitBelow m e * 2 ^ e / 2 := by
  refine (toRat_quarters _ e).trans ?_
  have power : fractionSize = 2 ^ 52 := rfl
  simp only [power, gt_iff_lt]
  unfold unitBelow
  split
  · rw [Nat.cast_sub (by omega)]
    push_cast
    ring
  · rw [Nat.cast_sub (by omega)]
    push_cast
    ring

/-- The interval holds the decimals that lie between the points half-way to the neighbours. -/
theorem contains_iff (pos : 0 < m) :
    (Interval.of m e).contains d f = true ↔ Within m e (d * 10 ^ f) := by
  have low : 0 < (Interval.of m e).low.den := den_quarters_pos _ e
  have high : 0 < (Interval.of m e).high.den := den_quarters_pos _ e
  have closed : (Interval.of m e).closed = (m % 2 == 0) := rfl
  rw [Interval.contains, closed]
  by_cases even : Even m
  · rw [if_pos (by simpa using Nat.even_iff.mp even), Bool.and_eq_true, Bool.not_eq_true',
      ← Bool.not_eq_true, exceeds_iff low, atLeast_iff high, toRat_low pos, toRat_high, not_lt]
    exact ⟨fun both => ⟨both.1, both.2, fun _ => even⟩, fun within => ⟨within.low, within.high⟩⟩
  · rw [if_neg (by simpa using Nat.not_even_iff.mp even), Bool.and_eq_true, Bool.not_eq_true',
      ← Bool.not_eq_true, atLeast_iff low, exceeds_iff high, toRat_low pos, toRat_high, not_le]
    constructor
    · exact fun both => within_of_lt both.1 both.2
    · intro within
      exact ⟨lt_of_le_of_ne within.low fun same => even (within.ends (.inl same.symm)),
        lt_of_le_of_ne within.high fun same => even (within.ends (.inr same))⟩

/-! ### The leading digit -/

theorem pow_ten_le_pow_two {j k : Nat} (le : 196 * k ≤ 59 * j) : 10 ^ k ≤ 2 ^ j := by
  apply (Nat.pow_le_pow_iff_left (n := 59) (by decide)).mp
  calc (10 ^ k) ^ 59 = (10 ^ 59) ^ k := Nat.pow_right_comm ..
    _ ≤ (2 ^ 196) ^ k := Nat.pow_le_pow_left (by decide) k
    _ = 2 ^ (196 * k) := (Nat.pow_mul ..).symm
    _ ≤ 2 ^ (59 * j) := Nat.pow_le_pow_right (by decide) le
    _ = (2 ^ j) ^ 59 := by rw [Nat.mul_comm, Nat.pow_mul]

theorem pow_two_le_pow_ten {j k : Nat} (le : 28 * j ≤ 93 * k) : 2 ^ j ≤ 10 ^ k := by
  apply (Nat.pow_le_pow_iff_left (n := 28) (by decide)).mp
  calc (2 ^ j) ^ 28 = 2 ^ (28 * j) := by rw [Nat.mul_comm, Nat.pow_mul]
    _ ≤ 2 ^ (93 * k) := Nat.pow_le_pow_right (by decide) le
    _ = (2 ^ 93) ^ k := Nat.pow_mul ..
    _ ≤ (10 ^ 28) ^ k := Nat.pow_le_pow_left (by decide) k
    _ = (10 ^ k) ^ 28 := Nat.pow_right_comm ..

theorem ten_zpow_le_two_zpow {j k : Int} (up : 196 * k ≤ 59 * j) (down : 93 * k ≤ 28 * j) :
    (10 ^ k : ℚ) ≤ 2 ^ j := by
  by_cases nonneg : 0 ≤ k
  · obtain ⟨k, rfl⟩ := Int.eq_ofNat_of_zero_le nonneg
    obtain ⟨j, rfl⟩ := Int.eq_ofNat_of_zero_le (show 0 ≤ j by omega)
    rw [zpow_natCast, zpow_natCast]
    exact_mod_cast pow_ten_le_pow_two (j := j) (k := k) (by omega)
  · by_cases nonneg' : 0 ≤ j
    · calc (10 ^ k : ℚ) ≤ 10 ^ (0 : Int) := zpow_le_zpow_right₀ (by norm_num) (by omega)
        _ = 2 ^ (0 : Int) := by norm_num
        _ ≤ 2 ^ j := zpow_le_zpow_right₀ (by norm_num) nonneg'
    · obtain ⟨k, rfl⟩ := Int.exists_eq_neg_ofNat (Int.not_le.mp nonneg).le
      obtain ⟨j, rfl⟩ := Int.exists_eq_neg_ofNat (Int.not_le.mp nonneg').le
      rw [zpow_neg, zpow_neg, zpow_natCast, zpow_natCast]
      apply inv_anti₀ (by positivity)
      exact_mod_cast pow_two_le_pow_ten (j := j) (k := k) (by omega)

/-- The leading digit is not placed too high. -/
theorem ten_zpow_leadingExponent_le (normal : Normal m e) :
    (10 ^ leadingExponent (Interval.of m e).value m e : ℚ) ≤ m * 2 ^ e := by
  have tested (k : Int) (atLeast : (Interval.of m e).value.atLeast 1 k = true) :
      (10 ^ k : ℚ) ≤ m * 2 ^ e := by
    simpa [toRat_value] using (atLeast_iff (den_value_pos m e)).mp atLeast
  simp only [leadingExponent, Int.fdiv_eq_ediv_of_nonneg _ (by decide : (0 : Int) ≤ 100000)]
  split
  · next hit => exact tested _ hit
  · split
    · next hit => exact tested _ hit
    · have some_ : m ≠ 0 := normal.pos.ne'
      have bits : m.log2 < 53 := (Nat.log2_lt some_).mpr normal.small
      have least := normal.least
      have most := normal.most
      have bit : (2 ^ m.log2 : ℚ) ≤ m := by exact_mod_cast Nat.log2_self_le some_
      calc (10 ^ (((m.log2 : Int) + e) * 30103 / 100000 - 1) : ℚ) ≤ 2 ^ ((m.log2 : Int) + e) :=
            ten_zpow_le_two_zpow (by omega) (by omega)
        _ = 2 ^ m.log2 * 2 ^ e := by rw [zpow_add₀ (by norm_num), zpow_natCast]
        _ ≤ m * 2 ^ e := mul_le_mul_of_nonneg_right bit (two_zpow_pos e).le

/-! ### The search -/

/-- One of the neighbours on the grid lies in the interval. -/
def Interval.Meets (i : Interval) (e : Int) : Prop :=
  i.contains (i.value.gridFloor e) e = true ∨ i.contains (i.value.gridFloor e + 1) e = true

/-- On a grid with seventeen digits one of the neighbours of a number lies in its interval. -/
theorem meets_of_seventeen (normal : Normal m e) (fine : (10 ^ f * 10 ^ 16 : ℚ) ≤ m * 2 ^ e) :
    (Interval.of m e).Meets f := by
  rw [Interval.Meets, contains_iff normal.pos, contains_iff normal.pos]
  have floor := gridFloor_le (den_value_pos m e) f
  have next := lt_gridFloor_succ (den_value_pos m e) f
  rw [toRat_value] at floor next
  generalize (Interval.of m e).value.gridFloor f = g at floor next ⊢
  push_cast at next ⊢
  rw [add_mul, one_mul] at next ⊢
  have unit := two_zpow_pos e
  obtain ⟨power, -, step⟩ | ⟨-, step⟩ := unitBelow_cases m e
  · -- a power of two has little room below it, but enough above
    have power' : (m : ℚ) = 2 ^ 52 := by exact_mod_cast power
    have fine' : (10 ^ f * 10 ^ 16 : ℚ) ≤ 2 ^ 52 * 2 ^ e := power' ▸ fine
    right
    apply within_of_lt
    · rw [step]
      linarith
    · linarith
  · have bound : (m : ℚ) ≤ 2 ^ 53 := by exact_mod_cast normal.small.le
    have bound' : (m * 2 ^ e : ℚ) ≤ 2 ^ 53 * 2 ^ e := mul_le_mul_of_nonneg_right bound unit.le
    by_cases near : (m * 2 ^ e - 2 ^ e / 2 : ℚ) < g * 10 ^ f
    · left
      apply within_of_lt
      · rwa [step, one_mul]
      · linarith
    · right
      apply within_of_lt
      · rw [step]
        linarith
      · linarith

/-- The search ends in the interval, or this grid does not meet it. -/
theorem searchDigits_succ (i : Interval) (lead : Int) (fuel n : Nat) :
    i.contains (searchDigits i lead (fuel + 1) n).digits
        (searchDigits i lead (fuel + 1) n).exponent = true ∨
      (¬i.Meets (lead + 1 - n) ∧
        searchDigits i lead (fuel + 1) n = searchDigits i lead fuel (n + 1)) := by
  rw [searchDigits, Interval.Meets]
  split
  · next both =>
    rw [Bool.and_eq_true] at both
    left
    split
    · exact both.2
    · exact both.1
  · split
    · next hit => exact .inl hit
    · next lower =>
      split
      · next hit => exact .inl hit
      · next upper => exact .inr ⟨fun meets => meets.elim lower upper, rfl⟩

/-- What is found lies in the interval if the last grid meets it. By induction on the number of
grids that are tried before. -/
theorem contains_searchDigits (fuel n : Nat) (last : i.Meets (lead + 1 - (n + fuel : Nat))) :
    i.contains (searchDigits i lead (fuel + 1) n).digits
      (searchDigits i lead (fuel + 1) n).exponent = true := by
  induction fuel generalizing n with
  | zero =>
      obtain found | ⟨missed, -⟩ := searchDigits_succ i lead 0 n
      · exact found
      · exact absurd last missed
  | succ fuel ih =>
      obtain found | ⟨-, further⟩ := searchDigits_succ i lead (fuel + 1) n
      · exact found
      · rw [further]
        apply ih
        rwa [Nat.add_right_comm n 1 fuel]

/-- The rational number of a decimal. -/
def Decimal.toRat (d : Decimal) : ℚ := d.digits * 10 ^ d.exponent

theorem toRat_trimZeros (fuel : Nat) (d : Decimal) : (d.trimZeros fuel).toRat = d.toRat := by
  fun_induction Decimal.trimZeros fuel d with
  | case1 d => rfl
  | case2 d fuel divides ih =>
      have tens : d.digits = d.digits / 10 * 10 := by omega
      rw [ih, Decimal.toRat, Decimal.toRat, zpow_add_one₀ (by norm_num)]
      conv_rhs => rw [tens]
      push_cast
      ring
  | case3 d fuel other => rfl

theorem within_shortest (normal : Normal m e) : Within m e (shortest m e).toRat := by
  rw [shortest, toRat_trimZeros, Decimal.toRat, ← contains_iff normal.pos]
  apply contains_searchDigits
  apply meets_of_seventeen normal
  calc (10 ^ (leadingExponent (Interval.of m e).value m e + 1 - (1 + 16 : Nat)) * 10 ^ 16 : ℚ)
      = 10 ^ leadingExponent (Interval.of m e).value m e := by
        rw [← zpow_natCast, ← zpow_add₀ (by norm_num)]
        congr 1
        push_cast
        ring
    _ ≤ m * 2 ^ e := ten_zpow_leadingExponent_le normal

/-- The shortest decimal rounds to its number. -/
theorem nearest_shortest (normal : Normal m e) : Nearest m e (shortest m e).toRat :=
  (within_shortest normal).nearest normal

-- the number nearest to 0.1
example : shortest 0x1999999999999A (-56) = ⟨1, -1⟩ := by decide +kernel

/-- The shortest decimal of a positive number is positive. -/
theorem shortest_digits_ne_zero (normal : Normal m e) : (shortest m e).digits ≠ 0 := by
  intro none_
  have low := (within_shortest normal).low
  have one : (1 : ℚ) ≤ m := by exact_mod_cast normal.pos
  have unit := two_zpow_pos e
  have number : (2 ^ e : ℚ) ≤ m * 2 ^ e := le_mul_of_one_le_left unit.le one
  rw [Decimal.toRat, none_, Nat.cast_zero, zero_mul] at low
  obtain ⟨-, -, step⟩ | ⟨-, step⟩ := unitBelow_cases m e <;> rw [step] at low <;> linarith

end HostScript.Number
