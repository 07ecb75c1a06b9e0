import HostScript.Number.Reading
import Mathlib

/-!
# Whole numbers

A number that is whole and below `10 ^ 15` is equal to what its decimal digits are read as: the two
zeros are equal, and any other number of this size is the same number again.

## Implementation notes

The arithmetic of numbers is computed on a sign, a mantissa and an exponent and rounded to a
mantissa of 53 bits. A natural number below `2 ^ 53`, shifted to the left as far as possible, is
already in that form, so nothing is ever rounded here: rounding is only shown to change nothing.
-/

namespace HostScript.Number

open Float.Model Float.Model.UnpackedFloat

/-! ### Numbers taken apart -/

/-- The sign of a number that is negative or not. -/
def signOf (negative : Bool) : Sign := if negative then .negative else .positive

section Parts

variable {x : Float} {negative : Bool} {m : Nat} {e : Int}

/-- The unpacked form of a number that is taken apart. -/
theorem unpack_of_parts (taken : parts x = .finite negative m e) :
    (∃ pos, x.toModel.unpack = .finite (signOf negative) m e pos) ∨
      (m = 0 ∧ x.toModel.unpack = .zero (signOf negative)) := by
  have high : x.toModel.toBits.toNat < 2 ^ 64 := x.toModel.toBits.toNat_lt
  have mantissa : (@unpackMantissa Format.binary64 x.toModel.toBits.toBitVec).toNat =
      x.toBits.toNat % fractionSize := by
    simp [unpackMantissa, Float.toBits, fractionSize]
  have exponent : (@unpackExponent Format.binary64 x.toModel.toBits.toBitVec).toNat =
      x.toBits.toNat / fractionSize % 2048 := by
    simp [unpackExponent, Float.toBits, fractionSize, Nat.shiftRight_eq_div_pow]
  have sign : Sign.ofBitVec (@unpackSign Format.binary64 x.toModel.toBits.toBitVec) =
      signOf (x.toBits.toNat / signBit == 1) := by
    have bit : (@unpackSign Format.binary64 x.toModel.toBits.toBitVec).toNat =
        x.toBits.toNat / signBit := by
      simp [unpackSign, Float.toBits, signBit, Nat.shiftRight_eq_div_pow]
      omega
    have two : x.toBits.toNat / signBit = 0 ∨ x.toBits.toNat / signBit = 1 := by
      simp only [Float.toBits, signBit]
      omega
    simp only [Sign.ofBitVec, signOf, ← BitVec.toNat_inj, bit, BitVec.toNat_ofNat]
    rcases two with two | two <;> simp [two]
  have joined : (1#1 ++ @unpackMantissa Format.binary64 x.toModel.toBits.toBitVec).toNat =
      fractionSize + x.toBits.toNat % fractionSize := by
    rw [BitVec.toNat_append, ← Nat.shiftLeft_add_eq_or_of_lt (BitVec.isLt _), mantissa]
    rfl
  have ones : (-1#11).toNat = 2047 := rfl
  have bias : Format.binary64.exponentBias = 1023 := rfl
  simp only [parts] at taken
  simp only [Float.Model.unpack, UnpackedFloat.unpack, ← BitVec.toNat_inj, BitVec.toNat_zero, ones,
    bias, sign, joined, mantissa, exponent]
  split at taken
  · split at taken <;> cases taken
  · next finite =>
    simp only [if_neg finite]
    split at taken
    · next subnormal =>
      cases taken
      simp only [if_pos subnormal]
      split
      · next zero => exact .inr ⟨zero, rfl⟩
      · next some_ =>
        refine .inl ⟨Nat.pos_of_ne_zero some_, ?_⟩
        simp only [subnormal]
        rfl
    · next normal =>
      cases taken
      simp only [if_neg normal]
      exact .inl ⟨Nat.add_pos_left (by decide) _, rfl⟩

/-- A mantissa has 53 bits, unless the exponent is the smallest one. -/
theorem range_of_parts (taken : parts x = .finite negative m e) :
    (m < 2 ^ 52 ∧ e = -1074) ∨ (2 ^ 52 ≤ m ∧ m < 2 ^ 53 ∧ -1074 ≤ e ∧ e ≤ 971) := by
  have bound : x.toBits.toNat % fractionSize < 2 ^ 52 := Nat.mod_lt _ (by decide)
  have biased : x.toBits.toNat / fractionSize % 2048 < 2048 := Nat.mod_lt _ (by decide)
  simp only [parts] at taken
  split at taken
  · split at taken <;> cases taken
  · split at taken
    · cases taken
      exact .inl ⟨bound, rfl⟩
    · cases taken
      simp only [fractionSize] at *
      exact .inr ⟨by omega, by omega, by omega, by omega⟩

end Parts

/-! ### Mantissas of 53 bits -/

section Normal

variable {s : Sign} {M : Nat} {E : Int}

theorem log2_normal (low : 2 ^ 52 ≤ M) (high : M < 2 ^ 53) (k : Nat) :
    (M * 2 ^ k).log2 = 52 + k := by
  rw [Nat.log2_eq_iff (by positivity)]
  constructor
  · rw [pow_add]
    exact Nat.mul_le_mul_right _ low
  · rw [show 52 + k + 1 = 53 + k by omega, pow_add]
    exact Nat.mul_lt_mul_of_pos_right high (by positivity)

/-- A number with a mantissa of 53 bits is packed without loss. -/
theorem unpack_pack_normal (low : 2 ^ 52 ≤ M) (high : M < 2 ^ 53) (least : -1074 ≤ E)
    (most : E ≤ 971) (pos : 0 < M) :
    (Float.Model.pack (.finite s M E pos)).unpack = .finite s M E pos := by
  have log : M.log2 + 1 = Format.binary64.mantissaBits := by
    have := log2_normal low high 0
    rw [pow_zero, mul_one] at this
    rw [this]
    rfl
  have bias : Format.binary64.exponentBias = 1023 := rfl
  obtain ⟨biased, sum⟩ : ∃ biased, (E + (1023 : Nat) + (52 : Nat)).toNat = biased := ⟨_, rfl⟩
  have exponent : (BitVec.ofNat 11 biased).toNat = biased := by
    rw [BitVec.toNat_ofNat, Nat.mod_eq_of_lt (by omega)]
  have mantissa : (1#1 ++ BitVec.ofNat 52 M).toNat = M := by
    rw [BitVec.toNat_append, ← Nat.shiftLeft_add_eq_or_of_lt (BitVec.isLt _), BitVec.toNat_ofNat]
    simp only [Nat.shiftLeft_eq, BitVec.toNat_ofNat]
    omega
  have ones : (-1#11).toNat = 2047 := rfl
  simp only [Float.Model.unpack, Float.Model.pack, UnpackedFloat.pack, bias, sum]
  rw [if_neg (by omega), if_pos log]
  simp only [UnpackedFloat.unpack, unpackExponent_packComponents, unpackMantissa_packComponents,
    unpackSign_packComponents, Sign.ofBitVec_toBitVec, ← BitVec.toNat_inj, exponent, mantissa, ones,
    BitVec.toNat_zero, bias]
  rw [if_neg (by omega), if_neg (by omega)]
  congr 1
  omega

/-- Zeros at the end of a mantissa are shifted out without a trace. -/
theorem repeat_shiftRightOne (M k : Nat) :
    Nat.repeat ExtendedMantissa.shiftRightOne k ⟨M * 2 ^ k, false, false⟩ = ⟨M, false, false⟩ := by
  induction k generalizing M with
  | zero => simp [Nat.repeat]
  | succ k ih =>
    have again : M * 2 ^ (k + 1) = M * 2 * 2 ^ k := by ring
    rw [Nat.repeat, again, ih]
    simp [ExtendedMantissa.shiftRightOne]

theorem shiftToTargetExponent_normal (low : 2 ^ 52 ≤ M) (high : M < 2 ^ 53) (least : -1074 ≤ E)
    (k : Nat) :
    shiftToTargetExponent Format.binary64 (M * 2 ^ k) (E - k) .exact = (⟨M, false, false⟩, E) := by
  have target : Format.binary64.targetExponent (totalExponent (M * 2 ^ k) (E - k)) = E := by
    simp only [Format.targetExponent, totalExponent, log2_normal low high k, Format.mantissaBits,
      Format.minExponent]
    omega
  have amount : (E - (E - k)).toNat = k := by omega
  simp only [shiftToTargetExponent, shiftToExponent, target, amount]
  refine Prod.ext (repeat_shiftRightOne M k) ?_
  exact Int.sub_add_cancel E k

/-- A number with trailing zeros in its mantissa is rounded to itself. -/
theorem roundWithAccuracy_normal (low : 2 ^ 52 ≤ M) (high : M < 2 ^ 53) (least : -1074 ≤ E)
    (pos : 0 < M) (k : Nat) :
    roundWithAccuracy Format.binary64 s (M * 2 ^ k) (E - k) .exact = .finite s M E pos := by
  have again := shiftToTargetExponent_normal low high least 0
  rw [pow_zero, mul_one, Nat.cast_zero, sub_zero] at again
  have rounded : ExtendedMantissa.roundedMantissa ⟨M, false, false⟩ = M := rfl
  simp only [roundWithAccuracy, shiftToTargetExponent_normal low high least k, rounded, again]
  rw [dif_neg (by omega)]

end Normal

/-! ### Whole numbers -/

section Whole

variable {w : Nat}

/-- Shifted to the left as far as possible, a natural number has 53 bits. -/
theorem normal_shifted (some_ : w ≠ 0) (small : w < 2 ^ 53) :
    2 ^ 52 ≤ w * 2 ^ (52 - w.log2) ∧ w * 2 ^ (52 - w.log2) < 2 ^ 53 := by
  have log : w.log2 < 53 := (Nat.log2_lt some_).mpr small
  constructor
  · calc 2 ^ 52 = 2 ^ w.log2 * 2 ^ (52 - w.log2) := by rw [← pow_add]; congr 1; omega
      _ ≤ w * 2 ^ (52 - w.log2) := Nat.mul_le_mul_right _ (Nat.log2_self_le some_)
  · calc w * 2 ^ (52 - w.log2) < 2 ^ (w.log2 + 1) * 2 ^ (52 - w.log2) :=
          Nat.mul_lt_mul_of_pos_right Nat.lt_log2_self (by positivity)
      _ = 2 ^ 53 := by rw [← pow_add]; congr 1; omega

theorem unpack_toFloat (some_ : w ≠ 0) (small : w < 2 ^ 53) (pos : 0 < w * 2 ^ (52 - w.log2)) :
    w.toUInt64.toFloat.toModel.unpack =
      .finite .positive (w * 2 ^ (52 - w.log2)) (w.log2 - 52) pos := by
  obtain ⟨low, high⟩ := normal_shifted some_ small
  have log : w.log2 < 53 := (Nat.log2_lt some_).mpr small
  have same : w.toUInt64.toNat = w := by
    rw [Nat.toUInt64_eq, UInt64.toNat_ofNat', Nat.mod_eq_of_lt (by omega)]
  have positive : compare (w : Int) 0 = .gt := by
    rw [Int.compare_eq_gt]
    omega
  have target : Format.binary64.targetExponent (totalExponent w 0) = w.log2 - 52 := by
    simp only [Format.targetExponent, totalExponent, Format.mantissaBits, Format.minExponent]
    omega
  have shift : (0 - ((w.log2 : Int) - 52)).toNat = 52 - w.log2 := by omega
  have back : 0 - ((52 - w.log2 : Nat) : Int) = w.log2 - 52 := by omega
  have rounded : UnpackedFloat.ofUInt64 Format.binary64 w.toUInt64 =
      .finite .positive (w * 2 ^ (52 - w.log2)) (w.log2 - 52) pos := by
    simp only [UnpackedFloat.ofUInt64, UnpackedFloat.ofNat, UnpackedFloat.ofInt, same,
      UnpackedFloat.normalize, positive, UnpackedFloat.round, Int.toNat_natCast, target,
      decreaseExponent, shift, back, Nat.shiftLeft_eq]
    simpa using roundWithAccuracy_normal low high (by omega) pos 0
  change (Float.Model.pack (UnpackedFloat.ofUInt64 Format.binary64 w.toUInt64)).unpack = _
  rw [rounded]
  exact unpack_pack_normal low high (by omega) (by omega) pos

/-- A natural number below `2 ^ 53` is a number, with nothing lost. -/
theorem unpack_ofNat (some_ : w ≠ 0) (small : w < 2 ^ 53) :
    ∃ pos, (ofNat w).toModel.unpack =
      .finite .positive (w * 2 ^ (52 - w.log2)) ((w.log2 : Int) - 52) pos := by
  obtain ⟨low, high⟩ := normal_shifted some_ small
  have log : w.log2 < 53 := (Nat.log2_lt some_).mpr small
  have pos : 0 < w * 2 ^ (52 - w.log2) := by omega
  refine ⟨pos, ?_⟩
  -- the digits times ten to the power of zero
  have one : (Float.ofBits 0x3FF0000000000000).toModel.unpack =
      .finite .positive (2 ^ 52) (-52) (by decide) := rfl
  have product : ofNat w = w.toUInt64.toFloat * Float.ofBits 0x3FF0000000000000 := by
    rw [ofNat, Float.ofScientific, dif_pos ⟨small, by decide⟩]
    rfl
  have rounded : roundWithAccuracy Format.binary64 .positive (w * 2 ^ (52 - w.log2) * 2 ^ 52)
      ((w.log2 : Int) - 52 - 52) .exact =
        .finite .positive (w * 2 ^ (52 - w.log2)) (w.log2 - 52) pos :=
    roundWithAccuracy_normal low high (by omega) pos 52
  have times : (ofNat w).toModel = Float.Model.pack (UnpackedFloat.mul Format.binary64
      w.toUInt64.toFloat.toModel.unpack (Float.ofBits 0x3FF0000000000000).toModel.unpack) := by
    rw [product]
    rfl
  rw [times, unpack_toFloat some_ small pos, one]
  change (Float.Model.pack (roundWithAccuracy Format.binary64 .positive _ _ .exact)).unpack = _
  rw [← sub_eq_add_neg, rounded]
  exact unpack_pack_normal low high (by omega) (by omega) pos

theorem unpack_neg_ofNat (some_ : w ≠ 0) (small : w < 2 ^ 53) :
    ∃ pos, (-(ofNat w)).toModel.unpack =
      .finite .negative (w * 2 ^ (52 - w.log2)) ((w.log2 : Int) - 52) pos := by
  obtain ⟨low, high⟩ := normal_shifted some_ small
  have log : w.log2 < 53 := (Nat.log2_lt some_).mpr small
  obtain ⟨pos, unpacked⟩ := unpack_ofNat some_ small
  refine ⟨pos, ?_⟩
  change (Float.Model.pack (ofNat w).toModel.unpack.neg).unpack = _
  rw [unpacked]
  exact unpack_pack_normal low high (by omega) (by omega) pos

theorem isInf_ofNat (small : w < 2 ^ 53) : (ofNat w).isInf = false := by
  by_cases some_ : w = 0
  · rw [some_]
    rfl
  · obtain ⟨pos, unpacked⟩ := unpack_ofNat some_ small
    change (ofNat w).toModel.unpack.isInf = false
    rw [unpacked]
    rfl

/-- The parts of a number that is whole. -/
theorem parts_of_whole {x : Float} {n : Int} (whole : whole? x = some n) :
    ∃ negative m e, parts x = .finite negative m e ∧
      n = (if negative then -(n.natAbs : Int) else n.natAbs) ∧
      ((0 ≤ e ∧ n.natAbs = m * 2 ^ e.toNat) ∨ (e < 0 ∧ m = n.natAbs * 2 ^ (-e).toNat)) := by
  unfold whole? at whole
  split at whole
  · next negative m e taken =>
    refine ⟨negative, m, e, taken, ?_⟩
    split at whole
    · next w half value =>
      obtain rfl := Option.some.inj whole
      have size : (if negative then -(w : Int) else w).natAbs = w := by
        split <;> simp
      rw [size]
      refine ⟨rfl, ?_⟩
      unfold wholePart at value
      split at value
      · next up => exact .inl ⟨up, (congrArg Prod.fst value).symm⟩
      · next down =>
        refine .inr ⟨by omega, ?_⟩
        have quotient : m / 2 ^ (-e).toNat = w := congrArg Prod.fst value
        have rest : (m % 2 ^ (-e).toNat != 0) = false :=
          congrArg (fun r => r.2.1) value
        have none_ : m % 2 ^ (-e).toNat = 0 := by simpa using rest
        rw [← quotient, Nat.div_mul_cancel (Nat.dvd_of_mod_eq_zero none_)]
    · cases whole
  · cases whole

/-- A whole number that is not zero and not too large has a mantissa of 53 bits: its value, shifted
to the left as far as possible. -/
theorem normal_of_whole {x : Float} {negative : Bool} {m w : Nat} {e : Int}
    (taken : parts x = .finite negative m e) (some_ : w ≠ 0) (small : w < 1000000000000000)
    (size : (0 ≤ e ∧ w = m * 2 ^ e.toNat) ∨ (e < 0 ∧ m = w * 2 ^ (-e).toNat)) :
    m = w * 2 ^ (52 - w.log2) ∧ e = (w.log2 : Int) - 52 := by
  rcases range_of_parts taken with ⟨low, least⟩ | ⟨low, high, -, -⟩
  · -- with the smallest exponent a whole number has far more bits
    obtain ⟨up, -⟩ | ⟨-, value⟩ := size
    · omega
    · have : 2 ^ 52 ≤ w * 2 ^ (-e).toNat :=
        (Nat.pow_le_pow_right (by decide) (by omega)).trans
          (Nat.le_mul_of_pos_left _ (Nat.pos_of_ne_zero some_))
      omega
  · obtain ⟨up, value⟩ | ⟨down, value⟩ := size
    · have : m ≤ m * 2 ^ e.toNat := Nat.le_mul_of_pos_right _ (by positivity)
      omega
    · have log : m.log2 = w.log2 + (-e).toNat := by
        rw [value, Nat.log2_eq_iff (by positivity)]
        constructor
        · rw [pow_add]
          exact Nat.mul_le_mul_right _ (Nat.log2_self_le some_)
        · rw [show w.log2 + (-e).toNat + 1 = w.log2 + 1 + (-e).toNat by omega, pow_add]
          exact Nat.mul_lt_mul_of_pos_right Nat.lt_log2_self (by positivity)
      have bits : m.log2 = 52 := by
        simpa using log2_normal low high 0
      have shift : (-e).toNat = 52 - w.log2 := by omega
      exact ⟨by rw [value, shift], by omega⟩

/-- A number that is whole and not too large is equal to the number of its value. -/
theorem beq_ofInt_of_whole {x : Float} {n : Int} (whole : whole? x = some n)
    (small : n.natAbs < 1000000000000000) : (x == ofInt n) = true := by
  obtain ⟨negative, m, e, taken, signed, size⟩ := parts_of_whole whole
  change x.toModel.unpack.beq (ofInt n).toModel.unpack = true
  rw [beq_iff_ne_notANumber_and_eq]
  by_cases some_ : n.natAbs = 0
  · obtain rfl : n = 0 := Int.natAbs_eq_zero.mp some_
    have none_ : m = 0 := by
      rcases size with ⟨_, value⟩ | ⟨_, value⟩
      · simpa using value
      · simpa using value
    have unpacked : x.toModel.unpack = .zero (signOf negative) := by
      rcases unpack_of_parts taken with ⟨pos, -⟩ | ⟨-, unpacked⟩
      · omega
      · exact unpacked
    have right : (ofInt 0).toModel.unpack = .zero .positive := rfl
    rw [unpacked, right]
    cases negative <;> simp [signOf]
  · obtain ⟨rfl, rfl⟩ := normal_of_whole taken some_ small size
    have below : n.natAbs < 2 ^ 53 := small.trans (by decide)
    rcases unpack_of_parts taken with ⟨pos, unpacked⟩ | ⟨none_, -⟩
    · have same : (ofInt n).toModel.unpack = x.toModel.unpack := by
        rw [unpacked]
        cases negative with
        | true =>
            have below_zero : n = -(n.natAbs : Int) := signed.trans (if_pos rfl)
            rw [ofInt, if_pos (by omega)]
            exact (unpack_neg_ofNat some_ below).choose_spec
        | false =>
            have above_zero : n = n.natAbs := signed.trans (if_neg Bool.false_ne_true)
            rw [ofInt, if_neg (by omega)]
            exact (unpack_ofNat some_ below).choose_spec
      rw [same, unpacked]
      simp
    · have := (normal_shifted some_ below).1
      omega

end Whole

end HostScript.Number
