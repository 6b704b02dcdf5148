import Mathlib
import RpnCalculator.Number.Binary64

namespace RpnCalculator.Binary64

/-! ## Bits and fields

The model of a double unpacks its bits into a sign, an exponent and a fraction, and packs them
again after every operation. -/

open Float.Model.UnpackedFloat

private abbrev format : Float.Model.Format := .binary64

private abbrev signOf (bits : BitVec 64) : BitVec 1 := @unpackSign format bits
private abbrev exponentOf (bits : BitVec 64) : BitVec 11 := @unpackExponent format bits
private abbrev fractionOf (bits : BitVec 64) : BitVec 52 := @unpackMantissa format bits

theorem signBit_eq : signBit = 2 ^ 63 := rfl

private theorem toNat_signOf (bits : BitVec 64) : (signOf bits).toNat = bits.toNat / 2 ^ 63 % 2 := by
  simp [signOf, unpackSign, Nat.shiftRight_eq_div_pow]

private theorem toNat_exponentOf (bits : BitVec 64) :
    (exponentOf bits).toNat = bits.toNat / 2 ^ 52 % 2 ^ 11 := by
  simp [exponentOf, unpackExponent, Nat.shiftRight_eq_div_pow]

private theorem toNat_fractionOf (bits : BitVec 64) :
    (fractionOf bits).toNat = bits.toNat % 2 ^ 52 := by
  simp [fractionOf, unpackMantissa]

/-! ## Sign and magnitude -/

theorem ofMagnitude_magnitude {value : Float} (positive : isNegative value = false) :
    ofMagnitude (magnitude value) = value := by
  have below : value.toBits.toNat < signBit := by simpa [isNegative] using positive
  rw [ofMagnitude, magnitude, Nat.mod_eq_of_lt below, UInt64.ofNat_toNat, Float.ofBits_toBits]

private def withoutSign (bits : BitVec 64) : BitVec 64 := BitVec.ofNat 64 (bits.toNat % signBit)

private theorem exponentOf_withoutSign (bits : BitVec 64) :
    exponentOf (withoutSign bits) = exponentOf bits := by
  apply BitVec.eq_of_toNat_eq
  rw [toNat_exponentOf, toNat_exponentOf, withoutSign, BitVec.toNat_ofNat, signBit_eq]
  omega

private theorem fractionOf_withoutSign (bits : BitVec 64) :
    fractionOf (withoutSign bits) = fractionOf bits := by
  apply BitVec.eq_of_toNat_eq
  rw [toNat_fractionOf, toNat_fractionOf, withoutSign, BitVec.toNat_ofNat, signBit_eq]
  omega

private theorem signOf_withoutSign (bits : BitVec 64) : signOf (withoutSign bits) = 0#1 := by
  apply BitVec.eq_of_toNat_eq
  rw [toNat_signOf, withoutSign, BitVec.toNat_ofNat, signBit_eq, BitVec.toNat_zero]
  omega

private theorem signOf_eq_one {bits : BitVec 64} (negative : signBit ≤ bits.toNat) :
    signOf bits = 1#1 := by
  have bound := bits.isLt
  rw [signBit_eq] at negative
  apply BitVec.eq_of_toNat_eq
  rw [toNat_signOf, BitVec.toNat_one (by decide)]
  omega

private theorem neg_unpack_withoutSign {bits : BitVec 64} (negative : signBit ≤ bits.toNat) :
    (unpack format (withoutSign bits)).neg = unpack format bits := by
  have sign := signOf_eq_one negative
  have opposite : -(Sign.ofBitVec 0#1) = Sign.ofBitVec 1#1 := rfl
  have exponents := exponentOf_withoutSign bits
  have fractions := fractionOf_withoutSign bits
  have signs := signOf_withoutSign bits
  simp only [signOf, exponentOf, fractionOf] at *
  simp only [unpack, exponents, fractions, signs, sign]
  split
  · split <;> simp [neg, opposite]
  · split
    · split <;> simp [neg, opposite]
    · simp [neg, opposite]

private theorem valid_withoutSign {bits : BitVec 64} (valid : format.Valid bits)
    (negative : signBit ≤ bits.toNat) : format.Valid (withoutSign bits) := by
  refine ⟨fun full nonzero => ?_⟩
  have canonical := valid.eq_packedNaN ((exponentOf_withoutSign bits).symm.trans full)
    fun zero => nonzero ((fractionOf_withoutSign bits).trans zero)
  rw [canonical] at negative
  exact absurd negative (by decide)

theorem neg_ofMagnitude_magnitude {value : Float} (negative : isNegative value = true) :
    -ofMagnitude (magnitude value) = value := by
  have above : signBit ≤ value.toBits.toBitVec.toNat := by simpa [isNegative] using negative
  have packed : pack format (unpack format (withoutSign value.toBits.toBitVec)) =
      withoutSign value.toBits.toBitVec :=
    pack_unpack_of_valid (valid_withoutSign value.toModel.valid above)
  have negated := neg_unpack_withoutSign above
  rw [← packed] at negated
  have whole : Float.ofModel (Float.Model.pack (unpack format value.toBits.toBitVec)) = value :=
    Float.ofBits_toBits value
  refine Eq.trans ?_ whole
  rw [← negated]
  rfl

theorem eq_notANumber {value : Float} (beyond : Magnitude.infinity < magnitude value) :
    value = ofMagnitude notANumber := by
  have infinity : Magnitude.infinity = 2047 * 2 ^ 52 := rfl
  have bits : magnitude value = value.toBits.toBitVec.toNat % 2 ^ 63 := rfl
  have full : exponentOf value.toBits.toBitVec = -1#11 := by
    apply BitVec.eq_of_toNat_eq
    rw [toNat_exponentOf]
    change _ = 2047
    omega
  have nonzero : fractionOf value.toBits.toBitVec ≠ 0#52 := by
    intro zero
    have := congrArg BitVec.toNat zero
    rw [toNat_fractionOf, BitVec.toNat_zero] at this
    omega
  have canonical : value.toBits.toBitVec = packedNaN format :=
    value.toModel.valid.eq_packedNaN full nonzero
  have number : value.toBits = UInt64.ofNat notANumber := UInt64.toBitVec_inj.mp (canonical.trans rfl)
  rw [ofMagnitude, ← number, Float.ofBits_toBits]

/-! ## Magnitude of a number -/

theorem toBits_ofBits {bits : UInt64} (number : bits.toNat % signBit ≤ Magnitude.infinity) :
    (Float.ofBits bits).toBits = bits := by
  have infinity : Magnitude.infinity = 2047 * 2 ^ 52 := rfl
  have same : bits.toBitVec.toNat = bits.toNat := rfl
  have valid : format.Valid bits.toBitVec := by
    refine ⟨fun full nonzero => absurd (BitVec.eq_of_toNat_eq ?_) nonzero⟩
    have exponent := (toNat_exponentOf bits.toBitVec).symm.trans (congrArg BitVec.toNat full)
    change _ = 2047 at exponent
    have fraction := toNat_fractionOf bits.toBitVec
    rw [signBit_eq] at number
    refine fraction.trans ?_
    rw [BitVec.toNat_zero]
    omega
  exact UInt64.toBitVec_inj.mp (pack_unpack_of_valid valid)

theorem magnitude_ofMagnitude {magnitude : Nat} (number : magnitude ≤ Magnitude.infinity) :
    Binary64.magnitude (ofMagnitude magnitude) = magnitude := by
  have infinity : Magnitude.infinity = 2047 * 2 ^ 52 := rfl
  have size : UInt64.size = 2 ^ 64 := rfl
  have bits : (UInt64.ofNat magnitude).toNat = magnitude :=
    UInt64.toNat_ofNat_of_lt' (by omega)
  have below : magnitude % signBit = magnitude := Nat.mod_eq_of_lt (by rw [signBit_eq]; omega)
  rw [Binary64.magnitude, ofMagnitude, toBits_ofBits (by rw [bits, below]; exact number), bits,
    below]

private theorem toNat_toBits_neg_ofMagnitude {magnitude : Nat}
    (number : magnitude ≤ Magnitude.infinity) :
    (-ofMagnitude magnitude).toBits.toNat = signBit + magnitude := by
  have infinity : Magnitude.infinity = 2047 * 2 ^ 52 := rfl
  have size : UInt64.size = 2 ^ 64 := rfl
  have sign := signBit_eq
  have bits : (UInt64.ofNat (signBit + magnitude)).toNat = signBit + magnitude :=
    UInt64.toNat_ofNat_of_lt' (by omega)
  have rest : (signBit + magnitude) % signBit = magnitude := by
    rw [Nat.add_mod_left, Nat.mod_eq_of_lt (by omega)]
  have kept : (Float.ofBits (UInt64.ofNat (signBit + magnitude))).toBits =
      UInt64.ofNat (signBit + magnitude) :=
    toBits_ofBits (by rw [bits, rest]; exact number)
  have whole : Binary64.magnitude (Float.ofBits (UInt64.ofNat (signBit + magnitude))) =
      magnitude := by
    rw [Binary64.magnitude, kept, bits, rest]
  have negative : isNegative (Float.ofBits (UInt64.ofNat (signBit + magnitude))) = true := by
    rw [isNegative, kept, bits]
    exact decide_eq_true (Nat.le_add_right _ _)
  have opposite := neg_ofMagnitude_magnitude negative
  rw [whole] at opposite
  rw [opposite, kept, bits]

theorem magnitude_neg_ofMagnitude {magnitude : Nat} (number : magnitude ≤ Magnitude.infinity) :
    Binary64.magnitude (-ofMagnitude magnitude) = magnitude := by
  have infinity : Magnitude.infinity = 2047 * 2 ^ 52 := rfl
  have sign := signBit_eq
  rw [Binary64.magnitude, toNat_toBits_neg_ofMagnitude number, Nat.add_mod_left,
    Nat.mod_eq_of_lt (by omega)]

theorem isNegative_neg_ofMagnitude {magnitude : Nat} (number : magnitude ≤ Magnitude.infinity) :
    isNegative (-ofMagnitude magnitude) = true := by
  rw [isNegative, toNat_toBits_neg_ofMagnitude number]
  exact decide_eq_true (Nat.le_add_right _ _)

/-! ## Negating twice -/

private theorem unpacked_neg_neg (unpacked : Float.Model.UnpackedFloat) :
    unpacked.neg.neg = unpacked := by
  have signs (sign : Sign) : - -sign = sign := by cases sign <;> rfl
  cases unpacked <;> simp only [neg, signs]

theorem neg_of_isNegative {value : Float} (negative : isNegative value = true) :
    -value = ofMagnitude (magnitude value) := by
  have above : signBit ≤ value.toBits.toBitVec.toNat := by simpa [isNegative] using negative
  have opposite : (unpack format value.toBits.toBitVec).neg =
      unpack format (withoutSign value.toBits.toBitVec) := by
    rw [← neg_unpack_withoutSign above, unpacked_neg_neg]
  have negated : -value =
      Float.ofModel (Float.Model.pack (unpack format value.toBits.toBitVec).neg) := rfl
  rw [negated, opposite]
  rfl

protected theorem neg_neg (value : Float) : - -value = value := by
  cases negative : isNegative value with
  | true => rw [neg_of_isNegative negative, neg_ofMagnitude_magnitude negative]
  | false =>
      by_cases number : magnitude value ≤ Magnitude.infinity
      · have opposite := neg_of_isNegative (isNegative_neg_ofMagnitude number)
        rwa [magnitude_neg_ofMagnitude number, ofMagnitude_magnitude negative] at opposite
      · rw [eq_notANumber (Nat.lt_of_not_le number)]
        decide +kernel

/-! ## Comparison -/

theorem beq_self_iff {value : Float} :
    (value == value) = true ↔ magnitude value ≤ Magnitude.infinity := by
  constructor
  · intro equal
    by_contra beyond
    rw [eq_notANumber (Nat.lt_of_not_le beyond)] at equal
    exact absurd equal (by decide +kernel)
  · intro number
    refine Float.beq_iff_ne_nan_and_eq.mpr ⟨?_, ?_, .inl rfl⟩ <;>
    · rintro rfl
      exact absurd number (by decide +kernel)

theorem beq_zero_iff {value : Float} : (value == 0) = true ↔ magnitude value = 0 := by
  constructor
  · intro equal
    rcases (Float.beq_iff_ne_nan_and_eq.mp equal).2.2 with rfl | ⟨rfl, _⟩ | ⟨rfl, _⟩
    all_goals decide +kernel
  · intro zero
    cases negative : isNegative value with
    | true =>
        rw [← neg_ofMagnitude_magnitude negative, zero]
        decide +kernel
    | false =>
        rw [← ofMagnitude_magnitude negative, zero]
        decide +kernel

end RpnCalculator.Binary64
