import Mathlib
import GlyphScript.Proofs.Decimal.Binary

/-!
# Small integers as doubles

An integer below the limit up to which numbers are written without a fraction has
a double of its own, and converting the integer gives that double back
(`ofInt_of_smallInteger?`). Converting shifts the integer up until it has 53 bits;
no step of the conversion rounds.
-/

open Float.Model Float.Model.UnpackedFloat

namespace GlyphScript.Decimal

/-- A mantissa of 53 bits with an exponent that a double has a field for. -/
structure Normal (m : Nat) (e : Int) : Prop where
  low : 2 ^ 52 ≤ m
  high : m < 2 ^ 53
  least : -1074 ≤ e
  most : e ≤ 971

namespace Normal

variable {m : Nat} {e : Int}

theorem positive (normal : Normal m e) : 0 < m :=
  Nat.lt_of_lt_of_le (by decide) normal.low

/-- The double of that mantissa and exponent. -/
def double (normal : Normal m e) (sign : Sign) : Float :=
  ⟨Float.Model.pack (.finite sign m e normal.positive)⟩

theorem log2_eq (normal : Normal m e) : m.log2 = 52 :=
  (Nat.log2_eq_iff (Nat.ne_of_gt normal.positive)).mpr ⟨normal.low, normal.high⟩

end Normal

/-! ## Packing -/

theorem toNat_packComponents (sign : Sign) (exponent : BitVec 11) (fraction : BitVec 52) :
    (packComponents .binary64 sign exponent fraction).toNat =
      sign.toBitVec.toNat * 0x8000000000000000 + exponent.toNat * 0x10000000000000 +
        fraction.toNat := by
  show (sign.toBitVec ++ exponent ++ fraction : BitVec (1 + 11 + 52)).toNat = _
  rw [BitVec.toNat_append, ← Nat.shiftLeft_add_eq_or_of_lt fraction.isLt, BitVec.toNat_append,
    ← Nat.shiftLeft_add_eq_or_of_lt exponent.isLt, Nat.shiftLeft_eq, Nat.shiftLeft_eq]
  omega

theorem ofBitVec_unpackSign (sign : Sign) (exponent : BitVec 11) (fraction : BitVec 52) :
    Sign.ofBitVec (unpackSign (packComponents .binary64 sign exponent fraction)) = sign := by
  have bit : unpackSign (packComponents .binary64 sign exponent fraction) = sign.toBitVec := by
    apply BitVec.eq_of_getLsbD_eq
    intro i inside
    have first : i = 0 := by omega
    subst first
    simp only [unpackSign, packComponents, BitVec.getLsbD_cast, BitVec.getLsbD_extractLsb]
    show (_ && (sign.toBitVec ++ exponent ++ fraction : BitVec (1 + 11 + 52)).getLsbD 63) = _
    rw [BitVec.getLsbD_append, BitVec.getLsbD_append]
    simp
  rw [bit]
  cases sign <;> rfl

namespace Normal

variable {m : Nat} {e : Int}

theorem pack_eq (normal : Normal m e) (sign : Sign) :
    UnpackedFloat.pack .binary64 (.finite sign m e normal.positive) =
      packComponents .binary64 sign (BitVec.ofNat 11 (e + 1075).toNat) (BitVec.ofNat 52 m) := by
  have least := normal.least
  have most := normal.most
  have biased : e + (Format.binary64.exponentBias : Int) +
      (Format.binary64.mantissaBitsWithoutImplicit : Int) = e + 1075 := by
    show e + (1023 : Int) + (52 : Int) = _
    omega
  have inRange : ¬ 2 ^ Format.binary64.exponentBits ≤ (e + 1075).toNat + 1 := by
    show ¬ 2 ^ 11 ≤ (e + 1075).toNat + 1
    omega
  have leading : m.log2 + 1 = Format.binary64.mantissaBits := by
    rw [normal.log2_eq]
    rfl
  simp only [UnpackedFloat.pack, biased, if_neg inRange, if_pos leading]

theorem toNat_exponentField (normal : Normal m e) :
    (BitVec.ofNat 11 (e + 1075).toNat).toNat = (e + 1075).toNat := by
  have most := normal.most
  rw [BitVec.toNat_ofNat]
  exact Nat.mod_eq_of_lt (by omega)

theorem unpack_double (normal : Normal m e) (sign : Sign) :
    (normal.double sign).toModel.unpack = .finite sign m e normal.positive := by
  have low := normal.low
  have high := normal.high
  have least := normal.least
  have most := normal.most
  have field := normal.toNat_exponentField
  have notOnes : BitVec.ofNat 11 (e + 1075).toNat ≠ -1#11 := by
    intro ones
    rw [ones] at field
    have small : (e + 1075).toNat ≤ 2046 := by omega
    rw [← field] at small
    exact absurd small (by decide)
  have notZero : BitVec.ofNat 11 (e + 1075).toNat ≠ 0#11 := by
    intro zero
    rw [zero, BitVec.toNat_ofNat] at field
    omega
  have whole : (1#1 ++ BitVec.ofNat 52 m).toNat = m := by
    rw [BitVec.toNat_append, ← Nat.shiftLeft_add_eq_or_of_lt (BitVec.isLt _)]
    simp only [BitVec.toNat_ofNat, Nat.shiftLeft_eq]
    omega
  have exponent : ((e + 1075).toNat : Int) -
      ((Format.binary64.exponentBias : Int) + (52 : Nat)) = e := by
    show ((e + 1075).toNat : Int) - ((1023 : Nat) + (52 : Nat)) = e
    omega
  show UnpackedFloat.unpack .binary64 (UnpackedFloat.pack .binary64 _) = _
  rw [normal.pack_eq, UnpackedFloat.unpack]
  simp only [unpackExponent_packComponents, unpackMantissa_packComponents, ofBitVec_unpackSign]
  rw [if_neg notOnes, if_neg notZero]
  simp only [field, whole, exponent]

theorem toNat_toBits (normal : Normal m e) (sign : Sign) :
    (normal.double sign).toBits.toNat =
      sign.toBitVec.toNat * 0x8000000000000000 + (e + 1075).toNat * 0x10000000000000 +
        (m - 0x10000000000000) := by
  have low := normal.low
  have high := normal.high
  show (UnpackedFloat.pack .binary64 (.finite sign m e normal.positive)).toNat = _
  rw [normal.pack_eq, toNat_packComponents, normal.toNat_exponentField, BitVec.toNat_ofNat]
  omega

/-- A double with the sign, the mantissa and the exponent is that double. -/
theorem double_eq (normal : Normal m e) {sign : Sign} {x : Float}
    (sameSign : (Binary.ofFloat x).negative = (sign == .negative))
    (sameMantissa : (Binary.ofFloat x).mantissa = m)
    (sameExponent : (Binary.ofFloat x).exponent = e) : normal.double sign = x := by
  have low := normal.low
  have high := normal.high
  have least := normal.least
  have most := normal.most
  have bits := normal.toNat_toBits sign
  have signField : Binary.signField (normal.double sign).toBits = sign.toBitVec.toNat := by
    rw [Binary.signField, bits]
    omega
  have exponentField :
      Binary.exponentField (normal.double sign).toBits = (e + 1075).toNat := by
    rw [Binary.exponentField, bits]
    omega
  have fractionField :
      Binary.fractionField (normal.double sign).toBits = m - 0x10000000000000 := by
    rw [Binary.fractionField, bits]
    omega
  apply Binary.ofFloat_injective
  · rw [sameSign, Binary.ofFloat, Binary.negative_ofBits, signField]
    cases sign <;> rfl
  · rw [sameMantissa, Binary.ofFloat, Binary.mantissa_ofBits, exponentField, fractionField,
      if_neg (by omega)]
    omega
  · rw [sameExponent, Binary.ofFloat, Binary.exponent_ofBits, exponentField, if_neg (by omega)]
    omega

theorem neg_double (normal : Normal m e) : -normal.double .positive = normal.double .negative := by
  show (⟨Float.Model.pack (normal.double .positive).toModel.unpack.neg⟩ : Float) = _
  rw [normal.unpack_double]
  rfl

end Normal

/-! ## Rounding what fits -/

theorem log2_shifted {n : Nat} (nonzero : n ≠ 0) (shift : Nat) :
    (n * 2 ^ shift).log2 = n.log2 + shift := by
  have positive : 0 < 2 ^ shift := Nat.two_pow_pos shift
  obtain ⟨low, high⟩ := (Nat.log2_eq_iff nonzero).mp rfl
  refine (Nat.log2_eq_iff (Nat.ne_of_gt (Nat.mul_pos (by omega) positive))).mpr ⟨?_, ?_⟩
  · rw [Nat.pow_add]
    exact Nat.mul_le_mul_right _ low
  · rw [Nat.add_right_comm, Nat.pow_add]
    exact (Nat.mul_lt_mul_right positive).mpr high

/-- Shifting zeros out leaves nothing to round. -/
theorem shiftRight_exact (m shift : Nat) :
    ExtendedMantissa.mk (m * 2 ^ shift) false false >>> shift = ⟨m, false, false⟩ := by
  show Nat.repeat ExtendedMantissa.shiftRightOne shift _ = _
  induction shift generalizing m with
  | zero => simp [Nat.repeat]
  | succ shift ih =>
      have halved : m * 2 ^ (shift + 1) = m * 2 * 2 ^ shift := by
        rw [Nat.pow_succ, Nat.mul_assoc, Nat.mul_comm 2]
      rw [Nat.repeat, halved, ih (m * 2)]
      simp [ExtendedMantissa.shiftRightOne]

namespace Normal

variable {m : Nat} {e : Int}

theorem targetExponent_eq (normal : Normal m e) (shift : Nat) :
    Format.binary64.targetExponent (totalExponent (m * 2 ^ shift) (e - shift)) = e := by
  have least := normal.least
  have nonzero := Nat.ne_of_gt normal.positive
  simp only [Format.targetExponent, totalExponent, log2_shifted nonzero, normal.log2_eq,
    Format.minExponent, Format.mantissaBits]
  omega

theorem roundWithAccuracy_eq (normal : Normal m e) (sign : Sign) (shift : Nat) :
    roundWithAccuracy .binary64 sign (m * 2 ^ shift) (e - shift) .exact =
      .finite sign m e normal.positive := by
  have target := normal.targetExponent_eq shift
  have settled := normal.targetExponent_eq 0
  simp only [Nat.pow_zero, Nat.mul_one, Int.natCast_zero, Int.sub_zero] at settled
  have distance : (e - (e - (shift : Int))).toNat = shift := by omega
  have reached : e - (shift : Int) + shift = e := by omega
  have rounded : (ExtendedMantissa.mk m false false).roundedMantissa = m := rfl
  have kept : ExtendedMantissa.mk m false false >>> (0 : Nat) = ⟨m, false, false⟩ := rfl
  simp only [roundWithAccuracy, shiftToTargetExponent, target, shiftToExponent, distance,
    ExtendedMantissa.ofMantissaAndAccuracy, shiftRight_exact, reached, rounded, settled,
    Int.sub_self, Int.toNat_zero, kept, Int.natCast_zero, Int.add_zero]
  rw [dif_neg (Nat.ne_of_gt normal.positive)]

/-- A number that is shifted up to 53 bits is not rounded. -/
theorem round_eq {n k : Nat} (normal : Normal (n * 2 ^ k) (-k)) (sign : Sign) :
    UnpackedFloat.round .binary64 sign n 0 =
      .finite sign (n * 2 ^ k) (-k) normal.positive := by
  have nonzero : n ≠ 0 := by
    intro zero
    have positive := normal.positive
    rw [zero, Nat.zero_mul] at positive
    omega
  have log : n.log2 + k = 52 := by
    rw [← log2_shifted nonzero, normal.log2_eq]
  have target : Format.binary64.targetExponent (totalExponent n 0) = -(k : Int) := by
    simp only [Format.targetExponent, totalExponent, Format.minExponent, Format.mantissaBits]
    omega
  have distance : ((0 : Int) - -(k : Int)).toNat = k := by omega
  simp only [UnpackedFloat.round, target, decreaseExponent, distance, Nat.shiftLeft_eq]
  rw [Int.zero_sub]
  have exact := normal.roundWithAccuracy_eq sign 0
  rwa [Nat.pow_zero, Nat.mul_one, Int.natCast_zero, Int.sub_zero] at exact

end Normal

/-! ## Converting integers -/

theorem unpack_one : (Float.ofBits 0x3FF0000000000000).toModel.unpack =
    .finite .positive (2 ^ 52) (-52) (by decide) := by
  rfl

theorem ofNat_eq_double {n k : Nat} (small : n < 2 ^ 53) (normal : Normal (n * 2 ^ k) (-k)) :
    Float.ofNat n = normal.double .positive := by
  have positive : 0 < n := by
    apply Nat.pos_of_ne_zero
    intro zero
    have positive := normal.positive
    rw [zero, Nat.zero_mul] at positive
    omega
  have word : n.toUInt64.toNat = n := Nat.mod_eq_of_lt (by omega)
  have order : compare (n : Int) 0 = .gt := by
    rw [Int.compare_eq_gt]
    omega
  have converted : n.toUInt64.toFloat = normal.double .positive := by
    show (⟨Float.Model.pack
      (UnpackedFloat.normalize .binary64 (n.toUInt64.toNat : Int) 0 .positive)⟩ : Float) = _
    rw [word]
    simp only [UnpackedFloat.normalize, order, Int.toNat_natCast, normal.round_eq]
    rfl
  -- The conversion goes on with a product by one.
  show Float.ofScientific n false 0 = _
  rw [Float.ofScientific, dif_pos ⟨small, by decide⟩]
  simp only [Bool.false_eq_true, if_false]
  rw [converted]
  show (⟨Float.Model.pack (UnpackedFloat.mul .binary64 (normal.double .positive).toModel.unpack
    (Float.ofBits 0x3FF0000000000000).toModel.unpack)⟩ : Float) = _
  rw [normal.unpack_double, unpack_one]
  have exact := normal.roundWithAccuracy_eq .positive 52
  show (⟨Float.Model.pack (roundWithAccuracy .binary64 .positive (n * 2 ^ k * 2 ^ 52)
    (-(k : Int) - (52 : Nat)) .exact)⟩ : Float) = _
  rw [exact]
  rfl

/-- An integral double of which the integer part is small and not zero has that
integer, shifted up to 53 bits, as its mantissa. -/
theorem normal_of_integral {x : Binary} (normalized : x.Normalized) {n : Nat}
    (integral : x.isIntegral = true)
    (part : x.mantissa * 2 ^ x.exponent.toNat / 2 ^ (-x.exponent).toNat = n)
    (nonzero : n ≠ 0) (small : n < 2 ^ 52) :
    ∃ k : Nat, Normal (n * 2 ^ k) (-k) ∧ x.mantissa = n * 2 ^ k ∧ x.exponent = -(k : Int) := by
  have high := normalized.mantissa_lt
  have least := normalized.exponent_ge
  have whole : x.mantissa * 2 ^ x.exponent.toNat % 2 ^ (-x.exponent).toNat = 0 :=
    beq_iff_eq.mp integral
  have exact : x.mantissa * 2 ^ x.exponent.toNat = n * 2 ^ (-x.exponent).toNat := by
    rw [← part, Nat.div_mul_cancel (Nat.dvd_of_mod_eq_zero whole)]
  -- A mantissa at the least exponent is too short to be a multiple of the unit.
  have above : -1074 < x.exponent := by
    refine Int.lt_iff_le_and_ne.mpr ⟨least, ?_⟩
    intro bottom
    rw [← bottom] at exact
    have long : 1 * 2 ^ 53 ≤ n * 2 ^ (-(-1074 : Int)).toNat :=
      Nat.mul_le_mul (by omega) (Nat.pow_le_pow_right (by decide) (by decide))
    rw [← exact] at long
    simp at long
    omega
  have low := normalized.leading above
  have below : x.exponent ≤ 0 := by
    apply Int.not_lt.mp
    intro positive
    have noFraction : (-x.exponent).toNat = 0 := by omega
    have grown : x.mantissa * 1 ≤ x.mantissa * 2 ^ x.exponent.toNat :=
      Nat.mul_le_mul_left _ (Nat.two_pow_pos _)
    rw [noFraction, Nat.pow_zero, Nat.mul_one] at exact
    omega
  have noShift : x.exponent.toNat = 0 := by omega
  rw [noShift, Nat.pow_zero, Nat.mul_one] at exact
  refine ⟨(-x.exponent).toNat, ?_, exact, by omega⟩
  rw [← exact]
  exact ⟨low, high, by omega, by omega⟩

/-- Only zero has an integer part of zero among the integral doubles. -/
theorem mantissa_of_integral_zero {x : Binary} (integral : x.isIntegral = true)
    (part : x.mantissa * 2 ^ x.exponent.toNat / 2 ^ (-x.exponent).toNat = 0) :
    x.mantissa = 0 := by
  have whole : x.mantissa * 2 ^ x.exponent.toNat % 2 ^ (-x.exponent).toNat = 0 :=
    beq_iff_eq.mp integral
  have exact := Nat.div_add_mod (x.mantissa * 2 ^ x.exponent.toNat) (2 ^ (-x.exponent).toNat)
  rw [part, whole, Nat.mul_zero, Nat.add_zero] at exact
  cases Nat.mul_eq_zero.mp exact.symm with
  | inl zero => exact zero
  | inr zero => exact absurd zero (Nat.ne_of_gt (Nat.two_pow_pos _))

theorem ofInt_neg {n : Nat} (nonzero : n ≠ 0) : Float.ofInt (-(n : Int)) = -Float.ofNat n := by
  cases n with
  | zero => exact absurd rfl nonzero
  | succ n => rfl

/-- Converting the integer part of a small integral double gives the double back, but
for the negative zero. -/
theorem ofInt_truncate {x : Float} (integral : (Binary.ofFloat x).isIntegral = true)
    (limit : (Binary.ofFloat x).truncate.natAbs < 2 ^ 52) (signed : x ≠ -0.0) :
    Float.ofInt (Binary.ofFloat x).truncate = x := by
  generalize part : (Binary.ofFloat x).mantissa * 2 ^ (Binary.ofFloat x).exponent.toNat /
    2 ^ (-(Binary.ofFloat x).exponent).toNat = n
  have truncated : (Binary.ofFloat x).truncate = (Binary.ofFloat x).signed n := by
    rw [← part]
    rfl
  rw [truncated] at limit ⊢
  by_cases zero : n = 0
  · subst zero
    have noMantissa := mantissa_of_integral_zero integral part
    cases (Binary.mantissa_eq_zero_iff x).mp noMantissa with
    | inl positiveZero =>
        subst positiveZero
        rw [Binary.ofFloat_zero]
        rfl
    | inr negativeZero => exact absurd negativeZero signed
  · cases sign : (Binary.ofFloat x).negative with
    | false =>
        rw [Binary.signed, sign] at limit ⊢
        have small : n < 2 ^ 52 := limit
        obtain ⟨k, normal, mantissa, exponent⟩ :=
          normal_of_integral (Binary.ofFloat_normalized x) integral part zero small
        show Float.ofNat n = x
        rw [ofNat_eq_double (by omega) normal]
        exact normal.double_eq sign mantissa exponent
    | true =>
        rw [Binary.signed, sign] at limit ⊢
        have small : n < 2 ^ 52 := by simpa using limit
        obtain ⟨k, normal, mantissa, exponent⟩ :=
          normal_of_integral (Binary.ofFloat_normalized x) integral part zero small
        rw [if_pos rfl, ofInt_neg zero, ofNat_eq_double (by omega) normal, normal.neg_double]
        exact normal.double_eq sign mantissa exponent

/-- A double that is written as an integer is what the integer converts to, but for
the negative zero. -/
theorem ofInt_of_smallInteger? {x : Float} {n : Int} (written : smallInteger? x = some n)
    (signed : x ≠ -0.0) : Float.ofInt n = x := by
  obtain ⟨found, limit⟩ := Option.filter_eq_some_iff.mp written
  rw [integer?] at found
  split at found
  · simp only at found
    split at found
    · next integral =>
        cases found
        have small : (Binary.ofFloat x).truncate.natAbs < 1000000000000000 :=
          of_decide_eq_true limit
        exact ofInt_truncate integral (by omega) signed
    · cases found
  · cases found

end GlyphScript.Decimal
