import GlyphScript.Decimal.Binary

/-!
# The exact form determines the double

Sign, mantissa and exponent are read off the bits of a double, and the bits can
be read off them again (`ofFloat_injective`). Every exact form that comes from
bits is `Normalized`, which is what makes the double nearest to a number unique.
-/

namespace GlyphScript.Decimal.Binary

/-! ## The fields of a double, as numbers -/

def signField (bits : UInt64) : Nat :=
  bits.toNat / 0x8000000000000000

def exponentField (bits : UInt64) : Nat :=
  bits.toNat / 0x10000000000000 % 0x800

def fractionField (bits : UInt64) : Nat :=
  bits.toNat % 0x10000000000000

theorem toNat_exponentBits (bits : UInt64) :
    ((bits >>> 52) &&& 0x7FF).toNat = exponentField bits := by
  have shifted := Nat.shiftRight_eq_div_pow bits.toNat 52
  have masked := Nat.and_two_pow_sub_one_eq_mod (bits.toNat >>> 52) 11
  rw [exponentField, UInt64.toNat_and, UInt64.toNat_shiftRight]
  simp only [Nat.reducePow, Nat.reduceSub] at shifted masked
  simp only [UInt64.reduceToNat, Nat.reduceMod]
  rw [masked, shifted]

theorem toNat_fractionBits (bits : UInt64) :
    (bits &&& 0xFFFFFFFFFFFFF).toNat = fractionField bits := by
  have masked := Nat.and_two_pow_sub_one_eq_mod bits.toNat 52
  rw [fractionField, UInt64.toNat_and]
  simpa using masked

theorem signBit_eq (bits : UInt64) : (bits >>> 63 == 1) = (signField bits == 1) := by
  have shifted := Nat.shiftRight_eq_div_pow bits.toNat 63
  rw [Bool.eq_iff_iff, beq_iff_eq, beq_iff_eq, signField, ← UInt64.toNat_inj,
    UInt64.toNat_shiftRight]
  simp only [Nat.reducePow] at shifted
  simp only [UInt64.reduceToNat, Nat.reduceMod]
  rw [shifted]

theorem ofBits_eq (bits : UInt64) :
    ofBits bits =
      if exponentField bits = 0 then ⟨signField bits == 1, fractionField bits, -1074, false⟩
      else ⟨signField bits == 1, 0x10000000000000 + fractionField bits,
        (exponentField bits : Int) - 1075,
        fractionField bits == 0 && decide (1 < exponentField bits)⟩ := by
  rw [ofBits, toNat_exponentBits, toNat_fractionBits, signBit_eq]

theorem negative_ofBits (bits : UInt64) : (ofBits bits).negative = (signField bits == 1) := by
  rw [ofBits_eq]
  split <;> rfl

theorem mantissa_ofBits (bits : UInt64) :
    (ofBits bits).mantissa =
      if exponentField bits = 0 then fractionField bits
      else 0x10000000000000 + fractionField bits := by
  rw [ofBits_eq]
  split <;> rfl

theorem exponent_ofBits (bits : UInt64) :
    (ofBits bits).exponent =
      if exponentField bits = 0 then -1074 else (exponentField bits : Int) - 1075 := by
  rw [ofBits_eq]
  split <;> rfl

/-! ## Normal form -/

/-- What the exact form of a double satisfies: the mantissa has at most 53 bits,
and exactly 53 unless the exponent is the least one. Only a power of two has a
narrower gap below it. -/
structure Normalized (x : Binary) : Prop where
  mantissa_lt : x.mantissa < 0x20000000000000
  exponent_ge : -1074 ≤ x.exponent
  leading : -1074 < x.exponent → 0x10000000000000 ≤ x.mantissa
  narrow : x.narrowBelow = true ↔ -1074 < x.exponent ∧ x.mantissa = 0x10000000000000

theorem ofBits_normalized (bits : UInt64) : (ofBits bits).Normalized := by
  have fraction_lt : fractionField bits < 0x10000000000000 := Nat.mod_lt _ (by decide)
  rw [ofBits_eq]
  split
  · next subnormal =>
      constructor
      · simp only
        omega
      · simp
      · simp
      · simp
  · next normal =>
      constructor
      · simp only
        omega
      · simp only
        omega
      · simp
      · simp only [Bool.and_eq_true, beq_iff_eq, decide_eq_true_eq]
        omega

theorem ofFloat_normalized (x : Float) : (ofFloat x).Normalized :=
  ofBits_normalized x.toBits

/-- Sign, mantissa and exponent determine the bits. -/
theorem ofBits_injective {left right : UInt64}
    (sameSign : (ofBits left).negative = (ofBits right).negative)
    (sameMantissa : (ofBits left).mantissa = (ofBits right).mantissa)
    (sameExponent : (ofBits left).exponent = (ofBits right).exponent) : left = right := by
  rw [negative_ofBits, negative_ofBits, Bool.eq_iff_iff, beq_iff_eq, beq_iff_eq] at sameSign
  rw [mantissa_ofBits, mantissa_ofBits] at sameMantissa
  rw [exponent_ofBits, exponent_ofBits] at sameExponent
  have leftBound := left.toNat_lt
  have rightBound := right.toNat_lt
  -- Both exponent fields 0 and 1 stand for the least exponent; the mantissa tells them apart.
  have sameField : exponentField left = exponentField right := by
    have leftFraction : fractionField left < 0x10000000000000 := Nat.mod_lt _ (by decide)
    have rightFraction : fractionField right < 0x10000000000000 := Nat.mod_lt _ (by decide)
    split at sameMantissa <;> split at sameMantissa <;> simp_all only [if_true, if_false] <;> omega
  have sameFraction : fractionField left = fractionField right := by
    rw [sameField] at sameMantissa
    split at sameMantissa <;> omega
  rw [← UInt64.toNat_inj]
  simp only [signField, exponentField, fractionField] at sameSign sameField sameFraction
  omega

theorem toBits_injective {x y : Float} (same : x.toBits = y.toBits) : x = y := by
  obtain ⟨⟨xBits, _⟩⟩ := x
  obtain ⟨⟨yBits, _⟩⟩ := y
  change xBits = yBits at same
  subst same
  rfl

theorem ofFloat_injective {x y : Float}
    (sameSign : (ofFloat x).negative = (ofFloat y).negative)
    (sameMantissa : (ofFloat x).mantissa = (ofFloat y).mantissa)
    (sameExponent : (ofFloat x).exponent = (ofFloat y).exponent) : x = y :=
  toBits_injective (ofBits_injective sameSign sameMantissa sameExponent)

/-! ## Zero -/

theorem ofFloat_zero : ofFloat 0.0 = ⟨false, 0, -1074, false⟩ := by decide

theorem ofFloat_negativeZero : ofFloat (-0.0) = ⟨true, 0, -1074, false⟩ := by decide

theorem exponent_of_mantissa_zero {x : Binary} (normalized : x.Normalized)
    (zero : x.mantissa = 0) : x.exponent = -1074 := by
  have least := normalized.exponent_ge
  have leading := normalized.leading
  omega

/-- Only the two zeros have no mantissa. -/
theorem mantissa_eq_zero_iff (x : Float) :
    (ofFloat x).mantissa = 0 ↔ x = 0.0 ∨ x = -0.0 := by
  constructor
  · intro zero
    have least := exponent_of_mantissa_zero (ofFloat_normalized x) zero
    cases sign : (ofFloat x).negative with
    | false =>
        left
        apply ofFloat_injective <;> rw [ofFloat_zero]
        · exact sign
        · exact zero
        · exact least
    | true =>
        right
        apply ofFloat_injective <;> rw [ofFloat_negativeZero]
        · exact sign
        · exact zero
        · exact least
  · rintro (rfl | rfl)
    · rw [ofFloat_zero]
    · rw [ofFloat_negativeZero]

end GlyphScript.Decimal.Binary
