import GlyphScript.Proofs.Decimal.Shortest

/-!
# Comparing doubles, and their whole parts

Two doubles can be compared unless one of them is NaN (`not_le_iff`). A finite double that
is at least one is exactly that as a number as well (`one_le_magnitude`), so that its whole
part is not zero (`cutTo_toNat64`).
-/

open Float.Model Float.Model.UnpackedFloat

namespace GlyphScript.Decimal

/-! ## Order -/

theorem compare_sizes_swap (m n : ℕ) (e f : ℤ) :
    ((compare e f).then (compare m n)).swap = (compare f e).then (compare n m) := by
  rw [Ordering.swap_then, ← Std.OrientedOrd.eq_swap, ← Std.OrientedOrd.eq_swap]

theorem compare_swap (a b : UnpackedFloat) : (a.compare b).map Ordering.swap = b.compare a := by
  cases a with
  | notANumber => cases b <;> rfl
  | infinity s =>
      cases b with
      | infinity t => cases s <;> cases t <;> rfl
      | _ => cases s <;> rfl
  | zero s =>
      cases b with
      | infinity t => cases t <;> rfl
      | finite t _ _ _ => cases t <;> rfl
      | _ => rfl
  | finite s m e _ =>
      cases b with
      | infinity t => cases s <;> cases t <;> rfl
      | zero t => cases s <;> rfl
      | notANumber => cases s <;> rfl
      | finite t n f _ =>
          have sizes := compare_sizes_swap m n e f
          cases s <;> cases t
          · exact congrArg some (congrArg Ordering.swap sizes)
          · rfl
          · rfl
          · exact congrArg some sizes

theorem compare_eq_none_iff (a b : UnpackedFloat) :
    a.compare b = none ↔ a.isNaN = true ∨ b.isNaN = true := by
  constructor
  · intro incomparable
    cases a with
    | notANumber => exact .inl rfl
    | _ s =>
        cases b with
        | notANumber => exact .inr rfl
        | infinity t => cases s <;> cases t <;> cases incomparable
        | zero t => cases s <;> cases incomparable
        | finite t _ _ _ => cases s <;> cases t <;> cases incomparable
  · rintro (left | right)
    · cases a with
      | notANumber => rfl
      | _ => cases left
    · cases b with
      | notANumber => cases a <;> rfl
      | _ => cases right

theorem le_iff_compare (x y : Float) :
    x ≤ y ↔ (x.toModel.unpack.compare y.toModel.unpack).any (·.isLE) = true :=
  decide_eq_true_iff

theorem lt_iff_compare (x y : Float) :
    x < y ↔ x.toModel.unpack.compare y.toModel.unpack = some .lt :=
  decide_eq_true_iff.trans beq_iff_eq

theorem not_le_iff (x y : Float) : ¬ x ≤ y ↔ x.isNaN = true ∨ y.isNaN = true ∨ y < x := by
  have incomparable := compare_eq_none_iff x.toModel.unpack y.toModel.unpack
  rw [← or_assoc, le_iff_compare, lt_iff_compare, ← compare_swap x.toModel.unpack]
  show _ ↔ (x.toModel.unpack.isNaN = true ∨ y.toModel.unpack.isNaN = true) ∨ _
  rw [← incomparable]
  cases x.toModel.unpack.compare y.toModel.unpack with
  | none => simp
  | some order => cases order <;> decide

/-! ## Fields -/

theorem toNat_unpackExponent (bits : UInt64) :
    (@unpackExponent .binary64 bits.toBitVec).toNat = Binary.exponentField bits := by
  unfold unpackExponent Binary.exponentField
  rw [BitVec.toNat_cast, BitVec.extractLsb_toNat, Nat.shiftRight_eq_div_pow]
  rfl

theorem toNat_unpackMantissa (bits : UInt64) :
    (@unpackMantissa .binary64 bits.toBitVec).toNat = Binary.fractionField bits := by
  unfold unpackMantissa Binary.fractionField
  rw [BitVec.toNat_cast, BitVec.extractLsb_toNat, Nat.shiftRight_zero]
  rfl

theorem isNegative_unpackSign (bits : UInt64) :
    (Sign.ofBitVec (@unpackSign .binary64 bits.toBitVec) == .negative) =
      (Binary.signField bits == 1) := by
  have field : (@unpackSign .binary64 bits.toBitVec).toNat = Binary.signField bits := by
    unfold unpackSign Binary.signField
    rw [BitVec.toNat_cast, BitVec.extractLsb_toNat, Nat.shiftRight_eq_div_pow]
    have bound := bits.toNat_lt
    show bits.toNat / 2 ^ 63 % 2 ^ 1 = _
    omega
  have bit : ∀ v : BitVec 1, (Sign.ofBitVec v == .negative) = (v.toNat == 1) := by decide
  rw [bit, field]

/-- The form in which doubles are compared holds the exact value. -/
theorem ofFloat_of_unpack {x : Float} {sign : Sign} {m : ℕ} {e : ℤ} {positive : 0 < m}
    (unpacked : x.toModel.unpack = .finite sign m e positive) :
    (Binary.ofFloat x).negative = (sign == .negative) ∧ (Binary.ofFloat x).mantissa = m ∧
      (Binary.ofFloat x).exponent = e := by
  have exponentField := toNat_unpackExponent x.toBits
  have fractionField := toNat_unpackMantissa x.toBits
  have signField := isNegative_unpackSign x.toBits
  rw [Binary.ofFloat, Binary.negative_ofBits, Binary.mantissa_ofBits, Binary.exponent_ofBits]
  change UnpackedFloat.unpack .binary64 x.toBits.toBitVec = _ at unpacked
  unfold UnpackedFloat.unpack at unpacked
  dsimp only at unpacked
  by_cases special : @unpackExponent .binary64 x.toBits.toBitVec = -1#_
  · rw [if_pos special] at unpacked
    by_cases infinite : @unpackMantissa .binary64 x.toBits.toBitVec = 0#_
    · rw [if_pos infinite] at unpacked
      cases unpacked
    · rw [if_neg infinite] at unpacked
      cases unpacked
  rw [if_neg special] at unpacked
  by_cases least : @unpackExponent .binary64 x.toBits.toBitVec = 0#_
  · have noExponent : Binary.exponentField x.toBits = 0 := by
      rw [← exponentField, least]
      rfl
    rw [if_pos least] at unpacked
    by_cases nothing : @unpackMantissa .binary64 x.toBits.toBitVec = 0#_
    · rw [dif_pos nothing] at unpacked
      cases unpacked
    · rw [dif_neg nothing] at unpacked
      cases unpacked
      rw [if_pos noExponent, if_pos noExponent, least]
      exact ⟨signField.symm, fractionField.symm, rfl⟩
  · have someExponent : Binary.exponentField x.toBits ≠ 0 := by
      rw [← exponentField]
      exact fun zero => least (BitVec.eq_of_toNat_eq zero)
    rw [if_neg least] at unpacked
    cases unpacked
    rw [if_neg someExponent, if_neg someExponent]
    refine ⟨signField.symm, ?_, ?_⟩
    · rw [← fractionField, BitVec.toNat_append,
        ← Nat.shiftLeft_add_eq_or_of_lt (BitVec.isLt _), Nat.shiftLeft_eq]
      rfl
    · rw [← exponentField]
      show _ = _ - ((1023 : ℕ) + (52 : ℕ) : ℤ)
      omega

theorem unpack_literalOne : (1 : Float).toModel.unpack =
    .finite .positive (2 ^ 52) (-52) (by decide) := by
  rfl

/-- A finite double that is at least one is so as a number. -/
theorem one_le_magnitude {x : Float} (finite : x.isFinite = true) (least : 1 ≤ x) :
    (Binary.ofFloat x).negative = false ∧ 1 ≤ (Binary.ofFloat x).magnitude := by
  change x.toModel.unpack.isFinite = true at finite
  rw [le_iff_compare, unpack_literalOne] at least
  cases unpacked : x.toModel.unpack with
  | notANumber => rw [unpacked] at finite; cases finite
  | infinity sign => rw [unpacked] at finite; cases finite
  | zero sign => rw [unpacked] at least; cases least
  | finite sign m e positive =>
      obtain ⟨sameSign, sameMantissa, sameExponent⟩ := ofFloat_of_unpack unpacked
      rw [unpacked] at least
      cases sign with
      | negative => cases least
      | positive =>
          have leading := (Binary.ofFloat_normalized x).leading
          rw [sameMantissa, sameExponent] at leading
          have order : ((compare (-52) e).then (compare (2 ^ 52) m)).isLE = true := least
          rw [Ordering.isLE_then_iff_or] at order
          have large : 2 ^ 52 ≤ m ∧ -52 ≤ e := by
            rcases order with below | ⟨same, notLess⟩
            · rw [Int.compare_eq_lt] at below
              exact ⟨leading (by omega), by omega⟩
            · rw [Int.compare_eq_eq] at same
              exact ⟨Nat.isLE_compare.mp notLess, by omega⟩
          have mantissaLarge : (2 : ℚ) ^ 52 ≤ m := by exact_mod_cast large.1
          have powerLarge : (2 : ℚ) ^ (-52 : ℤ) ≤ 2 ^ e := zpow_le_zpow_right₀ (by norm_num) large.2
          refine ⟨sameSign, ?_⟩
          rw [Binary.magnitude, sameMantissa, sameExponent]
          calc
            (1 : ℚ) = 2 ^ 52 * 2 ^ (-52 : ℤ) := by norm_num
            _ ≤ m * 2 ^ e := by gcongr

/-! ## Whole parts -/

theorem truncate_bounds {x : Binary} (notNegative : x.negative = false) :
    ∃ n : ℕ, x.truncate = n ∧ (n : ℚ) ≤ x.magnitude ∧ x.magnitude < n + 1 := by
  have power := pow_toNat 2 (by norm_num) x.exponent
  have scaled : ((x.mantissa * 2 ^ x.exponent.toNat : ℕ) : ℚ) =
      x.magnitude * (2 ^ (-x.exponent).toNat : ℕ) := by
    push_cast at power ⊢
    rw [Binary.magnitude, mul_assoc, ← power]
  have positive : 0 < 2 ^ (-x.exponent).toNat := Nat.two_pow_pos _
  have positiveRat : (0 : ℚ) < (2 ^ (-x.exponent).toNat : ℕ) := by exact_mod_cast positive
  refine ⟨x.mantissa * 2 ^ x.exponent.toNat / 2 ^ (-x.exponent).toNat, ?_, ?_, ?_⟩
  · rw [Binary.truncate, Binary.signed, notNegative]
    rfl
  · refine le_of_mul_le_mul_right ?_ positiveRat
    rw [← scaled]
    exact_mod_cast Nat.div_mul_le_self _ _
  · refine lt_of_mul_lt_mul_right ?_ positiveRat.le
    rw [← scaled]
    have above := Nat.lt_mul_div_succ (x.mantissa * 2 ^ x.exponent.toNat) positive
    rw [Nat.mul_comm (2 ^ _)] at above
    exact_mod_cast above

/-- The whole part of a double that is at least one, as far as 64 bits hold it. -/
inductive CutTo (x : Float) : ℕ → Prop
  | whole {n : ℕ} (finite : x.isFinite = true) (low : (n : ℚ) ≤ (Binary.ofFloat x).magnitude)
      (high : (Binary.ofFloat x).magnitude < n + 1) (fits : n < 2 ^ 64) : CutTo x n
  | huge (exceeds : x.isFinite = true → (2 : ℚ) ^ 64 ≤ (Binary.ofFloat x).magnitude) :
      CutTo x (2 ^ 64 - 1)

theorem CutTo.one_le {x : Float} {n : ℕ} (cut : CutTo x n) (least : 1 ≤ x) : 1 ≤ n := by
  cases cut with
  | whole finite _ high _ =>
      have one := (one_le_magnitude finite least).2
      have positive : (0 : ℚ) < n := by linarith
      exact_mod_cast positive
  | huge _ => decide

theorem CutTo.unique {x : Float} {m n : ℕ} (cut : CutTo x m) (again : CutTo x n) : m = n := by
  have whole_or_huge : ∀ {k : ℕ}, (Binary.ofFloat x).magnitude < k + 1 → k < 2 ^ 64 →
      ¬ (2 : ℚ) ^ 64 ≤ (Binary.ofFloat x).magnitude := by
    intro k high fits large
    have bound : (k : ℚ) + 1 ≤ 2 ^ 64 := by exact_mod_cast fits
    linarith
  cases cut with
  | whole finite low high fits =>
      cases again with
      | whole _ lowAgain highAgain _ =>
          have below : (m : ℚ) < n + 1 := by linarith
          have above : (n : ℚ) < m + 1 := by linarith
          have belowNat : m < n + 1 := by exact_mod_cast below
          have aboveNat : n < m + 1 := by exact_mod_cast above
          omega
      | huge exceeds => exact absurd (exceeds finite) (whole_or_huge high fits)
  | huge exceeds =>
      cases again with
      | whole finite _ high fits => exact absurd (exceeds finite) (whole_or_huge high fits)
      | huge _ => rfl

/-- What is at least one and not finite is the greater infinity. -/
theorem toNat64_of_infinite {x : Float} (infinite : x.isFinite = false) (least : 1 ≤ x) :
    toNat64 x = 2 ^ 64 - 1 := by
  have notNegative : ¬ (x.isNaN || decide (x < 0)) = true := by
    change x.toModel.unpack.isFinite = false at infinite
    rw [le_iff_compare, unpack_literalOne] at least
    rw [Bool.or_eq_true, decide_eq_true_iff, lt_iff_compare]
    show ¬ (x.toModel.unpack.isNaN = true ∨ _)
    cases unpacked : x.toModel.unpack with
    | notANumber => rw [unpacked] at least; cases least
    | infinity sign =>
        rw [unpacked] at least
        cases sign with
        | positive => decide
        | negative => cases least
    | zero sign => rw [unpacked] at infinite; cases infinite
    | finite sign m e positive => rw [unpacked] at infinite; cases infinite
  rw [toNat64, if_neg (Bool.eq_false_iff.mp infinite), if_neg notNegative]
  rfl

theorem cutTo_toNat64 {x : Float} (least : 1 ≤ x) : CutTo x (toNat64 x) := by
  cases finite : x.isFinite with
  | false =>
      rw [toNat64_of_infinite finite least]
      exact .huge (by rw [finite]; nofun)
  | true =>
      obtain ⟨notNegative, _⟩ := one_le_magnitude finite least
      obtain ⟨n, cut, low, high⟩ := truncate_bounds notNegative
      rw [toNat64, if_pos finite, cut, Int.toNat_natCast]
      by_cases fits : n < 2 ^ 64
      · rw [Nat.min_eq_right (by omega)]
        exact .whole finite low high fits
      · rw [Nat.min_eq_left (by omega)]
        refine .huge fun _ => ?_
        have large : (2 : ℚ) ^ 64 ≤ n := by exact_mod_cast Nat.le_of_not_lt fits
        exact large.trans low

end GlyphScript.Decimal
