import Mathlib.Algebra.Order.Field.Power
import Mathlib.Algebra.Order.Field.Rat
import Mathlib.Tactic.FieldSimp
import Mathlib.Tactic.Linarith
import Mathlib.Tactic.Positivity
import Mathlib.Tactic.Ring
import GlyphScript.Decimal.Shortest
import GlyphScript.Proofs.Decimal.Binary

/-!
# A decimal that reads back determines the double

The numbers that round to a double lie between the midpoints to its neighbours
(`Binary.Covers`). These stretches do not overlap (`covers_unique`), and the
shortest decimal of a double lies in the stretch of that double
(`covers_shortest`).
-/

namespace GlyphScript.Decimal

/-- The number that a decimal stands for. -/
def Digits.value (d : Digits) : ℚ :=
  d.digits * 10 ^ d.exponent

namespace Binary

/-- The absolute value of a double. -/
def magnitude (x : Binary) : ℚ :=
  x.mantissa * 2 ^ x.exponent

/-- The midpoint to the double below. -/
def lowerMidpoint (x : Binary) : ℚ :=
  (4 * x.mantissa - (if x.narrowBelow then 1 else 2) : ℕ) * 2 ^ (x.exponent - 2)

/-- The midpoint to the double above. -/
def upperMidpoint (x : Binary) : ℚ :=
  (4 * x.mantissa + 2 : ℕ) * 2 ^ (x.exponent - 2)

/-- The number rounds to the double: it lies between the two midpoints, and on one
of them only if the mantissa is even. -/
structure Covers (x : Binary) (q : ℚ) : Prop where
  lower_le : x.lowerMidpoint ≤ q
  le_upper : q ≤ x.upperMidpoint
  inside : x.mantissa % 2 = 0 ∨ x.lowerMidpoint < q ∧ q < x.upperMidpoint

end Binary

/-! ## Comparing without rounding -/

theorem pow_toNat (base : ℕ) (nonzero : (base : ℚ) ≠ 0) (exponent : ℤ) :
    (base : ℚ) ^ exponent.toNat = base ^ exponent * base ^ (-exponent).toNat := by
  have difference : (exponent.toNat : ℤ) = exponent + ((-exponent).toNat : ℤ) := by omega
  rw [← zpow_natCast, ← zpow_natCast, ← zpow_add₀ nonzero, difference]

/-- Both sides of the comparison are scaled by the same positive number. -/
theorem compareScaled_scale (a : ℕ) (i : ℤ) (b : ℕ) (j : ℤ) :
    ∃ scale : ℚ, 0 < scale ∧
      ((a * Nat.pow 10 i.toNat * Nat.pow 2 (-j).toNat : ℕ) : ℚ) = a * 10 ^ i * scale ∧
      ((b * Nat.pow 2 j.toNat * Nat.pow 10 (-i).toNat : ℕ) : ℚ) = b * 2 ^ j * scale := by
  have ten := pow_toNat 10 (by norm_num) i
  have two := pow_toNat 2 (by norm_num) j
  push_cast at ten two
  refine ⟨10 ^ (-i).toNat * 2 ^ (-j).toNat, by positivity, ?_, ?_⟩
  · simp only [Nat.pow_eq, Nat.cast_mul, Nat.cast_pow, Nat.cast_ofNat]
    rw [ten]
    ring
  · simp only [Nat.pow_eq, Nat.cast_mul, Nat.cast_pow, Nat.cast_ofNat]
    rw [two]
    ring

theorem compareScaled_eq_lt (a : ℕ) (i : ℤ) (b : ℕ) (j : ℤ) :
    compareScaled a i b j = .lt ↔ (a : ℚ) * 10 ^ i < b * 2 ^ j := by
  obtain ⟨scale, positive, left, right⟩ := compareScaled_scale a i b j
  rw [compareScaled, Nat.compare_eq_lt, ← Nat.cast_lt (α := ℚ), left, right,
    mul_lt_mul_iff_left₀ positive]

theorem compareScaled_eq_gt (a : ℕ) (i : ℤ) (b : ℕ) (j : ℤ) :
    compareScaled a i b j = .gt ↔ (b : ℚ) * 2 ^ j < a * 10 ^ i := by
  obtain ⟨scale, positive, left, right⟩ := compareScaled_scale a i b j
  rw [compareScaled, Nat.compare_eq_gt, ← Nat.cast_lt (α := ℚ), left, right,
    mul_lt_mul_iff_left₀ positive]

theorem compareScaled_eq_eq (a : ℕ) (i : ℤ) (b : ℕ) (j : ℤ) :
    compareScaled a i b j = .eq ↔ (a : ℚ) * 10 ^ i = b * 2 ^ j := by
  obtain ⟨scale, positive, left, right⟩ := compareScaled_scale a i b j
  rw [compareScaled, Nat.compare_eq_eq, ← Nat.cast_inj (R := ℚ), left, right,
    mul_left_inj' positive.ne']

/-- The test for reading back decides whether the double covers the decimal. -/
theorem covers_of_readsBack {d : Digits} {x : Binary} (back : d.readsBack x = true) :
    x.Covers d.value := by
  simp only [Digits.readsBack, Bool.and_eq_true, Bool.or_eq_true, beq_iff_eq,
    compareScaled_eq_lt, compareScaled_eq_gt, compareScaled_eq_eq] at back
  obtain ⟨below, above⟩ := back
  constructor
  · rcases below with strict | ⟨_, equal⟩
    · exact le_of_lt strict
    · exact le_of_eq equal.symm
  · rcases above with strict | ⟨_, equal⟩
    · exact le_of_lt strict
    · exact le_of_eq equal
  · rcases below with strictBelow | ⟨even, _⟩
    · rcases above with strictAbove | ⟨even, _⟩
      · exact .inr ⟨strictBelow, strictAbove⟩
      · exact .inl even
    · exact .inl even

/-! ## The covered stretches do not overlap -/

namespace Binary

theorem upperMidpoint_lt {x : Binary} {q : ℚ} (normalized : x.Normalized) (covered : x.Covers q) :
    q < 0x7FFFFFFFFFFFFE * 2 ^ (x.exponent - 2) := by
  have positive : (0 : ℚ) < 2 ^ (x.exponent - 2) := by positivity
  have bounded := normalized.mantissa_lt
  rcases covered.inside with even | ⟨_, strict⟩
  · refine lt_of_le_of_lt covered.le_upper ?_
    have count : 4 * x.mantissa + 2 < 0x7FFFFFFFFFFFFE := by omega
    exact mul_lt_mul_of_pos_right (by exact_mod_cast count) positive
  · refine lt_of_lt_of_le strict ?_
    have count : 4 * x.mantissa + 2 ≤ 0x7FFFFFFFFFFFFE := by omega
    exact mul_le_mul_of_nonneg_right (by exact_mod_cast count) positive.le

theorem le_lowerMidpoint {x : Binary} (normalized : x.Normalized) (notLeast : -1074 < x.exponent) :
    0x3FFFFFFFFFFFFF * 2 ^ (x.exponent - 2) ≤ x.lowerMidpoint := by
  have positive : (0 : ℚ) < 2 ^ (x.exponent - 2) := by positivity
  have count : 0x3FFFFFFFFFFFFF ≤ 4 * x.mantissa - (if x.narrowBelow then 1 else 2) := by
    have leading := normalized.leading notLeast
    have narrow := normalized.narrow
    split
    · omega
    · next wide =>
        have notPower : x.mantissa ≠ 0x10000000000000 := by
          intro power
          exact wide (narrow.mpr ⟨notLeast, power⟩)
        omega
  exact mul_le_mul_of_nonneg_right (by exact_mod_cast count) positive.le

/-- Doubles of a larger exponent lie beyond all numbers that a double covers. -/
theorem exponent_le_of_covers {x y : Binary} {q : ℚ} (xNormalized : x.Normalized)
    (yNormalized : y.Normalized) (xCovers : x.Covers q) (yCovers : y.Covers q) :
    y.exponent ≤ x.exponent := by
  by_contra above
  have least := xNormalized.exponent_ge
  have scale : (2 : ℚ) * 2 ^ (x.exponent - 2) ≤ 2 ^ (y.exponent - 2) := by
    rw [← zpow_one_add₀ (by norm_num)]
    exact zpow_le_zpow_right₀ (by norm_num) (by omega)
  have below := upperMidpoint_lt xNormalized xCovers
  have beyond := le_lowerMidpoint yNormalized (by omega)
  have reached := yCovers.lower_le
  linarith

theorem mantissa_le_of_covers {x y : Binary} {q : ℚ} (xNormalized : x.Normalized)
    (yNormalized : y.Normalized) (sameExponent : x.exponent = y.exponent) (xCovers : x.Covers q)
    (yCovers : y.Covers q) : y.mantissa ≤ x.mantissa := by
  by_contra above
  have positive : (0 : ℚ) < 2 ^ (x.exponent - 2) := by positivity
  -- Only the least mantissa of a binade is narrow, and `y` has a larger one than `x`.
  have wide : y.narrowBelow = false := by
    cases narrow : y.narrowBelow with
    | false => rfl
    | true =>
        obtain ⟨notLeast, power⟩ := yNormalized.narrow.mp narrow
        have leading := xNormalized.leading (sameExponent ▸ notLeast)
        omega
  have lower : y.lowerMidpoint = (4 * y.mantissa - 2 : ℕ) * 2 ^ (x.exponent - 2) := by
    rw [lowerMidpoint, wide, sameExponent]
    rfl
  have order : 4 * x.mantissa + 2 ≤ 4 * y.mantissa - 2 := by omega
  have meet : x.upperMidpoint ≤ y.lowerMidpoint := by
    rw [lower]
    exact mul_le_mul_of_nonneg_right (by exact_mod_cast order) positive.le
  have between := xCovers.le_upper
  have reached := yCovers.lower_le
  rcases xCovers.inside with xEven | ⟨_, strict⟩
  · rcases yCovers.inside with yEven | ⟨strict, _⟩
    · -- Two even mantissas are not neighbours, so the midpoints do not meet.
      have gap : 4 * x.mantissa + 2 < 4 * y.mantissa - 2 := by omega
      have apart : x.upperMidpoint < y.lowerMidpoint := by
        rw [lower]
        exact mul_lt_mul_of_pos_right (by exact_mod_cast gap) positive
      linarith
    · linarith
  · linarith

/-- A number rounds to at most one double. -/
theorem covers_unique {x y : Binary} {q : ℚ} (xNormalized : x.Normalized)
    (yNormalized : y.Normalized) (xCovers : x.Covers q) (yCovers : y.Covers q) :
    x.mantissa = y.mantissa ∧ x.exponent = y.exponent := by
  have sameExponent : x.exponent = y.exponent :=
    le_antisymm (exponent_le_of_covers yNormalized xNormalized yCovers xCovers)
      (exponent_le_of_covers xNormalized yNormalized xCovers yCovers)
  refine ⟨?_, sameExponent⟩
  exact le_antisymm
    (mantissa_le_of_covers yNormalized xNormalized sameExponent.symm yCovers xCovers)
    (mantissa_le_of_covers xNormalized yNormalized sameExponent xCovers yCovers)

/-! ## The shortest decimal reads back -/

/-- A double covers its own value. -/
theorem covers_magnitude (x : Binary) : x.Covers x.magnitude := by
  have positive : (0 : ℚ) < 2 ^ (x.exponent - 2) := by positivity
  have quarter : x.magnitude = (4 * x.mantissa : ℕ) * 2 ^ (x.exponent - 2) := by
    rw [magnitude, zpow_sub₀ (by norm_num)]
    push_cast
    ring
  rw [quarter]
  constructor
  · exact mul_le_mul_of_nonneg_right (by exact_mod_cast Nat.sub_le _ _) positive.le
  · exact mul_le_mul_of_nonneg_right (by exact_mod_cast Nat.le_add_right _ _) positive.le
  · by_cases zero : x.mantissa = 0
    · left
      rw [zero]
    · right
      have count : 4 * x.mantissa - (if x.narrowBelow then 1 else 2) < 4 * x.mantissa := by
        split <;> omega
      exact ⟨mul_lt_mul_of_pos_right (by exact_mod_cast count) positive,
        mul_lt_mul_of_pos_right (by exact_mod_cast Nat.lt_add_of_pos_right (by decide)) positive⟩

theorem value_expansion (x : Binary) : x.expansion.value = x.magnitude := by
  unfold expansion Digits.value magnitude
  split
  · next whole =>
      have exponent := Int.toNat_of_nonneg whole
      simp only [Nat.pow_eq, Nat.cast_mul, Nat.cast_pow, Nat.cast_ofNat, zpow_zero, mul_one]
      rw [← zpow_natCast, exponent]
  · next fraction =>
      have exponent : x.exponent = -((-x.exponent).toNat : ℤ) := by omega
      simp only [Nat.pow_eq, Nat.cast_mul, Nat.cast_pow, Nat.cast_ofNat]
      rw [exponent, zpow_neg, zpow_neg, zpow_natCast, zpow_natCast, neg_neg, Int.toNat_natCast,
        show (10 : ℚ) = 5 * 2 by norm_num, mul_pow]
      field_simp

end Binary

/-- Stripping zeros does not change the number. -/
theorem value_strip (d : Digits) : d.strip.value = d.value := by
  fun_induction Digits.strip d with
  | case1 d trailing ih =>
      rw [ih]
      have whole : 10 * (d.digits / 10) = d.digits :=
        Nat.mul_div_cancel' (Nat.dvd_of_mod_eq_zero trailing.2)
      have digits : (d.digits : ℚ) = 10 * (d.digits / 10 : ℕ) := by
        rw [← Nat.cast_ofNat, ← Nat.cast_mul, whole]
      rw [Digits.value, Digits.value, digits, zpow_add₀ (by norm_num), zpow_one]
      ring
  | case2 => rfl

theorem readsBack_of_onGrid? {x : Binary} {tie : Tie} {exact d : Digits} {length count : ℕ}
    (found : x.onGrid? tie exact length count = some d) : d.readsBack x = true := by
  unfold Binary.onGrid? at found
  simp only at found
  split at found
  · next low _ => cases found; exact low
  · next _ high => cases found; exact high
  · cases found
  · next low high =>
      split at found
      · cases found; exact low
      · cases found; exact high
      · cases found
        split
        · exact low
        · exact high

/-- The shortest decimal of a double is covered by that double. -/
theorem covers_shortest (x : Binary) (tie : Tie) : x.Covers (x.shortest tie).value := by
  unfold Binary.shortest
  simp only [value_strip]
  cases search : (List.range 17).findSome? fun n =>
      x.onGrid? tie x.expansion (digitCount x.expansion.digits) (n + 1) with
  | none =>
      rw [Option.getD_none, Binary.value_expansion]
      exact x.covers_magnitude
  | some d =>
      obtain ⟨count, _, found⟩ := List.exists_of_findSome?_eq_some search
      exact covers_of_readsBack (readsBack_of_onGrid? found)

end GlyphScript.Decimal
