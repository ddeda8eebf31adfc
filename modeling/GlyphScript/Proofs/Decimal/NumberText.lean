import GlyphScript.Decimal.Layout
import GlyphScript.Decimal.Reading
import GlyphScript.Proofs.Decimal.Shortest
import GlyphScript.Proofs.Stretch

/-!
# Number texts determine their numbers

A positional text is read as the number it was written for
(`readDecimal_positionalText`), and a finite number is written as a decimal that
only this number covers (`numberText_eq`). So two finite numbers have the same
text exactly if they are equal or both zero (`numberText_injective`). Integral
numbers below the limit, and numbers that are not finite, are written alike on their
own and in a JSON text (`numberText_eq_jsonText`).
-/

namespace GlyphScript.Decimal

open Text (isAsciiDigit digitValue)

/-! ## Digits -/

theorem isAsciiDigit_eq_isDigit (c : Char) : isAsciiDigit c = c.isDigit := by
  rw [Bool.eq_iff_iff]
  simp only [isAsciiDigit, Char.isDigit, Bool.and_eq_true, decide_eq_true_eq, Char.le_def]

theorem digitsValue_eq (digits : List Char) : digitsValue digits = Nat.ofDigitChars 10 digits 0 :=
  Nat.ofDigitChars_eq_foldl.symm

/-- Only digits stand in the text. -/
def AllDigits (cs : List Char) : Prop :=
  ∀ c ∈ cs, isAsciiDigit c = true

theorem allDigits_natDigits (n : Nat) : AllDigits (natDigits n) := by
  intro c member
  rw [isAsciiDigit_eq_isDigit]
  exact Nat.isDigit_of_mem_toDigits (by decide) (by decide) member

theorem allDigits_zeros (count : Nat) : AllDigits (zeros count) := by
  intro c member
  rw [List.eq_of_mem_replicate member]
  decide

theorem AllDigits.append {left right : List Char} (leftDigits : AllDigits left)
    (rightDigits : AllDigits right) : AllDigits (left ++ right) := by
  intro c member
  rcases List.mem_append.mp member with inLeft | inRight
  · exact leftDigits c inLeft
  · exact rightDigits c inRight

theorem natDigits_ne_nil (n : Nat) : natDigits n ≠ [] :=
  Nat.toDigits_ne_nil

theorem digitsValue_natDigits (n : Nat) : digitsValue (natDigits n) = n := by
  rw [digitsValue_eq]
  exact Nat.ofDigitChars_ten_toDigits

theorem digitsValue_append_zeros (digits : List Char) (count : Nat) :
    digitsValue (digits ++ zeros count) = 10 ^ count * digitsValue digits := by
  rw [digitsValue_eq, digitsValue_eq, Nat.ofDigitChars_append, zeros,
    Nat.ofDigitChars_replicate_zero]

theorem digitsValue_zeros_append (count : Nat) (digits : List Char) :
    digitsValue (zeros count ++ digits) = digitsValue digits := by
  rw [digitsValue_eq, digitsValue_eq, Nat.ofDigitChars_append, zeros,
    Nat.ofDigitChars_replicate_zero, Nat.mul_zero]

/-! ## Reading a positional text -/

theorem readDecimal_append (negative : Bool) {whole tail : List Char} (digits : AllDigits whole)
    (nonempty : whole ≠ []) (stops : ∀ c ∈ tail.head?, isAsciiDigit c = false ∧ c ≠ '.') :
    readDecimal negative (whole ++ tail) =
      (readExponent tail).map (.decimal negative (digitsValue whole)) := by
  have parts := Stretch.cut_append digits fun c first => (stops c first).1
  have noPoint : ∀ behind, tail ≠ '.' :: behind := by
    rintro behind rfl
    exact (stops '.' rfl).2 rfl
  unfold readDecimal
  simp only [parts.1, parts.2]
  cases readExponent tail <;> simp [nonempty]

theorem readDecimal_point_append (negative : Bool) {whole fraction tail : List Char}
    (digits : AllDigits whole) (nonempty : whole ≠ []) (fractionDigits : AllDigits fraction)
    (stops : ∀ c ∈ tail.head?, isAsciiDigit c = false) :
    readDecimal negative (whole ++ '.' :: (fraction ++ tail)) =
      (readExponent tail).map fun exponent =>
        .decimal negative (digitsValue (whole ++ fraction)) (exponent - fraction.length) := by
  have parts := @Stretch.cut_append _ isAsciiDigit whole ('.' :: (fraction ++ tail)) digits
    (by simp [isAsciiDigit])
  have behind := Stretch.cut_append fractionDigits stops
  unfold readDecimal
  simp only [parts.1, parts.2, behind.1, behind.2]
  cases readExponent tail <;> simp [nonempty]

theorem readDecimal_whole (negative : Bool) {whole : List Char} (digits : AllDigits whole)
    (nonempty : whole ≠ []) :
    readDecimal negative whole = some (.decimal negative (digitsValue whole) 0) := by
  have read := @readDecimal_append negative whole [] digits nonempty nofun
  rwa [List.append_nil] at read

theorem readDecimal_fraction (negative : Bool) {whole fraction : List Char}
    (digits : AllDigits whole) (fractionDigits : AllDigits fraction) (nonempty : whole ≠ []) :
    readDecimal negative (whole ++ '.' :: fraction) =
      some (.decimal negative (digitsValue (whole ++ fraction)) (-fraction.length)) := by
  have read := @readDecimal_point_append negative whole fraction [] digits nonempty
    fractionDigits nofun
  rw [List.append_nil] at read
  simp [read, readExponent]

/-- Reading a positional text gives the number that it was written for. -/
theorem readDecimal_positionalText (negative : Bool) (d : Digits) :
    ∃ read : Digits,
      readDecimal negative (positionalText false (natDigits d.digits) d.exponent) =
        some (.decimal negative read.digits read.exponent) ∧ read.value = d.value := by
  have digits := allDigits_natDigits d.digits
  have nonempty := natDigits_ne_nil d.digits
  unfold positionalText
  split
  · next whole =>
      refine ⟨⟨digitsValue (natDigits d.digits ++ zeros d.exponent.toNat), 0⟩, ?_, ?_⟩
      · rw [if_neg (by decide), List.append_nil]
        exact readDecimal_whole negative (digits.append (allDigits_zeros _)) (by simp [nonempty])
      · rw [digitsValue_append_zeros, digitsValue_natDigits, Digits.value, Digits.value]
        push_cast
        rw [mul_one, mul_comm, ← zpow_natCast, Int.toNat_of_nonneg whole]
  · next fraction =>
      simp only
      split
      · next inside =>
          have split := List.take_append_drop
            ((natDigits d.digits).length - (-d.exponent).toNat) (natDigits d.digits)
          rw [← split] at digits
          refine ⟨d, ?_, rfl⟩
          rw [readDecimal_fraction negative
            (fun c member => digits c (List.mem_append_left _ member))
            (fun c member => digits c (List.mem_append_right _ member))]
          · rw [split, digitsValue_natDigits, List.length_drop]
            congr 2
            omega
          · intro empty
            rcases List.take_eq_nil_iff.mp empty with none | none
            · omega
            · exact nonempty none
      · next outside =>
          refine ⟨d, ?_, rfl⟩
          have read := readDecimal_fraction negative (allDigits_zeros 1)
            ((allDigits_zeros ((-d.exponent).toNat - (natDigits d.digits).length)).append digits)
            (by simp [zeros])
          rw [digitsValue_zeros_append, digitsValue_zeros_append, digitsValue_natDigits,
            List.length_append, zeros, zeros, List.length_replicate] at read
          rw [zeros]
          refine read.trans ?_
          congr 2
          omega

/-- Two decimals with the same positional text are the same number. -/
theorem value_eq_of_positionalText_eq {left right : Digits}
    (same : positionalText false (natDigits left.digits) left.exponent =
      positionalText false (natDigits right.digits) right.exponent) :
    left.value = right.value := by
  obtain ⟨leftRead, leftText, leftValue⟩ := readDecimal_positionalText false left
  obtain ⟨rightRead, rightText, rightValue⟩ := readDecimal_positionalText false right
  rw [same, rightText] at leftText
  obtain ⟨sameDigits, sameExponent⟩ : rightRead.digits = leftRead.digits ∧
      rightRead.exponent = leftRead.exponent := by
    simpa using leftText
  rw [← leftValue, ← rightValue, Digits.value, Digits.value, sameDigits, sameExponent]

theorem positionalText_head (n : Nat) (exponent : Int) :
    ∃ c rest, positionalText false (natDigits n) exponent = c :: rest ∧ isAsciiDigit c = true := by
  obtain ⟨first, others, split⟩ := List.exists_cons_of_ne_nil (natDigits_ne_nil n)
  have digit : isAsciiDigit first = true :=
    allDigits_natDigits n first (split ▸ List.mem_cons_self)
  unfold positionalText
  split
  · exact ⟨first, _, by rw [split]; rfl, digit⟩
  · simp only
    split
    · next inside =>
        obtain ⟨count, positive⟩ : ∃ count, (natDigits n).length - (-exponent).toNat = count + 1 :=
          ⟨_, (Nat.succ_pred_eq_of_pos (by omega)).symm⟩
        rw [positive, split]
        exact ⟨first, _, rfl, digit⟩
    · exact ⟨'0', _, rfl, by decide⟩

theorem positionalText_chars {n : Nat} {exponent : Int} {c : Char}
    (member : c ∈ positionalText false (natDigits n) exponent) :
    isAsciiDigit c = true ∨ c = '.' := by
  have digits := allDigits_natDigits n
  unfold positionalText at member
  split at member
  · rw [if_neg (by decide), List.append_nil] at member
    exact .inl (digits.append (allDigits_zeros _) c member)
  · simp only at member
    split at member
    · rcases List.mem_append.mp member with inWhole | behind
      · exact .inl (digits c (List.mem_of_mem_take inWhole))
      · rcases List.mem_cons.mp behind with point | inFraction
        · exact .inr point
        · exact .inl (digits c (List.mem_of_mem_drop inFraction))
    · rcases List.mem_cons.mp member with zero | behind
      · exact .inl (zero ▸ by decide)
      · rcases List.mem_cons.mp behind with point | inFraction
        · exact .inr point
        · exact .inl ((allDigits_zeros _).append digits c inFraction)

/-! ## The text of a finite number -/

/-- A decimal in positional form, behind a minus sign or not. -/
def signedText (minus : Bool) (d : Digits) : List Char :=
  if minus then '-' :: positionalText false (natDigits d.digits) d.exponent
  else positionalText false (natDigits d.digits) d.exponent

theorem signedText_injective {minus otherMinus : Bool} {d other : Digits}
    (same : signedText minus d = signedText otherMinus other) :
    minus = otherMinus ∧ d.value = other.value := by
  obtain ⟨first, rest, text, digit⟩ := positionalText_head d.digits d.exponent
  obtain ⟨otherFirst, otherRest, otherText, otherDigit⟩ :=
    positionalText_head other.digits other.exponent
  have noMinus : isAsciiDigit '-' = false := by decide
  cases minus with
  | false =>
      cases otherMinus with
      | false => exact ⟨rfl, value_eq_of_positionalText_eq same⟩
      | true =>
          simp only [signedText, text, if_true, Bool.false_eq_true, if_false,
            List.cons.injEq] at same
          rw [same.1, noMinus] at digit
          cases digit
  | true =>
      cases otherMinus with
      | false =>
          simp only [signedText, otherText, if_true, Bool.false_eq_true, if_false,
            List.cons.injEq] at same
          rw [← same.1, noMinus] at otherDigit
          cases otherDigit
      | true => exact ⟨rfl, value_eq_of_positionalText_eq (List.cons.inj same).2⟩

/-- A minus sign is written before negative numbers, and not before zero. -/
def hasMinus (x : Binary) : Bool :=
  x.negative && x.mantissa != 0

theorem truncate_of_isIntegral {x : Binary} (integral : x.isIntegral = true) :
    ∃ n : Nat, x.truncate = x.signed n ∧ x.magnitude = n := by
  refine ⟨_, rfl, ?_⟩
  have two := pow_toNat 2 (by norm_num) x.exponent
  have whole := Nat.div_mul_cancel (Nat.dvd_of_mod_eq_zero (beq_iff_eq.mp integral))
  have scaled :
      ((x.mantissa * Nat.pow 2 x.exponent.toNat / Nat.pow 2 (-x.exponent).toNat : ℕ) : ℚ) *
      2 ^ (-x.exponent).toNat = x.mantissa * 2 ^ x.exponent.toNat := by
    exact_mod_cast whole
  push_cast at two
  rw [two, ← mul_assoc] at scaled
  exact (mul_right_cancel₀ (by positivity) scaled).symm

theorem intDigits_signed (x : Binary) (n : Nat) (exact : x.magnitude = n) :
    intDigits (x.signed n) = signedText (hasMinus x) ⟨n, 0⟩ := by
  have text : positionalText false (natDigits n) 0 = natDigits n := by
    simp [positionalText, zeros]
  have zero_iff : x.mantissa = 0 ↔ n = 0 := by
    rw [← Nat.cast_inj (R := ℚ), ← Nat.cast_inj (R := ℚ), ← exact, Binary.magnitude, Nat.cast_zero]
    simp [zpow_ne_zero]
  rw [signedText, text]
  unfold intDigits Binary.signed hasMinus
  cases x.negative with
  | false => simp
  | true =>
      by_cases zero : n = 0
      · simp [zero, zero_iff.mpr zero]
      · have positive : 0 < n := Nat.pos_of_ne_zero zero
        simp [positive, mt zero_iff.mp zero]

theorem plainLayout_text {x : Float} (nonzero : (Binary.ofFloat x).mantissa ≠ 0) :
    ∃ d : Digits, plainLayout.text x = signedText (hasMinus (Binary.ofFloat x)) d ∧
      d.value = ((Binary.ofFloat x).shortest plainLayout.tie).value := by
  have minus : hasMinus (Binary.ofFloat x) = (Binary.ofFloat x).negative := by
    simp [hasMinus, nonzero]
  let short := (Binary.ofFloat x).shortest plainLayout.tie
  refine ⟨⟨short.digits, if short.digits = 0 then 0 else short.exponent⟩, ?_, ?_⟩
  · rw [minus]
    rfl
  · unfold Digits.value
    by_cases zero : short.digits = 0
    · simp [zero, short]
    · simp [zero, short]

/-- Both zeros are written as the integer zero. -/
theorem smallInteger?_of_zero {x : Float} (finite : x.isFinite = true)
    (zero : (Binary.ofFloat x).mantissa = 0) : smallInteger? x = some 0 := by
  rw [smallInteger?, integer?, if_pos finite]
  simp [Binary.isIntegral, Binary.truncate, Binary.signed, zero, integralLimit]

/-- A finite number is written as a decimal that it covers. -/
theorem numberText_eq {x : Float} (finite : x.isFinite = true) :
    ∃ d : Digits, numberText x = signedText (hasMinus (Binary.ofFloat x)) d ∧
      (Binary.ofFloat x).Covers d.value := by
  rw [numberText, if_pos finite]
  cases written : smallInteger? x with
  | some n =>
      obtain ⟨whole, _⟩ := Option.filter_eq_some_iff.mp written
      rw [integer?, if_pos finite] at whole
      simp only at whole
      split at whole
      · next integral =>
          obtain ⟨k, truncated, exact⟩ := truncate_of_isIntegral integral
          cases whole
          refine ⟨⟨k, 0⟩, ?_, ?_⟩
          · simp only
            rw [truncated, intDigits_signed _ k exact]
          · have value : (Digits.mk k 0).value = (Binary.ofFloat x).magnitude := by
              rw [exact, Digits.value, zpow_zero, mul_one]
            rw [value]
            exact Binary.covers_magnitude _
      · cases whole
  | none =>
      have nonzero : (Binary.ofFloat x).mantissa ≠ 0 := by
        intro zero
        rw [smallInteger?_of_zero finite zero] at written
        cases written
      obtain ⟨d, text, value⟩ := plainLayout_text nonzero
      refine ⟨d, text, ?_⟩
      rw [value]
      exact covers_shortest _ _

/-- Finite numbers with the same text are equal, or they are both zero. -/
theorem numberText_injective {x y : Float} (xFinite : x.isFinite = true)
    (yFinite : y.isFinite = true) (same : numberText x = numberText y) :
    x = y ∨ (Binary.ofFloat x).mantissa = 0 ∧ (Binary.ofFloat y).mantissa = 0 := by
  obtain ⟨d, xText, xCovers⟩ := numberText_eq xFinite
  obtain ⟨other, yText, yCovers⟩ := numberText_eq yFinite
  rw [xText, yText] at same
  obtain ⟨sameMinus, sameValue⟩ := signedText_injective same
  rw [sameValue] at xCovers
  obtain ⟨sameMantissa, sameExponent⟩ := Binary.covers_unique (Binary.ofFloat_normalized x)
    (Binary.ofFloat_normalized y) xCovers yCovers
  by_cases zero : (Binary.ofFloat x).mantissa = 0
  · exact .inr ⟨zero, sameMantissa ▸ zero⟩
  · left
    have written : ((Binary.ofFloat x).mantissa != 0) = true := bne_iff_ne.mpr zero
    rw [hasMinus, hasMinus, ← sameMantissa, written, Bool.and_true, Bool.and_true] at sameMinus
    exact Binary.ofFloat_injective sameMinus sameMantissa sameExponent

theorem numberText_negativeZero : numberText (-0.0) = numberText 0.0 := by
  have minus := (Binary.mantissa_eq_zero_iff (-0.0)).mpr (.inr rfl)
  have plus := (Binary.mantissa_eq_zero_iff 0.0).mpr (.inl rfl)
  rw [numberText, numberText, smallInteger?_of_zero (by decide) minus,
    smallInteger?_of_zero (by decide) plus, if_pos (by decide), if_pos (by decide)]

/-- The characters of finite numbers. -/
def isNumberChar (c : Char) : Bool :=
  isAsciiDigit c || c == '-' || c == '.'

theorem numberText_chars {x : Float} (finite : x.isFinite = true) {c : Char}
    (member : c ∈ numberText x) : isNumberChar c = true := by
  obtain ⟨d, text, _⟩ := numberText_eq finite
  have decimal : ∀ c ∈ positionalText false (natDigits d.digits) d.exponent,
      isNumberChar c = true := by
    intro c inText
    rcases positionalText_chars inText with digit | point
    · simp [isNumberChar, digit]
    · simp [isNumberChar, point]
  rw [text, signedText] at member
  split at member
  · rcases List.mem_cons.mp member with minus | inText
    · simp [isNumberChar, minus]
    · exact decimal c inText
  · exact decimal c member

theorem numberText_ne_nil {x : Float} (finite : x.isFinite = true) : numberText x ≠ [] := by
  obtain ⟨d, text, _⟩ := numberText_eq finite
  obtain ⟨first, rest, digits, _⟩ := positionalText_head d.digits d.exponent
  rw [text, signedText, digits]
  split <;> exact List.cons_ne_nil _ _

/-! ## Numbers that are written alike -/

theorem Binary.isIntegral_of_magnitude {x : Binary} {n : ℕ} (exact : x.magnitude = n) :
    x.isIntegral = true := by
  have two := pow_toNat 2 (by norm_num) x.exponent
  push_cast at two
  have scaled : x.mantissa * 2 ^ x.exponent.toNat = n * 2 ^ (-x.exponent).toNat := by
    have scaledRat : (x.mantissa : ℚ) * 2 ^ x.exponent.toNat = n * 2 ^ (-x.exponent).toNat := by
      rw [two, ← mul_assoc, ← exact]
      rfl
    exact_mod_cast scaledRat
  have whole : x.mantissa * Nat.pow 2 x.exponent.toNat % Nat.pow 2 (-x.exponent).toNat = 0 := by
    show x.mantissa * 2 ^ x.exponent.toNat % 2 ^ (-x.exponent).toNat = 0
    rw [scaled, Nat.mul_mod_left]
  exact beq_iff_eq.mpr whole

theorem Binary.natAbs_signed (x : Binary) (n : ℕ) : (x.signed n).natAbs = n := by
  unfold Binary.signed
  split <;> simp

/-- A finite double of a small integral magnitude is written as an integer. -/
theorem smallInteger?_of_magnitude {x : Float} (finite : x.isFinite = true) {n : ℕ}
    (exact : (Binary.ofFloat x).magnitude = n) (small : n < 10 ^ 15) :
    smallInteger? x = some ((Binary.ofFloat x).signed n) := by
  have integral := Binary.isIntegral_of_magnitude exact
  obtain ⟨k, truncated, exactly⟩ := truncate_of_isIntegral integral
  have same : k = n := by exact_mod_cast exactly.symm.trans exact
  subst same
  rw [smallInteger?, integer?, if_pos finite]
  simp only [integral, if_true, truncated]
  rw [Option.filter_some, Binary.natAbs_signed, if_pos]
  exact decide_eq_true small

/-- Numbers that are not finite, and integral ones below the limit, have one text. -/
theorem numberText_eq_jsonText {x : Float}
    (plain : x.isFinite = true → ∃ n : ℕ, n < 10 ^ 15 ∧ (Binary.ofFloat x).magnitude = n) :
    numberText x = jsonText x := by
  unfold numberText jsonText
  split
  · next finite =>
      obtain ⟨n, small, exact⟩ := plain finite
      rw [smallInteger?_of_magnitude finite exact small]
  · rfl

end GlyphScript.Decimal
