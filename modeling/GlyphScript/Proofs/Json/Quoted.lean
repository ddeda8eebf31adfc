import GlyphScript.Json.Reader
import GlyphScript.Text.Quoted

/-!
# Quoted text is read back

Reading a quoted text gives its characters and leaves what stands behind it
(`readText_quoted`). So a quoted text cannot be continued to another one
(`quoted_append_injective`).
-/

namespace GlyphScript.Json

open Text

/-! ## One character -/

theorem hexValue?_hexDigit : ∀ n < 16, hexValue? (hexDigit n) = some n := by
  decide

theorem hexUnit?_control {n : Nat} (small : n < 32) :
    hexUnit? '0' '0' (hexDigit (n / 16)) (hexDigit (n % 16)) = some n := by
  have high := hexValue?_hexDigit (n / 16) (by omega)
  have low := hexValue?_hexDigit (n % 16) (by omega)
  have zero : hexValue? '0' = some 0 := by decide
  simp only [hexUnit?, high, low, zero, bind_pure_comp, Option.bind_eq_bind, Option.bind_some,
    Option.map_eq_map, Option.map_some]
  congr 1
  omega

theorem toNat_lt_of_control {c : Char} (control : c < ' ') : c.toNat < 32 :=
  Char.lt_def.mp control

theorem readCodeUnit_control {c : Char} (control : c < ' ') (rest : List Char) :
    readCodeUnit ('0' :: '0' :: hexDigit (c.toNat / 16) :: hexDigit (c.toNat % 16) :: rest) =
      .ok (c, rest) := by
  have small := toNat_lt_of_control control
  have notLow : isLowSurrogate c.toNat = false := by
    simp only [isLowSurrogate, Bool.and_eq_false_iff, decide_eq_false_iff_not]
    omega
  have notHigh : isHighSurrogate c.toNat = false := by
    simp only [isHighSurrogate, Bool.and_eq_false_iff, decide_eq_false_iff_not]
    omega
  simp [readCodeUnit, hexUnit?_control small, notLow, notHigh]

/-- Every character is read in one turn, however it is written. -/
theorem readText_quotedChar (fuel : Nat) (read : List Char) (c : Char) (rest : List Char) :
    readText (fuel + 1) read (quotedChar c ++ rest) = readText fuel (c :: read) rest := by
  by_cases quote : c = '"'
  · subst quote
    simp [quotedChar, readText, escapedChar?]
  by_cases backslash : c = '\\'
  · subst backslash
    simp [quotedChar, readText, escapedChar?]
  by_cases backspace : c = '\x08'
  · subst backspace
    simp [quotedChar, readText, escapedChar?]
  by_cases tab : c = '\t'
  · subst tab
    simp [quotedChar, readText, escapedChar?]
  by_cases newline : c = '\n'
  · subst newline
    simp [quotedChar, readText, escapedChar?]
  by_cases formFeed : c = '\x0c'
  · subst formFeed
    simp [quotedChar, readText, escapedChar?]
  by_cases carriageReturn : c = '\r'
  · subst carriageReturn
    simp [quotedChar, readText, escapedChar?]
  by_cases control : c < ' '
  · simp [quotedChar, quote, backslash, backspace, tab, newline, formFeed, carriageReturn, control,
      controlEscape, readText, readCodeUnit_control control]
  · simp [quotedChar, quote, backslash, backspace, tab, newline, formFeed, carriageReturn, control,
      readText]

/-! ## Whole texts -/

theorem readText_flatMap (cs : List Char) :
    ∀ (extra : Nat) (read rest : List Char),
      readText (cs.length + extra + 1) read (cs.flatMap quotedChar ++ '"' :: rest) =
        .ok (read.reverse ++ cs, rest) := by
  induction cs with
  | nil =>
      intro extra read rest
      simp [readText]
  | cons c tail ih =>
      intro extra read rest
      have fuel : (c :: tail).length + extra + 1 = (tail.length + extra + 1) + 1 := by
        simp only [List.length_cons]
        omega
      rw [fuel, List.flatMap_cons, List.append_assoc, readText_quotedChar, ih]
      simp

/-- Behind its opening quote, a quoted text is read up to its closing quote. -/
theorem readText_quoted (cs rest : List Char) (extra : Nat) :
    ∃ behind, quoted cs ++ rest = '"' :: behind ∧
      readText (cs.length + extra + 1) [] behind = .ok (cs, rest) := by
  refine ⟨cs.flatMap quotedChar ++ '"' :: rest, by simp [quoted], ?_⟩
  simpa using readText_flatMap cs extra [] rest

theorem quoted_append_injective {left right leftRest rightRest : List Char}
    (same : quoted left ++ leftRest = quoted right ++ rightRest) :
    left = right ∧ leftRest = rightRest := by
  obtain ⟨behind, leftText, leftRead⟩ := readText_quoted left leftRest right.length
  obtain ⟨otherBehind, rightText, rightRead⟩ := readText_quoted right rightRest left.length
  rw [leftText, rightText] at same
  obtain ⟨-, sameBehind⟩ := List.cons.inj same
  rw [sameBehind, Nat.add_comm left.length, rightRead] at leftRead
  obtain ⟨sameText, sameRest⟩ := Prod.mk.inj (Except.ok.inj leftRead)
  exact ⟨sameText.symm, sameRest.symm⟩

end GlyphScript.Json
