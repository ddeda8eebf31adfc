import GlyphScript.Decimal.Binary

/-!
# The fewest digits that read back

A decimal *reads back* to a double if that double is the one nearest to it.
`shortest` gives the decimal with the fewest digits that reads back, and of
those the one nearest to the double; the tie between two equally near ones is a
decision of the number format.
-/

namespace GlyphScript.Decimal

/-- The decimal `digits * 10 ^ exponent`. -/
structure Digits where
  digits : Nat
  exponent : Int
deriving DecidableEq, Repr

/-- What to take of two decimals that are equally near. -/
inductive Tie where
  | even
  | up
deriving DecidableEq, Repr

/-- Compares `a * 10 ^ i` with `b * 2 ^ j` without rounding. -/
def compareScaled (a : Nat) (i : Int) (b : Nat) (j : Int) : Ordering :=
  compare (a * Nat.pow 10 i.toNat * Nat.pow 2 (-j).toNat)
    (b * Nat.pow 2 j.toNat * Nat.pow 10 (-i).toNat)

/-- The decimal lies among the reals that round to the double: between the
midpoints to its two neighbours, and on a midpoint only if the mantissa is even. -/
def Digits.readsBack (d : Digits) (x : Binary) : Bool :=
  let lower := 4 * x.mantissa - (if x.narrowBelow then 1 else 2)
  let upper := 4 * x.mantissa + 2
  let even := x.mantissa % 2 == 0
  let below := compareScaled d.digits d.exponent lower (x.exponent - 2)
  let above := compareScaled d.digits d.exponent upper (x.exponent - 2)
  (below == .gt || even && below == .eq) && (above == .lt || even && above == .eq)

/-- Every double is a finite decimal, since `2⁻ᵖ = 5ᵖ * 10⁻ᵖ`. -/
def Binary.expansion (x : Binary) : Digits :=
  if 0 ≤ x.exponent then ⟨x.mantissa * Nat.pow 2 x.exponent.toNat, 0⟩
  else ⟨x.mantissa * Nat.pow 5 (-x.exponent).toNat, x.exponent⟩

def digitCount (n : Nat) : Nat :=
  (Nat.toDigits 10 n).length

/-- The better of the two neighbours of the value on the grid of decimals with
`count` digits, if one of them reads back. -/
def Binary.onGrid? (x : Binary) (tie : Tie) (exact : Digits) (length count : Nat) :
    Option Digits :=
  let dropped := length - count
  let scale := Nat.pow 10 dropped
  let padding := Nat.pow 10 (count - length)
  let whole := exact.digits * padding / scale
  let remainder := exact.digits * padding % scale
  let exponent := exact.exponent + dropped - (count - length : Nat)
  let low : Digits := ⟨whole, exponent⟩
  let high : Digits := ⟨whole + 1, exponent⟩
  match low.readsBack x, high.readsBack x with
  | true, false => some low
  | false, true => some high
  | false, false => none
  | true, true =>
      match compare (2 * remainder) scale with
      | .lt => some low
      | .gt => some high
      | .eq => some (if tie = .even ∧ whole % 2 = 0 then low else high)

/-- Moves trailing zeros of the digits into the exponent. -/
def Digits.strip (d : Digits) : Digits :=
  if 0 < d.digits ∧ d.digits % 10 = 0 then Digits.strip ⟨d.digits / 10, d.exponent + 1⟩ else d
termination_by d.digits
decreasing_by exact Nat.div_lt_self (by omega) (by decide)

/-- Seventeen digits are enough for every double; the exact expansion stands
behind the search so that the answer always reads back. -/
def Binary.shortest (x : Binary) (tie : Tie) : Digits :=
  let exact := x.expansion
  let length := digitCount exact.digits
  let found := (List.range 17).findSome? fun n => x.onGrid? tie exact length (n + 1)
  (found.getD exact).strip

end GlyphScript.Decimal
