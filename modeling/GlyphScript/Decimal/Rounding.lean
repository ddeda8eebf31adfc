import GlyphScript.Decimal.Binary

/-!
# Rounding to whole numbers

A double that is already whole, or not finite, is kept. Any other lies between
two whole numbers, both of which a double can hold; a result of zero keeps the
sign of the number that was rounded.
-/

namespace GlyphScript.Decimal

/-- Rounds a double that is not whole by a rule on its exact value. -/
def roundBy (rule : Binary → Int) (x : Float) : Float :=
  let exact := Binary.ofFloat x
  if !x.isFinite || exact.isIntegral then x
  else
    let n := rule exact
    if n = 0 && exact.negative then -0.0 else Float.ofInt n

def truncated : Float → Float :=
  roundBy Binary.truncate

def floor : Float → Float :=
  roundBy fun x => if x.negative then x.truncate - 1 else x.truncate

def ceiling : Float → Float :=
  roundBy fun x => if x.negative then x.truncate else x.truncate + 1

/-- To the nearest whole number, a half away from zero. -/
def rounded : Float → Float :=
  roundBy fun x =>
    let scale := Nat.pow 2 (-x.exponent).toNat
    x.signed ((2 * (x.mantissa * Nat.pow 2 x.exponent.toNat) + scale) / (2 * scale))

/-- The smaller of two numbers; NaN counts as missing. -/
def lesser (x y : Float) : Float :=
  if x.isNaN || y < x then y else x

/-- The larger of two numbers; NaN counts as missing. -/
def greater (x y : Float) : Float :=
  if x.isNaN || x < y then y else x

end GlyphScript.Decimal
