import GlyphScript.Decimal.Rounding
import GlyphScript.Value

/-!
# Builtins on numbers

A missing operand gives null; further operands are ignored.
-/

namespace GlyphScript.Builtin

def unary (op : Float → Float) : List Value → Value
  | x :: _ => .number (op x.toNumber)
  | [] => .null

def binary (op : Float → Float → Float) : List Value → Value
  | x :: y :: _ => .number (op x.toNumber y.toNumber)
  | _ => .null

/-- The sum in list order. It starts from `-0`, which changes no number it is
added to. -/
def sum (xs : List Float) : Float :=
  xs.foldl (· + ·) (-0.0)

def dotProduct : List Value → Value
  | .list xs :: .list ys :: _ =>
      if xs.length = ys.length then
        .number (sum (List.zipWith (fun x y => x.toNumber * y.toNumber) xs ys))
      else .number 0
  | _ => .number 0

/-- Exponentials divided by their sum. Subtracting the largest number first
keeps the exponentials in range. -/
def softmax : List Value → Value
  | .list (item :: items) :: _ =>
      let xs := (item :: items).map Value.toNumber
      let largest := xs.foldl Decimal.greater (-1 / 0)
      let exponentials := xs.map fun x => Float.exp (x - largest)
      let total := sum exponentials
      .list (exponentials.map fun e => .number (e / total))
  | _ => .null

end GlyphScript.Builtin
