import GlyphScript.Decimal.Reading
import GlyphScript.Text.Blank

/-!
# The limit on the depth of calls

The limit is 100 unless a setting holds another positive count.
-/

namespace GlyphScript.DepthLimit

def standard : Nat := 100

/-- Counts have to be less than this. -/
def countBound : Nat := 0x10000000000000000

/-- A count is written in decimal digits, which a plus sign may precede. -/
def readCount? (text : List Char) : Option Nat :=
  let digits := match text with
    | '+' :: rest => rest
    | _ => text
  if digits ≠ [] ∧ digits.all Text.isAsciiDigit then
    some (Decimal.digitsValue digits) |>.filter (· < countBound)
  else none

/-- A setting that holds no positive count between blanks is passed over. -/
def ofSetting (setting : Option String) : Nat :=
  let count := setting.bind fun text => readCount? (Text.trim text.toList)
  (count.filter (0 < ·)).getD standard

end GlyphScript.DepthLimit
