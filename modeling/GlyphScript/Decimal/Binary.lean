/-!
# Doubles as exact numbers

A finite double is `± mantissa * 2 ^ exponent`. Everything the library decides
about a number (is it integral, what is its integer part, which decimal stands
for it) is decided on this exact form.
-/

namespace GlyphScript.Decimal

/-- The exact value of a finite double. -/
structure Binary where
  negative : Bool
  mantissa : Nat
  exponent : Int
  /-- The gap to the double below is half the gap to the double above. -/
  narrowBelow : Bool
deriving DecidableEq, Repr

namespace Binary

/-- The fields of an IEEE double. NaN and the infinities are no numbers of this
form: test for them first. -/
def ofBits (bits : UInt64) : Binary :=
  let biased := ((bits >>> 52) &&& 0x7FF).toNat
  let fraction := (bits &&& 0xFFFFFFFFFFFFF).toNat
  let negative := bits >>> 63 == 1
  if biased = 0 then ⟨negative, fraction, -1074, false⟩
  else
    ⟨negative, 0x10000000000000 + fraction, (biased : Int) - 1075,
      fraction == 0 && decide (1 < biased)⟩

def ofFloat (x : Float) : Binary :=
  ofBits x.toBits

def signed (x : Binary) (magnitude : Nat) : Int :=
  if x.negative then -(magnitude : Int) else magnitude

/-- The integer part, that is, the value rounded toward zero. -/
def truncate (x : Binary) : Int :=
  x.signed (x.mantissa * Nat.pow 2 x.exponent.toNat / Nat.pow 2 (-x.exponent).toNat)

def isIntegral (x : Binary) : Bool :=
  x.mantissa * Nat.pow 2 x.exponent.toNat % Nat.pow 2 (-x.exponent).toNat == 0

end Binary

/-- The integer that a finite double is equal to, if there is one. -/
def integer? (x : Float) : Option Int :=
  if x.isFinite then
    let exact := Binary.ofFloat x
    if exact.isIntegral then some exact.truncate else none
  else none

/-- Integers from this magnitude on are written like fractions. -/
def integralLimit : Nat := 1000000000000000

/-- The integer that a double is written as: it is integral and below the limit. -/
def smallInteger? (x : Float) : Option Int :=
  (integer? x).filter fun n => n.natAbs < integralLimit

def maxInt64 : Int := 0x7FFFFFFFFFFFFFFF

def minInt64 : Int := -0x8000000000000000

/-- The integer part, held inside the range of 64-bit integers. NaN counts as zero. -/
def toInt64 (x : Float) : Int :=
  if x.isFinite then max minInt64 (min maxInt64 (Binary.ofFloat x).truncate)
  else if x.isNaN then 0
  else if x < 0 then minInt64
  else maxInt64

/-- The integer part, held inside the range of unsigned 64-bit integers. NaN
and negative numbers count as zero. -/
def toNat64 (x : Float) : Nat :=
  if x.isFinite then min 0xFFFFFFFFFFFFFFFF (Binary.ofFloat x).truncate.toNat
  else if x.isNaN || x < 0 then 0
  else 0xFFFFFFFFFFFFFFFF

/-- A place in the total order of all doubles: negative NaN, negative numbers,
`-0`, `0`, positive numbers, positive NaN. -/
def totalRank (bits : UInt64) : Int :=
  if bits >>> 63 == 1 then -((bits &&& 0x7FFFFFFFFFFFFFFF).toNat : Int) - 1
  else bits.toNat

end GlyphScript.Decimal
