import GlyphScript.Decimal.Binary
import GlyphScript.Text.Ascii

/-!
# Reading a number from text

The grammar is an optional sign, then either decimal digits with an optional
point and an optional exponent, or one of the words `inf`, `infinity` and `nan`
in any mixture of cases. The number read is the double nearest to the written
decimal.
-/

namespace GlyphScript.Decimal

open Text (isAsciiDigit digitValue lowerAscii)

def digitsValue (digits : List Char) : Nat :=
  digits.foldl (fun acc c => 10 * acc + digitValue c) 0

/-- The double nearest to `digits * 10 ^ exponent`. Exponents outside of what a
double can hold are not multiplied out. -/
def nearest (digits : Nat) (exponent : Int) : Float :=
  if digits = 0 then 0
  else
    let size := exponent + (Nat.toDigits 10 digits).length
    if 400 < size then 1 / 0
    else if size < -400 then 0
    else Float.ofScientific digits (decide (exponent < 0)) exponent.natAbs

/-- A number as it is written. -/
inductive Numeral where
  | decimal (negative : Bool) (digits : Nat) (exponent : Int)
  | infinity (negative : Bool)
  | nan (negative : Bool)
deriving DecidableEq, Repr

namespace Numeral

def toBits : Numeral → UInt64
  | decimal negative digits exponent =>
      let x := nearest digits exponent
      if negative then (-x).toBits else x.toBits
  | infinity negative => if negative then 0xFFF0000000000000 else 0x7FF0000000000000
  | nan negative => if negative then 0xFFF8000000000000 else 0x7FF8000000000000

def toFloat (n : Numeral) : Float :=
  Float.ofBits n.toBits

end Numeral

/-- An optional sign and the rest; `true` stands for minus. -/
def readSign : List Char → Bool × List Char
  | '-' :: rest => (true, rest)
  | '+' :: rest => (false, rest)
  | cs => (false, cs)

/-- The exponent that ends a numeral; nothing written counts as zero. -/
def readExponent : List Char → Option Int
  | [] => some 0
  | mark :: rest =>
      if mark = 'e' ∨ mark = 'E' then
        let (negative, digits) := readSign rest
        if digits ≠ [] ∧ digits.all isAsciiDigit then
          let n : Int := digitsValue digits
          some (if negative then -n else n)
        else none
      else none

/-- Digits with an optional point among them, at least one digit in all. -/
def readDecimal (negative : Bool) (cs : List Char) : Option Numeral :=
  let whole := cs.takeWhile isAsciiDigit
  let rest := cs.dropWhile isAsciiDigit
  let fraction := match rest with
    | '.' :: digits => digits.takeWhile isAsciiDigit
    | _ => []
  let tail := match rest with
    | '.' :: digits => digits.dropWhile isAsciiDigit
    | _ => rest
  if whole = [] ∧ fraction = [] then none
  else do
    let exponent ← readExponent tail
    some (.decimal negative (digitsValue (whole ++ fraction)) (exponent - fraction.length))

def readNumeral (cs : List Char) : Option Numeral :=
  let (negative, rest) := readSign cs
  let word := String.ofList (rest.map lowerAscii)
  if word = "inf" ∨ word = "infinity" then some (.infinity negative)
  else if word = "nan" then some (.nan negative)
  else readDecimal negative rest

end GlyphScript.Decimal
