import GlyphScript.Json.Fault
import GlyphScript.Text.Ascii

/-!
# Numbers of a JSON document

A number is read with one 64-bit significand and one decimal scaling step. Its
digits are collected as long as the significand has room for them; the scaling
rounds once more, so the double that is read may be a neighbour of the nearest
one.
-/

namespace GlyphScript.Json

open Text (isAsciiDigit digitValue)

/-- A number as it is written: `-`, the digits before the point, those behind
it, and the exponent. -/
structure Literal where
  negative : Bool
  whole : List Char
  fraction : Option (List Char)
  exponent : Option Int
deriving DecidableEq, Repr

def maxSignificand : Nat := 0xFFFFFFFFFFFFFFFF

/-- Appends digits to a significand as long as it has room, and counts them. -/
def collect (significand : Nat) : List Char → Nat × Nat
  | [] => (significand, 0)
  | c :: rest =>
      let longer := 10 * significand + digitValue c
      if longer ≤ maxSignificand then
        let (result, count) := collect longer rest
        (result, count + 1)
      else (significand, 0)

def powerOfTen (n : Nat) : Float :=
  Float.ofScientific 1 false n

/-- `significand * 10 ^ exponent` by one multiplication or division, or by two
divisions for the smallest numbers; none if it is too large for a double. -/
def scale (significand : Nat) (exponent : Int) : Option Float :=
  let x := significand.toUInt64.toFloat
  if 308 < exponent then
    if x == 0 then some x else none
  else if 0 ≤ exponent then
    let scaled := x * powerOfTen exponent.toNat
    if scaled.isInf then none else some scaled
  else if -308 ≤ exponent then some (x / powerOfTen (-exponent).toNat)
  else if -616 ≤ exponent then
    some (x / powerOfTen 308 / powerOfTen (-exponent - 308).toNat)
  else some 0

/-- The magnitude of a number as it is read; none if it is too large. -/
def Literal.magnitude? (literal : Literal) : Option Float :=
  let (whole, taken) := collect 0 literal.whole
  let dropped := literal.whole.length - taken
  match literal.fraction, literal.exponent with
  | none, none =>
      if dropped = 0 then some whole.toUInt64.toFloat else scale whole dropped
  | fraction, exponent =>
      let (significand, places) := collect whole (fraction.getD [])
      scale significand ((dropped : Int) - places + exponent.getD 0)

def Literal.toFloat? (literal : Literal) : Option Float :=
  literal.magnitude?.map fun x => if literal.negative then -x else x

/-- The digits that a number starts with. A zero stands alone. -/
def readWhole : List Char → Except Fault (List Char × List Char)
  | [] => .error (.last .endInValue [])
  | c :: rest =>
      if c = '0' then
        match rest with
        | d :: _ => if isAsciiDigit d then .error (.next .invalidNumber rest) else .ok (['0'], rest)
        | [] => .ok (['0'], rest)
      else if isAsciiDigit c then
        .ok (c :: rest.takeWhile isAsciiDigit, rest.dropWhile isAsciiDigit)
      else .error (.next .invalidNumber (c :: rest))

/-- The digits behind a point, at least one of them, if a point follows. -/
def readFraction : List Char → Except Fault (Option (List Char) × List Char)
  | '.' :: rest =>
      match rest.takeWhile isAsciiDigit, rest with
      | [], [] => .error (.next .endInValue [])
      | [], _ :: _ => .error (.next .invalidNumber rest)
      | digits, _ => .ok (some digits, rest.dropWhile isAsciiDigit)
  | cs => .ok (none, cs)

def maxExponent : Nat := 0x7FFFFFFF

/-- The value of exponent digits, or the text behind the digit that made it
exceed 32 bits. -/
def exponentValue (value : Nat) : List Char → Except (List Char) Nat
  | [] => .ok value
  | c :: rest =>
      let longer := 10 * value + digitValue c
      if longer ≤ maxExponent then exponentValue longer rest else .error rest

/-- The exponent, if one follows. A number whose exponent exceeds 32 bits is too
large if the exponent is positive and the digits before it are not all zero,
and is zero otherwise. -/
def readExponent (isZero : Bool) : List Char → Except Fault (Option Int × List Char)
  | [] => .ok (none, [])
  | mark :: cs =>
      if mark = 'e' ∨ mark = 'E' then
        let (negative, digits) := match cs with
          | '-' :: rest => (true, rest)
          | '+' :: rest => (false, rest)
          | _ => (false, cs)
        match digits with
        | [] => .error (.last .endInValue [])
        | d :: rest =>
            if isAsciiDigit d then
              let written := d :: rest.takeWhile isAsciiDigit
              let tail := rest.dropWhile isAsciiDigit
              match exponentValue 0 written with
              | .ok n => .ok (some (if negative then -n else n), tail)
              | .error unread =>
                  if negative || isZero then .ok (some (-0x10000000000 : Int), tail)
                  else .error (.last .outOfRange (unread ++ tail))
            else .error (.next .invalidNumber digits)
      else .ok (none, mark :: cs)

/-- Reads a number behind its sign. -/
def readNumber (negative : Bool) (cs : List Char) : Except Fault (Float × List Char) := do
  let (whole, rest) ← readWhole cs
  let (fraction, rest) ← readFraction rest
  let isZero := (whole ++ fraction.getD []).all (· == '0')
  let (exponent, rest) ← readExponent isZero rest
  match (Literal.mk negative whole fraction exponent).toFloat? with
  | some x => .ok (x, rest)
  | none => .error (.last .outOfRange rest)

end GlyphScript.Json
