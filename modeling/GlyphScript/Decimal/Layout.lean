import GlyphScript.Decimal.Shortest

/-!
# Number texts

One writer for all number texts of the library. A `Layout` holds the decisions
in which they differ.
-/

namespace GlyphScript.Decimal

structure Layout where
  tie : Tie
  /-- Is a number whose leading digit stands for `10 ^ e` written without an exponent? -/
  positional : Int → Bool
  /-- Is `.0` put behind a number that has no fraction? -/
  pointZero : Bool
  /-- Is a `+` put before an exponent that is not negative? -/
  signedExponent : Bool

def zeros (count : Nat) : List Char :=
  List.replicate count '0'

def natDigits (n : Nat) : List Char :=
  Nat.toDigits 10 n

def intDigits (n : Int) : List Char :=
  if n < 0 then '-' :: natDigits n.natAbs else natDigits n.natAbs

/-- Positional form of `digits * 10 ^ exponent`. -/
def positionalText (pointZero : Bool) (digits : List Char) (exponent : Int) : List Char :=
  if 0 ≤ exponent then
    digits ++ zeros exponent.toNat ++ (if pointZero then ['.', '0'] else [])
  else
    let places := (-exponent).toNat
    if places < digits.length then
      digits.take (digits.length - places) ++ '.' :: digits.drop (digits.length - places)
    else
      '0' :: '.' :: (zeros (places - digits.length) ++ digits)

/-- Scientific form: one digit, the others behind a point, and the exponent. -/
def scientificText (signedExponent : Bool) (digits : List Char) (exponent : Int) : List Char :=
  let sign := if 0 ≤ exponent ∧ signedExponent then ['+'] else []
  let fraction := match digits.drop 1 with
    | [] => []
    | others => '.' :: others
  digits.take 1 ++ fraction ++ 'e' :: (sign ++ intDigits exponent)

/-- The text of a finite double in a layout. -/
def Layout.text (layout : Layout) (x : Float) : List Char :=
  let exact := Binary.ofFloat x
  let short := exact.shortest layout.tie
  let digits := natDigits short.digits
  let leading := if short.digits = 0 then 0 else short.exponent + digits.length - 1
  let exponent := if short.digits = 0 then 0 else short.exponent
  let magnitude :=
    if layout.positional leading then positionalText layout.pointZero digits exponent
    else scientificText layout.signedExponent digits leading
  if exact.negative then '-' :: magnitude else magnitude

/-- Digits and a point, never an exponent. -/
def plainLayout : Layout where
  tie := .up
  positional := fun _ => true
  pointZero := false
  signedExponent := false

/-- Fractions inside JSON text. -/
def jsonLayout : Layout where
  tie := .even
  positional := fun e => -5 ≤ e ∧ e ≤ 15
  pointZero := true
  signedExponent := true

/-- Numbers in a listing of values by their constructors. -/
def listingLayout : Layout where
  tie := .up
  positional := fun e => -4 ≤ e ∧ e ≤ 15
  pointZero := true
  signedExponent := false

/-- A number on its own: an integer without a point, a number that is not
finite as `null`. -/
def numberText (x : Float) : List Char :=
  if x.isFinite then
    match smallInteger? x with
    | some n => intDigits n
    | none => plainLayout.text x
  else "null".toList

/-- A number in a JSON text. -/
def jsonText (x : Float) : List Char :=
  if x.isFinite then
    match smallInteger? x with
    | some n => intDigits n
    | none => jsonLayout.text x
  else "null".toList

/-- A number in a listing: the sign of zero, NaN and the infinities are shown. -/
def listingText (x : Float) : List Char :=
  if x.isNaN then "NaN".toList
  else if x.isFinite then listingLayout.text x
  else if x < 0 then "-inf".toList
  else "inf".toList

end GlyphScript.Decimal
