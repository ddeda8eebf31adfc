/-!
# SHA-256

The digest of a sequence of bytes, as eight 32-bit words. The bytes are padded
to blocks of sixty-four, and each block changes the words in sixty-four rounds.
-/

namespace GlyphScript.Sha256

/-- The first fractional bits of the cube roots of the first primes. -/
def roundConstants : List UInt32 := [
  0x428A2F98, 0x71374491, 0xB5C0FBCF, 0xE9B5DBA5, 0x3956C25B, 0x59F111F1, 0x923F82A4,
  0xAB1C5ED5, 0xD807AA98, 0x12835B01, 0x243185BE, 0x550C7DC3, 0x72BE5D74, 0x80DEB1FE,
  0x9BDC06A7, 0xC19BF174, 0xE49B69C1, 0xEFBE4786, 0x0FC19DC6, 0x240CA1CC, 0x2DE92C6F,
  0x4A7484AA, 0x5CB0A9DC, 0x76F988DA, 0x983E5152, 0xA831C66D, 0xB00327C8, 0xBF597FC7,
  0xC6E00BF3, 0xD5A79147, 0x06CA6351, 0x14292967, 0x27B70A85, 0x2E1B2138, 0x4D2C6DFC,
  0x53380D13, 0x650A7354, 0x766A0ABB, 0x81C2C92E, 0x92722C85, 0xA2BFE8A1, 0xA81A664B,
  0xC24B8B70, 0xC76C51A3, 0xD192E819, 0xD6990624, 0xF40E3585, 0x106AA070, 0x19A4C116,
  0x1E376C08, 0x2748774C, 0x34B0BCB5, 0x391C0CB3, 0x4ED8AA4A, 0x5B9CCA4F, 0x682E6FF3,
  0x748F82EE, 0x78A5636F, 0x84C87814, 0x8CC70208, 0x90BEFFFA, 0xA4506CEB, 0xBEF9A3F7,
  0xC67178F2]

/-- The eight words that a digest consists of. -/
structure State where
  a : UInt32
  b : UInt32
  c : UInt32
  d : UInt32
  e : UInt32
  f : UInt32
  g : UInt32
  h : UInt32

/-- The first fractional bits of the square roots of the first primes. -/
def initial : State :=
  ⟨0x6A09E667, 0xBB67AE85, 0x3C6EF372, 0xA54FF53A, 0x510E527F, 0x9B05688C,
    0x1F83D9AB, 0x5BE0CD19⟩

def State.add (s t : State) : State :=
  ⟨s.a + t.a, s.b + t.b, s.c + t.c, s.d + t.d, s.e + t.e, s.f + t.f, s.g + t.g, s.h + t.h⟩

def rotateRight (x : UInt32) (n : UInt32) : UInt32 :=
  (x >>> n) ||| (x <<< (32 - n))

/-! ## Blocks -/

/-- The lowest eight bytes of a number, highest first. -/
def bigEndian64 (n : Nat) : List UInt8 :=
  (List.range 8).map fun i => (n >>> (8 * (7 - i))).toUInt8

/-- A one bit, as few zeros as fill the last block, and the length in bits. -/
def padded (bytes : List UInt8) : List UInt8 :=
  let length := bytes.length
  let fill := (119 - length % 64) % 64
  bytes ++ 0x80 :: (List.replicate fill 0 ++ bigEndian64 (8 * length))

def blocks (bytes : List UInt8) : List (List UInt8) :=
  match bytes with
  | [] => []
  | first :: rest => (first :: rest).take 64 :: blocks ((first :: rest).drop 64)
termination_by bytes.length
decreasing_by simp only [List.length_drop, List.length_cons]; omega

def words : List UInt8 → List UInt32
  | a :: b :: c :: d :: rest =>
      ((a.toUInt32 <<< 24) ||| (b.toUInt32 <<< 16) ||| (c.toUInt32 <<< 8) ||| d.toUInt32) ::
        words rest
  | _ => []

/-- The next word of a schedule that is given last word first. -/
def nextWord (schedule : List UInt32) : UInt32 :=
  let word (back : Nat) := schedule.getD (back - 1) 0
  let low := word 15
  let high := word 2
  let mixedLow := rotateRight low 7 ^^^ rotateRight low 18 ^^^ (low >>> 3)
  let mixedHigh := rotateRight high 17 ^^^ rotateRight high 19 ^^^ (high >>> 10)
  mixedHigh + word 7 + mixedLow + word 16

/-- The sixteen words of a block and forty-eight words mixed from them. -/
def schedule (block : List UInt8) : List UInt32 :=
  ((List.range 48).foldl (fun acc _ => nextWord acc :: acc) (words block).reverse).reverse

/-! ## Rounds -/

def round (s : State) (constant word : UInt32) : State :=
  let mixedE := rotateRight s.e 6 ^^^ rotateRight s.e 11 ^^^ rotateRight s.e 25
  let choice := (s.e &&& s.f) ^^^ ((~~~s.e) &&& s.g)
  let first := s.h + mixedE + choice + constant + word
  let mixedA := rotateRight s.a 2 ^^^ rotateRight s.a 13 ^^^ rotateRight s.a 22
  let majority := (s.a &&& s.b) ^^^ (s.a &&& s.c) ^^^ (s.b &&& s.c)
  ⟨first + (mixedA + majority), s.a, s.b, s.c, s.d + first, s.e, s.f, s.g⟩

def addBlock (s : State) (block : List UInt8) : State :=
  s.add ((roundConstants.zip (schedule block)).foldl (fun t pair => round t pair.1 pair.2) s)

def digest (bytes : List UInt8) : State :=
  (blocks (padded bytes)).foldl addBlock initial

/-- Eight hexadecimal digits for a word. -/
def hexWord (word : UInt32) : List Char :=
  let digits := Nat.toDigits 16 word.toNat
  List.replicate (8 - digits.length) '0' ++ digits

/-- The digest in hexadecimal digits. -/
def hex (bytes : List UInt8) : List Char :=
  let s := digest bytes
  [s.a, s.b, s.c, s.d, s.e, s.f, s.g, s.h].flatMap hexWord

end GlyphScript.Sha256
