import GlyphScript.Builtin.Kinds
import GlyphScript.Digest.Sha256
import GlyphScript.Json.Writer

/-!
# Fingerprints

A fingerprint identifies a value by its canonical text. In that text a number is
never written with an exponent, so that equal values have one text.
-/

namespace GlyphScript

/-- The text that a value is identified by. -/
def canonical (value : Value) : List Char :=
  Json.compactWith Decimal.numberText value

def fingerprintVersion : String := "SCXQ2-v1"

/-- How many digits of the digest a fingerprint keeps. -/
def fingerprintDigits : Nat := 32

def fingerprint (value : Value) : String :=
  let digest := Sha256.hex (String.ofList (canonical value)).toUTF8.toList
  fingerprintVersion ++ ":" ++ String.ofList (digest.take fingerprintDigits)

def verify (value : Value) (id : String) : Bool :=
  fingerprint value == id

/-- A handler run by its shape: which handler, the keys of what it was given, the
type of what it answered, and the minute. -/
def executionRecord (handler : String) (context : Dict) (result : Value) (seconds : Nat) : Value :=
  .record [("handler", .text handler), ("context_keys", .ofTexts context.names),
    ("result_type", .text result.typeWord), ("timestamp_bucket", .ofNat (seconds / 60))]

def executionFingerprint (handler : String) (context : Dict) (result : Value) (seconds : Nat) :
    String :=
  fingerprint (executionRecord handler context result seconds)

end GlyphScript
