import GlyphScript.Builtin.Sequences
import GlyphScript.Json.Writer

/-!
# Builtins that name and change the kind of a value
-/

namespace GlyphScript

/-- What `type` calls the kind of a value: whole numbers are told from others. -/
def Value.typeWord : Value → String
  | null => "null"
  | bool _ => "bool"
  | number x => if (Decimal.integer? x).isSome then "int" else "float"
  | text _ => "string"
  | list _ => "array"
  | dict _ => "object"

namespace Builtin

def typeOf (args : List Value) : Value :=
  .text (firstOrNull args).typeWord

def toText (args : List Value) : Value :=
  .text (firstOrNull args).toText

def toInteger (args : List Value) : Value :=
  .number (Decimal.truncated (firstOrNull args).toNumber)

def toNumber (args : List Value) : Value :=
  .number (firstOrNull args).toNumber

def toBool (args : List Value) : Value :=
  .bool (firstOrNull args).toBool

/-- Keys and values by turns; a key without a value is left out. -/
def pairs : List Value → List (String × Value)
  | key :: value :: rest => (key.toText, value) :: pairs rest
  | _ => []

def object (args : List Value) : Value :=
  .record (pairs args)

end Builtin

end GlyphScript
