/-!
# Quoted text

A text in a JSON document stands between double quotes. The quote, the
backslash and the control characters are escaped, nothing else is.
-/

namespace GlyphScript.Text

def hexDigit (n : Nat) : Char :=
  (Nat.toDigits 16 n).getLast?.getD '0'

/-- A control character by its code point: four hexadecimal digits, of which the
first two are always zero. -/
def controlEscape (c : Char) : List Char :=
  ['\\', 'u', '0', '0', hexDigit (c.toNat / 16), hexDigit (c.toNat % 16)]

def quotedChar (c : Char) : List Char :=
  if c = '"' then ['\\', '"']
  else if c = '\\' then ['\\', '\\']
  else if c = '\x08' then ['\\', 'b']
  else if c = '\t' then ['\\', 't']
  else if c = '\n' then ['\\', 'n']
  else if c = '\x0c' then ['\\', 'f']
  else if c = '\r' then ['\\', 'r']
  else if c < ' ' then controlEscape c
  else [c]

def quoted (cs : List Char) : List Char :=
  '"' :: (cs.flatMap quotedChar ++ ['"'])

end GlyphScript.Text
