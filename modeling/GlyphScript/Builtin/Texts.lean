import GlyphScript.Builtin.Sequences
import GlyphScript.Json.Writer
import GlyphScript.Text.Case
import GlyphScript.Text.Split

/-!
# Builtins on texts

Arguments are taken by the text they stand for.
-/

namespace GlyphScript.Builtin

def ofChars (cs : List Char) : Value :=
  .text (String.ofList cs)

def chars (value : Value) : List Char :=
  value.toText.toList

/-- Changes the text of the first argument. -/
def textMap (f : List Char → List Char) (args : List Value) : Value :=
  ofChars (f ((args.head?.map chars).getD []))

/-- Tests the text of the first argument against that of the second. -/
def textTest (test : List Char → List Char → Bool) : List Value → Value
  | s :: part :: _ => .bool (test (chars s) (chars part))
  | _ => .bool false

def split : List Value → Value
  | s :: sep :: _ => .list ((Text.splitOn (chars sep) (chars s)).map ofChars)
  | _ => .list []

def join : List Value → Value
  | .list items :: sep :: _ => ofChars (Text.join (chars sep) (items.map chars))
  | _ => .text ""

def replace : List Value → Value
  | s :: part :: new :: _ => ofChars (Text.replace (chars part) (chars new) (chars s))
  | args => firstOrNull args

/-- The line that `print` writes: the texts of the arguments with single blanks
between them. -/
def printedLine (args : List Value) : String :=
  String.ofList (Text.join [' '] (args.map chars) ++ ['\n'])

end GlyphScript.Builtin
