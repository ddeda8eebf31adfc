import GlyphScript.Decimal.Layout
import GlyphScript.Text.Quoted
import GlyphScript.Value

/-!
# Values as JSON text

Two forms: `compact`, without a blank, and `pretty`, a line for each item.
Numbers that are not finite are written as null.
-/

namespace GlyphScript.Json

/-- The text of a value that holds no other values. -/
def scalar (numberText : Float → List Char) : Value → List Char
  | .bool true => "true".toList
  | .bool false => "false".toList
  | .number x => numberText x
  | .text s => Text.quoted s.toList
  | _ => "null".toList

mutual

/-- The compact form with a text for numbers of one's choice. -/
def compactWith (numberText : Float → List Char) : Value → List Char
  | .list [] => ['[', ']']
  | .list (item :: rest) =>
      '[' :: (compactWith numberText item ++ compactItems numberText rest)
  | .dict [] => ['\x7b', '\x7d']
  | .dict ((key, entry) :: rest) =>
      '\x7b' :: (Text.quoted key.toList ++
        ':' :: (compactWith numberText entry ++ compactEntries numberText rest))
  | value => scalar numberText value

/-- Further items, each behind a comma, and the closing bracket. -/
def compactItems (numberText : Float → List Char) : List Value → List Char
  | [] => [']']
  | item :: rest => ',' :: (compactWith numberText item ++ compactItems numberText rest)

/-- Further entries, each behind a comma, and the closing brace. -/
def compactEntries (numberText : Float → List Char) : List (String × Value) → List Char
  | [] => ['\x7d']
  | (key, entry) :: rest =>
      ',' :: (Text.quoted key.toList ++
        ':' :: (compactWith numberText entry ++ compactEntries numberText rest))

end

def compact (value : Value) : List Char :=
  compactWith Decimal.jsonText value

/-- A line break and two blanks for each level. -/
def lineBreak (level : Nat) : List Char :=
  '\n' :: List.replicate (2 * level) ' '

mutual

/-- The pretty form of a value that starts at some level of indentation. -/
def prettyAt (level : Nat) : Value → List Char
  | .list [] => ['[', ']']
  | .list (item :: rest) =>
      '[' :: (lineBreak (level + 1) ++ prettyAt (level + 1) item ++ prettyItems level rest)
  | .dict [] => ['\x7b', '\x7d']
  | .dict ((key, entry) :: rest) =>
      '\x7b' :: (lineBreak (level + 1) ++ Text.quoted key.toList ++
        ':' :: ' ' :: (prettyAt (level + 1) entry ++ prettyEntries level rest))
  | value => scalar Decimal.jsonText value

def prettyItems (level : Nat) : List Value → List Char
  | [] => lineBreak level ++ [']']
  | item :: rest =>
      ',' :: (lineBreak (level + 1) ++ prettyAt (level + 1) item ++ prettyItems level rest)

def prettyEntries (level : Nat) : List (String × Value) → List Char
  | [] => lineBreak level ++ ['\x7d']
  | (key, entry) :: rest =>
      ',' :: (lineBreak (level + 1) ++ Text.quoted key.toList ++
        ':' :: ' ' :: (prettyAt (level + 1) entry ++ prettyEntries level rest))

end

def pretty (value : Value) : List Char :=
  prettyAt 0 value

end GlyphScript.Json

namespace GlyphScript.Value

/-- What is shown for a value: a text as it is, other values in JSON except that
a number on its own is never written with an exponent. -/
def display : Value → String
  | null => "null"
  | bool b => if b then "true" else "false"
  | number x => String.ofList (Decimal.numberText x)
  | text s => s
  | value => String.ofList (Json.compact value)

/-- Every value stands for a text: what is shown for it, and the empty text for
null. -/
def toText : Value → String
  | null => ""
  | value => value.display

end GlyphScript.Value
