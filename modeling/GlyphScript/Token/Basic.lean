import GlyphScript.Text.Printable
import GlyphScript.Token.Kind
import GlyphScript.Token.Location
import GlyphScript.Value

/-!
# Tokens
-/

namespace GlyphScript

structure Token where
  kind : Kind
  /-- The text of the token, decoded for strings. -/
  literal : String
  /-- What a number, a string, an atom, a JSON literal or a marker stands for. -/
  value : Option Value
  location : Location

namespace Token

/-- The name that a marker gives to its construct. -/
def constructName? (token : Token) : Option String :=
  match token.value with
  | some (.text name) => some name
  | some value => (value.field? "name").bind Value.text?
  | none => none

/-- A line of a listing of tokens. -/
def listing (token : Token) : String :=
  toString token.location.line ++ ":" ++ toString token.location.column ++ " " ++
    token.kind.word ++ " " ++ String.ofList (Text.listed token.literal.toList)

end Token

end GlyphScript
