import GlyphScript.Action
import GlyphScript.Text.Printable

/-!
# Listings of values and handlers

The listed form of a value names its kind, so that `1` as a number and `1` as a
text can be told apart.
-/

namespace GlyphScript

/-- The quoted form of a text, in which what cannot be printed is escaped. -/
def listedText (text : String) : String :=
  String.ofList (Text.listed text.toList)

mutual

def Value.listing : Value → String
  | .null => "Null"
  | .bool b => "Bool(" ++ toString b ++ ")"
  | .number x => "Number(" ++ String.ofList (Decimal.listingText x) ++ ")"
  | .text s => "Text(" ++ listedText s ++ ")"
  | .list items => "List([" ++ ", ".intercalate (Value.listItems items) ++ "])"
  | .dict entries => "Dict(\x7b" ++ ", ".intercalate (Value.listEntries entries) ++ "\x7d)"

def Value.listItems : List Value → List String
  | [] => []
  | item :: rest => item.listing :: Value.listItems rest

def Value.listEntries : List (String × Value) → List String
  | [] => []
  | (key, entry) :: rest => (listedText key ++ ": " ++ entry.listing) :: Value.listEntries rest

end

/-- A handler by its name, the capability it was registered for and its
parameters. -/
def Handler.listing (name : String) (handler : Handler) : String :=
  let block := match handler.block with
    | some block => "Some(" ++ listedText block.name ++ ")"
    | none => "None"
  "Handler \x7b name: " ++ listedText name ++ ", block: " ++ block ++ ", params: \x7b" ++
    ", ".intercalate (Value.listEntries handler.params) ++ "\x7d, .. \x7d"

end GlyphScript
