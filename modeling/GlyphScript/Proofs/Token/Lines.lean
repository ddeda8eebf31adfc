import GlyphScript.Json.Writer
import GlyphScript.Proofs.Json.Compact
import GlyphScript.Proofs.Token.Spelling

/-!
# Sources written line by line

The lines of assignments and of capabilities, each with its text and its tokens. A
value is written as a keyword, as a string, or as the text of a list or dict.

Results:
1. `tokensFrom_value`: a value is one token.
2. `tokensFrom_line`: in front of a line end or the end of the source, the text of a
   line gives the tokens of the line.
-/

namespace GlyphScript

/-! ## Values -/

def escapedChar (c : Char) : List Char :=
  if c = '"' ∨ c = '\\' then ['\\', c] else [c]

/-- A text between quotes, in which quotes and backslashes are escaped. -/
def stringText (cs : List Char) : List Char :=
  '"' :: (cs.flatMap escapedChar ++ ['"'])

/-- Every text has an encoding, in which only what has to be escaped is. -/
theorem encoded_escaped (cs : List Char) : Encoded cs (cs.flatMap escapedChar) := by
  induction cs with
  | nil => exact .done
  | cons c rest ih =>
      rw [List.flatMap_cons, escapedChar]
      split
      · next special => exact .special special ih
      · next ordinary =>
          rw [not_or] at ordinary
          exact .raw ordinary.1 ordinary.2 ih

/-- How a value is written in a source. -/
def valueText : Value → List Char
  | .null => ['n', 'u', 'l', 'l']
  | .bool true => ['t', 'r', 'u', 'e']
  | .bool false => ['f', 'a', 'l', 's', 'e']
  | .text s => stringText s.toList
  | value => value.toText.toList

def valueToken (here : Location) : Value → Token
  | .null => ⟨.keyword .nullWord, "null", none, here⟩
  | .bool true => ⟨.keyword .trueWord, "true", none, here⟩
  | .bool false => ⟨.keyword .falseWord, "false", none, here⟩
  | .text s => ⟨.string, s, some (.text s), here⟩
  | value => ⟨.json, value.toText, some value, here⟩

/-- The source or the line ends here. -/
def EndsLine (rest : List Char) : Prop :=
  ∀ c ∈ rest.head?, c = '\n'

theorem EndsLine.endsName {rest : List Char} (ends : EndsLine rest) : EndsName rest := by
  intro c isNext
  rw [ends c isNext]
  decide

theorem tokensFrom_keyword {name rest : List Char} {keyword : Keyword} (isName : IsName name)
    (reserved : Keyword.ofText? (String.ofList name) = some keyword) (ends : EndsLine rest)
    (here : Location) :
    tokensFrom here (name ++ rest) =
      ⟨.keyword keyword, String.ofList name, none, here⟩ ::
        tokensFrom (here.after name) rest :=
  tokensFrom_name isName ends.endsName (by rw [reserved]; rfl) here

theorem compact_list (items : List Value) : ∃ cs, Json.compact (.list items) = '[' :: cs := by
  cases items with
  | nil => exact ⟨_, by rw [Json.compact, Json.compactWith]⟩
  | cons item rest => exact ⟨_, by rw [Json.compact, Json.compactWith]⟩

theorem compact_dict (entries : List (String × Value)) :
    ∃ cs, Json.compact (.dict entries) = '\x7b' :: cs := by
  cases entries with
  | nil => exact ⟨_, by rw [Json.compact, Json.compactWith]⟩
  | cons pair rest => exact ⟨_, by rw [Json.compact, Json.compactWith]⟩

theorem tokensFrom_container {value : Value} (writable : value.Writable Json.maxDepth)
    {opening : Char} {cs : List Char} (text : Json.compact value = opening :: cs)
    (opens : Json.isOpening opening = true) (here : Location) (rest : List Char) :
    tokensFrom here (Json.compact value ++ rest) =
      ⟨.json, String.ofList (Json.compact value), some value, here⟩ ::
        tokensFrom (here.after (Json.compact value)) rest := by
  have read := Json.readValue_compact Decimal.jsonText value Json.maxDepth writable []
  rw [List.append_nil] at read
  change Json.readValue Json.maxDepth (Json.compact value) = _ at read
  rw [text] at read ⊢
  exact tokensFrom_document opens read here rest

/-- A value without numbers is written as one token. -/
theorem tokensFrom_value {value : Value} (writable : value.Writable Json.maxDepth)
    {rest : List Char} (ends : EndsLine rest) (here : Location) :
    tokensFrom here (valueText value ++ rest) =
      valueToken here value :: tokensFrom (here.after (valueText value)) rest := by
  cases value with
  | null =>
      exact tokensFrom_keyword (.of_all ⟨'n', rfl, by decide⟩ (by decide)) (by decide) ends here
  | bool b =>
      cases b with
      | false =>
          exact tokensFrom_keyword (.of_all ⟨'f', rfl, by decide⟩ (by decide)) (by decide) ends here
      | true =>
          exact tokensFrom_keyword (.of_all ⟨'t', rfl, by decide⟩ (by decide)) (by decide) ends here
  | number x =>
      have numberFree := writable.numberFree
      rw [Value.numbers] at numberFree
      cases numberFree
  | text s =>
      have spelled := Scan.spelled_of_encoded (encoded_escaped s.toList)
      have string := tokensFrom_string spelled here rest
      rw [Scan.ofChars, String.ofList_toList] at string
      exact string
  | list items =>
      obtain ⟨cs, text⟩ := compact_list items
      have container := tokensFrom_container writable text rfl here rest
      have written : valueText (.list items) = Json.compact (.list items) := String.toList_ofList
      rw [written]
      exact container
  | dict entries =>
      obtain ⟨cs, text⟩ := compact_dict entries
      have container := tokensFrom_container writable text rfl here rest
      have written : valueText (.dict entries) = Json.compact (.dict entries) := String.toList_ofList
      rw [written]
      exact container

/-! ## Lines -/

/-- A line of a source, for an assignment or for a part of a capability. -/
inductive Line where
  | assignment (name : String) (value : Value)
  | opening (word : String)
  | param (key : String) (value : Value)
  | item (value : Value)

def Value.isContainer : Value → Bool
  | list _ => true
  | dict _ => true
  | _ => false

namespace Line

def text : Line → List Char
  | assignment name value =>
      '⟁' :: 'W' :: 'o' :: '⟁' :: ' ' :: (name.toList ++ ' ' :: '=' :: ' ' :: valueText value)
  | opening word => capabilityHead word.toList
  | param key value => '@' :: (key.toList ++ ':' :: ' ' :: valueText value)
  | item value => valueText value

/-- What may stand on a line. -/
def WellFormed : Line → Prop
  | assignment name value =>
      IsName name.toList ∧ Keyword.ofText? name = none ∧ value.Writable Json.maxDepth
  | opening word => IsWord word.toList
  | param key value =>
      (∀ c ∈ key.toList, Scan.isNameChar c = true) ∧ value.Writable Json.maxDepth
  | item value => value.isContainer = true ∧ value.Writable Json.maxDepth

/-- The tokens of a line that starts at a place of the source. -/
def tokens (here : Location) : Line → List Token
  | assignment name value =>
      let named := (here.after ['⟁', 'W', 'o', '⟁']).next ' '
      let equals := (named.after name.toList).next ' '
      [⟨.glyph .wo, "⟁Wo⟁", none, here⟩, ⟨.identifier, name, none, named⟩,
        ⟨.operator .assign, "=", none, equals⟩, valueToken ((equals.next '=').next ' ') value]
  | opening word =>
      [⟨.capability .block, String.ofList (capabilityHead word.toList),
        some (capabilityValue word.toList), here⟩]
  | param key value =>
      let colon := here.after ('@' :: key.toList)
      [⟨.atom, String.ofList ('@' :: key.toList), some (.text key), here⟩,
        ⟨.operator .colon, ":", none, colon⟩, valueToken ((colon.next ':').next ' ') value]
  | item value => [valueToken here value]

end Line

theorem tokensFrom_assignment {name : String} {value : Value}
    (wellFormed : (Line.assignment name value).WellFormed) {rest : List Char}
    (ends : EndsLine rest) (here : Location) :
    tokensFrom here ((Line.assignment name value).text ++ rest) =
      (Line.assignment name value).tokens here ++
        tokensFrom (here.after (Line.assignment name value).text) rest := by
  obtain ⟨isName, free, writable⟩ := wellFormed
  have blank : isGap ' ' = true := by decide
  have endsName : EndsName (' ' :: '=' :: ' ' :: (valueText value ++ rest)) := by
    intro c isNext
    cases isNext
    decide
  have identifier :
      ((Keyword.ofText? (String.ofList name.toList)).map Kind.keyword).getD .identifier =
        .identifier := by
    rw [String.ofList_toList, free]
    rfl
  have glyph : ∀ behind, tokensFrom here ('⟁' :: 'W' :: 'o' :: '⟁' :: behind) =
      ⟨.glyph .wo, "⟁Wo⟁", none, here⟩ ::
        tokensFrom (here.after ['⟁', 'W', 'o', '⟁']) behind :=
    tokensFrom_glyph .wo here
  have place := Location.after_append ((here.after ['⟁', 'W', 'o', '⟁']).next ' ') name.toList
    (' ' :: '=' :: ' ' :: valueText value)
  change here.after (Line.assignment name value).text = _ at place
  rw [place]
  simp only [Line.text, Line.tokens, List.cons_append, List.append_assoc, List.nil_append]
  rw [glyph, tokensFrom_of_gap blank, tokensFrom_name isName endsName identifier,
    String.ofList_toList, tokensFrom_of_gap blank, tokensFrom_assign, tokensFrom_of_gap blank,
    tokensFrom_value writable ends]
  rfl

theorem tokensFrom_param {key : String} {value : Value}
    (wellFormed : (Line.param key value).WellFormed) {rest : List Char} (ends : EndsLine rest)
    (here : Location) :
    tokensFrom here ((Line.param key value).text ++ rest) =
      (Line.param key value).tokens here ++
        tokensFrom (here.after (Line.param key value).text) rest := by
  obtain ⟨inside, writable⟩ := wellFormed
  have blank : isGap ' ' = true := by decide
  have stops : ∀ c ∈ (':' :: ' ' :: (valueText value ++ rest)).head?,
      Scan.isNameChar c = false := by
    intro c isNext
    cases isNext
    decide
  have place := Location.after_append here ('@' :: key.toList) (':' :: ' ' :: valueText value)
  change here.after (Line.param key value).text = _ at place
  rw [place]
  simp only [Line.text, Line.tokens, List.cons_append, List.append_assoc, List.nil_append]
  rw [tokensFrom_atom inside stops, Scan.ofChars, String.ofList_toList, tokensFrom_colon,
    tokensFrom_of_gap blank, tokensFrom_value writable ends]
  rfl

/-- A line gives its tokens, and the next token is looked for where the line ends. -/
theorem tokensFrom_line {line : Line} (wellFormed : line.WellFormed) {rest : List Char}
    (ends : EndsLine rest) (here : Location) :
    tokensFrom here (line.text ++ rest) =
      line.tokens here ++ tokensFrom (here.after line.text) rest := by
  cases line with
  | assignment name value => exact tokensFrom_assignment wellFormed ends here
  | opening word => exact tokensFrom_capabilityHead wellFormed ends here
  | param key value => exact tokensFrom_param wellFormed ends here
  | item value => exact tokensFrom_value wellFormed.2 ends here

end GlyphScript
