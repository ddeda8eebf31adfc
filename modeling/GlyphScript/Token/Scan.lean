import GlyphScript.Json.Reader
import GlyphScript.Text.Letter
import GlyphScript.Text.Split
import GlyphScript.Token.Kind

/-!
# The token at the start of a text

Every rule below looks at a text from its first character on and gives a
`Lexeme`: what the token is, and how many further characters belong to it. No
rule fails. A construct whose closing delimiter is missing runs to the end of
the text.
-/

namespace GlyphScript.Scan

open Text (isAsciiDigit)

structure Lexeme where
  kind : Kind
  literal : List Char
  value : Option Value
  /-- How many characters belong to the token besides the first. -/
  more : Nat

/-- A token that is its own literal and stands for nothing else. -/
def plain (kind : Kind) (literal : List Char) : Lexeme :=
  ⟨kind, literal, none, literal.length - 1⟩

def ofChars (cs : List Char) : Value :=
  .text (String.ofList cs)

/-! ## Glyph markers -/

def atomicBlockWord : List Char := " ATOMIC_BLOCK".toList

/-- A marker, from the character behind its opening mark on: a glyph of the
language, the opening of an atomic block, or else an identifier. -/
def glyphMarker (rest : List Char) : Lexeme :=
  let content := rest.takeWhile (· ≠ glyphMark)
  let closed := content.length < rest.length
  let more := if closed then content.length + 1 else content.length
  match Glyph.ofText? (String.ofList content) with
  | some glyph => ⟨.glyph glyph, glyphMark :: (content ++ [glyphMark]), none, more⟩
  | none =>
      if atomicBlockWord.isPrefixOf content then
        let name := (Text.trim (content.drop atomicBlockWord.length)).dropWhile (· = '_')
        ⟨.atomicBlock, Text.trim content, some (ofChars name), more⟩
      else
        let closing := if closed then [glyphMark] else []
        ⟨.identifier, glyphMark :: (content ++ closing), none, more⟩

/-! ## Comments -/

/-- A comment between `/*` and `*/`, from behind its opening on. -/
def blockComment (body : List Char) : Lexeme :=
  match Text.cut? ['*', '/'] body with
  | some (before, _) => ⟨.blockComment, Text.trim before, none, before.length + 3⟩
  | none => ⟨.blockComment, Text.trim body, none, body.length + 1⟩

/-- The characters before the end of the line. -/
def line (cs : List Char) : List Char :=
  cs.takeWhile (· ≠ '\n')

/-- A comment to the end of the line, behind an opening of one character and
`opening` further ones. -/
def lineComment (opening : Nat) (body : List Char) : Lexeme :=
  ⟨.comment, Text.trim (line body), none, opening + (line body).length⟩

/-! ## Strings -/

def unescaped (c : Char) : Char :=
  if c = 'n' then '\n'
  else if c = 't' then '\t'
  else if c = 'r' then '\r'
  else c

/-- The characters that a string holds, from behind its opening quote on. -/
def stringContent : List Char → List Char
  | [] => []
  | c :: rest =>
      if c = '"' then []
      else if c = '\\' then
        match rest with
        | [] => []
        | e :: tail => unescaped e :: stringContent tail
      else c :: stringContent rest

/-- How many characters a string takes, from behind its opening quote on and
with the closing one. -/
def stringWidth : List Char → Nat
  | [] => 0
  | c :: rest =>
      if c = '"' then 1
      else if c = '\\' then
        match rest with
        | [] => 1
        | _ :: tail => stringWidth tail + 2
      else stringWidth rest + 1

def string (rest : List Char) : Lexeme :=
  let content := stringContent rest
  ⟨.string, content, some (ofChars content), stringWidth rest⟩

/-! ## Bracketed spans -/

/-- Where in a bracketed span a character stands. -/
inductive SpanState where
  | outside
  | inText
  | escaped
deriving DecidableEq, Repr

/-- How many characters it takes until `depth` open brackets are closed. Brackets
of both shapes count alike, and those inside of texts do not count. -/
def spanWidth (depth : Nat) : SpanState → List Char → Nat
  | _, [] => 0
  | .escaped, _ :: rest => spanWidth depth .inText rest + 1
  | .inText, c :: rest =>
      if c = '\\' then spanWidth depth .escaped rest + 1
      else if c = '"' then spanWidth depth .outside rest + 1
      else spanWidth depth .inText rest + 1
  | .outside, c :: rest =>
      if c = '"' then spanWidth depth .inText rest + 1
      else if c = '\x7b' ∨ c = '[' then spanWidth (depth + 1) .outside rest + 1
      else if c = '\x7d' ∨ c = ']' then
        if depth ≤ 1 then 1 else spanWidth (depth - 1) .outside rest + 1
      else spanWidth depth .outside rest + 1

/-- A span in brackets, from behind the opening one on: a JSON literal if it is a
document, else a string of its very characters. -/
def span (opening : Char) (rest : List Char) : Lexeme :=
  let more := spanWidth 1 .outside rest
  let literal := opening :: rest.take more
  match Json.read? literal with
  | some value => ⟨.json, literal, some value, more⟩
  | none => ⟨.string, literal, some (ofChars literal), more⟩

/-! ## Numbers -/

/-- The fraction that a text starts with: a point and at least one digit. -/
def fractionText : List Char → List Char
  | '.' :: rest =>
      match rest.takeWhile isAsciiDigit with
      | [] => []
      | digits => '.' :: digits
  | _ => []

/-- The sign that an exponent starts with, if it has one. -/
def signText : List Char → List Char
  | '+' :: _ => ['+']
  | '-' :: _ => ['-']
  | _ => []

/-- The exponent that a text starts with: its letter, an optional sign and at
least one digit. -/
def exponentText : List Char → List Char
  | mark :: rest =>
      if mark = 'e' ∨ mark = 'E' then
        let sign := signText rest
        match (rest.drop sign.length).takeWhile isAsciiDigit with
        | [] => []
        | digits => mark :: (sign ++ digits)
      else []
  | [] => []

/-- The longest number without a sign that a text starts with. -/
def magnitudeText (cs : List Char) : List Char :=
  let whole := cs.takeWhile isAsciiDigit
  let rest := cs.dropWhile isAsciiDigit
  let fraction := fractionText rest
  whole ++ fraction ++ exponentText (rest.drop fraction.length)

/-- The longest number that a text starts with. -/
def numberText : List Char → List Char
  | '-' :: rest => '-' :: magnitudeText rest
  | cs => magnitudeText cs

def number (cs : List Char) : Lexeme :=
  let literal := numberText cs
  let x := ((Decimal.readNumeral literal).map Decimal.Numeral.toFloat).getD 0
  ⟨.number, literal, some (.number x), literal.length - 1⟩

/-! ## Names -/

def isNameChar (c : Char) : Bool :=
  Text.isAlphanumeric c || c == '_'

def atom (rest : List Char) : Lexeme :=
  let name := rest.takeWhile isNameChar
  ⟨.atom, '@' :: name, some (ofChars name), name.length⟩

def identifier (cs : List Char) : Lexeme :=
  let name := cs.takeWhile fun c => isNameChar c || c == '.'
  match Keyword.ofText? (String.ofList name) with
  | some keyword => plain (.keyword keyword) name
  | none => plain .identifier name

/-! ## Capability lines -/

/-- What a capability line starts with. -/
def capabilityWord : List Char := "C@@L".toList

def isWordChar (c : Char) : Bool :=
  Text.isAsciiAlphanumeric c || c == '_'

/-- The word characters that a word starts with, unless there are none. -/
def stem? (word : List Char) : Option (List Char) :=
  match word.takeWhile isWordChar with
  | [] => none
  | stem => some stem

/-- The name of a capability. Vectors and variables are named by an atom. -/
def nameOf? : Capability → List Char → Option (List Char)
  | .block, word => stem? word
  | _, '@' :: word => (stem? word).map ('@' :: ·)
  | _, _ => none

def unnamed : Capability → List Char
  | .block => "unknown".toList
  | _ => "@unknown".toList

/-- The name on a capability line: the word behind the announcing word. -/
def capabilityName (capability : Capability) (literal : List Char) : List Char :=
  match Text.words literal with
  | first :: second :: third :: _ =>
      if first = capabilityWord ∧ second = capability.text.toList then
        (nameOf? capability third).getD (unnamed capability)
      else unnamed capability
  | _ => unnamed capability

/-- What a capability line declares. A line that announces nothing is an
identifier. -/
def capabilityOf? (literal : List Char) : Option Capability :=
  [.vector, .var, .block].find? fun (capability : Capability) =>
    Text.contains capability.text.toList literal

def capabilityLine (cs : List Char) : Lexeme :=
  let more := (line cs).length - 1
  let literal := Text.trim (line cs)
  match capabilityOf? literal with
  | none => ⟨.identifier, literal, none, more⟩
  | some capability =>
      let value := Value.record [("kind", .text capability.text),
        ("name", ofChars (capabilityName capability literal))]
      ⟨.capability capability, literal, some value, more⟩

/-! ## All tokens -/

/-- Operators, identifiers, line ends, and characters that belong to no token. -/
def symbol (c : Char) (rest : List Char) : Lexeme :=
  match Operator.read? (c :: rest) with
  | some op => plain (.operator op) op.text.toList
  | none =>
      if Text.isLetter c || c == '_' then identifier (c :: rest)
      else if c = '\n' then plain .newline [c]
      else plain .illegal [c]

/-- The token that starts with the character `c`. -/
def lexeme (c : Char) (rest : List Char) : Lexeme :=
  if c = glyphMark then glyphMarker rest
  else if c = '/' ∧ rest.head? = some '*' then blockComment (rest.drop 1)
  else if c = '/' ∧ rest.head? = some '/' then lineComment 1 (rest.drop 1)
  else if c = '#' then lineComment 0 rest
  else if c = '"' then string rest
  else if c = '\x7b' ∨ c = '[' then span c rest
  else if isAsciiDigit c then number (c :: rest)
  else if c = '-' ∧ (rest.head?.map isAsciiDigit).getD false then number (c :: rest)
  else if c = '@' then atom rest
  else if capabilityWord.isPrefixOf (c :: rest) then capabilityLine (c :: rest)
  else symbol c rest

end GlyphScript.Scan
