import GlyphScript.Value

/-!
# Compaction

Well-known keys are abbreviated at every depth of a value. A key that looks like
an abbreviation, or like an escaped key, is escaped, so that expanding gives the
value back.
-/

namespace GlyphScript

namespace Compaction

/-- Full keys and their short forms. -/
def abbreviations : List (String × String) := [
  ("type", "t"),
  ("name", "n"),
  ("value", "v"),
  ("params", "p"),
  ("handler", "h"),
  ("content", "c"),
  ("body", "b"),
  ("manifest", "m"),
  ("capabilityBlocks", "cb"),
  ("capabilityVectors", "cv"),
  ("capabilityVariables", "cx"),
  ("atomicBlocks", "ab"),
  ("declarations", "d"),
  ("assignments", "a"),
  ("blocks", "bk")]

def escapeMark : Char := '~'

def shortForm? (key : String) : Option String :=
  abbreviations.lookup key

def fullKey? (key : String) : Option String :=
  (abbreviations.find? fun pair => pair.2 == key).map Prod.fst

def isShortForm (key : String) : Bool :=
  (fullKey? key).isSome

def isEscaped (key : String) : Bool :=
  key.toList.head? == some escapeMark

def escape (key : String) : String :=
  String.ofList (escapeMark :: key.toList)

def abbreviate (key : String) : String :=
  match shortForm? key with
  | some short => short
  | none => if isEscaped key || isShortForm key then escape key else key

def expand (key : String) : String :=
  if isEscaped key then String.ofList (key.toList.drop 1)
  else (fullKey? key).getD key

mutual

/-- Renames the keys at every depth. Where two keys get one name the entry of the
later key stands. -/
def renameKeys (rename : String → String) : Value → Value
  | .list items => .list (renameItems rename items)
  | .dict entries => .record (renameEntries rename entries)
  | value => value

def renameItems (rename : String → String) : List Value → List Value
  | [] => []
  | item :: rest => renameKeys rename item :: renameItems rename rest

def renameEntries (rename : String → String) : List (String × Value) → List (String × Value)
  | [] => []
  | (key, entry) :: rest => (rename key, renameKeys rename entry) :: renameEntries rename rest

end

/-! ## The signature -/

/-- The first letter of the type. -/
def typeMark (entries : Dict) : List String :=
  match ((entries.find? "type").bind Value.text?).map String.toList with
  | some (first :: _) => [String.ofList [first]]
  | _ => []

/-- The first three letters of a name that has as many. -/
def nameMark (entries : Dict) : List String :=
  match ((entries.find? "name").bind Value.text?).map String.toList with
  | some (a :: b :: c :: _) => [String.ofList [a, b, c]]
  | _ => []

def manifestMark (entries : Dict) : List String :=
  if entries.contains "manifest" then ["M"] else []

/-- How many entries a collection has. -/
def countMark (entries : Dict) (key tag : String) : List String :=
  match entries.find? key with
  | some (.dict collection) => [tag ++ toString collection.length]
  | _ => []

/-- A short summary of a dict; different dicts may have the same. -/
def signature (entries : Dict) : String :=
  ".".intercalate (typeMark entries ++ nameMark entries ++ manifestMark entries ++
    countMark entries "capabilityBlocks" "C" ++ countMark entries "capabilityVectors" "V" ++
    countMark entries "capabilityVariables" "X")

end Compaction

/-- A value with abbreviated keys, and what is known of it without expanding. -/
structure Compacted where
  version : String
  typeTag : String
  signature : String
  data : Value

namespace Compacted

def currentVersion : String := "XCFE-v1"

/-- The envelope as a value. -/
def document (compacted : Compacted) : Value :=
  .record [("@xcfe", .text compacted.version), ("@type", .text compacted.typeTag),
    ("@sig", .text compacted.signature), ("@data", compacted.data)]

/-- Reads an envelope: a dict with its four keys, or a list of its four parts. -/
def ofDocument? : Value → Option Compacted
  | .list [.text version, .text typeTag, .text signature, data] =>
      some ⟨version, typeTag, signature, data⟩
  | .dict entries => do
      let version ← (Table.find? entries "@xcfe").bind Value.text?
      let typeTag ← (Table.find? entries "@type").bind Value.text?
      let signature ← (Table.find? entries "@sig").bind Value.text?
      let data ← Table.find? entries "@data"
      return ⟨version, typeTag, signature, data⟩
  | _ => none

end Compacted

/-- Null has no compacted form. -/
def compress (value : Value) : Option Compacted :=
  if value.isNull then none
  else some {
    version := Compacted.currentVersion
    typeTag := ((value.field? "type").bind Value.text?).getD "unknown"
    signature := (value.dict?.map Compaction.signature).getD ""
    data := Compaction.renameKeys Compaction.abbreviate value }

def decompress (compacted : Compacted) : Value :=
  Compaction.renameKeys Compaction.expand compacted.data

end GlyphScript
