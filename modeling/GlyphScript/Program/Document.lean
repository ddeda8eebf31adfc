import GlyphScript.Json.Writer
import GlyphScript.Program.Basic

/-!
# A program as a value

The value holds all of a program but the places in its source. Numbers are
carried over as JSON would: what is not finite becomes null, and `-0` becomes
`0`.
-/

namespace GlyphScript

def carriedNumber (x : Float) : Value :=
  if x.isFinite then
    match Decimal.smallInteger? x with
    | some n => .number (Float.ofInt n)
    | none => .number x
  else .null

mutual

/-- A value with its numbers carried over at every depth. -/
def Value.carried : Value → Value
  | .number x => carriedNumber x
  | .list items => .list (carriedItems items)
  | .dict entries => .dict (carriedEntries entries)
  | value => value

def carriedItems : List Value → List Value
  | [] => []
  | item :: rest => item.carried :: carriedItems rest

def carriedEntries : List (String × Value) → List (String × Value)
  | [] => []
  | (key, entry) :: rest => (key, entry.carried) :: carriedEntries rest

end

def dictDocument (entries : Dict) : Value :=
  (Value.dict entries).carried

def textDocument (s : Option String) : Value :=
  (s.map Value.text).getD .null

/-! ## Constructs

Each construct is a record of its fields. Inside of another construct it says what it is
as well. -/

def Binding.fields (binding : Binding) : List (String × Value) :=
  [("name", .text binding.name), ("value", binding.value.carried)]

def CapabilityBlock.fields (block : CapabilityBlock) : List (String × Value) :=
  [("name", .text block.name), ("handler", textDocument block.handler),
    ("params", dictDocument block.params), ("body", (Value.list block.body).carried)]

def Return.fields (statement : Return) : List (String × Value) :=
  [("value", statement.value.carried)]

def AtomicBlock.fields (block : AtomicBlock) : List (String × Value) :=
  [("name", .text block.name), ("content", dictDocument block.content)]

def CapabilityVector.fields (vector : CapabilityVector) : List (String × Value) :=
  [("name", .text vector.name), ("params", dictDocument vector.params)]

def CapabilityVariable.fields (var : CapabilityVariable) : List (String × Value) :=
  [("name", .text var.name), ("defaultValue", var.default.carried), ("scope", .text var.scope)]

/-- What a construct says that it is, by the marker that opens it. -/
def Marker.tag : Marker → String
  | declaration => "Declaration"
  | assignment => "Assignment"
  | controlVector => "ControlVector"
  | block => "BlockDefinition"
  | returned => "Return"
  | atomicBlock => "AtomicBlock"
  | capability .block => "CapabilityBlock"
  | capability .vector => "CapabilityVector"
  | capability .var => "CapabilityVariable"

mutual

def ControlVector.fields : ControlVector → List (String × Value)
  | ⟨vectorType, params, body, _⟩ =>
      [("vectorType", .text vectorType), ("params", dictDocument params),
        ("body", .list (Construct.documents body))]

def Block.fields : Block → List (String × Value)
  | ⟨name, params, body, emit, _⟩ =>
      [("name", .text name), ("params", dictDocument params),
        ("body", .list (Construct.documents body)), ("emit", (emit.getD .null).carried)]

def Construct.fields : Construct → List (String × Value)
  | .declaration binding => binding.fields
  | .assignment binding => binding.fields
  | .controlVector vector => vector.fields
  | .block block => block.fields
  | .returned statement => statement.fields
  | .atomicBlock block => block.fields
  | .capabilityBlock block => block.fields
  | .capabilityVector vector => vector.fields
  | .capabilityVariable var => var.fields

/-- The constructs inside of another one. -/
def Construct.documents : List Construct → List Value
  | [] => []
  | construct :: rest =>
      .record (("type", .text construct.marker.tag) :: construct.fields) ::
        Construct.documents rest

end

/-! ## The program -/

def Manifest.document (manifest : Manifest) : Value :=
  .record [("name", .text manifest.name), ("version", .text manifest.version),
    ("law", .text manifest.law), ("capabilities", .ofTexts manifest.capabilities),
    ("tapes", dictDocument manifest.tapes), ("folds", dictDocument manifest.folds),
    ("restMesh", dictDocument manifest.restMesh),
    ("siteContent", dictDocument manifest.siteContent)]

/-- The program, tagged as what it is. -/
def Program.document (program : Program) : Value :=
  .record [("type", .text "Program"),
    ("manifest", (program.manifest.map Manifest.document).getD .null),
    ("declarations", .list (program.declarations.map fun binding => .record binding.fields)),
    ("assignments", .list (program.assignments.map fun binding => .record binding.fields)),
    ("blocks", .list (program.blocks.map fun block => .record block.fields)),
    ("controlVectors", .list (program.controlVectors.map fun vector => .record vector.fields)),
    ("returns", .list (program.returns.map fun statement => .record statement.fields)),
    ("atomicBlocks", .dict (program.atomicBlocks.mapEntries fun block => .record block.fields)),
    ("capabilityBlocks",
      .dict (program.capabilityBlocks.mapEntries fun block => .record block.fields)),
    ("capabilityVectors",
      .dict (program.capabilityVectors.mapEntries fun vector => .record vector.fields)),
    ("capabilityVariables",
      .dict (program.capabilityVariables.mapEntries fun var => .record var.fields))]

end GlyphScript
