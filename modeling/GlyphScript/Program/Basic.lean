import GlyphScript.Token.Kind
import GlyphScript.Token.Location
import GlyphScript.Value

/-!
# Programs

A program is a list of constructs, sorted into collections by what they are.
Constructs that are looked up by name are kept in tables, in which the last one
of a name stands.
-/

namespace GlyphScript

/-- A name bound to a value. -/
structure Binding where
  name : String
  value : Value
  location : Location

/-- A capability: what a handler is asked to do, and with which parameters. -/
structure CapabilityBlock where
  name : String
  /-- The handler that a parameter names, if one does. -/
  handler : Option String
  params : Dict
  body : List Value
  location : Location

/-- The name under which the capability is handled. -/
def CapabilityBlock.handlerName (block : CapabilityBlock) : String :=
  match block.handler with
  | some handler => handler
  | none => ((Table.find? block.params "handler").bind Value.text?).getD block.name

structure Return where
  value : Value
  location : Location

structure AtomicBlock where
  name : String
  content : Dict
  location : Location

structure CapabilityVector where
  name : String
  params : Dict
  location : Location

structure CapabilityVariable where
  name : String
  default : Value
  scope : String
  location : Location

/-- What a program says about itself. -/
structure Manifest where
  name : String
  version : String
  law : String
  capabilities : List String
  tapes : Dict
  folds : Dict
  restMesh : Dict
  siteContent : Dict
  /-- The declared dict as it is written. -/
  raw : Dict

mutual

/-- A control vector has no effect. -/
structure ControlVector where
  vectorType : String
  params : Dict
  body : List Construct
  location : Location

/-- A block calls the capabilities inside it, one after the other. Other constructs in it
have no effect. -/
structure Block where
  name : String
  params : Dict
  body : List Construct
  /-- The value of a block that calls no handler. -/
  emit : Option Value
  location : Location

inductive Construct where
  | declaration (binding : Binding)
  | assignment (binding : Binding)
  | controlVector (vector : ControlVector)
  | block (block : Block)
  | returned (statement : Return)
  | atomicBlock (block : AtomicBlock)
  | capabilityBlock (block : CapabilityBlock)
  | capabilityVector (vector : CapabilityVector)
  | capabilityVariable (var : CapabilityVariable)

end

/-- The marker that opens such a construct. -/
def Construct.marker : Construct → Marker
  | declaration _ => .declaration
  | assignment _ => .assignment
  | controlVector _ => .controlVector
  | block _ => .block
  | returned _ => .returned
  | atomicBlock _ => .atomicBlock
  | capabilityBlock _ => .capability .block
  | capabilityVector _ => .capability .vector
  | capabilityVariable _ => .capability .var

def Construct.capability? : Construct → Option CapabilityBlock
  | capabilityBlock capability => some capability
  | _ => none

/-- The capabilities that a block calls. -/
def Block.capabilities (block : Block) : List CapabilityBlock :=
  block.body.filterMap Construct.capability?

structure Program where
  manifest : Option Manifest
  declarations : List Binding
  assignments : List Binding
  blocks : List Block
  controlVectors : List ControlVector
  returns : List Return
  atomicBlocks : Table AtomicBlock
  capabilityBlocks : Table CapabilityBlock
  capabilityVectors : Table CapabilityVector
  capabilityVariables : Table CapabilityVariable

namespace Program

def empty : Program :=
  ⟨none, [], [], [], [], [], [], [], [], []⟩

end Program

end GlyphScript
