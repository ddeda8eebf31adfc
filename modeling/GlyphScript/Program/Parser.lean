import GlyphScript.Program.Clause
import GlyphScript.Program.Manifest
import GlyphScript.Token.Lexer

/-!
# From tokens to a program

Parsing goes in four steps. The tokens are cut before every marker
(`segments`); each segment is read on its own (`Segment.construct`); blocks take
the capabilities and the return that follow them (`gather`); and the constructs
are filed in their collections (`Program.add`). A segment that cannot be read
gives an error, and parsing goes on with the next one.
-/

namespace GlyphScript

/-! ## Segments -/

/-- Tokens that count, up to the end of the file, and where that end is. -/
structure Significant where
  tokens : List Token
  stop : Location

/-- Everything from the first end-of-file token on is left out. Without such a
token the file ends where the last token stands. -/
def significant (tokens : List Token) : Significant :=
  let kept := tokens.filter fun token => !token.kind.isTrivia
  let before := kept.takeWhile fun token => token.kind ≠ .endOfFile
  match kept.dropWhile fun token => token.kind ≠ .endOfFile with
  | stop :: _ => ⟨before, stop.location⟩
  | [] => ⟨before, (before.getLast?.map Token.location).getD ⟨0, 0⟩⟩

/-- A marker with the tokens behind it, up to the next marker. -/
structure Segment where
  marker : Marker
  token : Token
  body : List Token
  /-- Kind and place of the token that comes right behind the marker. -/
  next : Kind × Location

/-- Kind and place of the first token, or of the end of the file. -/
def firstOr (stop : Location) : List Token → Kind × Location
  | token :: _ => (token.kind, token.location)
  | [] => (.endOfFile, stop)

/-- Tokens before the first marker belong to no segment. -/
def segments (stop : Location) : List Token → List Segment
  | [] => []
  | token :: rest =>
      match token.kind.marker? with
      | some marker =>
          ⟨marker, token, rest.takeWhile fun token => !token.kind.isMarker, firstOr stop rest⟩ ::
            segments stop rest
      | none => segments stop rest

/-! ## Constructs -/

/-- What a name is required for. -/
inductive NameRole where
  | declaration
  | assignment
  | controlVector
  | block
deriving DecidableEq, Repr

def NameRole.requirement : NameRole → String
  | declaration => "declaration requires a following name"
  | assignment => "assignment requires a variable name"
  | controlVector => "control vector requires a type name"
  | block => "block definition requires a name"

/-- Some other token stands where a name is required. -/
structure ParseError where
  role : NameRole
  found : Kind
  location : Location
deriving DecidableEq, Repr

namespace ParseError

def message (error : ParseError) : String :=
  error.role.requirement ++ " (found " ++ error.found.description ++ ")"

def display (error : ParseError) : String :=
  "line " ++ toString error.location.line ++ ", column " ++ toString error.location.column ++
    ": " ++ error.message

def displayAll (errors : List ParseError) : String :=
  "; ".intercalate (errors.map display)

end ParseError

namespace Segment

def location (segment : Segment) : Location :=
  segment.token.location

/-- The identifier behind the marker, and the tokens behind that. -/
def named (segment : Segment) (role : NameRole) : Except ParseError (String × List Token) :=
  match segment.body with
  | token :: rest =>
      if token.kind = .identifier then .ok (token.literal, rest)
      else .error ⟨role, segment.next.1, segment.next.2⟩
  | [] => .error ⟨role, segment.next.1, segment.next.2⟩

/-- A declared value is a JSON literal. -/
def declaredValue : List Token → Value
  | token :: _ => if token.kind = .json then token.value.getD .null else .null
  | [] => .null

/-- The equals sign before an assigned value may be left out. -/
def assignedValue : List Token → Value
  | token :: rest =>
      if token.kind = .operator .assign then (readValue rest).1 else (readValue (token :: rest)).1
  | [] => .null

/-- A returned parameter is a dict of one entry. -/
def returnedValue : List Token → Value
  | token :: rest =>
      if token.kind = .atom then
        .dict [(withoutAtSigns token.literal, (readArgument rest).1)]
      else (readValue (token :: rest)).1
  | [] => .null

/-- The name that the marker gives, or a name for what has none. -/
def nameOr (segment : Segment) (unnamed : String) : String :=
  segment.token.constructName?.getD unnamed

def params (segment : Segment) : Dict :=
  Clause.params (clauses segment.body)

def capabilityBlock (segment : Segment) : CapabilityBlock :=
  let parts := clauses segment.body
  ⟨segment.nameOr "unknown", Clause.handler? parts, Clause.params parts, Clause.literals parts,
    segment.location⟩

def capabilityVariable (segment : Segment) : CapabilityVariable :=
  ⟨segment.nameOr "@unknown", (segment.params.find? "default").getD .null,
    ((segment.params.find? "scope").bind Value.text?).getD "global", segment.location⟩

/-- The construct of a segment. A block is read without the capabilities and the
return that follow it. -/
def construct (segment : Segment) : Except ParseError Construct :=
  match segment.marker with
  | .declaration => do
      let (name, rest) ← segment.named .declaration
      return .declaration ⟨name, declaredValue rest, segment.location⟩
  | .assignment => do
      let (name, rest) ← segment.named .assignment
      return .assignment ⟨name, assignedValue rest, segment.location⟩
  | .controlVector => do
      let (name, rest) ← segment.named .controlVector
      return .controlVector ⟨name, Clause.params (clauses rest), [], segment.location⟩
  | .block => do
      let (name, rest) ← segment.named .block
      return .block ⟨name, Clause.params (clauses rest), [], none, segment.location⟩
  | .returned => .ok (.returned ⟨returnedValue segment.body, segment.location⟩)
  | .atomicBlock =>
      .ok (.atomicBlock
        ⟨segment.nameOr "unknown", Clause.content (clauses segment.body), segment.location⟩)
  | .capability .block => .ok (.capabilityBlock segment.capabilityBlock)
  | .capability .vector =>
      .ok (.capabilityVector ⟨segment.nameOr "@unknown", segment.params, segment.location⟩)
  | .capability .var => .ok (.capabilityVariable segment.capabilityVariable)

end Segment

/-! ## Blocks with what follows them -/

/-- A segment as it was read. -/
abbrev Item := Except ParseError Construct

def Item.capability? : Item → Option CapabilityBlock
  | .ok (.capabilityBlock block) => some block
  | _ => none

def Item.isCapability (item : Item) : Bool :=
  item.capability?.isSome

/-- The value of a return that comes first. -/
def leadingReturn? : List Item → Option Value
  | .ok (.returned statement) :: _ => some statement.value
  | _ => none

/-- What is left without a return that comes first. -/
def withoutReturn : List Item → List Item
  | .ok (.returned _) :: rest => rest
  | items => items

theorem withoutReturn_length (items : List Item) :
    (withoutReturn items).length ≤ items.length := by
  unfold withoutReturn
  split <;> simp

/-- The constructs of a program, in order. A block takes the capabilities that
follow it, and then a return; errors are left out, but nothing is taken across
one. -/
def gather : List Item → List Construct
  | [] => []
  | .ok (.block block) :: rest =>
      let nested := (rest.takeWhile Item.isCapability).filterMap Item.capability?
      let others := rest.dropWhile Item.isCapability
      .block { block with body := nested.map .capabilityBlock, emit := leadingReturn? others } ::
        gather (withoutReturn others)
  | .ok construct :: rest => construct :: gather rest
  | .error _ :: rest => gather rest
termination_by items => items.length
decreasing_by
  · have dropped := (List.dropWhile_suffix Item.isCapability (l := rest)).length_le
    have shorter := withoutReturn_length (rest.dropWhile Item.isCapability)
    simp only [List.length_cons]
    omega
  · simp
  · simp

/-! ## The program -/

namespace Program

/-- Files a construct. A declaration may be the manifest too. -/
def add (program : Program) : Construct → Program
  | .declaration binding =>
      { program with
        declarations := program.declarations ++ [binding]
        manifest := (Manifest.ofDeclaration? binding).or program.manifest }
  | .assignment binding => { program with assignments := program.assignments ++ [binding] }
  | .controlVector vector => { program with controlVectors := program.controlVectors ++ [vector] }
  | .block block => { program with blocks := program.blocks ++ [block] }
  | .returned statement => { program with returns := program.returns ++ [statement] }
  | .atomicBlock block =>
      { program with atomicBlocks := program.atomicBlocks.insert block.name block }
  | .capabilityBlock block =>
      { program with capabilityBlocks := program.capabilityBlocks.insert block.name block }
  | .capabilityVector vector =>
      { program with capabilityVectors := program.capabilityVectors.insert vector.name vector }
  | .capabilityVariable var =>
      { program with capabilityVariables := program.capabilityVariables.insert var.name var }

def ofConstructs (constructs : List Construct) : Program :=
  constructs.foldl add empty

end Program

/-- What parsing gives: as much of a program as could be read, and the errors in
source order. -/
structure Parsed where
  program : Program
  errors : List ParseError

def Item.error? : Item → Option ParseError
  | .error error => some error
  | .ok _ => none

def parseTokens (tokens : List Token) : Parsed :=
  let kept := significant tokens
  let items := (segments kept.stop kept.tokens).map Segment.construct
  ⟨Program.ofConstructs (gather items), items.filterMap Item.error?⟩

def parse (source : List Char) : Parsed :=
  parseTokens (tokenize source)

end GlyphScript
