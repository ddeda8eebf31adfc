import GlyphScript.Program.Document
import GlyphScript.Program.Parser
import GlyphScript.Proofs.Decimal.Integers
import GlyphScript.Proofs.Json.Compact

/-!
# What the value of a program tells

The value of a program holds no places, and null for a block that emits nothing.
Nothing else is lost: without these (`Program.bare`) two parsed programs of the
same value are the same program (`bare_of_document`), if every number in them is
one that JSON can hold (`Portable`). That the manifest is told in full, the dict
that it was declared with included, rests on parsing: it is the manifest in the
last declaration that has one (`manifest_parseTokens`).
-/

namespace GlyphScript

/-! ## Numbers -/

/-- JSON has no infinities and no NaN, and only one zero. -/
def Portable (numbers : List Float) : Prop :=
  ∀ x ∈ numbers, x.isFinite = true ∧ x ≠ -0.0

theorem portable_append {left right : List Float} :
    Portable (left ++ right) ↔ Portable left ∧ Portable right :=
  List.forall_mem_append

theorem carriedNumber_eq {x : Float} (finite : x.isFinite = true) (signed : x ≠ -0.0) :
    carriedNumber x = .number x := by
  rw [carriedNumber, if_pos finite]
  cases written : Decimal.smallInteger? x with
  | none => rfl
  | some n =>
      simp only
      rw [Decimal.ofInt_of_smallInteger? written signed]

mutual

theorem carried_eq (value : Value) (portable : Portable value.numbers) :
    value.carried = value := by
  cases value with
  | null => simp [Value.carried]
  | bool b => simp [Value.carried]
  | number x =>
      rw [Value.numbers] at portable
      obtain ⟨finite, signed⟩ := portable x List.mem_cons_self
      rw [Value.carried, carriedNumber_eq finite signed]
  | text s => simp [Value.carried]
  | list items =>
      rw [Value.numbers] at portable
      rw [Value.carried, carriedItems_eq items portable]
  | dict entries =>
      rw [Value.numbers] at portable
      rw [Value.carried, carriedEntries_eq entries portable]

theorem carriedItems_eq (items : List Value) (portable : Portable (Value.numbersOfItems items)) :
    carriedItems items = items := by
  cases items with
  | nil => simp [carriedItems]
  | cons item rest =>
      rw [Value.numbersOfItems, portable_append] at portable
      rw [carriedItems, carried_eq item portable.1, carriedItems_eq rest portable.2]

theorem carriedEntries_eq (entries : List (String × Value))
    (portable : Portable (Value.numbersOfEntries entries)) : carriedEntries entries = entries := by
  cases entries with
  | nil => simp [carriedEntries]
  | cons pair rest =>
      obtain ⟨key, entry⟩ := pair
      rw [Value.numbersOfEntries, portable_append] at portable
      rw [carriedEntries, carried_eq entry portable.1, carriedEntries_eq rest portable.2]

end

theorem carried_injective {left right : Value} (leftPortable : Portable left.numbers)
    (rightPortable : Portable right.numbers) (same : left.carried = right.carried) :
    left = right := by
  rwa [carried_eq left leftPortable, carried_eq right rightPortable] at same

theorem dictDocument_injective {left right : Dict}
    (leftPortable : Portable (Value.dict left).numbers)
    (rightPortable : Portable (Value.dict right).numbers)
    (same : dictDocument left = dictDocument right) : left = right :=
  Value.dict.inj (carried_injective leftPortable rightPortable same)

theorem textDocument_injective {left right : Option String}
    (same : textDocument left = textDocument right) : left = right := by
  cases left with
  | none => cases right with
      | none => rfl
      | some other => cases same
  | some text => cases right with
      | none => cases same
      | some other =>
          cases same
          rfl

/-! ## Records -/

/-- Records of the same distinct keys are equal only if all their entries are. -/
theorem Value.record_injective {left right : List (String × Value)}
    (same : Value.record left = Value.record right)
    (keys : Table.names left = Table.names right) (distinct : (Table.names left).Nodup) :
    left = right := by
  have tables : Table.ofList left = Table.ofList right := Value.dict.inj same
  have leftPerm := Table.ofList_perm distinct
  have rightPerm := Table.ofList_perm (keys ▸ distinct)
  rw [tables] at leftPerm
  exact Table.eq_of_perm_of_names (leftPerm.symm.trans rightPerm) keys distinct

/-! ## Constructs without their places -/

def Binding.bare (binding : Binding) : Binding :=
  { binding with location := .start }

def CapabilityBlock.bare (block : CapabilityBlock) : CapabilityBlock :=
  { block with location := .start }

def Return.bare (statement : Return) : Return :=
  { statement with location := .start }

def AtomicBlock.bare (block : AtomicBlock) : AtomicBlock :=
  { block with location := .start }

def CapabilityVector.bare (vector : CapabilityVector) : CapabilityVector :=
  { vector with location := .start }

def CapabilityVariable.bare (var : CapabilityVariable) : CapabilityVariable :=
  { var with location := .start }

mutual

def ControlVector.bare : ControlVector → ControlVector
  | ⟨vectorType, params, body, _⟩ => ⟨vectorType, params, Construct.bares body, .start⟩

/-- To emit nothing is to emit null. -/
def Block.bare : Block → Block
  | ⟨name, params, body, emit, _⟩ =>
      ⟨name, params, Construct.bares body, some (emit.getD .null), .start⟩

def Construct.bare : Construct → Construct
  | .declaration binding => .declaration binding.bare
  | .assignment binding => .assignment binding.bare
  | .controlVector vector => .controlVector vector.bare
  | .block block => .block block.bare
  | .returned statement => .returned statement.bare
  | .atomicBlock block => .atomicBlock block.bare
  | .capabilityBlock block => .capabilityBlock block.bare
  | .capabilityVector vector => .capabilityVector vector.bare
  | .capabilityVariable var => .capabilityVariable var.bare

def Construct.bares : List Construct → List Construct
  | [] => []
  | construct :: rest => construct.bare :: Construct.bares rest

end

/-- The program without the places in its source, and with null for what its blocks
do not emit. -/
def Program.bare (program : Program) : Program where
  manifest := program.manifest
  declarations := program.declarations.map Binding.bare
  assignments := program.assignments.map Binding.bare
  blocks := program.blocks.map Block.bare
  controlVectors := program.controlVectors.map ControlVector.bare
  returns := program.returns.map Return.bare
  atomicBlocks := program.atomicBlocks.mapEntries AtomicBlock.bare
  capabilityBlocks := program.capabilityBlocks.mapEntries CapabilityBlock.bare
  capabilityVectors := program.capabilityVectors.mapEntries CapabilityVector.bare
  capabilityVariables := program.capabilityVariables.mapEntries CapabilityVariable.bare

/-! ## The numbers in a program -/

def CapabilityBlock.numbers (block : CapabilityBlock) : List Float :=
  (Value.dict block.params).numbers ++ (Value.list block.body).numbers

mutual

def ControlVector.numbers : ControlVector → List Float
  | ⟨_, params, body, _⟩ => (Value.dict params).numbers ++ Construct.numbersOfBody body

def Block.numbers : Block → List Float
  | ⟨_, params, body, emit, _⟩ =>
      (Value.dict params).numbers ++ Construct.numbersOfBody body ++ (emit.getD .null).numbers

def Construct.numbers : Construct → List Float
  | .declaration binding => binding.value.numbers
  | .assignment binding => binding.value.numbers
  | .controlVector vector => vector.numbers
  | .block block => block.numbers
  | .returned statement => statement.value.numbers
  | .atomicBlock block => (Value.dict block.content).numbers
  | .capabilityBlock block => block.numbers
  | .capabilityVector vector => (Value.dict vector.params).numbers
  | .capabilityVariable var => var.default.numbers

def Construct.numbersOfBody : List Construct → List Float
  | [] => []
  | construct :: rest => construct.numbers ++ Construct.numbersOfBody rest

end

/-- All numbers in the values of a program. Those of the manifest are among them, as
it stands in a declaration. -/
def Program.numbers (program : Program) : List Float :=
  program.declarations.flatMap (fun binding => binding.value.numbers) ++
  program.assignments.flatMap (fun binding => binding.value.numbers) ++
  program.blocks.flatMap Block.numbers ++
  program.controlVectors.flatMap ControlVector.numbers ++
  program.returns.flatMap (fun statement => statement.value.numbers) ++
  program.atomicBlocks.flatMap (fun pair => (Value.dict pair.2.content).numbers) ++
  program.capabilityBlocks.flatMap (fun pair => pair.2.numbers) ++
  program.capabilityVectors.flatMap (fun pair => (Value.dict pair.2.params).numbers) ++
  program.capabilityVariables.flatMap (fun pair => pair.2.default.numbers)

/-! ## The value of a construct determines it -/

/-- What is determined member by member is determined as a whole. -/
theorem map_eq_of_map_eq {α β γ : Type} {image : α → β} {kept : α → γ} {numbers : α → List Float}
    (determined : ∀ x y : α, Portable (numbers x) → Portable (numbers y) →
      image x = image y → kept x = kept y)
    {left right : List α} (leftPortable : Portable (left.flatMap numbers))
    (rightPortable : Portable (right.flatMap numbers))
    (same : left.map image = right.map image) : left.map kept = right.map kept := by
  induction left generalizing right with
  | nil =>
      cases right with
      | nil => rfl
      | cons other others => cases same
  | cons first rest ih =>
      cases right with
      | nil => cases same
      | cons other others =>
          obtain ⟨sameFirst, sameRest⟩ := List.cons.inj same
          rw [List.flatMap_cons, portable_append] at leftPortable rightPortable
          rw [List.map_cons, List.map_cons, determined first other leftPortable.1 rightPortable.1
            sameFirst, ih leftPortable.2 rightPortable.2 sameRest]

theorem mapEntries_eq_of_mapEntries_eq {α β γ : Type} {image : α → β} {kept : α → γ}
    {numbers : α → List Float}
    (determined : ∀ x y : α, Portable (numbers x) → Portable (numbers y) →
      image x = image y → kept x = kept y)
    {left right : Table α} (leftPortable : Portable (left.flatMap fun pair => numbers pair.2))
    (rightPortable : Portable (right.flatMap fun pair => numbers pair.2))
    (same : left.mapEntries image = right.mapEntries image) :
    left.mapEntries kept = right.mapEntries kept := by
  refine map_eq_of_map_eq ?_ leftPortable rightPortable same
  rintro ⟨name, x⟩ ⟨other, y⟩ xPortable yPortable samePair
  obtain ⟨sameName, sameImage⟩ := Prod.mk.inj samePair
  rw [Prod.mk.injEq]
  exact ⟨sameName, determined x y xPortable yPortable sameImage⟩

theorem Binding.bare_of_fields {left right : Binding} (leftPortable : Portable left.value.numbers)
    (rightPortable : Portable right.value.numbers) (same : left.fields = right.fields) :
    left.bare = right.bare := by
  simp only [fields, List.cons.injEq, Prod.mk.injEq, Value.text.injEq, true_and, and_true] at same
  obtain ⟨sameName, sameValue⟩ := same
  rw [bare, bare, sameName, carried_injective leftPortable rightPortable sameValue]

theorem CapabilityBlock.bare_of_fields {left right : CapabilityBlock}
    (leftPortable : Portable left.numbers) (rightPortable : Portable right.numbers)
    (same : left.fields = right.fields) : left.bare = right.bare := by
  simp only [fields, List.cons.injEq, Prod.mk.injEq, Value.text.injEq, true_and, and_true] at same
  obtain ⟨sameName, sameHandler, sameParams, sameBody⟩ := same
  rw [numbers, portable_append] at leftPortable rightPortable
  have sameItems := carried_injective leftPortable.2 rightPortable.2 sameBody
  rw [bare, bare, sameName, textDocument_injective sameHandler,
    dictDocument_injective leftPortable.1 rightPortable.1 sameParams, Value.list.inj sameItems]

theorem Return.bare_of_fields {left right : Return} (leftPortable : Portable left.value.numbers)
    (rightPortable : Portable right.value.numbers) (same : left.fields = right.fields) :
    left.bare = right.bare := by
  simp only [fields, List.cons.injEq, Prod.mk.injEq, true_and, and_true] at same
  rw [bare, bare, carried_injective leftPortable rightPortable same]

theorem AtomicBlock.bare_of_fields {left right : AtomicBlock}
    (leftPortable : Portable (Value.dict left.content).numbers)
    (rightPortable : Portable (Value.dict right.content).numbers)
    (same : left.fields = right.fields) : left.bare = right.bare := by
  simp only [fields, List.cons.injEq, Prod.mk.injEq, Value.text.injEq, true_and, and_true] at same
  obtain ⟨sameName, sameContent⟩ := same
  rw [bare, bare, sameName, dictDocument_injective leftPortable rightPortable sameContent]

theorem CapabilityVector.bare_of_fields {left right : CapabilityVector}
    (leftPortable : Portable (Value.dict left.params).numbers)
    (rightPortable : Portable (Value.dict right.params).numbers)
    (same : left.fields = right.fields) : left.bare = right.bare := by
  simp only [fields, List.cons.injEq, Prod.mk.injEq, Value.text.injEq, true_and, and_true] at same
  obtain ⟨sameName, sameParams⟩ := same
  rw [bare, bare, sameName, dictDocument_injective leftPortable rightPortable sameParams]

theorem CapabilityVariable.bare_of_fields {left right : CapabilityVariable}
    (leftPortable : Portable left.default.numbers) (rightPortable : Portable right.default.numbers)
    (same : left.fields = right.fields) : left.bare = right.bare := by
  simp only [fields, List.cons.injEq, Prod.mk.injEq, Value.text.injEq, true_and, and_true] at same
  obtain ⟨sameName, sameDefault, sameScope⟩ := same
  rw [bare, bare, sameName, carried_injective leftPortable rightPortable sameDefault, sameScope]

theorem Marker.tag_injective : Function.Injective Marker.tag := by
  rintro (_ | _ | _ | _ | _ | _ | (_ | _ | _)) (_ | _ | _ | _ | _ | _ | (_ | _ | _)) <;> decide

namespace Construct

/-- The keys of a construct are all different, and none is the one for its tag. -/
theorem nodup_names (construct : Construct) :
    ("type" :: Table.names construct.fields).Nodup := by
  cases construct with
  | declaration binding => simp [fields, Binding.fields, Table.names]
  | assignment binding => simp [fields, Binding.fields, Table.names]
  | controlVector vector =>
      cases vector
      simp [fields, ControlVector.fields, Table.names]
  | block block =>
      cases block
      simp [fields, Block.fields, Table.names]
  | returned statement => simp [fields, Return.fields, Table.names]
  | atomicBlock block => simp [fields, AtomicBlock.fields, Table.names]
  | capabilityBlock block => simp [fields, CapabilityBlock.fields, Table.names]
  | capabilityVector vector => simp [fields, CapabilityVector.fields, Table.names]
  | capabilityVariable var => simp [fields, CapabilityVariable.fields, Table.names]

/-- A construct inside of another one tells which marker opens it. -/
theorem marker_of_record {left right : Construct}
    (same : Value.record (("type", .text left.marker.tag) :: left.fields) =
      Value.record (("type", .text right.marker.tag) :: right.fields)) :
    left.marker = right.marker := by
  have told : ∀ construct : Construct,
      (Table.ofList (("type", Value.text construct.marker.tag) :: construct.fields)).find? "type" =
        some (.text construct.marker.tag) := by
    intro construct
    have distinct : (Table.names
        (("type", Value.text construct.marker.tag) :: construct.fields)).Nodup :=
      construct.nodup_names
    rw [Table.find?_ofList distinct]
    rfl
  have both := told left
  rw [Value.dict.inj same, told right] at both
  exact (Marker.tag_injective (Value.text.inj (Option.some.inj both))).symm

/-- The keys of a construct go by its marker. -/
theorem names_of_marker {left right : Construct} (same : left.marker = right.marker) :
    Table.names left.fields = Table.names right.fields := by
  cases left with
  | declaration => cases right with
      | declaration => rfl
      | _ => cases same
  | assignment => cases right with
      | assignment => rfl
      | _ => cases same
  | controlVector vector => cases right with
      | controlVector other =>
          cases vector
          cases other
          rfl
      | _ => cases same
  | block block => cases right with
      | block other =>
          cases block
          cases other
          rfl
      | _ => cases same
  | returned => cases right with
      | returned => rfl
      | _ => cases same
  | atomicBlock => cases right with
      | atomicBlock => rfl
      | _ => cases same
  | capabilityBlock => cases right with
      | capabilityBlock => rfl
      | _ => cases same
  | capabilityVector => cases right with
      | capabilityVector => rfl
      | _ => cases same
  | capabilityVariable => cases right with
      | capabilityVariable => rfl
      | _ => cases same

end Construct

mutual

theorem ControlVector.bare_of_fields (left right : ControlVector)
    (leftPortable : Portable left.numbers) (rightPortable : Portable right.numbers)
    (same : left.fields = right.fields) : left.bare = right.bare := by
  cases left with
  | mk vectorType params body location =>
    cases right with
    | mk otherType otherParams otherBody otherLocation =>
      simp only [ControlVector.fields, List.cons.injEq, Prod.mk.injEq, Value.text.injEq,
        Value.list.injEq, true_and, and_true] at same
      obtain ⟨sameType, sameParams, sameBody⟩ := same
      rw [ControlVector.numbers, portable_append] at leftPortable rightPortable
      rw [ControlVector.bare, ControlVector.bare, sameType,
        dictDocument_injective leftPortable.1 rightPortable.1 sameParams,
        Construct.bares_of_documents body otherBody leftPortable.2 rightPortable.2 sameBody]
termination_by structural left

theorem Block.bare_of_fields (left right : Block) (leftPortable : Portable left.numbers)
    (rightPortable : Portable right.numbers) (same : left.fields = right.fields) :
    left.bare = right.bare := by
  cases left with
  | mk name params body emit location =>
    cases right with
    | mk otherName otherParams otherBody otherEmit otherLocation =>
      simp only [Block.fields, List.cons.injEq, Prod.mk.injEq, Value.text.injEq,
        Value.list.injEq, true_and, and_true] at same
      obtain ⟨sameName, sameParams, sameBody, sameEmit⟩ := same
      rw [Block.numbers, portable_append, portable_append] at leftPortable rightPortable
      obtain ⟨⟨leftParams, leftBody⟩, leftEmit⟩ := leftPortable
      obtain ⟨⟨rightParams, rightBody⟩, rightEmit⟩ := rightPortable
      rw [Block.bare, Block.bare, sameName,
        dictDocument_injective leftParams rightParams sameParams,
        Construct.bares_of_documents body otherBody leftBody rightBody sameBody,
        carried_injective leftEmit rightEmit sameEmit]
termination_by structural left

theorem Construct.bare_of_fields (left right : Construct) (sameMarker : left.marker = right.marker)
    (leftPortable : Portable left.numbers) (rightPortable : Portable right.numbers)
    (same : left.fields = right.fields) : left.bare = right.bare := by
  cases left with
  | declaration binding => cases right with
      | declaration other =>
          rw [Construct.bare, Construct.bare,
            Binding.bare_of_fields leftPortable rightPortable same]
      | _ => cases sameMarker
  | assignment binding => cases right with
      | assignment other =>
          rw [Construct.bare, Construct.bare,
            Binding.bare_of_fields leftPortable rightPortable same]
      | _ => cases sameMarker
  | controlVector vector => cases right with
      | controlVector other =>
          rw [Construct.bare, Construct.bare,
            ControlVector.bare_of_fields vector other leftPortable rightPortable same]
      | _ => cases sameMarker
  | block block => cases right with
      | block other =>
          rw [Construct.bare, Construct.bare,
            Block.bare_of_fields block other leftPortable rightPortable same]
      | _ => cases sameMarker
  | returned statement => cases right with
      | returned other =>
          rw [Construct.bare, Construct.bare,
            Return.bare_of_fields leftPortable rightPortable same]
      | _ => cases sameMarker
  | atomicBlock block => cases right with
      | atomicBlock other =>
          rw [Construct.bare, Construct.bare,
            AtomicBlock.bare_of_fields leftPortable rightPortable same]
      | _ => cases sameMarker
  | capabilityBlock block => cases right with
      | capabilityBlock other =>
          rw [Construct.bare, Construct.bare,
            CapabilityBlock.bare_of_fields leftPortable rightPortable same]
      | _ => cases sameMarker
  | capabilityVector vector => cases right with
      | capabilityVector other =>
          rw [Construct.bare, Construct.bare,
            CapabilityVector.bare_of_fields leftPortable rightPortable same]
      | _ => cases sameMarker
  | capabilityVariable var => cases right with
      | capabilityVariable other =>
          rw [Construct.bare, Construct.bare,
            CapabilityVariable.bare_of_fields leftPortable rightPortable same]
      | _ => cases sameMarker
termination_by structural left

theorem Construct.bares_of_documents (left right : List Construct)
    (leftPortable : Portable (Construct.numbersOfBody left))
    (rightPortable : Portable (Construct.numbersOfBody right))
    (same : Construct.documents left = Construct.documents right) :
    Construct.bares left = Construct.bares right := by
  cases left with
  | nil => cases right with
      | nil => rfl
      | cons other others => cases same
  | cons construct rest => cases right with
      | nil => cases same
      | cons other others =>
          rw [Construct.documents, Construct.documents, List.cons.injEq] at same
          obtain ⟨sameFirst, sameRest⟩ := same
          rw [Construct.numbersOfBody, portable_append] at leftPortable rightPortable
          have sameMarker := Construct.marker_of_record sameFirst
          have sameKeys := congrArg (List.cons "type") (Construct.names_of_marker sameMarker)
          have sameAll := Value.record_injective sameFirst sameKeys construct.nodup_names
          rw [Construct.bares, Construct.bares,
            Construct.bare_of_fields construct other sameMarker leftPortable.1 rightPortable.1
              (List.cons.inj sameAll).2,
            Construct.bares_of_documents rest others leftPortable.2 rightPortable.2 sameRest]
termination_by structural left

end

/-- Outside of a block the collection that constructs stand in says of which kind they are. -/
theorem Construct.bare_of_record {α : Type} (kind : α → Construct) {bare : α → α}
    (bareKind : ∀ x, (kind x).bare = kind (bare x)) (injective : Function.Injective kind)
    (sameMarker : ∀ x y, (kind x).marker = (kind y).marker) (x y : α)
    (inLeft : Portable (kind x).numbers) (inRight : Portable (kind y).numbers)
    (same : Value.record (kind x).fields = Value.record (kind y).fields) : bare x = bare y := by
  have distinct := (List.nodup_cons.mp (kind x).nodup_names).2
  have sameFields := Value.record_injective same (names_of_marker (sameMarker x y)) distinct
  apply injective
  rw [← bareKind, ← bareKind]
  exact bare_of_fields (kind x) (kind y) (sameMarker x y) inLeft inRight sameFields

/-! ## The manifest -/

/-- The manifest in the last declaration that has one. -/
def Manifest.ofDeclarations (declarations : List Binding) : Option Manifest :=
  declarations.foldl (fun last binding => (ofDeclaration? binding).or last) none

theorem Manifest.ofDeclarations_bare (declarations : List Binding) :
    ofDeclarations (declarations.map Binding.bare) = ofDeclarations declarations := by
  rw [ofDeclarations, List.foldl_map]
  rfl

theorem Program.manifest_add {program : Program}
    (declared : program.manifest = Manifest.ofDeclarations program.declarations)
    (construct : Construct) :
    (program.add construct).manifest =
      Manifest.ofDeclarations (program.add construct).declarations := by
  cases construct with
  | declaration binding =>
      rw [add, Manifest.ofDeclarations, List.foldl_append, declared]
      rfl
  | _ => exact declared

theorem Program.manifest_ofConstructs (constructs : List Construct) :
    (ofConstructs constructs).manifest =
      Manifest.ofDeclarations (ofConstructs constructs).declarations := by
  have filed : ∀ program : Program,
      program.manifest = Manifest.ofDeclarations program.declarations →
      (constructs.foldl add program).manifest =
        Manifest.ofDeclarations (constructs.foldl add program).declarations := by
    induction constructs with
    | nil => exact fun _ declared => declared
    | cons construct rest ih => exact fun program declared => ih _ (manifest_add declared construct)
  exact filed empty rfl

theorem manifest_parseTokens (tokens : List Token) :
    (parseTokens tokens).program.manifest =
      Manifest.ofDeclarations (parseTokens tokens).program.declarations :=
  Program.manifest_ofConstructs _

/-! ## The value of a program determines it -/

/-- Two programs with the manifests that they declare have the same value only if they
differ in nothing but places and nulls that are not emitted. -/
theorem Program.bare_of_document {left right : Program}
    (leftManifest : left.manifest = Manifest.ofDeclarations left.declarations)
    (rightManifest : right.manifest = Manifest.ofDeclarations right.declarations)
    (leftPortable : Portable left.numbers) (rightPortable : Portable right.numbers)
    (same : left.document = right.document) : left.bare = right.bare := by
  rw [document, document] at same
  have fields := Value.record_injective same rfl (by simp [Table.names])
  simp only [List.cons.injEq, Prod.mk.injEq, Value.list.injEq, Value.dict.injEq, true_and,
    and_true] at fields
  obtain ⟨_, declarations, assignments, blocks, controlVectors, returns, atomicBlocks,
    capabilityBlocks, capabilityVectors, capabilityVariables⟩ := fields
  simp only [numbers, portable_append] at leftPortable rightPortable
  obtain ⟨⟨⟨⟨⟨⟨⟨⟨inDeclarations, inAssignments⟩, inBlocks⟩, inControlVectors⟩, inReturns⟩,
    inAtomicBlocks⟩, inCapabilityBlocks⟩, inCapabilityVectors⟩, inCapabilityVariables⟩ :=
    leftPortable
  obtain ⟨⟨⟨⟨⟨⟨⟨⟨ofDeclarations, ofAssignments⟩, ofBlocks⟩, ofControlVectors⟩, ofReturns⟩,
    ofAtomicBlocks⟩, ofCapabilityBlocks⟩, ofCapabilityVectors⟩, ofCapabilityVariables⟩ :=
    rightPortable
  have sameDeclarations := map_eq_of_map_eq
    (Construct.bare_of_record .declaration (fun _ => rfl)
      (fun _ _ => Construct.declaration.inj) fun _ _ => rfl)
    inDeclarations ofDeclarations declarations
  have sameManifest : left.manifest = right.manifest := by
    rw [leftManifest, rightManifest, ← Manifest.ofDeclarations_bare, sameDeclarations,
      Manifest.ofDeclarations_bare]
  have sameAssignments := map_eq_of_map_eq
    (Construct.bare_of_record .assignment (fun _ => rfl)
      (fun _ _ => Construct.assignment.inj) fun _ _ => rfl)
    inAssignments ofAssignments assignments
  have sameBlocks := map_eq_of_map_eq
    (Construct.bare_of_record .block (fun _ => rfl)
      (fun _ _ => Construct.block.inj) fun _ _ => rfl)
    inBlocks ofBlocks blocks
  have sameControlVectors := map_eq_of_map_eq
    (Construct.bare_of_record .controlVector (fun _ => rfl)
      (fun _ _ => Construct.controlVector.inj) fun _ _ => rfl)
    inControlVectors ofControlVectors controlVectors
  have sameReturns := map_eq_of_map_eq
    (Construct.bare_of_record .returned (fun _ => rfl)
      (fun _ _ => Construct.returned.inj) fun _ _ => rfl)
    inReturns ofReturns returns
  have sameAtomicBlocks := mapEntries_eq_of_mapEntries_eq
    (Construct.bare_of_record .atomicBlock (fun _ => rfl)
      (fun _ _ => Construct.atomicBlock.inj) fun _ _ => rfl)
    inAtomicBlocks ofAtomicBlocks atomicBlocks
  have sameCapabilityBlocks := mapEntries_eq_of_mapEntries_eq
    (Construct.bare_of_record .capabilityBlock (fun _ => rfl)
      (fun _ _ => Construct.capabilityBlock.inj) fun _ _ => rfl)
    inCapabilityBlocks ofCapabilityBlocks capabilityBlocks
  have sameCapabilityVectors := mapEntries_eq_of_mapEntries_eq
    (Construct.bare_of_record .capabilityVector (fun _ => rfl)
      (fun _ _ => Construct.capabilityVector.inj) fun _ _ => rfl)
    inCapabilityVectors ofCapabilityVectors capabilityVectors
  have sameCapabilityVariables := mapEntries_eq_of_mapEntries_eq
    (Construct.bare_of_record .capabilityVariable (fun _ => rfl)
      (fun _ _ => Construct.capabilityVariable.inj) fun _ _ => rfl)
    inCapabilityVariables ofCapabilityVariables capabilityVariables
  rw [bare, bare, sameManifest, sameDeclarations, sameAssignments, sameBlocks, sameControlVectors,
    sameReturns, sameAtomicBlocks, sameCapabilityBlocks, sameCapabilityVectors,
    sameCapabilityVariables]

end GlyphScript
