import GlyphScript.Proofs.Program.Merge

/-!
# Items that a block takes in

Each marker gives an item, and a block takes in some of the items behind it: the
capabilities, and then a return. The other items stand on their own.

Results:
1. `Program.find?_capabilityBlocks` and its companions: the collections of a
   program in terms of its constructs.
2. `filterMap_gather`: constructs other than blocks come from the items that no
   block takes in (`loose`).
3. `block?_gather`: a block has what it reaches (`reached`).
4. `Segment.return?_construct`, `Segment.capability?_construct`: which marker gives
   which item.
-/

namespace GlyphScript

/-! ## Collections of a program -/

namespace Construct

def assignment? : Construct → Option Binding
  | assignment binding => some binding
  | _ => none

def block? : Construct → Option Block
  | block content => some content
  | _ => none

def return? : Construct → Option Return
  | returned statement => some statement
  | _ => none

end Construct

namespace Program

theorem assignments_foldl_add (program : Program) (constructs : List Construct) :
    (constructs.foldl add program).assignments =
      program.assignments ++ constructs.filterMap Construct.assignment? := by
  induction constructs generalizing program with
  | nil => simp
  | cons construct rest ih =>
      rw [List.foldl_cons, ih]
      cases construct <;> simp [add, List.filterMap_cons, Construct.assignment?]

theorem blocks_foldl_add (program : Program) (constructs : List Construct) :
    (constructs.foldl add program).blocks =
      program.blocks ++ constructs.filterMap Construct.block? := by
  induction constructs generalizing program with
  | nil => simp
  | cons construct rest ih =>
      rw [List.foldl_cons, ih]
      cases construct <;> simp [add, List.filterMap_cons, Construct.block?]

theorem returns_foldl_add (program : Program) (constructs : List Construct) :
    (constructs.foldl add program).returns =
      program.returns ++ constructs.filterMap Construct.return? := by
  induction constructs generalizing program with
  | nil => simp
  | cons construct rest ih =>
      rw [List.foldl_cons, ih]
      cases construct <;> simp [add, List.filterMap_cons, Construct.return?]

theorem capabilityBlocks_foldl_add (program : Program) (constructs : List Construct) :
    (constructs.foldl add program).capabilityBlocks =
      program.capabilityBlocks.extend
        ((constructs.filterMap Construct.capability?).map fun block => (block.name, block)) := by
  induction constructs generalizing program with
  | nil => rfl
  | cons construct rest ih =>
      rw [List.foldl_cons, ih]
      cases construct <;> rfl

theorem find?_capabilityBlocks (constructs : List Construct) (name : String) :
    (ofConstructs constructs).capabilityBlocks.find? name =
      ((constructs.filterMap Construct.capability?).filter
        fun block => block.name = name).getLast? := by
  rw [ofConstructs, capabilityBlocks_foldl_add, Table.find?_extend_pairs, List.filter_map,
    List.getLast?_map, Option.map_map]
  simp [empty, Function.comp_def]

end Program

/-! ## Items with and without a block -/

theorem filterMap_cons_toList {α β : Type} (f : α → Option β) (x : α) (xs : List α) :
    (x :: xs).filterMap f = (f x).toList ++ xs.filterMap f := by
  cases found : f x with
  | none => simp [found]
  | some y => simp [found]

namespace Item

def return? (item : Item) : Option Return :=
  item.toOption.bind Construct.return?

def isReturn (item : Item) : Bool :=
  item.return?.isSome

def isBlock (item : Item) : Bool :=
  (item.toOption.bind Construct.block?).isSome

theorem capability?_eq (item : Item) :
    item.capability? = item.toOption.bind Construct.capability? := by
  cases item with
  | error error => rfl
  | ok construct => cases construct <;> rfl

theorem eq_of_isCapability {item : Item} (capability : item.isCapability = true) :
    ∃ block, item = .ok (.capabilityBlock block) := by
  cases item with
  | error error => cases capability
  | ok construct =>
      cases construct with
      | capabilityBlock block => exact ⟨block, rfl⟩
      | _ => cases capability

theorem eq_of_isReturn {item : Item} (returned : item.isReturn = true) :
    ∃ statement, item = .ok (.returned statement) := by
  cases item with
  | error error => cases returned
  | ok construct =>
      cases construct with
      | returned statement => exact ⟨statement, rfl⟩
      | _ => cases returned

end Item

/-- The items that no block takes in. `held` says whether a block before them is
still open. -/
def loose (held : Bool) : List Item → List Item
  | [] => []
  | item :: rest =>
      if held && item.isCapability then loose true rest
      else if held && item.isReturn then loose false rest
      else item :: loose item.isBlock rest

/-- The items that a block before them reaches: capabilities, and the first item
behind them. -/
def reached : List Item → List Item
  | [] => []
  | item :: rest => if item.isCapability then item :: reached rest else [item]

theorem withoutReturn_cons (item : Item) (rest : List Item) :
    withoutReturn (item :: rest) = if item.isReturn then rest else item :: rest := by
  cases item with
  | error error => rfl
  | ok construct => cases construct <;> rfl

theorem leadingReturn?_cons (item : Item) (rest : List Item) :
    leadingReturn? (item :: rest) = item.return?.map Return.value := by
  cases item with
  | error error => rfl
  | ok construct => cases construct <;> rfl

theorem loose_true (items : List Item) :
    loose true items = loose false (withoutReturn (items.dropWhile Item.isCapability)) := by
  induction items with
  | nil => rfl
  | cons item rest ih =>
      cases capability : item.isCapability with
      | true => simp [loose, capability, ih]
      | false =>
          rw [List.dropWhile_cons_of_neg (by simp [capability]), withoutReturn_cons]
          cases returned : item.isReturn with
          | true => simp [loose, capability, returned]
          | false => simp [loose, capability, returned]

theorem loose_cons (held : Bool) (item : Item) (rest : List Item) :
    loose held (item :: rest) =
      (if held && (item.isCapability || item.isReturn) then [] else [item]) ++
        loose (if item.isCapability then held else item.isBlock) rest := by
  cases capability : item.isCapability with
  | true =>
      obtain ⟨block, rfl⟩ := Item.eq_of_isCapability capability
      cases held <;> rfl
  | false =>
      cases returned : item.isReturn with
      | true =>
          obtain ⟨statement, rfl⟩ := Item.eq_of_isReturn returned
          cases held <;> rfl
      | false => simp [loose, capability, returned]

/-- Constructs other than blocks come from the items that no block takes in. -/
theorem filterMap_gather {β : Type} {select : Construct → Option β}
    (noBlock : ∀ block, select (.block block) = none) (items : List Item) :
    (gather items).filterMap select =
      (loose false items).filterMap fun item => item.toOption.bind select := by
  fun_induction gather items with
  | case1 => rfl
  | case2 block rest nested others ih =>
      -- The block itself is read as nothing, and behind it the flag of `loose` is up.
      have first : loose false (.ok (.block block) :: rest) =
          .ok (.block block) :: loose true rest := rfl
      rw [List.filterMap_cons_none (noBlock _), ih, first, loose_true,
        List.filterMap_cons_none (by exact noBlock block)]
  | case3 construct rest isBlock ih =>
      have first : loose false (.ok construct :: rest) = .ok construct :: loose false rest := by
        cases construct with
        | block block => exact absurd rfl (isBlock block)
        | _ => rfl
      rw [first, List.filterMap_cons, List.filterMap_cons, ih]
      rfl
  | case4 error rest ih => exact ih

theorem capabilities_reached (items : List Item) :
    (items.takeWhile Item.isCapability).filterMap Item.capability? =
      (reached items).filterMap Item.capability? := by
  induction items with
  | nil => rfl
  | cons item rest ih =>
      cases capability : item.isCapability with
      | true => simp [reached, capability, List.filterMap_cons, ih]
      | false =>
          have absent : item.capability? = none := by simpa [Item.isCapability] using capability
          simp [reached, capability, absent]

theorem leadingReturn?_reached (items : List Item) :
    leadingReturn? (items.dropWhile Item.isCapability) =
      ((reached items).filterMap Item.return?).head?.map Return.value := by
  induction items with
  | nil => rfl
  | cons item rest ih =>
      cases capability : item.isCapability with
      | true =>
          obtain ⟨block, rfl⟩ := Item.eq_of_isCapability capability
          exact ih
      | false =>
          rw [List.dropWhile_cons_of_neg (by simp [capability]), leadingReturn?_cons, reached,
            if_neg (by simp [capability]), List.filterMap_cons]
          cases item.return? <;> rfl

/-- Each block among the items, with what it takes in of the items behind it. -/
def blocksIn : List Item → List Block
  | [] => []
  | .ok (.block block) :: rest =>
      { block with
        body := ((reached rest).filterMap Item.capability?).map .capabilityBlock
        emit := ((reached rest).filterMap Item.return?).head?.map Return.value } :: blocksIn rest
  | _ :: rest => blocksIn rest

theorem blocksIn_cons_other {item : Item} (noBlock : item.isBlock = false) (rest : List Item) :
    blocksIn (item :: rest) = blocksIn rest := by
  cases item with
  | error error => rfl
  | ok construct =>
      cases construct with
      | block block => cases noBlock
      | _ => rfl

/-- Blocks are not taken in by other blocks. -/
theorem blocksIn_dropWhile (items : List Item) :
    blocksIn (withoutReturn (items.dropWhile Item.isCapability)) = blocksIn items := by
  induction items with
  | nil => rfl
  | cons item rest ih =>
      cases capability : item.isCapability with
      | true =>
          obtain ⟨block, rfl⟩ := Item.eq_of_isCapability capability
          exact ih
      | false =>
          rw [List.dropWhile_cons_of_neg (by simp [capability]), withoutReturn_cons]
          split
          · next returned =>
              obtain ⟨statement, rfl⟩ := Item.eq_of_isReturn returned
              rfl
          · rfl

theorem block?_gather (items : List Item) :
    (gather items).filterMap Construct.block? = blocksIn items := by
  fun_induction gather items with
  | case1 => rfl
  | case2 block rest nested others ih =>
      rw [blocksIn, ← capabilities_reached, ← leadingReturn?_reached, ← blocksIn_dropWhile rest,
        ← ih]
      rfl
  | case3 construct rest isBlock ih =>
      cases construct with
      | block block => exact absurd rfl (isBlock block)
      | _ => exact ih
  | case4 error rest ih => exact ih

/-! ## Items of segments -/

namespace Segment

theorem marker_of_named (segment : Segment) (role : NameRole) {marker : Marker}
    {build : String × List Token → Construct} (built : ∀ pair, (build pair).marker = marker) :
    ∀ construct, (segment.named role).map build = .ok construct → construct.marker = marker := by
  intro construct read
  cases named : segment.named role with
  | error error =>
      rw [named] at read
      cases read
  | ok pair =>
      rw [named] at read
      cases read
      exact built pair

theorem marker_of_construct (segment : Segment) :
    ∀ construct, segment.construct = .ok construct → construct.marker = segment.marker := by
  unfold Segment.construct
  cases segment.marker with
  | declaration => exact segment.marker_of_named .declaration fun _ => rfl
  | assignment => exact segment.marker_of_named .assignment fun _ => rfl
  | controlVector => exact segment.marker_of_named .controlVector fun _ => rfl
  | block => exact segment.marker_of_named .block fun _ => rfl
  | returned => rintro _ ⟨⟩; rfl
  | atomicBlock => rintro _ ⟨⟩; rfl
  | capability capability =>
      cases capability with
      | block => rintro _ ⟨⟩; rfl
      | vector => rintro _ ⟨⟩; rfl
      | var => rintro _ ⟨⟩; rfl

/-- What is read from constructs of one marker is found behind no other marker. -/
theorem select_construct {β : Type} {select : Construct → Option β} {marker : Marker}
    (selects : ∀ construct, construct.marker ≠ marker → select construct = none)
    {segment : Segment} (other : segment.marker ≠ marker) :
    segment.construct.toOption.bind select = none := by
  cases read : segment.construct with
  | error error => rfl
  | ok construct =>
      refine selects construct ?_
      rw [segment.marker_of_construct construct read]
      exact other

theorem return?_construct (segment : Segment) :
    Item.return? segment.construct =
      if segment.marker = .returned then some ⟨returnedValue segment.body, segment.location⟩
      else none := by
  split
  · next returned =>
      unfold construct
      rw [returned]
      rfl
  · next other =>
      refine select_construct ?_ other
      intro construct different
      cases construct with
      | returned statement => exact absurd rfl different
      | _ => rfl

theorem capability?_construct (segment : Segment) :
    Item.capability? segment.construct =
      if segment.marker = .capability .block then some segment.capabilityBlock else none := by
  rw [Item.capability?_eq]
  split
  · next capability =>
      unfold construct
      rw [capability]
      rfl
  · next other =>
      refine select_construct ?_ other
      intro construct different
      cases construct with
      | capabilityBlock block => exact absurd rfl different
      | _ => rfl

theorem isBlock_construct_other {segment : Segment} (other : segment.marker ≠ .block) :
    Item.isBlock segment.construct = false := by
  have absent : segment.construct.toOption.bind Construct.block? = none := by
    refine select_construct ?_ other
    intro construct different
    cases construct with
    | block block => exact absurd rfl different
    | _ => rfl
  rw [Item.isBlock, absent]
  rfl

theorem isBlock_construct_unnamed {segment : Segment}
    (unnamed : ∀ first ∈ segment.body.head?, first.kind ≠ .identifier) :
    Item.isBlock segment.construct = false := by
  by_cases isBlock : segment.marker = .block
  · have missing : segment.named .block = .error ⟨.block, segment.next.1, segment.next.2⟩ := by
      unfold named
      split
      · next first rest body => rw [if_neg (unnamed first (by rw [body]; rfl))]
      · rfl
    unfold construct
    rw [isBlock]
    simp only [missing]
    rfl
  · exact isBlock_construct_other isBlock

end Segment

end GlyphScript
