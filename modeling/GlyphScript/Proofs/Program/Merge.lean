import GlyphScript.Proofs.Program.Errors
import GlyphScript.Proofs.Table

/-!
# Parsing one text behind another

If the second text starts with a marker that no block takes in, each text can be
parsed on its own, and the two programs are merged.

Results:
1. `Program.ofConstructs_append`: filing constructs merges programs.
2. `gather_append`: blocks take nothing from a text that starts with another
   construct.
3. `gather_itemsBefore`: what stands behind the tokens does not change their
   constructs, only the place of an error.
4. `parseTokens_append`: all three, with the errors.
-/

namespace GlyphScript

/-! ## Merging programs -/

namespace Program

/-- Lists are joined and tables united (`Table.find?_extend`). Under a name that
both programs have, and for the manifest, the second program wins. -/
def merge (first second : Program) : Program where
  manifest := second.manifest.or first.manifest
  declarations := first.declarations ++ second.declarations
  assignments := first.assignments ++ second.assignments
  blocks := first.blocks ++ second.blocks
  controlVectors := first.controlVectors ++ second.controlVectors
  returns := first.returns ++ second.returns
  atomicBlocks := first.atomicBlocks.extend second.atomicBlocks
  capabilityBlocks := first.capabilityBlocks.extend second.capabilityBlocks
  capabilityVectors := first.capabilityVectors.extend second.capabilityVectors
  capabilityVariables := first.capabilityVariables.extend second.capabilityVariables

/-- The collections with names are tables. -/
structure Ordered (program : Program) : Prop where
  atomicBlocks : program.atomicBlocks.Ordered
  capabilityBlocks : program.capabilityBlocks.Ordered
  capabilityVectors : program.capabilityVectors.Ordered
  capabilityVariables : program.capabilityVariables.Ordered

theorem ordered_empty : empty.Ordered :=
  ⟨List.Pairwise.nil, List.Pairwise.nil, List.Pairwise.nil, List.Pairwise.nil⟩

theorem Ordered.add {program : Program} (ordered : program.Ordered) (construct : Construct) :
    (program.add construct).Ordered := by
  obtain ⟨atomic, blocks, vectors, vars⟩ := ordered
  cases construct with
  | declaration binding => exact ⟨atomic, blocks, vectors, vars⟩
  | assignment binding => exact ⟨atomic, blocks, vectors, vars⟩
  | controlVector vector => exact ⟨atomic, blocks, vectors, vars⟩
  | block block => exact ⟨atomic, blocks, vectors, vars⟩
  | returned statement => exact ⟨atomic, blocks, vectors, vars⟩
  | atomicBlock block => exact ⟨atomic.insert _ _, blocks, vectors, vars⟩
  | capabilityBlock block => exact ⟨atomic, blocks.insert _ _, vectors, vars⟩
  | capabilityVector vector => exact ⟨atomic, blocks, vectors.insert _ _, vars⟩
  | capabilityVariable var => exact ⟨atomic, blocks, vectors, vars.insert _ _⟩

theorem Ordered.foldl_add {program : Program} (ordered : program.Ordered)
    (constructs : List Construct) : (constructs.foldl Program.add program).Ordered := by
  induction constructs generalizing program with
  | nil => exact ordered
  | cons construct rest ih => exact ih (ordered.add construct)

theorem merge_empty (program : Program) : program.merge empty = program := by
  simp [merge, empty, Table.extend]

/-- What is added to a merged program is added to its second part. -/
theorem merge_add {first second : Program} (firstOrdered : first.Ordered)
    (secondOrdered : second.Ordered) (construct : Construct) :
    (first.merge second).add construct = first.merge (second.add construct) := by
  cases construct with
  | declaration binding => simp [merge, add, Option.or_assoc]
  | assignment binding => simp [merge, add]
  | controlVector vector => simp [merge, add]
  | block block => simp [merge, add]
  | returned statement => simp [merge, add]
  | atomicBlock block =>
      simp [merge, add, Table.insert_extend firstOrdered.atomicBlocks secondOrdered.atomicBlocks]
  | capabilityBlock block =>
      simp [merge, add,
        Table.insert_extend firstOrdered.capabilityBlocks secondOrdered.capabilityBlocks]
  | capabilityVector vector =>
      simp [merge, add,
        Table.insert_extend firstOrdered.capabilityVectors secondOrdered.capabilityVectors]
  | capabilityVariable var =>
      simp [merge, add,
        Table.insert_extend firstOrdered.capabilityVariables secondOrdered.capabilityVariables]

theorem foldl_add_merge {first second : Program} (firstOrdered : first.Ordered)
    (secondOrdered : second.Ordered) (constructs : List Construct) :
    constructs.foldl add (first.merge second) = first.merge (constructs.foldl add second) := by
  induction constructs generalizing second with
  | nil => rfl
  | cons construct rest ih =>
      rw [List.foldl_cons, merge_add firstOrdered secondOrdered, ih (secondOrdered.add construct)]
      rfl

theorem ofConstructs_append (first second : List Construct) :
    ofConstructs (first ++ second) = (ofConstructs first).merge (ofConstructs second) := by
  have merged := foldl_add_merge (ordered_empty.foldl_add first) ordered_empty second
  rw [merge_empty] at merged
  rw [ofConstructs, List.foldl_append]
  exact merged

end Program

/-! ## Blocks at the end of the first text -/

/-- No block before these items takes their first one. -/
structure Unattached (items : List Item) : Prop where
  noCapability : ∀ item ∈ items.head?, item.isCapability = false
  noReturn : leadingReturn? items = none

theorem unattached_cons {item : Item} {rest : List Item} (noCapability : item.isCapability = false)
    (noReturn : leadingReturn? (item :: rest) = none) : Unattached (item :: rest) := by
  refine ⟨?_, noReturn⟩
  intro first isFirst
  cases isFirst
  exact noCapability

theorem leadingReturn?_append {left right : List Item} (noReturn : leadingReturn? right = none) :
    leadingReturn? (left ++ right) = leadingReturn? left := by
  cases left with
  | nil => exact noReturn
  | cons item rest =>
      cases item with
      | error error => rfl
      | ok construct => cases construct <;> rfl

theorem withoutReturn_append {left right : List Item} (noReturn : leadingReturn? right = none) :
    withoutReturn (left ++ right) = withoutReturn left ++ right := by
  cases left with
  | nil =>
      show withoutReturn right = right
      unfold withoutReturn
      split
      · cases noReturn
      · rfl
  | cons item rest =>
      cases item with
      | error error => rfl
      | ok construct => cases construct <;> rfl

theorem gather_append {left right : List Item} (unattached : Unattached right) :
    gather (left ++ right) = gather left ++ gather right := by
  fun_induction gather left with
  | case1 => rfl
  | case2 block rest nested others ih =>
      -- The capabilities and the return of the block all stand on the left.
      rw [List.cons_append, gather, Stretch.takeWhile_append unattached.noCapability,
        Stretch.dropWhile_append unattached.noCapability,
        leadingReturn?_append unattached.noReturn, withoutReturn_append unattached.noReturn, ih]
      rfl
  | case3 rest construct noBlock ih =>
      rw [List.cons_append, gather, ih]
      · rfl
      · exact noBlock
  | case4 rest error ih => rw [List.cons_append, gather, ih]

theorem gather_concat_error (items : List Item) (error : ParseError) :
    gather (items ++ [.error error]) = gather items := by
  have unattached : Unattached [.error error] := unattached_cons rfl rfl
  rw [gather_append unattached, gather, gather, List.append_nil]

/-! ## What stands behind the tokens -/

/-- The items of tokens behind which something stands. -/
def itemsBefore (behind : Kind × Location) (tokens : List Token) : List Item :=
  (segmentsBefore behind tokens).map Segment.construct

/-- A marker with the tokens up to the next marker is one item. -/
theorem itemsBefore_segment (behind : Kind × Location) {token : Token} {marker : Marker}
    (isMarker : token.kind.marker? = some marker) {body rest : List Token}
    (inside : ∀ other ∈ body, other.kind.isMarker = false)
    (cut : ∀ other ∈ rest.head?, other.kind.isMarker = true) :
    itemsBefore behind (token :: (body ++ rest)) =
      Segment.construct ⟨marker, token, body, firstBefore behind (body ++ rest)⟩ ::
        itemsBefore behind rest := by
  have taken := (@Stretch.cut_append _ (fun other : Token => !other.kind.isMarker) body rest
    (fun other member => by simp [inside other member])
    (fun other isNext => by simp [cut other isNext])).1
  rw [itemsBefore, segmentsBefore_cons_marker behind isMarker, taken,
    segmentsBefore_of_noMarker behind inside]
  rfl

theorem parseTokens_program (tokens : List Token) :
    (parseTokens tokens).program =
      Program.ofConstructs (gather
        (itemsBefore (.endOfFile, (significant tokens).stop) (significant tokens).tokens)) := by
  rw [itemsBefore, ← segments_eq]
  rfl

/-- Only the error of a missing name looks at the next token. -/
theorem construct_of_noRole {marker : Marker} (noRole : marker.nameRole? = none) (token : Token)
    (body : List Token) (next other : Kind × Location) :
    Segment.construct ⟨marker, token, body, next⟩ =
      Segment.construct ⟨marker, token, body, other⟩ := by
  cases marker with
  | declaration => cases noRole
  | assignment => cases noRole
  | controlVector => cases noRole
  | block => cases noRole
  | returned => rfl
  | atomicBlock => rfl
  | capability capability =>
      cases capability with
      | block => rfl
      | vector => rfl
      | var => rfl

theorem itemsBefore_of_noRole {tokens : List Token} (noRole : lastRole? tokens = none)
    (behind other : Kind × Location) : itemsBefore behind tokens = itemsBefore other tokens := by
  unfold itemsBefore
  induction tokens with
  | nil => rfl
  | cons token rest ih =>
      cases marker : token.kind.marker? with
      | none =>
          rw [segmentsBefore_cons_other _ marker, segmentsBefore_cons_other _ marker]
          cases rest with
          | nil => rfl
          | cons next others => exact ih noRole
      | some found =>
          rw [segmentsBefore_cons_marker _ marker, segmentsBefore_cons_marker _ marker,
            List.map_cons, List.map_cons]
          cases rest with
          | nil =>
              have noName : found.nameRole? = none := by
                simpa [lastRole?, Kind.nameRole?, marker] using noRole
              rw [construct_of_noRole noName]
              rfl
          | cons next others =>
              rw [ih noRole]
              rfl

theorem construct_of_role {marker : Marker} {role : NameRole}
    (requires : marker.nameRole? = some role) (token : Token) (next : Kind × Location) :
    Segment.construct ⟨marker, token, [], next⟩ = .error ⟨role, next.1, next.2⟩ := by
  cases marker with
  | declaration => cases requires; rfl
  | assignment => cases requires; rfl
  | controlVector => cases requires; rfl
  | block => cases requires; rfl
  | returned => cases requires
  | atomicBlock => cases requires
  | capability capability => cases requires

/-- A marker at the end lacks its name, so it adds no construct. -/
theorem gather_itemsBefore_concat {token : Token} {role : NameRole}
    (requires : token.kind.nameRole? = some role) (behind : Kind × Location)
    (tokens : List Token) :
    gather (itemsBefore behind (tokens ++ [token])) =
      gather (itemsBefore (token.kind, token.location) tokens) := by
  obtain ⟨marker, found, named⟩ := Option.bind_eq_some_iff.mp requires
  have isMarker : token.kind.isMarker = true := by
    rw [Kind.isMarker, found]
    rfl
  rw [itemsBefore, segmentsBefore_append behind tokens isMarker,
    segmentsBefore_cons_marker behind found, List.map_append, List.map_cons]
  simp only [List.takeWhile_nil]
  rw [construct_of_role named]
  exact gather_concat_error _ _

theorem gather_itemsBefore (behind other : Kind × Location) (tokens : List Token) :
    gather (itemsBefore behind tokens) = gather (itemsBefore other tokens) := by
  -- Only a last marker that requires a name looks behind the tokens, and it fails there.
  cases last : lastRole? tokens with
  | none => rw [itemsBefore_of_noRole last behind other]
  | some role =>
      obtain ⟨token, isLast, requires⟩ := Option.bind_eq_some_iff.mp last
      obtain ⟨before, shape⟩ := List.getLast?_eq_some_iff.mp isLast
      rw [shape, gather_itemsBefore_concat requires, gather_itemsBefore_concat requires]

/-! ## Two texts -/

theorem unattached_construct {segment : Segment}
    (noCapability : segment.marker ≠ .capability .block)
    (noReturn : segment.marker ≠ .returned) (rest : List Item) :
    Unattached (segment.construct :: rest) := by
  have named (role : NameRole) {build : String × List Token → Construct}
      (item : ∀ pair, Unattached (.ok (build pair) :: rest)) :
      Unattached ((segment.named role).map build :: rest) := by
    cases segment.named role with
    | error error => exact unattached_cons rfl rfl
    | ok pair => exact item pair
  unfold Segment.construct
  cases marker : segment.marker with
  | declaration => exact named .declaration fun _ => unattached_cons rfl rfl
  | assignment => exact named .assignment fun _ => unattached_cons rfl rfl
  | controlVector => exact named .controlVector fun _ => unattached_cons rfl rfl
  | block => exact named .block fun _ => unattached_cons rfl rfl
  | returned => exact absurd marker noReturn
  | atomicBlock => exact unattached_cons rfl rfl
  | capability capability =>
      cases capability with
      | block => exact absurd marker noCapability
      | vector => exact unattached_cons rfl rfl
      | var => exact unattached_cons rfl rfl

theorem Kind.eq_of_marker? {kind : Kind} {marker : Marker} (found : kind.marker? = some marker) :
    (marker = .returned → kind = .glyph .chen) ∧
      (marker = .capability .block → kind = .capability .block) := by
  unfold Kind.marker? at found
  split at found <;> cases found <;> simp

theorem unattached_itemsBefore {head : Token} (isMarker : head.kind.isMarker = true)
    (noCapability : head.kind ≠ .capability .block) (noReturn : head.kind ≠ .glyph .chen)
    (behind : Kind × Location) (rest : List Token) :
    Unattached (itemsBefore behind (head :: rest)) := by
  obtain ⟨marker, found⟩ := Option.isSome_iff_exists.mp isMarker
  obtain ⟨returned, capability⟩ := Kind.eq_of_marker? found
  rw [itemsBefore, segmentsBefore_cons_marker behind found, List.map_cons]
  exact unattached_construct (mt capability noCapability) (mt returned noReturn) _

/-- The constructs of two texts, whatever stands behind each of them. -/
theorem gather_itemsBefore_append {head : Token} (isMarker : head.kind.isMarker = true)
    (noCapability : head.kind ≠ .capability .block) (noReturn : head.kind ≠ .glyph .chen)
    (tokens rest : List Token) (behind behindFirst behindSecond : Kind × Location) :
    gather (itemsBefore behind (tokens ++ head :: rest)) =
      gather (itemsBefore behindFirst tokens) ++
        gather (itemsBefore behindSecond (head :: rest)) := by
  have cut : itemsBefore behind (tokens ++ head :: rest) =
      itemsBefore (head.kind, head.location) tokens ++ itemsBefore behind (head :: rest) := by
    rw [itemsBefore, segmentsBefore_append behind tokens isMarker, List.map_append]
    rfl
  rw [cut, gather_append (unattached_itemsBefore isMarker noCapability noReturn behind rest),
    gather_itemsBefore _ behindFirst, gather_itemsBefore behind behindSecond]

/-- A text without an end-of-file token counts as a whole. -/
theorem significant_of_noEnd {tokens : List Token}
    (noEnd : ∀ token ∈ tokens, token.kind ≠ .endOfFile) :
    significant tokens =
      ⟨tokens.filter fun token => !token.kind.isTrivia,
        ((tokens.filter fun token => !token.kind.isTrivia).getLast?.map Token.location).getD
          ⟨0, 0⟩⟩ := by
  have noneEnds : ∀ token ∈ tokens.filter fun token => !token.kind.isTrivia,
      decide (token.kind ≠ .endOfFile) = true := by
    intro token member
    exact decide_eq_true (noEnd token (List.mem_filter.mp member).1)
  obtain ⟨all, nothing⟩ := @Stretch.cut_append _ _ _ [] noneEnds (by simp)
  rw [List.append_nil] at all nothing
  simp only [significant, all, nothing]

theorem errors_eq_concat (tokens : List Token) :
    (parseTokens tokens).errors =
      missingNames (significant tokens).tokens ++
        (missingName? (lastRole? (significant tokens).tokens)
          (.endOfFile, (significant tokens).stop)).toList := by
  obtain ⟨stop, closed, isEnd, place⟩ := closedTokens_eq tokens
  rw [errors_eq_missingNames, closed, missingNames_concat, isEnd, place]

theorem errors_append {first second rest : List Token} {head : Token}
    (firstNoEnd : ∀ token ∈ first, token.kind ≠ .endOfFile)
    (secondNoEnd : ∀ token ∈ second, token.kind ≠ .endOfFile)
    (shape : second.filter (fun token => !token.kind.isTrivia) = head :: rest) :
    (parseTokens (first ++ second)).errors =
      missingNames (significant first).tokens ++
        (missingName? (lastRole? (significant first).tokens) (head.kind, head.location)).toList ++
          (parseTokens second).errors := by
  have bothNoEnd := List.forall_mem_append.mpr ⟨firstNoEnd, secondNoEnd⟩
  rw [errors_eq_concat, errors_eq_concat, significant_of_noEnd bothNoEnd,
    significant_of_noEnd firstNoEnd, significant_of_noEnd secondNoEnd, List.filter_append, shape]
  generalize first.filter (fun token => !token.kind.isTrivia) = kept
  have sameLast : (kept ++ head :: rest).getLast? = (head :: rest).getLast? := by
    rw [List.getLast?_append, List.getLast?_cons]
    rfl
  have sameRole : lastRole? (kept ++ head :: rest) = lastRole? (head :: rest) := by
    rw [lastRole?, sameLast]
    rfl
  simp only
  rw [missingNames_append, missingNames_concat, sameRole, sameLast,
    List.append_assoc _ (missingNames (head :: rest))]

/-- A text behind which a marker stands, other than a capability block or a return,
is parsed on its own: the programs are merged and the errors joined. Only a marker
at the end of the first text that lacks its name complains about the first token
of the second text instead of the end of the file. -/
theorem parseTokens_append {first second : List Token} {head : Token}
    (firstNoEnd : ∀ token ∈ first, token.kind ≠ .endOfFile)
    (secondNoEnd : ∀ token ∈ second, token.kind ≠ .endOfFile)
    (starts : second.find? (fun token => !token.kind.isTrivia) = some head)
    (isMarker : head.kind.isMarker = true) (noCapability : head.kind ≠ .capability .block)
    (noReturn : head.kind ≠ .glyph .chen) :
    (parseTokens (first ++ second)).program =
      (parseTokens first).program.merge (parseTokens second).program ∧
    match lastRole? (first.filter fun token => !token.kind.isTrivia) with
    | none =>
        (parseTokens (first ++ second)).errors =
          (parseTokens first).errors ++ (parseTokens second).errors
    | some role =>
        ∃ earlier,
          (parseTokens first).errors =
            earlier ++ [⟨role, .endOfFile, (significant first).stop⟩] ∧
          (parseTokens (first ++ second)).errors =
            earlier ++ ⟨role, head.kind, head.location⟩ :: (parseTokens second).errors := by
  have bothNoEnd := List.forall_mem_append.mpr ⟨firstNoEnd, secondNoEnd⟩
  obtain ⟨rest, shape⟩ : ∃ rest, second.filter (fun token => !token.kind.isTrivia) = head :: rest :=
    List.head?_eq_some_iff.mp (List.head?_filter.trans starts)
  constructor
  · rw [parseTokens_program, parseTokens_program, parseTokens_program,
      significant_of_noEnd bothNoEnd, significant_of_noEnd firstNoEnd,
      significant_of_noEnd secondNoEnd, List.filter_append, shape, ← Program.ofConstructs_append,
      gather_itemsBefore_append isMarker noCapability noReturn]
  · have noName : head.kind ≠ .identifier := by
      intro identifier
      rw [identifier] at isMarker
      cases isMarker
    have joined := errors_append firstNoEnd secondNoEnd shape
    have alone := errors_eq_concat first
    have kept : (significant first).tokens = first.filter fun token => !token.kind.isTrivia := by
      rw [significant_of_noEnd firstNoEnd]
    rw [← kept]
    cases last : lastRole? (significant first).tokens with
    | none =>
        rw [last] at joined alone
        rw [joined, alone]
        rfl
    | some role =>
        rw [last, missingName?, Option.bind_some, if_neg noName] at joined
        rw [last, missingName?, Option.bind_some, if_neg (by simp)] at alone
        refine ⟨missingNames (significant first).tokens, alone, ?_⟩
        rw [joined, List.append_assoc]
        rfl

/-- A block with a capability, and a declaration that is cut short. -/
def bareDeclaration : List Token :=
  [⟨.glyph .xul, "⟁Xul⟁", none, ⟨1, 1⟩⟩, ⟨.identifier, "fold", none, ⟨1, 7⟩⟩,
    ⟨.capability .block, "C@@L BLOCK", none, ⟨2, 1⟩⟩, ⟨.glyph .pop, "⟁Pop⟁", none, ⟨3, 1⟩⟩]

/-- An assignment on the next line. -/
def laterAssignment : List Token :=
  [⟨.newline, "\n", none, ⟨3, 6⟩⟩, ⟨.glyph .wo, "⟁Wo⟁", none, ⟨4, 1⟩⟩,
    ⟨.identifier, "depth", none, ⟨4, 6⟩⟩]

theorem parseTokens_append_bareDeclaration :
    (parseTokens (bareDeclaration ++ laterAssignment)).program =
      (parseTokens bareDeclaration).program.merge (parseTokens laterAssignment).program ∧
    ∃ earlier,
      (parseTokens bareDeclaration).errors =
        earlier ++ [⟨.declaration, .endOfFile, ⟨3, 1⟩⟩] ∧
      (parseTokens (bareDeclaration ++ laterAssignment)).errors =
        earlier ++ ⟨.declaration, .glyph .wo, ⟨4, 1⟩⟩ :: (parseTokens laterAssignment).errors :=
  @parseTokens_append bareDeclaration laterAssignment ⟨.glyph .wo, "⟁Wo⟁", none, ⟨4, 1⟩⟩
    (by decide) (by decide) rfl rfl (by decide) (by decide)

end GlyphScript
