import GlyphScript.Proofs.Program.Descent
import GlyphScript.Proofs.Program.Items

/-!
# Constructs in a pass over the tokens

Up to the next marker or the end of the file, a pass over the tokens reads exactly what
is read from the body of a segment. It leaves some tokens of the body, which belong to
no construct, or none. Only a block goes on behind its own segment, over the
capabilities in it.

Results:
1. `value_reads`, `argument_reads`, `loop_clauses`, `collect_reads`: what the tokens of a
   body give.
2. `blockParts_body`, `blockParts_nested`: the two stretches of a block.
3. `construct_finds`, `construct_reads`: each marker opens in a pass what it opens in a
   segment, and the pass moves on.
-/

namespace GlyphScript

namespace Descent

/-! ## Where a construct ends -/

/-- The rest of a construct, `body`, is cut off by the end of the file or by the next
marker, the first of `others`. -/
structure Cut (stop : Token) (body others : List Token) : Prop where
  isEnd : stop.kind = .endOfFile
  inside : ∀ token ∈ body, token.kind.closes = false
  opens : ∀ token ∈ others.head?, token.kind.isMarker = true

namespace Cut

variable {stop token : Token} {body rest others : List Token}

/-- Tokens before the end of the file are cut before the first marker. -/
theorem exists_of_noEnd {ahead : List Token} (isEnd : stop.kind = .endOfFile)
    (noEnd : ∀ token ∈ ahead, token.kind ≠ .endOfFile) :
    ∃ body others, ahead = body ++ others ∧ Cut stop body others := by
  have opens := List.head?_dropWhile_not (fun token : Token => !token.kind.isMarker) ahead
  refine ⟨ahead.takeWhile fun token => !token.kind.isMarker,
    ahead.dropWhile fun token => !token.kind.isMarker,
    List.takeWhile_append_dropWhile.symm, isEnd, ?_, ?_⟩
  · intro token member
    have noMarker := List.all_eq_true.mp List.all_takeWhile token member
    have inAhead := (List.takeWhile_prefix _).mem member
    simpa [Kind.closes, noEnd token inAhead] using noMarker
  · intro token isFirst
    rw [Option.mem_def.mp isFirst] at opens
    simpa using opens

theorem suffix (cut : Cut stop body others) (part : rest <:+ body) : Cut stop rest others :=
  ⟨cut.isEnd, fun token member => cut.inside token (part.mem member), cut.opens⟩

theorem tail (cut : Cut stop (token :: rest) others) : Cut stop rest others :=
  cut.suffix (List.suffix_cons token rest)

/-- A token that ends a construct does not belong to one. -/
theorem first_ne (cut : Cut stop (token :: rest) others) {kind : Kind}
    (closes : kind.closes = true) : token.kind ≠ kind := by
  intro same
  have inside := cut.inside token List.mem_cons_self
  rw [same, closes] at inside
  cases inside

theorem noEnd (cut : Cut stop (token :: rest) others) : token.kind ≠ .endOfFile :=
  cut.first_ne rfl

theorem noMarker (cut : Cut stop body others) : ∀ token ∈ body, token.kind.isMarker = false := by
  intro token member
  exact (Bool.or_eq_false_iff.mp (cut.inside token member)).2

theorem closes_next (cut : Cut stop [] others) : (nextToken stop others).kind.closes = true := by
  cases others with
  | nil =>
      rw [nextToken_nil, cut.isEnd]
      rfl
  | cons token rest => simp [Kind.closes, cut.opens token rfl]

/-- A token that belongs to a construct does not stand behind its end. -/
theorem next_ne (cut : Cut stop [] others) {kind : Kind} (inside : kind.closes = false) :
    (nextToken stop others).kind ≠ kind := by
  intro same
  have closes := cut.closes_next
  rw [same, inside] at closes
  cases closes

end Cut

/-! ## Values and clauses -/

theorem readReference_suffix (tokens : List Token) : (readReference tokens).2 <:+ tokens := by
  unfold readReference
  split
  · exact List.suffix_refl _
  · split
    · exact List.suffix_cons _ _
    · exact List.suffix_refl _

theorem readValue_suffix (tokens : List Token) : (readValue tokens).2 <:+ tokens := by
  unfold readValue
  split
  · exact List.suffix_refl _
  · next token rest =>
      split
      case h_9 => exact (readReference_suffix rest).trans (List.suffix_cons token rest)
      case h_10 => exact List.suffix_refl _
      all_goals exact List.suffix_cons token rest

theorem readArgument_suffix (tokens : List Token) : (readArgument tokens).2 <:+ tokens := by
  unfold readArgument
  split
  · exact List.suffix_refl _
  · next token rest =>
      split
      · exact (readValue_suffix rest).trans (List.suffix_cons _ _)
      · split
        · exact List.suffix_refl _
        · exact readValue_suffix _

section

variable {stop : Token} {body others : List Token}

theorem reference_reads (cut : Cut stop body others) :
    Reads stop reference (body ++ others) [] (readReference body).1
      ((readReference body).2 ++ others) := by
  refine (look_reads stop (body ++ others)).andThen ?_
  cases body with
  | nil =>
      have noIdentifier : (nextToken stop others).kind ≠ .identifier := cut.next_ne rfl
      have noAtom : (nextToken stop others).kind ≠ .atom := cut.next_ne rfl
      have noName : (nextToken stop others).isName = false := by
        simp [Token.isName, noIdentifier, noAtom]
      rw [List.nil_append, noName]
      exact .pure stop others Value.null
  | cons token rest =>
      rw [List.cons_append, nextToken_cons, readReference]
      cases token.isName with
      | false => exact .pure stop (token :: (rest ++ others)) Value.null
      | true => exact (advance_reads cut.noEnd (rest ++ others)).andThen (.pure stop _ _)

theorem value_reads (cut : Cut stop body others) :
    Reads stop value (body ++ others) [] (readValue body).1 ((readValue body).2 ++ others) := by
  refine (look_reads stop (body ++ others)).andThen ?_
  cases body with
  | nil =>
      have closes := cut.closes_next
      rw [List.nil_append]
      generalize (nextToken stop others).kind = kind at closes
      split
      case h_10 => exact .pure stop others Value.null
      all_goals cases closes
  | cons token rest =>
      have passes := @advance_reads stop token cut.noEnd (rest ++ others)
      obtain ⟨kind, literal, payload, location⟩ := token
      cases kind with
      | json | string | number | identifier | atom => exact passes.andThen (.pure stop _ _)
      | keyword word =>
          cases word with
          | trueWord | falseWord | nullWord => exact passes.andThen (.pure stop _ _)
          | _ => exact .pure stop _ Value.null
      | glyph glyph =>
          cases glyph with
          | yax => exact passes.andThen (reference_reads cut.tail)
          | _ => exact .pure stop _ Value.null
      | _ => exact .pure stop _ Value.null

theorem argument_reads (cut : Cut stop body others) :
    Reads stop argument (body ++ others) [] (readArgument body).1
      ((readArgument body).2 ++ others) := by
  cases body with
  | nil =>
      have noAtom : (nextToken stop others).kind ≠ .atom := cut.next_ne rfl
      refine (accept_other (cut.next_ne rfl)).andThen ?_
      refine (look_reads stop others).andThen ?_
      rw [if_neg noAtom]
      exact value_reads cut
  | cons token rest =>
      rw [readArgument]
      by_cases colon : token.kind = .operator .colon
      · rw [if_pos colon]
        exact (accept_same colon (by decide) (rest ++ others)).andThen (value_reads cut.tail)
      · rw [if_neg colon]
        refine (@accept_other stop (token :: (rest ++ others)) _ colon).andThen ?_
        refine (look_reads stop (token :: (rest ++ others))).andThen ?_
        rw [nextToken_cons]
        by_cases atom : token.kind = .atom
        · rw [if_pos atom, if_pos atom]
          exact .pure stop _ Value.null
        · rw [if_neg atom, if_neg atom]
          exact value_reads cut

/-- Clauses are read one by one. -/
theorem clause_reads {token : Token} {rest : List Token} (cut : Cut stop (token :: rest) others) :
    ∃ part left, left <:+ rest ∧ clauses (token :: rest) = part.toList ++ clauses left ∧
      Reads stop clause (token :: (rest ++ others)) [] part (left ++ others) := by
  have noEnd := cut.noEnd
  have passes := @advance_reads stop token noEnd (rest ++ others)
  rw [clauses]
  by_cases atom : token.kind = .atom
  · refine ⟨some (.param (withoutAtSigns token.literal) (readArgument rest).1),
      (readArgument rest).2, readArgument_suffix rest, ?_, ?_⟩
    · rw [atom]
      rfl
    · refine (look_reads stop _).andThen ?_
      rw [nextToken_cons, atom]
      exact passes.andThen ((argument_reads cut.tail).andThen (.pure stop _ _))
  · by_cases json : token.kind = .json
    · refine ⟨some (.data token.value), rest, List.suffix_refl rest, ?_, ?_⟩
      · rw [json]
        rfl
      · refine (look_reads stop _).andThen ?_
        rw [nextToken_cons, json]
        exact passes.andThen (.pure stop _ _)
    · refine ⟨none, rest, List.suffix_refl rest, ?_, ?_⟩
      · split
        · contradiction
        · contradiction
        · rfl
      · refine (look_reads stop _).andThen ?_
        rw [nextToken_cons]
        split
        · contradiction
        · contradiction
        · exact passes.andThen (.pure stop _ _)

/-- A loop that takes in the clauses of a construct one by one comes to the end of the
construct with all of them. -/
theorem loop_clauses {σ α : Type} (round : σ → Descent (α ⊕ σ)) (state : List Clause → σ)
    (takes : ∀ (found : List Clause) {token : Token} {rest left : List Token}
      {part : Option Clause}, Cut stop (token :: rest) others →
      Reads stop clause (token :: (rest ++ others)) [] part left →
      Reads stop (round (state found)) (token :: (rest ++ others)) []
        (.inr (state (found ++ part.toList))) left)
    (cut : Cut stop body others) {found : List Clause} {result : α} {left : List Token}
    (reads : Reads stop (loop round (state (found ++ clauses body))) others [] result left) :
    Reads stop (loop round (state found)) (body ++ others) [] result left := by
  -- Each round takes a token at least, so the rest of the body gets shorter.
  induction size : body.length using Nat.strongRecOn generalizing body found with
  | ind size ih =>
  subst size
  cases body with
  | nil =>
      rw [clauses, List.append_nil] at reads
      exact reads
  | cons token rest =>
      obtain ⟨part, middle, shorter, split, reading⟩ := clause_reads cut
      rw [split, ← List.append_assoc] at reads
      have further := ih middle.length (Nat.lt_succ_of_le shorter.length_le)
        (cut.tail.suffix shorter) reads rfl
      exact (takes found cut reading).nextRound further

/-- The loop over the clauses of a construct ends where the construct ends. -/
theorem collect_reads (cut : Cut stop body others) (found : List Clause) :
    Reads stop (collect found) (body ++ others) [] (found ++ clauses body) others := by
  refine loop_clauses collectRound id ?_ cut ?_
  · intro found token rest left part cutHere reading
    refine (atConstructEnd_reads stop _).andThen ?_
    rw [nextToken_cons, cutHere.inside token List.mem_cons_self]
    exact reading.andThen (.pure stop left _)
  · refine .lastRound ((atConstructEnd_reads stop others).andThen ?_)
    rw [(cut.suffix List.nil_suffix).closes_next]
    exact .pure stop others _

end

end Descent

/-! ## Items as a pass finds them -/

namespace Item

/-- The construct of an item with others behind it. A block has the capabilities that
follow it, and nothing yet of a return. -/
def opened (behind : List Item) : Item → Option Construct
  | .ok (.block block) =>
      some (.block { block with
        body := ((behind.takeWhile isCapability).filterMap capability?).map .capabilityBlock })
  | item => item.toOption

/-- The items that are left behind an item. -/
def left (behind : List Item) : Item → List Item
  | .ok (.block _) => behind.dropWhile isCapability
  | _ => behind

theorem filterMap_error?_dropWhile (items : List Item) :
    (items.dropWhile isCapability).filterMap error? = items.filterMap error? := by
  induction items with
  | nil => rfl
  | cons item rest ih =>
      cases capability : item.isCapability with
      | false => rw [List.dropWhile_cons_of_neg (by simp [capability])]
      | true =>
          obtain ⟨block, rfl⟩ := eq_of_isCapability capability
          rw [List.dropWhile_cons_of_pos capability, ih]
          rfl

/-- A block takes in no error. -/
theorem filterMap_error?_left (behind : List Item) (item : Item) :
    (item.left behind).filterMap error? = behind.filterMap error? := by
  unfold left
  split
  · exact filterMap_error?_dropWhile behind
  · rfl

end Item

namespace Descent

/-! ## Constructs -/

/-- The items of the tokens before the end of the file. -/
abbrev itemsUpTo (stop : Token) (tokens : List Token) : List Item :=
  itemsBefore (stop.kind, stop.location) tokens

/-- A part of a pass that stands before `body`, with `others` behind that, gives what
`item` opens and leaves what `item` leaves. -/
def Finds (stop : Token) (part : Descent (Option Construct)) (body others : List Token)
    (item : Item) : Prop :=
  ∃ left, left <:+ body ++ others ∧
    itemsUpTo stop left = item.left (itemsUpTo stop others) ∧
    Reads stop part (body ++ others) item.error?.toList (item.opened (itemsUpTo stop others)) left

section

variable {stop token : Token} {body others ahead rest left : List Token}

theorem firstBefore_eq (stop : Token) (ahead : List Token) :
    firstBefore (stop.kind, stop.location) ahead =
      ((nextToken stop ahead).kind, (nextToken stop ahead).location) := by
  cases ahead with
  | nil => rfl
  | cons token rest => rfl

theorem Cut.itemsUpTo_eq (cut : Cut stop body others) :
    itemsUpTo stop (body ++ others) = itemsUpTo stop others := by
  rw [itemsUpTo, itemsBefore, segmentsBefore_of_noMarker _ cut.noMarker]
  rfl

/-- The first item of tokens that start with a marker. -/
theorem Cut.itemsUpTo_cons (cut : Cut stop body others) {marker : Marker}
    (isMarker : token.kind.marker? = some marker) :
    itemsUpTo stop (token :: (body ++ others)) =
      Segment.construct ⟨marker, token, body,
        firstBefore (stop.kind, stop.location) (body ++ others)⟩ :: itemsUpTo stop others :=
  itemsBefore_segment _ isMarker cut.noMarker cut.opens

/-- What is no block leaves all items behind its own tokens. -/
theorem finds_plain (cut : Cut stop body others) {part : Descent (Option Construct)}
    {construct : Construct} (plain : construct.block? = none) (shorter : left <:+ body)
    (reads : Reads stop part (body ++ others) [] (some construct) (left ++ others)) :
    Finds stop part body others (.ok construct) := by
  refine ⟨left ++ others, ?_, ?_, ?_⟩
  · obtain ⟨before, rfl⟩ := shorter
    exact ⟨before, by simp⟩
  · rw [(cut.suffix shorter).itemsUpTo_eq]
    cases construct with
    | block block => cases plain
    | _ => rfl
  · cases construct with
    | block block => cases plain
    | _ => exact reads

theorem named_present {role : NameRole} {read : String → Descent (Option Construct)}
    {errors : List ParseError} {result : Option Construct} (identifier : token.kind = .identifier)
    (reads : Reads stop (read token.literal) rest errors result left) :
    Reads stop (named role read) (token :: rest) errors result left := by
  refine (look_reads stop (token :: rest)).andThen ?_
  rw [nextToken_cons, if_pos identifier]
  exact (advance_reads (by simp [identifier]) rest).andThen reads

theorem named_missing (role : NameRole) (read : String → Descent (Option Construct))
    (missing : (nextToken stop ahead).kind ≠ .identifier) :
    Reads stop (named role read) ahead
      [⟨role, (nextToken stop ahead).kind, (nextToken stop ahead).location⟩] none ahead := by
  refine (look_reads stop ahead).andThen ?_
  rw [if_neg missing]
  exact (report_reads stop ahead _).bind (.pure stop ahead none)

theorem finds_missing (cut : Cut stop body others) (role : NameRole)
    (read : String → Descent (Option Construct))
    (missing : (nextToken stop (body ++ others)).kind ≠ .identifier) :
    Finds stop (named role read) body others
      (.error ⟨role, (nextToken stop (body ++ others)).kind,
        (nextToken stop (body ++ others)).location⟩) :=
  ⟨body ++ others, List.suffix_refl _, cut.itemsUpTo_eq, named_missing role read missing⟩

/-- A name is required in a pass where it is required in a segment. -/
theorem named_finds (cut : Cut stop body others) (marker : Marker) (role : NameRole)
    {read : String → Descent (Option Construct)} {build : String × List Token → Construct}
    (finds : ∀ name {rest : List Token}, Cut stop rest others →
      Finds stop (read name) rest others (.ok (build (name, rest)))) :
    Finds stop (named role read) body others
      ((Segment.named ⟨marker, token, body,
        firstBefore (stop.kind, stop.location) (body ++ others)⟩ role).map build) := by
  rw [firstBefore_eq]
  cases body with
  | nil => exact finds_missing cut role read (cut.next_ne rfl)
  | cons name rest =>
      by_cases identifier : name.kind = .identifier
      · obtain ⟨left, shorter, items, reads⟩ := finds name.literal cut.tail
        simp only [Segment.named, if_pos identifier]
        exact ⟨left, shorter.trans (List.suffix_cons name _), items, named_present identifier reads⟩
      · simp only [Segment.named, if_neg identifier]
        exact finds_missing cut role read identifier

theorem declared_reads (cut : Cut stop body others) :
    ∃ left, left <:+ body ∧
      Reads stop declared (body ++ others) [] (Segment.declaredValue body) (left ++ others) := by
  cases body with
  | nil =>
      have noJson : (nextToken stop others).kind ≠ .json := cut.next_ne rfl
      refine ⟨[], List.suffix_refl _, (look_reads stop others).andThen ?_⟩
      rw [if_neg noJson]
      exact .pure stop others Value.null
  | cons token rest =>
      rw [Segment.declaredValue]
      by_cases json : token.kind = .json
      · refine ⟨rest, List.suffix_cons token rest, (look_reads stop _).andThen ?_⟩
        rw [List.cons_append, nextToken_cons, if_pos json, if_pos json]
        exact (advance_reads cut.noEnd _).andThen (.pure stop _ _)
      · refine ⟨token :: rest, List.suffix_refl _, (look_reads stop _).andThen ?_⟩
        rw [List.cons_append, nextToken_cons, if_neg json, if_neg json]
        exact .pure stop _ Value.null

theorem assigned_reads (cut : Cut stop body others) :
    ∃ left, left <:+ body ∧
      Reads stop assigned (body ++ others) [] (Segment.assignedValue body) (left ++ others) := by
  cases body with
  | nil =>
      exact ⟨[], List.suffix_refl _,
        (accept_other (cut.next_ne rfl)).andThen (value_reads cut)⟩
  | cons token rest =>
      rw [Segment.assignedValue]
      by_cases equals : token.kind = .operator .assign
      · rw [if_pos equals]
        exact ⟨_, (readValue_suffix rest).trans (List.suffix_cons token rest),
          (accept_same equals (by decide) _).andThen (value_reads cut.tail)⟩
      · rw [if_neg equals]
        exact ⟨_, readValue_suffix _,
          (@accept_other stop (token :: (rest ++ others)) _ equals).andThen (value_reads cut)⟩

theorem returned_reads (cut : Cut stop body others) :
    ∃ left, left <:+ body ∧
      Reads stop returned (body ++ others) [] (Segment.returnedValue body) (left ++ others) := by
  cases body with
  | nil =>
      have noAtom : (nextToken stop others).kind ≠ .atom := cut.next_ne rfl
      refine ⟨[], List.suffix_refl _, (look_reads stop others).andThen ?_⟩
      rw [if_neg noAtom]
      exact value_reads cut
  | cons token rest =>
      rw [Segment.returnedValue]
      by_cases atom : token.kind = .atom
      · refine ⟨_, (readArgument_suffix rest).trans (List.suffix_cons token rest),
          (look_reads stop _).andThen ?_⟩
        rw [List.cons_append, nextToken_cons, if_pos atom, if_pos atom]
        refine (advance_reads cut.noEnd _).andThen ?_
        exact (argument_reads cut.tail).andThen (.pure stop _ _)
      · refine ⟨_, readValue_suffix _, (look_reads stop _).andThen ?_⟩
        rw [List.cons_append, nextToken_cons, if_neg atom, if_neg atom]
        exact value_reads cut

/-- The clauses of a block are those of its segment. -/
theorem blockParts_body (cut : Cut stop body others) {found : List Clause}
    {nested : List CapabilityBlock} {result : BlockParts}
    (reads : Reads stop (blockParts (found ++ clauses body, nested)) others [] result left) :
    Reads stop (blockParts (found, nested)) (body ++ others) [] result left := by
  refine loop_clauses blockRound (·, nested) ?_ cut reads
  intro found token rest left part cutHere reading
  refine (look_reads stop _).andThen ?_
  rw [nextToken_cons, if_neg (cutHere.first_ne rfl)]
  refine (atConstructEnd_reads stop _).andThen ?_
  rw [nextToken_cons, cutHere.inside token List.mem_cons_self]
  exact reading.andThen (.pure stop left _)

theorem capabilityBlock_reads (cut : Cut stop body others) (token : Token)
    (next : Kind × Location) :
    Reads stop (capabilityBlock token) (body ++ others) []
      (Segment.capabilityBlock ⟨.capability .block, token, body, next⟩) others :=
  (collect_reads cut []).andThen (.pure stop others _)

theorem blockParts_end (closes : (nextToken stop others).kind.closes = true)
    (noCapability : (nextToken stop others).kind ≠ .capability .block) (parts : BlockParts) :
    Reads stop (blockParts parts) others [] parts others := by
  refine .lastRound ((look_reads stop others).andThen ?_)
  rw [if_neg noCapability]
  refine (atConstructEnd_reads stop others).andThen ?_
  rw [closes]
  exact .pure stop others _

theorem blockParts_capability (capability : token.kind = .capability .block)
    (cut : Cut stop body others) {found : List Clause} {nested : List CapabilityBlock}
    {next : Kind × Location} {result : BlockParts}
    (reads : Reads stop
      (blockParts (found,
        nested ++ [Segment.capabilityBlock ⟨.capability .block, token, body, next⟩]))
      others [] result left) :
    Reads stop (blockParts (found, nested)) (token :: (body ++ others)) [] result left := by
  have round : Reads stop (blockRound (found, nested)) (token :: (body ++ others)) []
      (.inr (found,
        nested ++ [Segment.capabilityBlock ⟨.capability .block, token, body, next⟩]))
      others := by
    refine (look_reads stop _).andThen ?_
    rw [nextToken_cons, if_pos capability]
    refine (advance_reads (by simp [capability]) _).andThen ?_
    exact (capabilityBlock_reads cut token next).andThen (.pure stop others _)
  exact round.nextRound reads

/-- A marker other than that of a capability block gives another item. -/
theorem exists_first_item (isMarker : token.kind.isMarker = true)
    (noCapability : token.kind ≠ .capability .block) (rest : List Token) :
    ∃ item items, itemsUpTo stop (token :: rest) = item :: items ∧ item.isCapability = false := by
  obtain ⟨marker, found⟩ := Option.isSome_iff_exists.mp isMarker
  have other : marker ≠ .capability .block := mt (Kind.eq_of_marker? found).2 noCapability
  rw [itemsUpTo, itemsBefore, segmentsBefore_cons_marker _ found, List.map_cons]
  refine ⟨_, _, rfl, ?_⟩
  rw [Item.isCapability, Segment.capability?_construct, if_neg other]
  rfl

/-- Behind its own segment, a block takes in the capabilities up to the next other
marker. -/
theorem blockParts_nested (isEnd : stop.kind = .endOfFile)
    (noEnd : ∀ token ∈ others, token.kind ≠ .endOfFile)
    (opens : ∀ token ∈ others.head?, token.kind.isMarker = true) (found : List Clause)
    (nested : List CapabilityBlock) :
    ∃ left, left <:+ others ∧
      itemsUpTo stop left = (itemsUpTo stop others).dropWhile Item.isCapability ∧
      Reads stop (blockParts (found, nested)) others []
        (found, nested ++
          ((itemsUpTo stop others).takeWhile Item.isCapability).filterMap Item.capability?)
        left := by
  -- Each capability goes up to the next marker, so there is less behind it.
  induction size : others.length using Nat.strongRecOn generalizing others nested with
  | ind size ih =>
  subst size
  have closes := (Cut.mk isEnd (List.forall_mem_nil _) opens).closes_next
  cases others with
  | nil =>
      refine ⟨[], List.suffix_refl _, rfl, ?_⟩
      show Reads stop (blockParts (found, nested)) [] [] (found, nested ++ []) []
      rw [List.append_nil]
      exact blockParts_end closes (by simp [isEnd]) (found, nested)
  | cons token rest =>
      by_cases capability : token.kind = .capability .block
      · obtain ⟨body, others, rfl, cut⟩ :=
          Cut.exists_of_noEnd isEnd (List.forall_mem_cons.mp noEnd).2
        have items := @Cut.itemsUpTo_cons stop token body others cut (.capability .block)
          (by rw [capability]; rfl)
        have inOthers := (List.suffix_append body others).trans (List.suffix_cons token _)
        obtain ⟨left, shorter, leaves, reads⟩ :=
          ih others.length (Nat.lt_succ_of_le (List.suffix_append body others).length_le)
            (fun other member => noEnd other (inOthers.mem member)) cut.opens
            (nested ++ [Segment.capabilityBlock ⟨.capability .block, token, body,
              firstBefore (stop.kind, stop.location) (body ++ others)⟩]) rfl
        rw [List.append_assoc] at reads
        refine ⟨left, shorter.trans inOthers, ?_, ?_⟩
        · rw [items, leaves]
          rfl
        · rw [items]
          exact blockParts_capability capability cut reads
      · obtain ⟨item, items, first, other⟩ :=
          @exists_first_item stop token (opens token rfl) capability rest
        refine ⟨token :: rest, List.suffix_refl _, ?_, ?_⟩
        · rw [first, List.dropWhile_cons_of_neg (by simp [other])]
        · rw [first, List.takeWhile_cons_of_neg (by simp [other]), List.filterMap_nil,
            List.append_nil]
          exact blockParts_end closes capability (found, nested)

/-- A marker opens in a pass what it opens in a segment. -/
theorem construct_finds (cut : Cut stop body others)
    (noEnd : ∀ token ∈ others, token.kind ≠ .endOfFile) (marker : Marker) (token : Token) :
    Finds stop (constructBehind marker token) body others
      (Segment.construct ⟨marker, token, body,
        firstBefore (stop.kind, stop.location) (body ++ others)⟩) := by
  unfold constructBehind Segment.construct
  cases marker with
  | declaration =>
      refine named_finds cut .declaration .declaration ?_
      intro name rest cutRest
      obtain ⟨left, shorter, reads⟩ := declared_reads cutRest
      exact finds_plain cutRest rfl shorter (reads.andThen (.pure stop _ _))
  | assignment =>
      refine named_finds cut .assignment .assignment ?_
      intro name rest cutRest
      obtain ⟨left, shorter, reads⟩ := assigned_reads cutRest
      exact finds_plain cutRest rfl shorter (reads.andThen (.pure stop _ _))
  | controlVector =>
      refine named_finds cut .controlVector .controlVector ?_
      intro name rest cutRest
      exact finds_plain cutRest rfl List.nil_suffix
        ((collect_reads cutRest []).andThen (.pure stop _ _))
  | block =>
      refine named_finds cut .block .block ?_
      intro name rest cutRest
      obtain ⟨left, shorter, leaves, reads⟩ :=
        blockParts_nested cut.isEnd noEnd cut.opens ([] ++ clauses rest) []
      refine ⟨left, shorter.trans (List.suffix_append rest others), leaves, ?_⟩
      exact (blockParts_body cutRest reads).andThen (.pure stop _ _)
  | returned =>
      obtain ⟨left, shorter, reads⟩ := returned_reads cut
      exact finds_plain cut rfl shorter (reads.andThen (.pure stop _ _))
  | atomicBlock =>
      exact finds_plain cut rfl List.nil_suffix
        ((collect_reads cut []).andThen (.pure stop _ _))
  | capability capability =>
      have collected := collect_reads cut []
      cases capability with
      | block =>
          exact finds_plain cut rfl List.nil_suffix
            ((capabilityBlock_reads cut token _).andThen (.pure stop _ _))
      | vector => exact finds_plain cut rfl List.nil_suffix (collected.andThen (.pure stop _ _))
      | var => exact finds_plain cut rfl List.nil_suffix (collected.andThen (.pure stop _ _))

/-- Whatever opens a construct moves at least behind the next token. -/
theorem construct_reads (isEnd : stop.kind = .endOfFile)
    (noEnd : ∀ other ∈ token :: rest, other.kind ≠ .endOfFile) (marker : Marker) :
    ∃ errors result left, left <:+ rest ∧
      Reads stop (construct marker) (token :: rest) errors result left := by
  obtain ⟨first, restNoEnd⟩ := List.forall_mem_cons.mp noEnd
  obtain ⟨body, others, rfl, cut⟩ := Cut.exists_of_noEnd isEnd restNoEnd
  have othersNoEnd := (List.forall_mem_append.mp restNoEnd).2
  obtain ⟨left, shorter, -, reads⟩ := construct_finds cut othersNoEnd marker token
  exact ⟨_, _, left, shorter, (advance_reads first (body ++ others)).andThen reads⟩

end

end Descent

end GlyphScript
