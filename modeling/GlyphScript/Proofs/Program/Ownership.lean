import GlyphScript.Proofs.Program.Items
import Mathlib.Logic.ExistsUnique

/-!
# What belongs to a block

A block takes in the capabilities behind it and, behind those, one return. Every
other marker ends what belongs to the block, a block without a name included.

Results:
1. `taken_next`, `reaches_succ`: what one more token changes.
2. `loose_itemsBefore`, `reached_itemsBefore`: the items that stand on their own and
   those that a block takes in, by the places of their tokens.
3. `parseTokens_belongings`: the blocks, returns and capabilities of a program.
-/

namespace GlyphScript

/-! ## Places of tokens -/

/-- A marker of this kind ends what belongs to the block before it. -/
def Kind.divides (kind : Kind) : Bool :=
  kind.isMarker && decide (kind ≠ .capability .block)

def kindAt (tokens : List Token) (i : Nat) : Option Kind :=
  tokens[i]?.map Token.kind

def dividesAt (tokens : List Token) (i : Nat) : Bool :=
  (kindAt tokens i).any Kind.divides

/-- A block starts here: its marker, and right behind it its name. -/
def OpensBlock (tokens : List Token) (i : Nat) : Prop :=
  kindAt tokens i = some (.glyph .xul) ∧ kindAt tokens (i + 1) = some .identifier

/-- Between two places there is no marker but those of capabilities. -/
def Reaches (tokens : List Token) (i j : Nat) : Prop :=
  i < j ∧ ∀ k < j, i < k → dividesAt tokens k = false

/-- The nearest marker before this place, capabilities left out, opens a block. -/
def Taken (tokens : List Token) (j : Nat) : Prop :=
  ∃ i < j, OpensBlock tokens i ∧ Reaches tokens i j

instance (tokens : List Token) (i : Nat) : Decidable (OpensBlock tokens i) :=
  inferInstanceAs (Decidable (_ ∧ _))

instance (tokens : List Token) (i j : Nat) : Decidable (Reaches tokens i j) :=
  inferInstanceAs (Decidable (_ ∧ _))

instance (tokens : List Token) (j : Nat) : Decidable (Taken tokens j) :=
  inferInstanceAs (Decidable (∃ i, i < j ∧ _))

/-- The tokens behind a place, up to the next marker. -/
def bodyAt (tokens : List Token) (i : Nat) : List Token :=
  (tokens.drop (i + 1)).takeWhile fun token => !token.kind.isMarker

/-- A token with its place. -/
abbrev Placed := Token × Nat

def returnAt (tokens : List Token) (place : Placed) : Return :=
  ⟨Segment.returnedValue (bodyAt tokens place.2), place.1.location⟩

def capabilityAt (tokens : List Token) (place : Placed) : CapabilityBlock :=
  let parts := clauses (bodyAt tokens place.2)
  ⟨place.1.constructName?.getD "unknown", Clause.handler? parts, Clause.params parts,
    Clause.literals parts, place.1.location⟩

/-- The block that starts at a place, with its name and the tokens behind the name.
It has all capabilities that it reaches, and the value of the return that it
reaches. -/
def blockAt (tokens : List Token) (place : Placed) : Block where
  name := (tokens[place.2 + 1]?.map Token.literal).getD ""
  params := Clause.params (clauses (bodyAt tokens (place.2 + 1)))
  body := ((tokens.zipIdx.filter fun other =>
    other.1.kind = .capability .block ∧ Reaches tokens place.2 other.2).map
      (capabilityAt tokens)).map .capabilityBlock
  emit := (tokens.zipIdx.find? fun other =>
    other.1.kind = .glyph .chen ∧ Reaches tokens place.2 other.2).map
      fun other => (returnAt tokens other).value
  location := place.1.location

/-! ## Items at places -/

/-- The item of the marker at a place. -/
def itemAt? (behind : Kind × Location) (tokens : List Token) (place : Placed) : Option Item :=
  place.1.kind.marker?.map fun marker =>
    Segment.construct ⟨marker, place.1, bodyAt tokens place.2,
      firstBefore behind (tokens.drop (place.2 + 1))⟩

section

variable {behind : Kind × Location} {tokens before rest : List Token} {token : Token}

theorem drop_of_split (split : tokens = before ++ token :: rest) :
    tokens.drop (before.length + 1) = rest := by
  rw [split, List.drop_append]
  simp

theorem kindAt_of_split (split : tokens = before ++ token :: rest) :
    kindAt tokens before.length = some token.kind := by
  simp [kindAt, split]

theorem dividesAt_of_split (split : tokens = before ++ token :: rest) :
    dividesAt tokens before.length = token.kind.divides := by
  rw [dividesAt, kindAt_of_split split]
  rfl

/-- The next place in the same tokens. -/
theorem split_next (split : tokens = before ++ token :: rest) :
    tokens = (before ++ [token]) ++ rest := by
  rw [split, List.append_assoc]
  rfl

theorem itemsBefore_cons (split : tokens = before ++ token :: rest) :
    itemsBefore behind (token :: rest) =
      (itemAt? behind tokens (token, before.length)).toList ++ itemsBefore behind rest := by
  unfold itemsBefore itemAt? bodyAt
  rw [drop_of_split split]
  cases marker : token.kind.marker? with
  | none => rw [segmentsBefore_cons_other behind marker]; rfl
  | some found => rw [segmentsBefore_cons_marker behind marker]; rfl

end

theorem Kind.marker?_eq_some_iff (kind : Kind) :
    (kind.marker? = some .returned ↔ kind = .glyph .chen) ∧
    (kind.marker? = some (.capability .block) ↔ kind = .capability .block) ∧
    (kind.marker? = some .block ↔ kind = .glyph .xul) := by
  unfold Kind.marker?
  split <;> simp_all

theorem itemAt?_return? (behind : Kind × Location) (tokens : List Token) (place : Placed) :
    (itemAt? behind tokens place).bind Item.return? =
      if place.1.kind = .glyph .chen then some (returnAt tokens place) else none := by
  have isReturn := (Kind.marker?_eq_some_iff place.1.kind).1
  cases marker : place.1.kind.marker? with
  | none =>
      rw [marker] at isReturn
      rw [itemAt?, marker, if_neg (by simpa using isReturn)]
      rfl
  | some found =>
      rw [marker, Option.some_inj] at isReturn
      rw [itemAt?, marker, Option.map_some, Option.bind_some, Segment.return?_construct]
      simp only [isReturn]
      rfl

theorem itemAt?_capability? (behind : Kind × Location) (tokens : List Token) (place : Placed) :
    (itemAt? behind tokens place).bind Item.capability? =
      if place.1.kind = .capability .block then some (capabilityAt tokens place) else none := by
  have isCapability := (Kind.marker?_eq_some_iff place.1.kind).2.1
  cases marker : place.1.kind.marker? with
  | none =>
      rw [marker] at isCapability
      rw [itemAt?, marker, if_neg (by simpa using isCapability)]
      rfl
  | some found =>
      rw [marker, Option.some_inj] at isCapability
      rw [itemAt?, marker, Option.map_some, Option.bind_some, Segment.capability?_construct]
      simp only [isCapability]
      rfl

theorem isCapability_itemAt {behind : Kind × Location} {tokens : List Token} {place : Placed}
    {item : Item} (found : itemAt? behind tokens place = some item) :
    item.isCapability = decide (place.1.kind = .capability .block) := by
  have capability := itemAt?_capability? behind tokens place
  rw [found, Option.bind_some] at capability
  rw [Item.isCapability, capability]
  split <;> simp_all

theorem isReturn_itemAt {behind : Kind × Location} {tokens : List Token} {place : Placed}
    {item : Item} (found : itemAt? behind tokens place = some item) :
    item.isReturn = decide (place.1.kind = .glyph .chen) := by
  have returned := itemAt?_return? behind tokens place
  rw [found, Option.bind_some] at returned
  rw [Item.isReturn, returned]
  split <;> simp_all

/-! ## One place further -/

theorem reaches_next (tokens : List Token) (i : Nat) : Reaches tokens i (i + 1) := by
  refine ⟨Nat.lt_succ_self i, ?_⟩
  intro k below above
  omega

theorem reaches_succ {tokens : List Token} {i j : Nat} (earlier : i < j) :
    Reaches tokens i (j + 1) ↔ Reaches tokens i j ∧ dividesAt tokens j = false := by
  constructor
  · rintro ⟨_, clear⟩
    exact ⟨⟨earlier, fun k below above => clear k (Nat.lt_succ_of_lt below) above⟩,
      clear j (Nat.lt_succ_self j) earlier⟩
  · rintro ⟨⟨_, clear⟩, here⟩
    refine ⟨Nat.lt_succ_of_lt earlier, ?_⟩
    intro k below above
    rcases Nat.lt_succ_iff_lt_or_eq.mp below with inside | last
    · exact clear k inside above
    · rw [last]
      exact here

theorem Reaches.shorter {tokens : List Token} {i j k : Nat} (reaches : Reaches tokens i k)
    (earlier : i < j) (inside : j ≤ k) : Reaches tokens i j :=
  ⟨earlier, fun other below above => reaches.2 other (Nat.lt_of_lt_of_le below inside) above⟩

theorem taken_succ {tokens : List Token} {j : Nat} :
    Taken tokens (j + 1) ↔
      OpensBlock tokens j ∨ Taken tokens j ∧ dividesAt tokens j = false := by
  constructor
  · rintro ⟨i, below, opens, reaches⟩
    rcases Nat.lt_succ_iff_lt_or_eq.mp below with earlier | same
    · obtain ⟨nearer, clear⟩ := (reaches_succ earlier).mp reaches
      exact .inr ⟨⟨i, earlier, opens, nearer⟩, clear⟩
    · subst same
      exact .inl opens
  · rintro (opens | ⟨⟨i, earlier, opens, reaches⟩, clear⟩)
    · exact ⟨j, Nat.lt_succ_self j, opens, reaches_next tokens j⟩
    · exact ⟨i, Nat.lt_succ_of_lt earlier, opens, (reaches_succ earlier).mpr ⟨reaches, clear⟩⟩

section

variable {behind : Kind × Location} {tokens before rest : List Token} {token : Token} {item : Item}

theorem opensBlock_of_split (split : tokens = before ++ token :: rest) :
    OpensBlock tokens before.length ↔
      token.kind = .glyph .xul ∧ rest.head?.map Token.kind = some .identifier := by
  have next : kindAt tokens (before.length + 1) = rest.head?.map Token.kind := by
    rw [kindAt, ← List.head?_drop, drop_of_split split]
  rw [OpensBlock, kindAt_of_split split, next, Option.some_inj]

theorem itemAt?_of_opens (split : tokens = before ++ token :: rest)
    (opens : OpensBlock tokens before.length) :
    itemAt? behind tokens (token, before.length) =
      some (.ok (.block
        { blockAt tokens (token, before.length) with body := [], emit := none })) := by
  obtain ⟨isBlock, named⟩ := (opensBlock_of_split split).mp opens
  cases rest with
  | nil => cases named
  | cons name others =>
      have isName : name.kind = .identifier := by simpa using named
      have body : bodyAt tokens before.length = name :: bodyAt tokens (before.length + 1) := by
        have behindName := drop_of_split (split_next split)
        rw [List.length_append, List.length_singleton] at behindName
        rw [bodyAt, bodyAt, drop_of_split split, behindName, List.takeWhile_cons,
          if_pos (by rw [isName]; rfl)]
      have literal : tokens[before.length + 1]? = some name := by
        rw [← List.head?_drop, drop_of_split split]
        rfl
      simp only [itemAt?, isBlock, body, blockAt, literal, Option.map_some]
      simp [Kind.marker?, Segment.construct, Segment.named, isName, bind, Except.bind, pure,
        Except.pure, Segment.location]

theorem isBlock_itemAt (split : tokens = before ++ token :: rest)
    (found : itemAt? behind tokens (token, before.length) = some item) :
    item.isBlock = decide (OpensBlock tokens before.length) := by
  by_cases opens : OpensBlock tokens before.length
  · rw [itemAt?_of_opens split opens] at found
    cases found
    exact (decide_eq_true opens).symm
  · rw [decide_eq_false opens]
    obtain ⟨marker, isMarker, rfl⟩ := Option.map_eq_some_iff.mp found
    -- The marker of a block without a name gives an error, and other markers give
    -- other constructs.
    by_cases isBlock : marker = .block
    · have kind : token.kind = .glyph .xul :=
        (Kind.marker?_eq_some_iff token.kind).2.2.mp (isBlock ▸ isMarker)
      refine Segment.isBlock_construct_unnamed ?_
      intro first isFirst isName
      refine opens ((opensBlock_of_split split).mpr ⟨kind, ?_⟩)
      rw [bodyAt, drop_of_split split] at isFirst
      cases rest with
      | nil => cases isFirst
      | cons next others =>
          rw [List.takeWhile_cons] at isFirst
          split at isFirst
          · cases isFirst
            rw [← isName]
            rfl
          · cases isFirst
    · exact Segment.isBlock_construct_other isBlock

variable (behind) in
/-- A marker divides unless it is that of a capability. -/
theorem dividesAt_itemAt (split : tokens = before ++ token :: rest) :
    dividesAt tokens before.length =
      (itemAt? behind tokens (token, before.length)).any fun item => !item.isCapability := by
  rw [dividesAt_of_split split, Kind.divides, Kind.isMarker]
  cases found : itemAt? behind tokens (token, before.length) with
  | none =>
      have noMarker : token.kind.marker? = none := by simpa [itemAt?] using found
      rw [noMarker]
      rfl
  | some item =>
      obtain ⟨marker, isMarker, _⟩ := Option.map_eq_some_iff.mp found
      rw [isMarker, Option.any_some, isCapability_itemAt found]
      simp

theorem not_opensBlock_of_none (split : tokens = before ++ token :: rest)
    (absent : itemAt? behind tokens (token, before.length) = none) :
    ¬ OpensBlock tokens before.length := by
  intro opens
  rw [itemAt?_of_opens split opens] at absent
  cases absent

/-- What the block before a place takes in is decided by the item at that place. -/
theorem taken_next (split : tokens = before ++ token :: rest)
    (found : itemAt? behind tokens (token, before.length) = some item) :
    decide (Taken tokens (before.length + 1)) =
      if item.isCapability then decide (Taken tokens before.length) else item.isBlock := by
  have divides := dividesAt_itemAt behind split
  rw [found, Option.any_some] at divides
  simp only [taken_succ, divides]
  cases capability : item.isCapability with
  | true =>
      have noBlock : ¬ OpensBlock tokens before.length := by
        obtain ⟨block, rfl⟩ := Item.eq_of_isCapability capability
        have isBlock := isBlock_itemAt split found
        exact of_decide_eq_false isBlock.symm
      simp [noBlock]
  | false => simp [isBlock_itemAt split found]

theorem taken_next_of_none (split : tokens = before ++ token :: rest)
    (absent : itemAt? behind tokens (token, before.length) = none) :
    decide (Taken tokens (before.length + 1)) = decide (Taken tokens before.length) := by
  have divides := dividesAt_itemAt behind split
  rw [absent] at divides
  simp only [taken_succ, divides]
  simp [not_opensBlock_of_none split absent]

end

/-! ## The items of all places -/

/-- The item at a place, unless a block takes it in. -/
def looseAt? (behind : Kind × Location) (tokens : List Token) (place : Placed) : Option Item :=
  if ¬ (Taken tokens place.2 ∧
      (place.1.kind = .capability .block ∨ place.1.kind = .glyph .chen))
  then itemAt? behind tokens place else none

theorem loose_itemsBefore (behind : Kind × Location) {tokens before rest : List Token}
    (split : tokens = before ++ rest) :
    loose (decide (Taken tokens before.length)) (itemsBefore behind rest) =
      (rest.zipIdx before.length).filterMap (looseAt? behind tokens) := by
  -- The flag of `loose` is whether a block takes in what stands at the current place.
  induction rest generalizing before with
  | nil => rfl
  | cons token rest ih =>
      have ih := ih (split_next split)
      rw [List.length_append, List.length_singleton] at ih
      rw [itemsBefore_cons split, List.zipIdx_cons, filterMap_cons_toList, ← ih]
      cases found : itemAt? behind tokens (token, before.length) with
      | none =>
          have nothing : looseAt? behind tokens (token, before.length) = none := by
            simp [looseAt?, found]
          rw [nothing, taken_next_of_none split found]
          rfl
      | some item =>
          rw [taken_next split found, Option.toList_some, List.singleton_append, loose_cons]
          congr 1
          rw [isCapability_itemAt found, isReturn_itemAt found, looseAt?]
          simp only [found, ← Bool.decide_or, ← Bool.decide_and, decide_eq_true_eq, ite_not]
          split <;> rfl

/-- The item at a place that another place reaches. -/
def reachedAt? (behind : Kind × Location) (tokens : List Token) (i : Nat) (place : Placed) :
    Option Item :=
  if Reaches tokens i place.2 then itemAt? behind tokens place else none

theorem nothing_reached (behind : Kind × Location) {tokens : List Token} {i j : Nat}
    (earlier : i < j) (unreached : ¬ Reaches tokens i j) (rest : List Token) :
    (rest.zipIdx j).filterMap (reachedAt? behind tokens i) = [] := by
  rw [List.filterMap_eq_nil_iff]
  intro place member
  have inside : j ≤ place.2 := (List.mem_zipIdx member).1
  exact if_neg fun reaches => unreached (reaches.shorter earlier inside)

theorem reached_itemsBefore (behind : Kind × Location) {tokens before rest : List Token} {i : Nat}
    (split : tokens = before ++ rest) (reaches : Reaches tokens i before.length) :
    reached (itemsBefore behind rest) =
      (rest.zipIdx before.length).filterMap (reachedAt? behind tokens i) := by
  induction rest generalizing before with
  | nil => rfl
  | cons token rest ih =>
      have earlier := reaches.1
      have divides := dividesAt_itemAt behind split
      have ih := @ih (before ++ [token]) (split_next split)
      rw [List.length_append, List.length_singleton] at ih
      have here : reachedAt? behind tokens i (token, before.length) =
          itemAt? behind tokens (token, before.length) := if_pos reaches
      rw [itemsBefore_cons split, List.zipIdx_cons, filterMap_cons_toList, here]
      cases found : itemAt? behind tokens (token, before.length) with
      | none =>
          rw [found] at divides
          exact ih ((reaches_succ earlier).mpr ⟨reaches, divides⟩)
      | some item =>
          rw [found, Option.any_some] at divides
          rw [Option.toList_some, List.singleton_append, List.singleton_append, reached]
          cases capability : item.isCapability with
          | true =>
              rw [capability] at divides
              rw [if_pos rfl, ih ((reaches_succ earlier).mpr ⟨reaches, divides⟩)]
          | false =>
              -- The item divides, so it is the last one that is reached.
              rw [capability] at divides
              rw [if_neg (by simp), nothing_reached behind (Nat.lt_succ_of_lt earlier)]
              intro further
              rw [((reaches_succ earlier).mp further).2] at divides
              cases divides

/-! ## Returns and capabilities at their places -/

/-- What is read from the items of some places is found at the tokens of one kind. -/
theorem filterMap_itemAt? {β : Type} {behind : Kind × Location} {tokens : List Token}
    {read : Item → Option β} {kind : Kind} {build : Placed → β}
    (reads : ∀ place, (itemAt? behind tokens place).bind read =
      if place.1.kind = kind then some (build place) else none)
    (keep : Placed → Prop) [DecidablePred keep] (places : List Placed) :
    (places.filterMap fun place =>
        if keep place then itemAt? behind tokens place else none).filterMap read =
      (places.filter fun place => place.1.kind = kind ∧ keep place).map build := by
  induction places with
  | nil => rfl
  | cons place rest ih =>
      have here := reads place
      rw [filterMap_cons_toList, List.filterMap_append, ih]
      by_cases kept : keep place
      · by_cases ofKind : place.1.kind = kind
        · rw [if_pos ofKind] at here
          obtain ⟨item, found, value⟩ := Option.bind_eq_some_iff.mp here
          simp [kept, ofKind, found, value]
        · rw [if_neg ofKind] at here
          cases found : itemAt? behind tokens place with
          | none => simp [kept, ofKind]
          | some item =>
              rw [found, Option.bind_some] at here
              simp [kept, ofKind, here]
      · simp [kept]

theorem returns_loose (behind : Kind × Location) (tokens : List Token) (places : List Placed) :
    (places.filterMap (looseAt? behind tokens)).filterMap Item.return? =
      (places.filter fun place => place.1.kind = .glyph .chen ∧ ¬ Taken tokens place.2).map
        (returnAt tokens) := by
  unfold looseAt?
  rw [filterMap_itemAt? (itemAt?_return? behind tokens)]
  congr 2
  funext place
  by_cases returned : place.1.kind = .glyph .chen <;> simp [returned]

theorem capabilities_loose (behind : Kind × Location) (tokens : List Token)
    (places : List Placed) :
    (places.filterMap (looseAt? behind tokens)).filterMap Item.capability? =
      (places.filter fun place =>
        place.1.kind = .capability .block ∧ ¬ Taken tokens place.2).map (capabilityAt tokens) := by
  unfold looseAt?
  rw [filterMap_itemAt? (itemAt?_capability? behind tokens)]
  congr 2
  funext place
  by_cases capability : place.1.kind = .capability .block <;> simp [capability]

/-- Only places behind `i` can be reached from there. -/
theorem reached_all (behind : Kind × Location) {tokens before rest : List Token} {token : Token}
    (split : tokens = before ++ token :: rest) :
    reached (itemsBefore behind rest) =
      tokens.zipIdx.filterMap (reachedAt? behind tokens before.length) := by
  have unreached : ∀ place ∈ (before ++ [token]).zipIdx,
      reachedAt? behind tokens before.length place = none := by
    intro place member
    have below := (List.mem_zipIdx member).2.1
    rw [List.length_append, List.length_singleton] at below
    exact if_neg fun reaches => absurd reaches.1 (by omega)
  have reaches := reaches_next tokens before.length
  have behindBlock := @reached_itemsBefore behind tokens (before ++ [token]) rest before.length
    (split_next split) (by rwa [List.length_append, List.length_singleton])
  have places : tokens.zipIdx =
      (before ++ [token]).zipIdx ++ rest.zipIdx (before ++ [token]).length := by
    rw [split_next split, List.zipIdx_append, Nat.zero_add]
  rw [places, List.filterMap_append, List.filterMap_eq_nil_iff.mpr unreached, List.nil_append,
    behindBlock]

/-- A block has what it reaches. -/
theorem blockAt_eq (behind : Kind × Location) {tokens before rest : List Token} {token : Token}
    (split : tokens = before ++ token :: rest) :
    { blockAt tokens (token, before.length) with
        body := ((reached (itemsBefore behind rest)).filterMap Item.capability?).map
          .capabilityBlock
        emit := ((reached (itemsBefore behind rest)).filterMap Item.return?).head?.map
          Return.value } = blockAt tokens (token, before.length) := by
  have body : ((reached (itemsBefore behind rest)).filterMap Item.capability?).map
      .capabilityBlock = (blockAt tokens (token, before.length)).body := by
    rw [reached_all behind split]
    exact congrArg (List.map Construct.capabilityBlock)
      (filterMap_itemAt? (itemAt?_capability? behind tokens)
        (fun place => Reaches tokens before.length place.2) tokens.zipIdx)
  have emit : ((reached (itemsBefore behind rest)).filterMap Item.return?).head?.map Return.value =
      (blockAt tokens (token, before.length)).emit := by
    have returns := filterMap_itemAt? (itemAt?_return? behind tokens)
      (fun place => Reaches tokens before.length place.2) tokens.zipIdx
    rw [reached_all behind split]
    unfold reachedAt?
    rw [returns, List.head?_map, List.head?_filter, Option.map_map]
    rfl
  rw [body, emit]
  rfl

theorem blocksIn_itemsBefore (behind : Kind × Location) {tokens before rest : List Token}
    (split : tokens = before ++ rest) :
    blocksIn (itemsBefore behind rest) =
      ((rest.zipIdx before.length).filter fun place => OpensBlock tokens place.2).map
        (blockAt tokens) := by
  induction rest generalizing before with
  | nil => rfl
  | cons token rest ih =>
      have ih := ih (split_next split)
      rw [List.length_append, List.length_singleton] at ih
      rw [itemsBefore_cons split, List.zipIdx_cons]
      by_cases opens : OpensBlock tokens before.length
      · rw [itemAt?_of_opens split opens, Option.toList_some, List.singleton_append, blocksIn, ih,
          List.filter_cons_of_pos (by simpa using opens), List.map_cons]
        congr 1
        exact blockAt_eq behind split
      · rw [List.filter_cons_of_neg (by simpa using opens), ← ih]
        cases found : itemAt? behind tokens (token, before.length) with
        | none => rfl
        | some item =>
            have noBlock : item.isBlock = false :=
              (isBlock_itemAt split found).trans (decide_eq_false opens)
            exact blocksIn_cons_other noBlock _

/-! ## The whole program -/

/-- The nearest block is the only one that takes in what stands at a place. -/
theorem opener_unique {tokens : List Token} {i other j : Nat} (opens : OpensBlock tokens i)
    (reaches : Reaches tokens i j) (otherOpens : OpensBlock tokens other)
    (otherReaches : Reaches tokens other j) : i = other := by
  have divides {k : Nat} (opensHere : OpensBlock tokens k) : dividesAt tokens k = true := by
    rw [dividesAt, opensHere.1]
    rfl
  rcases Nat.lt_trichotomy i other with before | same | behind
  · have clear := reaches.2 other otherReaches.1 before
    rw [divides otherOpens] at clear
    cases clear
  · exact same
  · have clear := otherReaches.2 i reaches.1 behind
    rw [divides opens] at clear
    cases clear

theorem taken_iff_existsUnique (tokens : List Token) (j : Nat) :
    Taken tokens j ↔ ∃! i, OpensBlock tokens i ∧ Reaches tokens i j := by
  constructor
  · rintro ⟨i, _, opens, reaches⟩
    exact ⟨i, ⟨opens, reaches⟩, fun other both => opener_unique both.1 both.2 opens reaches⟩
  · rintro ⟨i, ⟨opens, reaches⟩, _⟩
    exact ⟨i, reaches.1, opens, reaches⟩

theorem loose_all (behind : Kind × Location) (tokens : List Token) :
    loose false (itemsBefore behind tokens) =
      tokens.zipIdx.filterMap (looseAt? behind tokens) := by
  have nothingTaken : decide (Taken tokens 0) = false := by
    refine decide_eq_false ?_
    rintro ⟨i, below, _⟩
    exact Nat.not_lt_zero i below
  rw [← nothingTaken]
  exact loose_itemsBefore behind (List.nil_append tokens).symm

theorem significant_tokens (tokens : List Token) :
    (significant tokens).tokens =
      (tokens.filter fun token => !token.kind.isTrivia).takeWhile
        fun token => token.kind ≠ .endOfFile := by
  simp only [significant]
  split <;> rfl

/-- Every marker of a block that a name follows gives one block. The block has the
capabilities up to the next other marker, in order, and the value of that marker if
it is a return. All other returns stand in the program in order, and all other
capabilities under their names, of which the last one counts. -/
theorem parseTokens_belongings (tokens : List Token) :
    let kept := (tokens.filter fun token => !token.kind.isTrivia).takeWhile
      fun token => token.kind ≠ .endOfFile
    let program := (parseTokens tokens).program
    program.blocks =
      (kept.zipIdx.filter fun place => OpensBlock kept place.2).map (blockAt kept) ∧
    program.returns =
      (kept.zipIdx.filter fun place =>
        place.1.kind = .glyph .chen ∧ ¬ Taken kept place.2).map (returnAt kept) ∧
    program.capabilityBlocks.Ordered ∧
    (∀ name, program.capabilityBlocks.find? name =
      (((kept.zipIdx.filter fun place =>
        place.1.kind = .capability .block ∧ ¬ Taken kept place.2).map (capabilityAt kept)).filter
          fun block => block.name = name).getLast?) ∧
    ∀ j, Taken kept j ↔ ∃! i, OpensBlock kept i ∧ Reaches kept i j := by
  have filed := parseTokens_program tokens
  rw [significant_tokens] at filed
  intro kept program
  generalize (Kind.endOfFile, (significant tokens).stop) = behind at filed
  change program = Program.ofConstructs (gather (itemsBefore behind kept)) at filed
  refine ⟨?_, ?_, ?_, ?_, taken_iff_existsUnique kept⟩
  · calc program.blocks = (gather (itemsBefore behind kept)).filterMap Construct.block? := by
          rw [filed, Program.ofConstructs, Program.blocks_foldl_add]
          rfl
      _ = blocksIn (itemsBefore behind kept) := block?_gather _
      _ = _ := blocksIn_itemsBefore behind (List.nil_append kept).symm
  · calc program.returns = (gather (itemsBefore behind kept)).filterMap Construct.return? := by
          rw [filed, Program.ofConstructs, Program.returns_foldl_add]
          rfl
      _ = (loose false (itemsBefore behind kept)).filterMap Item.return? :=
          filterMap_gather (fun _ => rfl) _
      _ = _ := by rw [loose_all, returns_loose]
  · rw [filed]
    exact (Program.ordered_empty.foldl_add _).capabilityBlocks
  · intro name
    have selected : (gather (itemsBefore behind kept)).filterMap Construct.capability? =
        (loose false (itemsBefore behind kept)).filterMap Item.capability? := by
      rw [funext Item.capability?_eq]
      exact filterMap_gather (fun _ => rfl) _
    rw [filed, Program.find?_capabilityBlocks, selected, loose_all, capabilities_loose]

end GlyphScript
