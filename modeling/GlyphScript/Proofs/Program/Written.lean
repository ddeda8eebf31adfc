import GlyphScript.Proofs.Program.Document
import GlyphScript.Proofs.Program.Ownership
import GlyphScript.Proofs.Token.Lines

/-!
# Programs that are written out are read back

Assignments and capabilities can be written as source lines. Parsing the source gives
them back, each where it was written.

Results:
1. `significant_source`: the tokens of a source are those of its lines.
2. `clauses_innerLines`: the parameters and the items of a capability are its clauses.
3. `parse_source`: the source of constructs parses to these constructs.
4. `parse_written`: what that says of assignments and capabilities.
-/

namespace GlyphScript

/-! ## Sources of lines -/

/-- Lines with line ends between them. -/
def sourceText (lines : List Line) : List Char :=
  Text.join ['\n'] (lines.map Line.text)

/-- Where the next line starts. -/
def Line.below (here : Location) (line : Line) : Location :=
  (here.after line.text).next '\n'

/-- The tokens of lines, one below the other. -/
def lineTokens (here : Location) : List Line → List Token
  | [] => []
  | line :: rest => line.tokens here ++ lineTokens (line.below here) rest

theorem lineTokens_append (here : Location) (lines others : List Line) :
    lineTokens here (lines ++ others) =
      lineTokens here lines ++ lineTokens (lines.foldl Line.below here) others := by
  induction lines generalizing here with
  | nil => rfl
  | cons line rest ih =>
      rw [List.cons_append, lineTokens, ih, lineTokens, List.append_assoc]
      rfl

theorem sourceText_cons_cons (line next : Line) (rest : List Line) :
    sourceText (line :: next :: rest) = line.text ++ '\n' :: sourceText (next :: rest) := by
  simp [sourceText, Text.join, List.intercalate]

/-! ## Tokens that count -/

/-- A token that counts and stands before the end of the source. -/
structure Token.Solid (token : Token) : Prop where
  notTrivia : token.kind.isTrivia = false
  notEnd : token.kind ≠ .endOfFile

theorem significant_append {tokens : List Token} (solid : ∀ token ∈ tokens, token.Solid)
    (others : List Token) :
    (significant (tokens ++ others)).tokens = tokens ++ (significant others).tokens := by
  have kept : ∀ token ∈ tokens, (!token.kind.isTrivia) = true := by
    intro token member
    rw [(solid token member).notTrivia]
    rfl
  have inside : ∀ token ∈ tokens, decide (token.kind ≠ .endOfFile) = true :=
    fun token member => decide_eq_true (solid token member).notEnd
  rw [significant_tokens, significant_tokens, List.filter_append, List.filter_eq_self.mpr kept,
    List.takeWhile_append_of_pos inside]

theorem significant_of_trivia {token : Token} (trivia : token.kind.isTrivia = true)
    (others : List Token) :
    (significant (token :: others)).tokens = (significant others).tokens := by
  rw [significant_tokens, significant_tokens, List.filter_cons_of_neg (by simp [trivia])]

theorem solid_valueToken (here : Location) (value : Value) : (valueToken here value).Solid := by
  cases value with
  | bool b => cases b <;> exact ⟨rfl, by simp [valueToken]⟩
  | _ => exact ⟨rfl, by simp [valueToken]⟩

theorem noMarker_valueToken (here : Location) (value : Value) :
    (valueToken here value).kind.isMarker = false := by
  cases value with
  | bool b => cases b <;> rfl
  | _ => rfl

theorem solid_line (here : Location) (line : Line) : ∀ token ∈ line.tokens here, token.Solid := by
  have atValue := fun place value token (equal : token = valueToken place value) =>
    equal ▸ solid_valueToken place value
  cases line with
  | assignment name value =>
      simp only [Line.tokens, List.mem_cons, List.not_mem_nil, or_false]
      rintro token (rfl | rfl | rfl | isValue)
      · exact ⟨rfl, by simp⟩
      · exact ⟨rfl, by simp⟩
      · exact ⟨rfl, by simp⟩
      · exact atValue _ value token isValue
  | opening word =>
      simp only [Line.tokens, List.mem_cons, List.not_mem_nil, or_false]
      rintro token rfl
      exact ⟨rfl, by simp⟩
  | param key value =>
      simp only [Line.tokens, List.mem_cons, List.not_mem_nil, or_false]
      rintro token (rfl | rfl | isValue)
      · exact ⟨rfl, by simp⟩
      · exact ⟨rfl, by simp⟩
      · exact atValue _ value token isValue
  | item value =>
      simp only [Line.tokens, List.mem_cons, List.not_mem_nil, or_false]
      exact atValue here value

/-- A source is read from the tokens of its lines. -/
theorem significant_source (here : Location) {lines : List Line}
    (wellFormed : ∀ line ∈ lines, line.WellFormed) :
    (significant (tokensFrom here (sourceText lines))).tokens = lineTokens here lines := by
  induction lines generalizing here with
  | nil =>
      rw [sourceText, List.map_nil, Text.join, List.intercalate_nil, tokensFrom]
      rfl
  | cons line rest ih =>
      have first := wellFormed line List.mem_cons_self
      have others := ih (line.below here) fun next inRest =>
        wellFormed next (List.mem_cons_of_mem line inRest)
      cases rest with
      | nil =>
          have atEnd : EndsLine [] := by simp [EndsLine]
          have alone := tokensFrom_line first atEnd here
          rw [List.append_nil] at alone
          have text : sourceText [line] = line.text := by
            simp [sourceText, Text.join, List.intercalate]
          rw [text, alone, significant_append (solid_line here line), tokensFrom, lineTokens]
          rfl
      | cons next rest =>
          have ends : EndsLine ('\n' :: sourceText (next :: rest)) :=
            fun c isNext => (Option.some.inj isNext).symm
          rw [sourceText_cons_cons, tokensFrom_line first ends,
            significant_append (solid_line here line),
            tokensFrom_of_lexeme (by decide) (Scan.lexeme_lineEnd _), significant_of_trivia rfl,
            lineTokens]
          exact congrArg (line.tokens here ++ ·) others

/-! ## Clauses of capabilities -/

theorem readValue_valueToken (here : Location) (value : Value) (rest : List Token) :
    readValue (valueToken here value :: rest) = (value, rest) := by
  cases value with
  | bool b => cases b <;> rfl
  | _ => rfl

theorem withoutAtSigns_atom {key : String} (inside : ∀ c ∈ key.toList, Scan.isNameChar c = true) :
    withoutAtSigns (String.ofList ('@' :: key.toList)) = key := by
  have notAt : ∀ c ∈ key.toList.head?, decide (c = '@') = false := by
    intro c isFirst
    refine decide_eq_false ?_
    rintro rfl
    exact absurd (inside _ (List.mem_of_mem_head? isFirst)) (by decide)
  have dropped := (@Stretch.cut_append _ (fun c => decide (c = '@')) ['@'] key.toList
    (List.all_eq_true.mp (by decide)) notAt).2
  rw [withoutAtSigns, String.toList_ofList]
  rw [List.cons_append, List.nil_append] at dropped
  rw [dropped, String.ofList_toList]

theorem clauses_param {key : String} {value : Value}
    (wellFormed : (Line.param key value).WellFormed) (here : Location) (rest : List Token) :
    clauses ((Line.param key value).tokens here ++ rest) = .param key value :: clauses rest := by
  simp only [Line.tokens, List.cons_append, List.nil_append]
  rw [clauses]
  simp only [readArgument, if_true, readValue_valueToken]
  rw [withoutAtSigns_atom wellFormed.1]

theorem clauses_item {value : Value} (wellFormed : (Line.item value).WellFormed)
    (here : Location) (rest : List Token) :
    clauses ((Line.item value).tokens here ++ rest) = .data (some value) :: clauses rest := by
  have container := wellFormed.1
  have json : valueToken here value = ⟨.json, value.toText, some value, here⟩ := by
    cases value with
    | list items => rfl
    | dict entries => rfl
    | _ => cases container
  simp only [Line.tokens, List.cons_append, List.nil_append]
  rw [json, clauses]

/-- The lines of a capability below its opening. -/
def innerLines (params : List (String × Value)) (body : List Value) : List Line :=
  params.map (fun pair => .param pair.1 pair.2) ++ body.map .item

/-- The clauses that these lines stand for. -/
def innerClauses (params : List (String × Value)) (body : List Value) : List Clause :=
  params.map (fun pair => .param pair.1 pair.2) ++ body.map fun value => .data (some value)

theorem clauses_innerLines (here : Location) {params : List (String × Value)} {body : List Value}
    (wellFormed : ∀ line ∈ innerLines params body, line.WellFormed) :
    clauses (lineTokens here (innerLines params body)) = innerClauses params body := by
  induction params generalizing here with
  | nil =>
      induction body generalizing here with
      | nil =>
          show clauses [] = []
          rw [clauses]
      | cons value rest ih =>
          have first := wellFormed (.item value) List.mem_cons_self
          have others := ih (Line.below here (.item value)) fun line inRest =>
            wellFormed line (List.mem_cons_of_mem _ inRest)
          show clauses ((Line.item value).tokens here ++ lineTokens _ (innerLines [] rest)) = _
          rw [clauses_item first, others]
          rfl
  | cons pair rest ih =>
      have first := wellFormed (.param pair.1 pair.2) List.mem_cons_self
      have others := ih (Line.below here (.param pair.1 pair.2)) fun line inRest =>
        wellFormed line (List.mem_cons_of_mem _ inRest)
      show clauses ((Line.param pair.1 pair.2).tokens here ++
        lineTokens _ (innerLines rest body)) = _
      rw [clauses_param first, others]
      rfl

/-! ## What the clauses give -/

section InnerClauses

variable (params : List (String × Value)) (body : List Value)

/-- What looks at parameters only passes over the items. -/
theorem foldl_innerClauses {β : Type} {step : β → Clause → β}
    (idle : ∀ acc value, step acc (.data value) = acc) (acc : β) :
    (innerClauses params body).foldl step acc =
      params.foldl (fun acc pair => step acc (.param pair.1 pair.2)) acc := by
  rw [innerClauses, List.foldl_append, List.foldl_map, List.foldl_map]
  generalize params.foldl (fun acc pair => step acc (.param pair.1 pair.2)) acc = last
  induction body with
  | nil => rfl
  | cons value rest ih => rw [List.foldl_cons, idle, ih]

theorem params_innerClauses : Clause.params (innerClauses params body) = Table.ofList params :=
  foldl_innerClauses params body (fun _ _ => rfl) []

theorem literals_innerClauses : Clause.literals (innerClauses params body) = body := by
  induction params with
  | nil =>
      induction body with
      | nil => rfl
      | cons value rest ih => exact congrArg (value :: ·) ih
  | cons pair rest ih => exact ih

/-- One clause after the other, the last text under the name of the handler stays. -/
theorem foldl_handler {params : List (String × Value)} (distinct : (Table.names params).Nodup)
    (acc : Option String) :
    params.foldl (fun acc pair => match Clause.param pair.1 pair.2 with
      | .param "handler" (.text target) => some target
      | _ => acc) acc =
      ((Table.find? params "handler").bind Value.text?).or acc := by
  induction params generalizing acc with
  | nil => rfl
  | cons pair rest ih =>
      obtain ⟨key, value⟩ := pair
      obtain ⟨absent, distinctRest⟩ := List.nodup_cons.mp distinct
      rw [List.foldl_cons, ih distinctRest, Table.find?]
      by_cases named : "handler" = key
      · -- No later parameter has this name, so this one is the last.
        subst named
        rw [Table.find?_eq_none_iff.mpr absent, if_pos rfl]
        cases value <;> rfl
      · rw [if_neg named]
        congr 1
        split
        · next same => exact absurd (Clause.param.inj same).1.symm named
        · rfl

theorem handler?_innerClauses (distinct : (Table.names params).Nodup) :
    Clause.handler? (innerClauses params body) =
      ((Table.ofList params).find? "handler").bind Value.text? := by
  have found := foldl_handler distinct none
  rw [Option.or_none] at found
  rw [Table.find?_ofList distinct, ← found]
  exact foldl_innerClauses params body (fun _ _ => rfl) none

end InnerClauses

/-! ## Constructs as they are written -/

/-- An assignment or a block of capabilities. The parameters stand in the order in
which they are written. -/
inductive Written where
  | assignment (name : String) (value : Value)
  | capability (word : String) (params : List (String × Value)) (body : List Value)

namespace Written

def lines : Written → List Line
  | assignment name value => [.assignment name value]
  | capability word params body => .opening word :: innerLines params body

/-- No parameter is written twice. -/
def DistinctKeys : Written → Prop
  | assignment _ _ => True
  | capability _ params _ => (Table.names params).Nodup

structure WellFormed (written : Written) : Prop where
  lines : ∀ line ∈ written.lines, line.WellFormed
  keys : written.DistinctKeys

/-- Constructs written one below the other. -/
def source (constructs : List Written) : List Char :=
  sourceText (constructs.flatMap lines)

/-- What is written from a place of the source on. -/
def construct (here : Location) : Written → Construct
  | assignment name value => .assignment ⟨name, value, here⟩
  | capability word params body =>
      .capabilityBlock ⟨word, ((Table.ofList params).find? "handler").bind Value.text?,
        Table.ofList params, body, here⟩

/-- Constructs, each at the place of its first line. -/
def placed (here : Location) : List Written → List Construct
  | [] => []
  | written :: rest => written.construct here :: placed (written.lines.foldl Line.below here) rest

end Written

/-! ## Items of segments -/

theorem construct_assignment (name : String) (value : Value) (token : Token)
    (named equals valued : Location) (next : Kind × Location) :
    Segment.construct ⟨.assignment, token,
      [⟨.identifier, name, none, named⟩, ⟨.operator .assign, "=", none, equals⟩,
        valueToken valued value], next⟩ =
      .ok (.assignment ⟨name, value, token.location⟩) := by
  have assigned : Segment.assignedValue
      [⟨.operator .assign, "=", none, equals⟩, valueToken valued value] = value := by
    rw [Segment.assignedValue, if_pos rfl, readValue_valueToken]
  show Except.ok (Construct.assignment ⟨name, Segment.assignedValue _, token.location⟩) = _
  rw [assigned]

theorem field?_capabilityValue (word : String) :
    (capabilityValue word.toList).field? "name" = some (.text word) := by
  show (Table.ofList _).find? "name" = some (Value.text word)
  rw [Table.find?_ofList (by simp [Table.names]), Scan.ofChars, String.ofList_toList]
  rfl

theorem construct_capability {word : String} {params : List (String × Value)}
    {body : List Value} (wellFormed : ∀ line ∈ innerLines params body, line.WellFormed)
    (distinct : (Table.names params).Nodup) (literal : String) (here below : Location)
    (next : Kind × Location) :
    Segment.construct ⟨.capability .block,
      ⟨.capability .block, literal, some (capabilityValue word.toList), here⟩,
      lineTokens below (innerLines params body), next⟩ =
      .ok ((Written.capability word params body).construct here) := by
  have name : Segment.nameOr ⟨.capability .block,
      ⟨.capability .block, literal, some (capabilityValue word.toList), here⟩,
      lineTokens below (innerLines params body), next⟩ "unknown" = word := by
    show (((capabilityValue word.toList).field? "name").bind Value.text?).getD "unknown" = word
    rw [field?_capabilityValue]
    rfl
  show Except.ok (Construct.capabilityBlock (Segment.capabilityBlock _)) = _
  simp only [Segment.capabilityBlock]
  rw [name, clauses_innerLines below wellFormed, handler?_innerClauses params body distinct,
    params_innerClauses, literals_innerClauses]
  rfl

theorem mem_lineTokens {here : Location} {lines : List Line} {token : Token}
    (member : token ∈ lineTokens here lines) :
    ∃ line ∈ lines, ∃ place, token ∈ line.tokens place := by
  induction lines generalizing here with
  | nil => cases member
  | cons line rest ih =>
      rcases List.mem_append.mp member with inFirst | inRest
      · exact ⟨line, List.mem_cons_self, here, inFirst⟩
      · obtain ⟨other, inLines, place, inOther⟩ := ih inRest
        exact ⟨other, List.mem_cons_of_mem line inLines, place, inOther⟩

/-- No construct starts below the opening of a capability. -/
theorem noMarker_innerLines {here : Location} {params : List (String × Value)}
    {body : List Value} :
    ∀ token ∈ lineTokens here (innerLines params body), token.kind.isMarker = false := by
  intro token member
  obtain ⟨line, inner, place, inLine⟩ := mem_lineTokens member
  rcases List.mem_append.mp inner with isParam | isItem
  · obtain ⟨pair, -, rfl⟩ := List.mem_map.mp isParam
    simp only [Line.tokens, List.mem_cons, List.not_mem_nil, or_false] at inLine
    rcases inLine with rfl | rfl | rfl
    · rfl
    · rfl
    · exact noMarker_valueToken _ pair.2
  · obtain ⟨value, -, rfl⟩ := List.mem_map.mp isItem
    cases List.mem_singleton.mp inLine
    exact noMarker_valueToken place value

theorem marker_head_written (here : Location) (constructs : List Written) :
    ∀ token ∈ (lineTokens here (constructs.flatMap Written.lines)).head?,
      token.kind.isMarker = true := by
  cases constructs with
  | nil => nofun
  | cons written rest =>
      cases written with
      | assignment name value =>
          intro token isFirst
          cases isFirst
          rfl
      | capability word params body =>
          intro token isFirst
          cases isFirst
          rfl

/-- The lines of a construct are one item. -/
theorem itemsBefore_written (behind : Kind × Location) {written : Written}
    (wellFormed : written.WellFormed) (here : Location) {rest : List Token}
    (cut : ∀ token ∈ rest.head?, token.kind.isMarker = true) :
    itemsBefore behind (lineTokens here written.lines ++ rest) =
      .ok (written.construct here) :: itemsBefore behind rest := by
  cases written with
  | assignment name value =>
      have inside : ∀ named equals valued, ∀ token ∈
          [(⟨.identifier, name, none, named⟩ : Token), ⟨.operator .assign, "=", none, equals⟩,
            valueToken valued value], token.kind.isMarker = false := by
        intro named equals valued token member
        simp only [List.mem_cons, List.not_mem_nil, or_false] at member
        rcases member with rfl | rfl | rfl
        · rfl
        · rfl
        · exact noMarker_valueToken valued value
      -- The marker, and the name, the sign and the value that belong to it.
      show itemsBefore behind (_ :: ([_, _, _] ++ rest)) = _
      rw [itemsBefore_segment behind rfl (inside _ _ _) cut, construct_assignment]
      rfl
  | capability word params body =>
      have inner : ∀ line ∈ innerLines params body, line.WellFormed :=
        fun line member => wellFormed.lines line (List.mem_cons_of_mem _ member)
      show itemsBefore behind (_ :: (lineTokens _ (innerLines params body) ++ rest)) = _
      rw [itemsBefore_segment behind rfl noMarker_innerLines cut,
        construct_capability inner wellFormed.keys]

theorem itemsBefore_source (behind : Kind × Location) {constructs : List Written}
    (wellFormed : ∀ written ∈ constructs, written.WellFormed) (here : Location) :
    itemsBefore behind (lineTokens here (constructs.flatMap Written.lines)) =
      (Written.placed here constructs).map .ok := by
  induction constructs generalizing here with
  | nil => rfl
  | cons written rest ih =>
      have first := wellFormed written List.mem_cons_self
      have others := ih fun other inRest => wellFormed other (List.mem_cons_of_mem written inRest)
      rw [List.flatMap_cons, lineTokens_append,
        itemsBefore_written behind first here (marker_head_written _ rest), others]
      rfl

/-! ## The program of a source -/

/-- Nothing that is written takes in what follows it. -/
theorem gather_placed (here : Location) (constructs : List Written) :
    gather ((Written.placed here constructs).map .ok) = Written.placed here constructs := by
  induction constructs generalizing here with
  | nil =>
      show gather [] = []
      rw [gather]
  | cons written rest ih =>
      cases written with
      | assignment name value =>
          show gather (.ok (.assignment _) :: List.map _ _) = _
          rw [gather, ih]
          · rfl
          · simp
      | capability word params body =>
          show gather (.ok (.capabilityBlock _) :: List.map _ _) = _
          rw [gather, ih]
          · rfl
          · simp

theorem parse_source {constructs : List Written}
    (wellFormed : ∀ written ∈ constructs, written.WellFormed) :
    parse (Written.source constructs) =
      ⟨Program.ofConstructs (Written.placed .start constructs), []⟩ := by
  have lines : ∀ line ∈ constructs.flatMap Written.lines, line.WellFormed := by
    intro line member
    obtain ⟨written, inConstructs, inLines⟩ := List.mem_flatMap.mp member
    exact (wellFormed written inConstructs).lines line inLines
  have tokens : (significant (tokenize (Written.source constructs))).tokens =
      lineTokens .start (constructs.flatMap Written.lines) := significant_source .start lines
  have items : (segments (significant (tokenize (Written.source constructs))).stop
      (significant (tokenize (Written.source constructs))).tokens).map Segment.construct =
      (Written.placed .start constructs).map .ok := by
    rw [segments_eq, tokens]
    exact itemsBefore_source _ wellFormed .start
  have noErrors : ((Written.placed .start constructs).map .ok).filterMap Item.error? = [] := by
    rw [List.filterMap_map]
    exact List.filterMap_eq_nil_iff.mpr fun _ _ => rfl
  rw [parse, parseTokens, items, noErrors, gather_placed]

namespace Written

def assigned? : Written → Option (String × Value)
  | assignment name value => some (name, value)
  | capability _ _ _ => none

/-- Parameters and items of a capability with this name. -/
def under? (word : String) : Written → Option (List (String × Value) × List Value)
  | assignment _ _ => none
  | capability name params body => if name = word then some (params, body) else none

/-- The last capability that is written with this name. -/
def lastUnder (word : String) (constructs : List Written) :
    Option (List (String × Value) × List Value) :=
  (constructs.filterMap (under? word)).getLast?

theorem assignments_placed (here : Location) (constructs : List Written) :
    ((placed here constructs).filterMap Construct.assignment?).map
        (fun binding => (binding.name, binding.value)) =
      constructs.filterMap assigned? := by
  induction constructs generalizing here with
  | nil => rfl
  | cons written rest ih =>
      cases written with
      | assignment name value => exact congrArg ((name, value) :: ·) (ih _)
      | capability word params body => exact ih _

/-- A capability as it is read, wherever it stands. -/
def read (word : String) (written : List (String × Value) × List Value) : CapabilityBlock :=
  ⟨word, ((Table.ofList written.1).find? "handler").bind Value.text?, Table.ofList written.1,
    written.2, .start⟩

theorem capabilities_placed (word : String) (here : Location) (constructs : List Written) :
    (((placed here constructs).filterMap Construct.capability?).filter
        fun block => block.name = word).map CapabilityBlock.bare =
      (constructs.filterMap (under? word)).map (read word) := by
  induction constructs generalizing here with
  | nil => rfl
  | cons written rest ih =>
      cases written with
      | assignment name value => exact ih _
      | capability name params body =>
          show List.map _ (List.filter _ ((_ : CapabilityBlock) :: _)) = _
          by_cases same : name = word
          · subst same
            rw [List.filter_cons_of_pos (by simp), List.map_cons, ih, List.filterMap_cons_some
              (show under? name (capability name params body) = some (params, body) from
                if_pos rfl)]
            rfl
          · rw [List.filter_cons_of_neg (by simpa using same), ih, List.filterMap_cons_none
              (show under? word (capability name params body) = none from if_neg same)]

end Written

theorem find?_written (word : String) (here : Location) (constructs : List Written) :
    ((Program.ofConstructs (Written.placed here constructs)).capabilityBlocks.find? word).map
        CapabilityBlock.bare =
      (Written.lastUnder word constructs).map (Written.read word) := by
  rw [Program.find?_capabilityBlocks, ← List.getLast?_map, Written.capabilities_placed,
    List.getLast?_map]
  rfl

theorem bind_text?_eq_some_iff {value : Option Value} {target : String} :
    value.bind Value.text? = some target ↔ value = some (.text target) := by
  cases value with
  | none => simp
  | some value => cases value <;> simp [Value.text?]

/-- A source of assignments and capabilities is read without errors. The assignments stand
in order with their values. Under each name there is the last capability written with it,
with its parameters and items, and the handler is the text among them. -/
theorem parse_written {constructs : List Written}
    (wellFormed : ∀ written ∈ constructs, written.WellFormed) :
    (parse (Written.source constructs)).errors = [] ∧
      (parse (Written.source constructs)).program.assignments.map
          (fun binding => (binding.name, binding.value)) =
        constructs.filterMap Written.assigned? ∧
      (∀ word, Written.lastUnder word constructs = none →
        (parse (Written.source constructs)).program.capabilityBlocks.find? word = none) ∧
      ∀ word params body, Written.lastUnder word constructs = some (params, body) →
        ∃ block, (parse (Written.source constructs)).program.capabilityBlocks.find? word =
            some block ∧
          block.name = word ∧ block.params = Table.ofList params ∧ block.body = body ∧
          ∀ target, block.handler = some target ↔
            block.params.find? "handler" = some (.text target) := by
  rw [parse_source wellFormed]
  refine ⟨rfl, ?_, ?_, ?_⟩
  · show List.map _ (List.foldl _ _ _ : Program).assignments = _
    rw [Program.assignments_foldl_add]
    exact Written.assignments_placed .start constructs
  · intro word absent
    have read := find?_written word .start constructs
    rw [absent] at read
    exact Option.map_eq_none_iff.mp read
  · intro word params body written
    have read := find?_written word .start constructs
    rw [written] at read
    obtain ⟨block, found, bare⟩ := Option.map_eq_some_iff.mp read
    obtain ⟨name, handler, blockParams, blockBody, location⟩ := block
    cases bare
    exact ⟨_, found, rfl, rfl, rfl, fun target => bind_text?_eq_some_iff⟩

/-- A text with quotes and brackets, and one name for two capabilities. -/
def twoDoors : List Written :=
  [.assignment "greeting" (.text "say \"hi\" \\ \n]"),
    .capability "DOOR" [("handler", .text "knock")] [],
    .assignment "open" (.bool false),
    .capability "DOOR" [("size", .null), ("handler", .text "push")]
      [.list [.text "]\"", .dict []], .dict [("key", .list [])]]]

theorem wellFormed_twoDoors : ∀ written ∈ twoDoors, written.WellFormed := by
  have door : (Line.opening "DOOR").WellFormed :=
    ⟨by decide, List.all_eq_true.mp (by decide), by decide, by decide⟩
  have ordered : (Value.list [.text "]\"", .dict []]).Ordered ∧
      (Value.dict [("key", .list [])]).Ordered := by
    simp [Value.Ordered, Value.OrderedItems, Value.OrderedEntries, Table.Ordered]
  simp only [twoDoors, List.mem_cons, List.not_mem_nil, or_false]
  rintro written (rfl | rfl | rfl | rfl)
  · refine ⟨?_, trivial⟩
    simp only [Written.lines, List.mem_cons, List.not_mem_nil, or_false]
    rintro line rfl
    exact ⟨.of_all ⟨'g', rfl, by decide⟩ (by decide), by decide, rfl, trivial, Nat.zero_le _⟩
  · refine ⟨?_, by simp [Written.DistinctKeys, Table.names]⟩
    simp only [Written.lines, innerLines, List.map_cons, List.map_nil, List.append_nil,
      List.mem_cons, List.not_mem_nil, or_false]
    rintro line (rfl | rfl)
    · exact door
    · exact ⟨List.all_eq_true.mp (by decide), rfl, trivial, Nat.zero_le _⟩
  · refine ⟨?_, trivial⟩
    simp only [Written.lines, List.mem_cons, List.not_mem_nil, or_false]
    rintro line rfl
    exact ⟨.of_all ⟨'o', rfl, by decide⟩ (by decide), by decide, rfl, trivial, Nat.zero_le _⟩
  · refine ⟨?_, by simp [Written.DistinctKeys, Table.names]⟩
    simp only [Written.lines, innerLines, List.map_cons, List.map_nil, List.cons_append,
      List.nil_append, List.mem_cons, List.not_mem_nil, or_false]
    rintro line (rfl | rfl | rfl | rfl | rfl)
    · exact door
    · exact ⟨List.all_eq_true.mp (by decide), rfl, trivial, Nat.zero_le _⟩
    · exact ⟨List.all_eq_true.mp (by decide), rfl, trivial, Nat.zero_le _⟩
    · exact ⟨rfl, rfl, ordered.1, by decide⟩
    · exact ⟨rfl, rfl, ordered.2, by decide⟩

theorem parse_written_twoDoors :
    (parse (Written.source twoDoors)).errors = [] ∧
      (parse (Written.source twoDoors)).program.assignments.map
          (fun binding => (binding.name, binding.value)) =
        [("greeting", .text "say \"hi\" \\ \n]"), ("open", .bool false)] ∧
      (parse (Written.source twoDoors)).program.capabilityBlocks.find? "GATE" = none ∧
      ∃ block, (parse (Written.source twoDoors)).program.capabilityBlocks.find? "DOOR" =
          some block ∧
        block.handler = some "push" ∧
        block.body = [.list [.text "]\"", .dict []], .dict [("key", .list [])]] := by
  obtain ⟨errors, assignments, absent, present⟩ := parse_written wellFormed_twoDoors
  obtain ⟨block, found, -, params, body, handler⟩ := present "DOOR" _ _ rfl
  refine ⟨errors, assignments, absent "GATE" rfl, block, found, (handler "push").mpr ?_, body⟩
  rw [params]
  rfl

end GlyphScript
