import GlyphScript.Interpreter
import GlyphScript.Proofs.Program.Segments
import GlyphScript.Proofs.Token.Locations

/-!
# Where parsing finds errors

Four markers require a name, and an error stands exactly where the token behind
such a marker is no identifier. Nothing else in a source is wrong.

Results:
1. `errors_eq_missingNames`: the list of errors, in order.
2. `checked_of_namesFollow`, `checked_of_missing`: which sources are accepted.
3. `errors_pairwise`: errors of a source stand in reading order.
4. `parse_errors_exactly`: all three.
-/

namespace GlyphScript

/-! ## The tokens up to the end of the file -/

/-- The tokens that count, up to and with the first end-of-file token. If there is
none, one is added where the last token stands. -/
def closedTokens (tokens : List Token) : List Token :=
  let kept := tokens.filter fun token => !token.kind.isTrivia
  let before := kept.takeWhile fun token => token.kind ≠ .endOfFile
  match kept.dropWhile fun token => token.kind ≠ .endOfFile with
  | stop :: _ => before ++ [stop]
  | [] => before ++ [⟨.endOfFile, "", none, (before.getLast?.map Token.location).getD ⟨0, 0⟩⟩]

theorem closedTokens_eq (tokens : List Token) :
    ∃ stop : Token, closedTokens tokens = (significant tokens).tokens ++ [stop] ∧
      stop.kind = .endOfFile ∧ stop.location = (significant tokens).stop := by
  unfold closedTokens significant
  cases rest : (tokens.filter fun token => !token.kind.isTrivia).dropWhile
      fun token => token.kind ≠ .endOfFile with
  | nil =>
      simp only [rest]
      exact ⟨_, rfl, rfl, rfl⟩
  | cons stop behind =>
      have ends := List.head?_dropWhile_not (fun token : Token => decide (token.kind ≠ .endOfFile))
        (tokens.filter fun token => !token.kind.isTrivia)
      rw [rest] at ends
      simp only [rest]
      exact ⟨stop, rfl, by simpa using ends, rfl⟩

/-! ## Missing names -/

/-- The errors of tokens: one for each marker that requires a name and is followed
by another token than an identifier. It names the kind of that token and stands
where that token stands. -/
def missingNames (tokens : List Token) : List ParseError :=
  (tokens.zip tokens.tail).filterMap fun pair =>
    missingName? pair.1.kind.nameRole? (pair.2.kind, pair.2.location)

/-- Every marker that requires a name is followed by an identifier. -/
def NamesFollow (tokens : List Token) : Prop :=
  ∀ pair ∈ tokens.zip tokens.tail,
    pair.1.kind.nameRole?.isSome = true → pair.2.kind = .identifier

instance (tokens : List Token) : Decidable (NamesFollow tokens) :=
  inferInstanceAs (Decidable (∀ pair ∈ tokens.zip tokens.tail, _ → _))

theorem missingNames_cons (token next : Token) (rest : List Token) :
    missingNames (token :: next :: rest) =
      (missingName? token.kind.nameRole? (next.kind, next.location)).toList ++
        missingNames (next :: rest) := by
  cases found : missingName? token.kind.nameRole? (next.kind, next.location) with
  | none => simp [missingNames, found]
  | some error => simp [missingNames, found]

/-- A pair of neighbours on each side of a token is a pair of the whole. -/
theorem missingNames_append (left : List Token) (middle : Token) (right : List Token) :
    missingNames (left ++ middle :: right) =
      missingNames (left ++ [middle]) ++ missingNames (middle :: right) := by
  induction left with
  | nil => rfl
  | cons token rest ih =>
      cases rest with
      | nil =>
          show missingNames (token :: middle :: right) =
            missingNames (token :: middle :: []) ++ missingNames (middle :: right)
          rw [missingNames_cons, missingNames_cons, List.append_assoc]
          rfl
      | cons next others =>
          simp only [List.cons_append] at ih ⊢
          rw [missingNames_cons, ih, missingNames_cons, List.append_assoc]

/-- What a name is required for behind the last token. -/
def lastRole? (tokens : List Token) : Option NameRole :=
  tokens.getLast?.bind fun token => token.kind.nameRole?

theorem missingNames_concat (tokens : List Token) (next : Token) :
    missingNames (tokens ++ [next]) =
      missingNames tokens ++
        (missingName? (lastRole? tokens) (next.kind, next.location)).toList := by
  cases last : tokens.getLast? with
  | none =>
      rw [List.getLast?_eq_none_iff.mp last]
      rfl
  | some token =>
      obtain ⟨before, shape⟩ := List.getLast?_eq_some_iff.mp last
      rw [lastRole?, last, shape, List.append_assoc, List.cons_append, List.nil_append,
        missingNames_append, missingNames_cons]
      simp [missingNames]

theorem missingName?_eq_none_iff (role? : Option NameRole) (next : Kind × Location) :
    missingName? role? next = none ↔ (role?.isSome = true → next.1 = .identifier) := by
  cases role? with
  | none => simp [missingName?]
  | some role => simp [missingName?]

theorem missingNames_eq_nil_iff (tokens : List Token) :
    missingNames tokens = [] ↔ NamesFollow tokens := by
  rw [missingNames, List.filterMap_eq_nil_iff]
  constructor
  · intro named pair member
    exact (missingName?_eq_none_iff _ _).mp (named pair member)
  · intro follow pair member
    exact (missingName?_eq_none_iff _ _).mpr (follow pair member)

/-- Segments miss the same names as the tokens they are cut from. -/
theorem errors_segmentsBefore {stop : Token} (noName : stop.kind ≠ .identifier)
    (tokens : List Token) :
    (segmentsBefore (stop.kind, stop.location) tokens).filterMap
        (fun segment => Item.error? segment.construct) =
      missingNames (tokens ++ [stop]) := by
  induction tokens with
  | nil => rfl
  | cons token rest ih =>
      obtain ⟨next, others, follow⟩ : ∃ next others, rest ++ [stop] = next :: others :=
        List.exists_cons_of_ne_nil (by simp)
      -- Both sides look at the token behind `token`, which may be the end of the file.
      have first : firstBefore (stop.kind, stop.location) rest = (next.kind, next.location) := by
        rw [← firstBefore_append (stop.kind, stop.location) rest stop [], follow]
        rfl
      rw [List.cons_append, follow, missingNames_cons, ← follow, ← ih]
      cases marker : token.kind.marker? with
      | none =>
          rw [segmentsBefore_cons_other _ marker, Kind.nameRole?, marker]
          rfl
      | some found =>
          have aligned := aligned_of_mem noName
            (segmentsBefore_cons_marker (stop.kind, stop.location) marker rest ▸
              List.mem_cons_self)
          rw [segmentsBefore_cons_marker _ marker, List.filterMap_cons,
            error?_construct aligned, first, Kind.nameRole?, marker, Option.bind_some]
          cases missingName? found.nameRole? (next.kind, next.location) with
          | none => rfl
          | some error => rfl

/-- The errors of a program are its missing names. -/
theorem errors_eq_missingNames (tokens : List Token) :
    (parseTokens tokens).errors = missingNames (closedTokens tokens) := by
  obtain ⟨stop, closed, isEnd, place⟩ := closedTokens_eq tokens
  have noName : stop.kind ≠ .identifier := by
    rw [isEnd]
    decide
  have errors := errors_segmentsBefore noName (significant tokens).tokens
  rw [isEnd, place] at errors
  rw [closed, ← errors, ← segments_eq, parseTokens, List.filterMap_map]
  rfl

/-! ## Accepted sources -/

/-- What evaluating a program that was read without errors gives. -/
def Interpreter.execution (interpreter : Interpreter) (program : Program) (machine : Machine) :
    Outcome × Machine :=
  let (last, after) := (machine.registerProgram program).execute interpreter.limit program
  (last.map fun value => value.getD .null, after)

theorem Interpreter.checked_of_noErrors {source : List Char}
    (noErrors : (parse source).errors = []) :
    Interpreter.checked source = .ok (parse source).program := by
  unfold Interpreter.checked
  split
  · next program parsed => rw [parsed]
  · next program errors hasErrors parsed =>
      rw [parsed] at noErrors
      exact (hasErrors noErrors).elim

theorem Interpreter.checked_of_errors {source : List Char}
    (hasErrors : (parse source).errors ≠ []) :
    Interpreter.checked source = .error (.parse (parse source).errors) := by
  unfold Interpreter.checked
  split
  · next program parsed =>
      rw [parsed] at hasErrors
      exact absurd rfl hasErrors
  · next program errors _ parsed => rw [parsed]

theorem checked_of_namesFollow {source : List Char}
    (follow : NamesFollow (closedTokens (tokenize source))) :
    Interpreter.checked source = .ok (parse source).program := by
  apply Interpreter.checked_of_noErrors
  rw [parse, errors_eq_missingNames]
  exact (missingNames_eq_nil_iff _).mpr follow

theorem checked_of_missing {source : List Char}
    (missing : ¬ NamesFollow (closedTokens (tokenize source))) :
    Interpreter.checked source = .error (.parse (parse source).errors) := by
  apply Interpreter.checked_of_errors
  rw [parse, errors_eq_missingNames]
  exact mt (missingNames_eq_nil_iff _).mp missing

/-! ## Reading order -/

theorem missingNames_locations_sublist (tokens : List Token) :
    ((missingNames tokens).map ParseError.location).Sublist (tokens.tail.map Token.location) := by
  induction tokens with
  | nil => exact List.Sublist.refl _
  | cons token rest ih =>
      cases rest with
      | nil => exact List.nil_sublist _
      | cons next others =>
          rw [missingNames_cons, List.map_append]
          have here : ((missingName? token.kind.nameRole? (next.kind, next.location)).toList.map
              ParseError.location).Sublist [next.location] := by
            unfold missingName?
            cases token.kind.nameRole? with
            | none => exact List.nil_sublist _
            | some role =>
                rw [Option.bind_some]
                split
                · exact List.nil_sublist _
                · exact List.Sublist.refl _
          exact here.append ih

/-- A source brings its own end-of-file token, so no token is added. -/
theorem closedTokens_sublist (source : List Char) :
    (closedTokens (tokenize source)).Sublist (tokenize source) := by
  obtain ⟨token, member, isEnd⟩ := endOfFile_mem_tokensFrom .start source
  have kept : token ∈ (tokenize source).filter fun token => !token.kind.isTrivia := by
    rw [List.mem_filter]
    exact ⟨member, by rw [isEnd]; rfl⟩
  refine List.Sublist.trans ?_ (List.filter_sublist (p := fun token => !token.kind.isTrivia))
  unfold closedTokens
  generalize (tokenize source).filter (fun token => !token.kind.isTrivia) = tokens at kept
  have parts := tokens.takeWhile_append_dropWhile
    (p := fun token : Token => decide (token.kind ≠ .endOfFile))
  cases rest : tokens.dropWhile fun token => token.kind ≠ .endOfFile with
  | nil =>
      have noEnd := List.all_takeWhile (p := fun token : Token => decide (token.kind ≠ .endOfFile))
        (l := tokens)
      rw [rest, List.append_nil] at parts
      rw [parts, List.all_eq_true] at noEnd
      exact absurd isEnd (of_decide_eq_true (noEnd token kept))
  | cons stop behind =>
      simp only [rest]
      rw [rest] at parts
      conv => rhs; rw [← parts]
      exact (List.Sublist.refl _).append (List.singleton_sublist.mpr List.mem_cons_self)

theorem errors_pairwise (source : List Char) :
    ((parse source).errors.map ParseError.location).Pairwise Location.Before := by
  have ordered : ((closedTokens (tokenize source)).map Token.location).Pairwise Location.Before :=
    List.pairwise_map.mpr ((tokenize_pairwise source).sublist (closedTokens_sublist source))
  rw [parse, errors_eq_missingNames]
  refine ordered.sublist ((missingNames_locations_sublist _).trans ?_)
  exact (List.tail_sublist _).map _

/-- The errors of a token list are its missing names, in order and nothing else. So
a source is loaded and evaluated exactly if every marker that requires a name has
one; otherwise nothing happens and the errors are given back. The errors of a
source stand in strictly ascending places. -/
theorem parse_errors_exactly :
    (∀ tokens, (parseTokens tokens).errors = missingNames (closedTokens tokens)) ∧
    (∀ (interpreter : Interpreter) (source : List Char) (machine : Machine),
      (NamesFollow (closedTokens (tokenize source)) →
        interpreter.load source machine =
          .ok (interpreter.loadProgram (parse source).program machine) ∧
        interpreter.eval source machine =
          interpreter.execution (parse source).program machine) ∧
      (¬ NamesFollow (closedTokens (tokenize source)) →
        interpreter.load source machine = .error (.parse (parse source).errors) ∧
        interpreter.eval source machine = (.error (.parse (parse source).errors), machine))) ∧
    (∀ source, ((parse source).errors.map ParseError.location).Pairwise Location.Before) := by
  refine ⟨errors_eq_missingNames, ?_, errors_pairwise⟩
  intro interpreter source machine
  constructor
  · intro follow
    rw [Interpreter.load, Interpreter.eval, checked_of_namesFollow follow]
    exact ⟨rfl, rfl⟩
  · intro missing
    rw [Interpreter.load, Interpreter.eval, checked_of_missing missing]
    exact ⟨rfl, rfl⟩

/-- An assignment that is cut short by a block, whose name follows. -/
def bareAssignment : List Char :=
  "⟁Wo⟁ ⟁Xul⟁ fold".toList

/-- The block alone. -/
def namedBlock : List Char :=
  "⟁Xul⟁ fold".toList

theorem parse_errors_exactly_bareAssignment :
    ¬ NamesFollow (closedTokens (tokenize bareAssignment)) ∧
    (parse bareAssignment).errors = [⟨.assignment, .glyph .xul, ⟨1, 6⟩⟩] ∧
    (Interpreter.new 8).eval bareAssignment Machine.empty =
      (.error (.parse (parse bareAssignment).errors), Machine.empty) ∧
    NamesFollow (closedTokens (tokenize namedBlock)) ∧
    (Interpreter.new 8).eval namedBlock Machine.empty =
      (Interpreter.new 8).execution (parse namedBlock).program Machine.empty := by
  have missing : ¬ NamesFollow (closedTokens (tokenize bareAssignment)) := by decide +kernel
  have follow : NamesFollow (closedTokens (tokenize namedBlock)) := by decide +kernel
  have errors : missingNames (closedTokens (tokenize bareAssignment)) =
      [⟨.assignment, .glyph .xul, ⟨1, 6⟩⟩] := by decide +kernel
  obtain ⟨listed, accepted, _⟩ := parse_errors_exactly
  exact ⟨missing, (listed _).trans errors, ((accepted _ _ _).2 missing).2, follow,
    ((accepted _ _ _).1 follow).2⟩

end GlyphScript
