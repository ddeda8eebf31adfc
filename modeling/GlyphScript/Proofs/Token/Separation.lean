import GlyphScript.Proofs.Stretch
import GlyphScript.Proofs.Token.Closing
import GlyphScript.Proofs.Token.Coverage

/-!
# A line end separates sources

Rules look ahead of the characters that they take. A line end stops each of them as
the end of the source does, unless a closing delimiter is still missing.

Results:
1. `lexeme_append`: in front of a line end a closed token is what it is at the end.
2. `tokensFrom_lowered`: where a text stands changes the places of its tokens only.
3. `tokenize_append_lineEnd`: the tokens of two sources with a line end between them.
-/

namespace GlyphScript

namespace Scan

section LineEnd

variable (cs second : List Char)

theorem takeWhile_append_lineEnd {p : Char → Bool} (stop : p '\n' = false) :
    (cs ++ '\n' :: second).takeWhile p = cs.takeWhile p :=
  Stretch.takeWhile_append fun _ first => Option.some.inj first ▸ stop

theorem dropWhile_append_lineEnd {p : Char → Bool} (stop : p '\n' = false) :
    (cs ++ '\n' :: second).dropWhile p = cs.dropWhile p ++ '\n' :: second :=
  Stretch.dropWhile_append fun _ first => Option.some.inj first ▸ stop

/-- A word without a line end is not continued behind one. -/
theorem isPrefixOf_append_lineEnd {word : List Char} (inLine : '\n' ∉ word) :
    word.isPrefixOf (cs ++ '\n' :: second) = word.isPrefixOf cs := by
  induction word generalizing cs with
  | nil => rfl
  | cons w word ih =>
      cases cs with
      | nil => simp [List.isPrefixOf, List.ne_of_not_mem_cons inLine |>.symm]
      | cons c rest =>
          rw [List.cons_append, List.isPrefixOf, List.isPrefixOf,
            ih rest (List.not_mem_of_not_mem_cons inLine)]

theorem head?_append_lineEnd {c : Char} (inLine : c ≠ '\n') :
    (cs ++ '\n' :: second).head? = some c ↔ cs.head? = some c := by
  cases cs with
  | nil => simp [inLine.symm]
  | cons first rest => rfl

/-! ## Lines, numbers and names -/

theorem line_append : line (cs ++ '\n' :: second) = line cs :=
  takeWhile_append_lineEnd cs second rfl

theorem lineComment_append (opening : Nat) :
    lineComment opening (cs ++ '\n' :: second) = lineComment opening cs := by
  rw [lineComment, lineComment, line_append]

theorem capabilityLine_append : capabilityLine (cs ++ '\n' :: second) = capabilityLine cs := by
  unfold capabilityLine
  rw [line_append]

theorem fractionText_append : fractionText (cs ++ '\n' :: second) = fractionText cs := by
  cases cs with
  | nil => rfl
  | cons c rest =>
      by_cases point : c = '.'
      · rw [point, List.cons_append, fractionText, fractionText,
          takeWhile_append_lineEnd rest second rfl]
      · simp [fractionText, point]

theorem signText_append : signText (cs ++ '\n' :: second) = signText cs := by
  cases cs with
  | nil => rfl
  | cons c rest =>
      -- Only the first character counts.
      by_cases plus : c = '+'
      · rw [plus]
        rfl
      · by_cases minus : c = '-'
        · rw [minus]
          rfl
        · simp [signText, plus, minus]

theorem exponentText_append : exponentText (cs ++ '\n' :: second) = exponentText cs := by
  cases cs with
  | nil => rfl
  | cons mark rest =>
      have digits : ((rest ++ '\n' :: second).drop (signText rest).length).takeWhile
          Text.isAsciiDigit = (rest.drop (signText rest).length).takeWhile Text.isAsciiDigit := by
        rw [List.drop_append_of_le_length (signText_isPrefix rest).length_le,
          takeWhile_append_lineEnd _ second rfl]
      simp only [List.cons_append, exponentText, signText_append, digits]

theorem magnitudeText_append : magnitudeText (cs ++ '\n' :: second) = magnitudeText cs := by
  have fits := (fractionText_isPrefix (cs.dropWhile Text.isAsciiDigit)).length_le
  have whole := takeWhile_append_lineEnd (p := Text.isAsciiDigit) cs second rfl
  have rest := dropWhile_append_lineEnd (p := Text.isAsciiDigit) cs second rfl
  simp only [magnitudeText, whole, rest, fractionText_append,
    List.drop_append_of_le_length fits, exponentText_append]

theorem numberText_append (c : Char) :
    numberText (c :: (cs ++ '\n' :: second)) = numberText (c :: cs) := by
  by_cases minus : c = '-'
  · rw [minus, numberText, numberText, magnitudeText_append]
  · have unsigned := magnitudeText_append (c :: cs) second
    rw [List.cons_append] at unsigned
    simp [numberText, minus, unsigned]

theorem number_append (c : Char) : number (c :: (cs ++ '\n' :: second)) = number (c :: cs) := by
  unfold number
  rw [numberText_append]

theorem atom_append : atom (cs ++ '\n' :: second) = atom cs := by
  unfold atom
  rw [takeWhile_append_lineEnd cs second rfl]

theorem identifier_append : identifier (cs ++ '\n' :: second) = identifier cs := by
  unfold identifier
  rw [takeWhile_append_lineEnd cs second rfl]

/-! ## Symbols -/

theorem read?_append : Operator.read? (cs ++ '\n' :: second) = Operator.read? cs := by
  have same : ∀ op : Operator, op.text.toList.isPrefixOf (cs ++ '\n' :: second) =
      op.text.toList.isPrefixOf cs := by
    intro op
    refine isPrefixOf_append_lineEnd cs second ?_
    cases op <;> decide
  simp only [Operator.read?, same]

theorem symbol_append (c : Char) : symbol c (cs ++ '\n' :: second) = symbol c cs := by
  have read := read?_append (c :: cs) second
  have name := identifier_append (c :: cs) second
  simp only [List.cons_append] at read name
  simp only [symbol, read, name]

theorem lexeme_lineEnd : lexeme '\n' second = plain .newline ['\n'] := by
  have read : Operator.read? ('\n' :: second) = none := read?_append [] second
  have notWord : capabilityWord.isPrefixOf ('\n' :: second) = false :=
    isPrefixOf_append_lineEnd [] second (by decide)
  have notDigit : Text.isAsciiDigit '\n' = false := rfl
  have notLetter : Text.isLetter '\n' = false := rfl
  simp [lexeme, symbol, glyphMark, read, notWord, notDigit, notLetter]

/-- In front of a line end a token that is closed is what it is at the end. -/
theorem lexeme_append {c : Char} (closed : closes c cs = true) :
    lexeme c (cs ++ '\n' :: second) = lexeme c cs := by
  have digit : ((cs ++ '\n' :: second).head?.map Text.isAsciiDigit).getD false =
      (cs.head?.map Text.isAsciiDigit).getD false := by
    cases cs <;> rfl
  have word : capabilityWord.isPrefixOf (c :: (cs ++ '\n' :: second)) =
      capabilityWord.isPrefixOf (c :: cs) :=
    isPrefixOf_append_lineEnd (c :: cs) second (by decide)
  have star := head?_append_lineEnd cs second (c := '*') (by decide)
  have slash := head?_append_lineEnd cs second (c := '/') (by decide)
  unfold lexeme
  unfold closes at closed
  -- Both sides choose among the rules by the same tests, one after the other.
  refine ite_congr rfl (fun mark => ?_) fun noMark => ?_
  · rw [if_pos mark] at closed
    exact glyphMarker_append (List.contains_iff_mem.mp closed) _
  rw [if_neg noMark] at closed
  refine ite_congr (by rw [star]) (fun opening => ?_) fun noComment => ?_
  · rw [if_pos opening] at closed
    obtain ⟨body, rfl⟩ := List.head?_eq_some_iff.mp opening.2
    exact blockComment_append closed _
  rw [if_neg noComment] at closed
  refine ite_congr (by rw [slash]) (fun opening => ?_) fun _ => ?_
  · obtain ⟨body, rfl⟩ := List.head?_eq_some_iff.mp opening.2
    exact lineComment_append body second 1
  refine ite_congr rfl (fun _ => lineComment_append cs second 0) fun _ => ?_
  refine ite_congr rfl (fun quote => ?_) fun noQuote => ?_
  · rw [if_pos quote] at closed
    exact string_append closed _
  rw [if_neg noQuote] at closed
  refine ite_congr rfl (fun bracket => ?_) fun _ => ?_
  · rw [if_pos bracket] at closed
    exact span_append closed c _
  refine ite_congr rfl (fun _ => number_append cs second c) fun _ => ?_
  refine ite_congr (by rw [digit]) (fun _ => number_append cs second c) fun _ => ?_
  refine ite_congr rfl (fun _ => atom_append cs second) fun _ => ?_
  refine ite_congr (by rw [word]) (fun _ => capabilityLine_append (c :: cs) second) fun _ => ?_
  exact symbol_append cs second c

end LineEnd

end Scan

/-! ## All tokens -/

/-- Whether every token of a text that needs a closing delimiter has it. -/
def allClosed : List Char → Bool
  | [] => true
  | c :: rest =>
      if isGap c then allClosed rest
      else Scan.closes c rest && allClosed (rest.drop (Scan.lexeme c rest).more)
termination_by cs => cs.length
decreasing_by
  all_goals simp only [List.length_cons, List.length_drop]; omega

theorem tokensFrom_of_gap {c : Char} (isBlank : isGap c = true) (here : Location)
    (rest : List Char) : tokensFrom here (c :: rest) = tokensFrom (here.next c) rest := by
  rw [tokensFrom, if_pos isBlank]

theorem tokensFrom_of_lexeme {c : Char} {rest : List Char} {found : Scan.Lexeme}
    (notBlank : ¬ isGap c = true) (read : Scan.lexeme c rest = found) (here : Location) :
    tokensFrom here (c :: rest) =
      ⟨found.kind, String.ofList found.literal, found.value, here⟩ ::
        tokensFrom (here.after (c :: rest.take found.more)) (rest.drop found.more) := by
  rw [tokensFrom, if_neg notBlank, read]

theorem tokensFrom_append (here : Location) (cs : List Char) (closed : allClosed cs = true)
    (second : List Char) :
    ∃ earlier, tokensFrom here cs = earlier ++ [⟨.endOfFile, "", none, here.after cs⟩] ∧
      tokensFrom here (cs ++ '\n' :: second) =
        earlier ++ ⟨.newline, "\n", none, here.after cs⟩ ::
          tokensFrom ((here.after cs).next '\n') second := by
  fun_induction tokensFrom here cs with
  | case1 here =>
      refine ⟨[], rfl, ?_⟩
      rw [List.nil_append, tokensFrom_of_lexeme (by decide) (Scan.lexeme_lineEnd second)]
      rfl
  | case2 here c rest isBlank ih =>
      rw [allClosed, if_pos isBlank] at closed
      obtain ⟨earlier, alone, followed⟩ := ih closed
      refine ⟨earlier, alone, ?_⟩
      rw [List.cons_append, tokensFrom_of_gap isBlank, followed]
      rfl
  | case3 here c rest notBlank found ih =>
      rw [allClosed, if_neg notBlank, Bool.and_eq_true] at closed
      obtain ⟨earlier, alone, followed⟩ := ih closed.2
      have fits : found.more ≤ rest.length := (Scan.lexeme_fits c rest).within
      have place : (here.after (c :: rest.take found.more)).after (rest.drop found.more) =
          here.after (c :: rest) := by
        rw [← Location.after_append, List.cons_append, List.take_append_drop]
      rw [place] at alone followed
      refine ⟨_ :: earlier, congrArg (_ :: ·) alone, ?_⟩
      rw [List.cons_append, List.cons_append,
        tokensFrom_of_lexeme notBlank (Scan.lexeme_append rest second closed.1),
        List.take_append_of_le_length fits, List.drop_append_of_le_length fits, followed]

/-! ## Lines below -/

/-- The same column some lines below. -/
def Location.lowered (lines : Nat) (here : Location) : Location :=
  ⟨here.line + lines, here.column⟩

def Token.lowered (lines : Nat) (token : Token) : Token :=
  { token with location := token.location.lowered lines }

theorem Location.next_lowered (lines : Nat) (here : Location) (c : Char) :
    (here.lowered lines).next c = (here.next c).lowered lines := by
  unfold next lowered
  split
  · rw [Nat.add_right_comm]
  · rfl

theorem Location.after_lowered (lines : Nat) (here : Location) (cs : List Char) :
    (here.lowered lines).after cs = (here.after cs).lowered lines := by
  induction cs generalizing here with
  | nil => rfl
  | cons c rest ih =>
      change ((here.lowered lines).next c).after rest = ((here.next c).after rest).lowered lines
      rw [next_lowered, ih]

theorem tokensFrom_lowered (lines : Nat) (here : Location) (cs : List Char) :
    tokensFrom (here.lowered lines) cs = (tokensFrom here cs).map (Token.lowered lines) := by
  fun_induction tokensFrom here cs with
  | case1 here => rw [tokensFrom]; rfl
  | case2 here c rest isBlank ih =>
      rw [tokensFrom_of_gap isBlank, Location.next_lowered, ih]
  | case3 here c rest notBlank found ih =>
      rw [tokensFrom_of_lexeme notBlank rfl, Location.after_lowered, ih]
      rfl

/-- A line end separates sources: behind a source without open delimiters it is a
token of its own, in the place of the end of that source, and the tokens behind it
are those of the second source alone, as many lines further down as there are line
ends before. -/
theorem tokenize_append_lineEnd {first : List Char} (closed : allClosed first = true)
    (second : List Char) :
    ∃ earlier stop, tokenize first = earlier ++ [stop] ∧ stop.kind = .endOfFile ∧
      tokenize (first ++ '\n' :: second) =
        earlier ++ ⟨.newline, "\n", none, stop.location⟩ ::
          (tokenize second).map (Token.lowered (1 + first.count '\n')) := by
  obtain ⟨earlier, alone, followed⟩ := tokensFrom_append .start first closed second
  have place : (Location.start.after first).next '\n' =
      Location.start.lowered (1 + first.count '\n') := by
    have behind : Location.behind first = Location.start.after first :=
      Location.behind_append [] first
    rw [← behind, ← Location.behind_concat]
    simp [Location.behind, Location.lowered, Location.start, Nat.add_comm]
  rw [place, tokensFrom_lowered] at followed
  exact ⟨earlier, _, alone, rfl, followed⟩

/-- The string holds a line end of its own, and the digit behind the line end does not
become an exponent. -/
theorem tokenize_append_lineEnd_exponent :
    ∃ earlier stop, tokenize "\"a\nb\" 1e".toList = earlier ++ [stop] ∧
      stop.kind = .endOfFile ∧
      tokenize ("\"a\nb\" 1e".toList ++ '\n' :: ['5']) =
        earlier ++ ⟨.newline, "\n", none, stop.location⟩ ::
          (tokenize ['5']).map (Token.lowered 2) := by
  have closed : allClosed "\"a\nb\" 1e".toList = true := by decide +kernel
  exact tokenize_append_lineEnd closed ['5']

end GlyphScript
