import GlyphScript.Proofs.Decimal.NumberText
import GlyphScript.Proofs.Token.Coverage

/-!
# Numbers are the longest match

The scanner takes a number part by part, and looks one or two characters ahead before it
takes a point or an exponent. What it takes is the longest start of the text that the
grammar of numbers allows, and always a number that can be read.

Results:
1. `numberText_longest`: no longer start of a text is a number.
2. `readNumeral_of_isNumber`: what the grammar allows is read as a decimal.
3. `lexeme_number_iff`: a number is scanned wherever one starts.
4. `numbers_longest`: the rules above at every place where a token of a source is read.
-/

namespace GlyphScript

namespace Scan

open Text (isAsciiDigit)
open Decimal (AllDigits readSign readExponent readDecimal readNumeral)

/-! ## The grammar -/

/-- One or more digits. -/
structure IsDigits (cs : List Char) : Prop where
  nonempty : cs ≠ []
  digits : AllDigits cs

inductive IsFraction : List Char → Prop where
  | absent : IsFraction []
  | point {digits : List Char} (isDigits : IsDigits digits) : IsFraction ('.' :: digits)

inductive IsSign : List Char → Prop where
  | absent : IsSign []
  | plus : IsSign ['+']
  | minus : IsSign ['-']

inductive IsExponent : List Char → Prop where
  | absent : IsExponent []
  | marked {mark : Char} {sign digits : List Char} (isMark : mark = 'e' ∨ mark = 'E')
      (isSign : IsSign sign) (isDigits : IsDigits digits) : IsExponent (mark :: (sign ++ digits))

/-- A number without a sign. -/
inductive IsMagnitude : List Char → Prop where
  | parts {whole fraction exponent : List Char} (isWhole : IsDigits whole)
      (isFraction : IsFraction fraction) (isExponent : IsExponent exponent) :
      IsMagnitude (whole ++ (fraction ++ exponent))

/-- Numbers can have a minus sign, and no plus sign. -/
inductive IsNumber : List Char → Prop where
  | plain {cs : List Char} (isMagnitude : IsMagnitude cs) : IsNumber cs
  | minus {cs : List Char} (isMagnitude : IsMagnitude cs) : IsNumber ('-' :: cs)

/-- The longest start of a text that is a number. -/
structure LongestNumber (cs text : List Char) : Prop where
  start : text <+: cs
  isNumber : IsNumber text
  longest : ∀ other, other <+: cs → IsNumber other → other.length ≤ text.length

theorem ne_of_digit {c other : Char} (digit : isAsciiDigit c = true)
    (outside : isAsciiDigit other = false) : c ≠ other := by
  rintro rfl
  rw [digit] at outside
  cases outside

theorem signText_of_digit {c : Char} (digit : isAsciiDigit c = true) (rest : List Char) :
    signText (c :: rest) = [] := by
  have noPlus : c ≠ '+' := ne_of_digit digit rfl
  have noMinus : c ≠ '-' := ne_of_digit digit rfl
  simp [signText, noPlus, noMinus]

theorem readSign_of_digit {c : Char} (digit : isAsciiDigit c = true) (rest : List Char) :
    readSign (c :: rest) = (false, c :: rest) := by
  have noPlus : c ≠ '+' := ne_of_digit digit rfl
  have noMinus : c ≠ '-' := ne_of_digit digit rfl
  simp [readSign, noPlus, noMinus]

theorem numberText_of_digit {c : Char} (digit : isAsciiDigit c = true) (rest : List Char) :
    numberText (c :: rest) = magnitudeText (c :: rest) := by
  have noMinus : c ≠ '-' := ne_of_digit digit rfl
  simp [numberText, noMinus]

theorem IsDigits.head {cs : List Char} (isDigits : IsDigits cs) :
    ∃ c rest, cs = c :: rest ∧ isAsciiDigit c = true := by
  obtain ⟨c, rest, rfl⟩ := List.exists_cons_of_ne_nil isDigits.nonempty
  exact ⟨c, rest, rfl, isDigits.digits c List.mem_cons_self⟩

theorem IsMagnitude.head {cs : List Char} (isMagnitude : IsMagnitude cs) :
    ∃ c rest, cs = c :: rest ∧ isAsciiDigit c = true := by
  cases isMagnitude with
  | parts isWhole _ _ =>
      obtain ⟨c, rest, rfl, digit⟩ := isWhole.head
      exact ⟨c, _, rfl, digit⟩

/-! ## What is taken is a number -/

theorem isDigits_takeWhile {cs : List Char} (nonempty : cs.takeWhile isAsciiDigit ≠ []) :
    IsDigits (cs.takeWhile isAsciiDigit) :=
  ⟨nonempty, List.all_eq_true.mp List.all_takeWhile⟩

theorem isFraction_fractionText (cs : List Char) : IsFraction (fractionText cs) := by
  unfold fractionText
  split
  · split
    · exact .absent
    · next some => exact .point (isDigits_takeWhile some)
  · exact .absent

theorem isSign_signText (cs : List Char) : IsSign (signText cs) := by
  unfold signText
  split
  · exact .plus
  · exact .minus
  · exact .absent

theorem isExponent_exponentText (cs : List Char) : IsExponent (exponentText cs) := by
  unfold exponentText
  split
  · next mark rest =>
      split
      · next isMark =>
          simp only
          split
          · exact .absent
          · next some => exact .marked isMark (isSign_signText rest) (isDigits_takeWhile some)
      · exact .absent
  · exact .absent

theorem isMagnitude_magnitudeText {c : Char} (digit : isAsciiDigit c = true) (rest : List Char) :
    IsMagnitude (magnitudeText (c :: rest)) := by
  unfold magnitudeText
  rw [List.append_assoc]
  refine .parts (isDigits_takeWhile ?_) (isFraction_fractionText _) (isExponent_exponentText _)
  rw [List.takeWhile_cons_of_pos digit]
  exact List.cons_ne_nil _ _

/-! ## No more could be taken -/

/-- Digits are taken with all digits behind them. -/
theorem IsDigits.takeWhile_append {digits : List Char} (isDigits : IsDigits digits)
    (rest : List Char) :
    (digits ++ rest).takeWhile isAsciiDigit = digits ++ rest.takeWhile isAsciiDigit :=
  List.takeWhile_append_of_pos isDigits.digits

theorem fractionText_point {digits : List Char} (isDigits : IsDigits digits) (rest : List Char) :
    fractionText ('.' :: (digits ++ rest)) = '.' :: (digits ++ rest.takeWhile isAsciiDigit) := by
  obtain ⟨c, others, rfl, -⟩ := isDigits.head
  rw [fractionText, isDigits.takeWhile_append]
  rfl

theorem signText_of_isSign {sign digits : List Char} (isSign : IsSign sign)
    (isDigits : IsDigits digits) (rest : List Char) :
    signText (sign ++ (digits ++ rest)) = sign := by
  cases isSign with
  | absent =>
      obtain ⟨c, others, rfl, digit⟩ := isDigits.head
      exact signText_of_digit digit _
  | plus => rfl
  | minus => rfl

theorem exponentText_marked {mark : Char} {sign digits : List Char}
    (isMark : mark = 'e' ∨ mark = 'E') (isSign : IsSign sign) (isDigits : IsDigits digits)
    (rest : List Char) :
    exponentText (mark :: (sign ++ (digits ++ rest))) =
      mark :: (sign ++ (digits ++ rest.takeWhile isAsciiDigit)) := by
  have taken := isDigits.takeWhile_append rest
  obtain ⟨c, others, rfl, -⟩ := isDigits.head
  simp only [exponentText, if_pos isMark, signText_of_isSign isSign isDigits, List.drop_left, taken]
  rfl

theorem IsFraction.length_le {fraction : List Char} (isFraction : IsFraction fraction)
    (rest : List Char) : fraction.length ≤ (fractionText (fraction ++ rest)).length := by
  cases isFraction with
  | absent => exact Nat.zero_le _
  | point isDigits =>
      rw [List.cons_append, fractionText_point isDigits, ← List.cons_append]
      exact (List.prefix_append _ _).length_le

theorem IsExponent.length_le {exponent : List Char} (isExponent : IsExponent exponent)
    (rest : List Char) : exponent.length ≤ (exponentText (exponent ++ rest)).length := by
  cases isExponent with
  | absent => exact Nat.zero_le _
  | marked isMark isSign isDigits =>
      rw [List.cons_append, List.append_assoc, exponentText_marked isMark isSign isDigits,
        ← List.append_assoc, ← List.cons_append]
      exact (List.prefix_append _ _).length_le

/-- In front of the mark of an exponent a fraction is taken as it is. -/
theorem IsFraction.fractionText_eq {fraction : List Char} (isFraction : IsFraction fraction)
    {mark : Char} (isMark : mark = 'e' ∨ mark = 'E') (rest : List Char) :
    fractionText (fraction ++ mark :: rest) = fraction := by
  cases isFraction with
  | absent => rcases isMark with rfl | rfl <;> rfl
  | point isDigits =>
      have noDigit : isAsciiDigit mark = false := by rcases isMark with rfl | rfl <;> rfl
      rw [List.cons_append, fractionText_point isDigits,
        List.takeWhile_cons_of_neg (by simp [noDigit]), List.append_nil]

/-- The two optional parts. A fraction that could be longer has no exponent behind it. -/
theorem length_le_optionalParts {fraction exponent : List Char} (isFraction : IsFraction fraction)
    (isExponent : IsExponent exponent) (rest : List Char) :
    (fraction ++ exponent).length ≤
      (fractionText (fraction ++ (exponent ++ rest)) ++
        exponentText ((fraction ++ (exponent ++ rest)).drop
          (fractionText (fraction ++ (exponent ++ rest))).length)).length := by
  rw [List.length_append, List.length_append]
  cases isExponent with
  | absent => exact Nat.add_le_add (isFraction.length_le rest) (Nat.zero_le _)
  | @marked mark sign digits isMark isSign isDigits =>
      have exact : fractionText (fraction ++ (mark :: (sign ++ digits) ++ rest)) = fraction :=
        isFraction.fractionText_eq isMark _
      rw [exact, List.drop_left]
      exact Nat.add_le_add_left (IsExponent.length_le (.marked isMark isSign isDigits) rest) _

/-- The digits before the point or the exponent end where one of these starts. -/
theorem noDigit_of_optionalParts {fraction exponent : List Char} (isFraction : IsFraction fraction)
    (isExponent : IsExponent exponent) (some : fraction ++ exponent ≠ []) (rest : List Char) :
    ∀ c ∈ (fraction ++ (exponent ++ rest)).head?, isAsciiDigit c = false := by
  intro c isFirst
  cases isFraction with
  | point _ =>
      cases isFirst
      rfl
  | absent =>
      cases isExponent with
      | absent => exact absurd rfl some
      | marked isMark _ _ =>
          cases isFirst
          rcases isMark with rfl | rfl <;> rfl

theorem IsMagnitude.length_le {cs : List Char} (isMagnitude : IsMagnitude cs) (rest : List Char) :
    cs.length ≤ (magnitudeText (cs ++ rest)).length := by
  cases isMagnitude with
  | @parts whole fraction exponent isWhole isFraction isExponent =>
      unfold magnitudeText
      rw [List.append_assoc, List.append_assoc, List.append_assoc]
      by_cases bare : fraction ++ exponent = []
      · obtain ⟨rfl, rfl⟩ := List.append_eq_nil_iff.mp bare
        rw [isWhole.takeWhile_append, List.append_assoc]
        exact ((List.prefix_append_right_inj whole).mpr List.nil_prefix).length_le
      · obtain ⟨taken, behind⟩ := Stretch.cut_append isWhole.digits
          (noDigit_of_optionalParts isFraction isExponent bare rest)
        rw [taken, behind, @List.length_append _ whole, @List.length_append _ whole]
        exact Nat.add_le_add_left (length_le_optionalParts isFraction isExponent rest) _

theorem IsNumber.length_le {cs : List Char} (isNumber : IsNumber cs) (rest : List Char) :
    cs.length ≤ (numberText (cs ++ rest)).length := by
  cases isNumber with
  | minus isMagnitude => exact Nat.succ_le_succ (isMagnitude.length_le rest)
  | plain isMagnitude =>
      have fits := isMagnitude.length_le rest
      obtain ⟨c, others, rfl, digit⟩ := isMagnitude.head
      rw [List.cons_append, numberText_of_digit digit]
      exact fits

/-! ## Where numbers start -/

/-- A digit, or a minus sign with a digit behind it. -/
def StartsNumber (c : Char) (rest : List Char) : Prop :=
  isAsciiDigit c = true ∨ c = '-' ∧ (rest.head?.map isAsciiDigit).getD false = true

theorem isNumber_numberText {c : Char} {rest : List Char} (starts : StartsNumber c rest) :
    IsNumber (numberText (c :: rest)) := by
  rcases starts with digit | ⟨rfl, follows⟩
  · rw [numberText_of_digit digit]
    exact .plain (isMagnitude_magnitudeText digit rest)
  · cases rest with
    | nil => cases follows
    | cons d others => exact .minus (isMagnitude_magnitudeText follows others)

theorem numberText_longest {c : Char} {rest : List Char} (starts : StartsNumber c rest) :
    LongestNumber (c :: rest) (numberText (c :: rest)) where
  start := numberText_isPrefix (c :: rest)
  isNumber := isNumber_numberText starts
  longest := by
    rintro other ⟨behind, shape⟩ isNumber
    rw [← shape]
    exact isNumber.length_le behind

theorem startsNumber_iff {c : Char} {rest : List Char} :
    StartsNumber c rest ↔ ∃ text, text <+: c :: rest ∧ IsNumber text := by
  constructor
  · intro starts
    exact ⟨_, numberText_isPrefix (c :: rest), isNumber_numberText starts⟩
  · rintro ⟨text, ⟨behind, shape⟩, isNumber⟩
    cases isNumber with
    | plain isMagnitude =>
        obtain ⟨d, others, rfl, digit⟩ := isMagnitude.head
        cases shape
        exact .inl digit
    | minus isMagnitude =>
        obtain ⟨d, others, rfl, digit⟩ := isMagnitude.head
        cases shape
        exact .inr ⟨rfl, digit⟩

/-! ## Numbers can be read -/

theorem IsExponent.read {exponent : List Char} (isExponent : IsExponent exponent) :
    ∃ n, readExponent exponent = some n := by
  cases isExponent with
  | absent => exact ⟨0, rfl⟩
  | @marked mark sign digits isMark isSign isDigits =>
      have behindSign : (readSign (sign ++ digits)).2 = digits := by
        cases isSign with
        | absent =>
            obtain ⟨c, others, rfl, digit⟩ := isDigits.head
            exact congrArg Prod.snd (readSign_of_digit digit others)
        | plus => rfl
        | minus => rfl
      have all : digits ≠ [] ∧ digits.all isAsciiDigit = true :=
        ⟨isDigits.nonempty, List.all_eq_true.mpr isDigits.digits⟩
      simp only [readExponent, if_pos isMark, behindSign, if_pos all]
      exact ⟨_, rfl⟩

theorem IsMagnitude.read (negative : Bool) {cs : List Char} (isMagnitude : IsMagnitude cs) :
    ∃ digits exponent, readDecimal negative cs = some (.decimal negative digits exponent) := by
  cases isMagnitude with
  | @parts whole fraction exponent isWhole isFraction isExponent =>
      obtain ⟨n, read⟩ := isExponent.read
      have stops : ∀ c ∈ exponent.head?, isAsciiDigit c = false ∧ c ≠ '.' := by
        intro c isFirst
        cases isExponent with
        | absent => cases isFirst
        | marked isMark _ _ =>
            cases isFirst
            rcases isMark with rfl | rfl <;> decide
      cases isFraction with
      | absent =>
          have decimal := Decimal.readDecimal_append negative isWhole.digits isWhole.nonempty stops
          rw [read] at decimal
          exact ⟨_, _, decimal⟩
      | point isDigits =>
          have decimal := Decimal.readDecimal_point_append negative isWhole.digits isWhole.nonempty
            isDigits.digits fun c isFirst => (stops c isFirst).1
          rw [read] at decimal
          exact ⟨_, _, decimal⟩

theorem lowerAscii_digit {c : Char} (digit : isAsciiDigit c = true) : Text.lowerAscii c = c := by
  have low : c ≤ '9' := by
    rw [isAsciiDigit, Bool.and_eq_true, decide_eq_true_eq, decide_eq_true_eq] at digit
    exact digit.2
  refine if_neg fun upper => ?_
  exact absurd (Char.le_trans upper.1 low) (by decide)

/-- What starts with a digit is none of the words for infinity and for no number. -/
theorem word_ne {c : Char} (digit : isAsciiDigit c = true) (rest : List Char) {word : String}
    {first : Char} (head : word.toList.head? = some first)
    (outside : isAsciiDigit first = false) :
    String.ofList ((c :: rest).map Text.lowerAscii) ≠ word := by
  rintro rfl
  rw [String.toList_ofList, List.map_cons, lowerAscii_digit digit] at head
  cases head
  rw [digit] at outside
  cases outside

/-- Every number of the grammar is read as a decimal. -/
theorem readNumeral_of_isNumber {text : List Char} (isNumber : IsNumber text) :
    ∃ negative digits exponent,
      readNumeral text = some (.decimal negative digits exponent) := by
  obtain ⟨negative, magnitude, sign, isMagnitude⟩ : ∃ negative magnitude,
      readSign text = (negative, magnitude) ∧ IsMagnitude magnitude := by
    cases isNumber with
    | minus isMagnitude => exact ⟨true, _, rfl, isMagnitude⟩
    | plain isMagnitude =>
        obtain ⟨c, others, rfl, digit⟩ := isMagnitude.head
        exact ⟨false, _, readSign_of_digit digit others, isMagnitude⟩
  obtain ⟨digits, exponent, read⟩ := isMagnitude.read negative
  obtain ⟨c, others, rfl, digit⟩ := isMagnitude.head
  refine ⟨negative, digits, exponent, ?_⟩
  unfold readNumeral
  simp only [sign]
  rw [if_neg (not_or.mpr ⟨word_ne digit others rfl rfl, word_ne digit others rfl rfl⟩),
    if_neg (word_ne digit others rfl rfl), read]

/-! ## Tokens -/

theorem glyphMarker_kind_ne (rest : List Char) : (glyphMarker rest).kind ≠ .number := by
  unfold glyphMarker
  dsimp only
  split
  · nofun
  · split <;> nofun

theorem blockComment_kind_ne (body : List Char) : (blockComment body).kind ≠ .number := by
  unfold blockComment
  split <;> nofun

theorem span_kind_ne (opening : Char) (rest : List Char) : (span opening rest).kind ≠ .number := by
  unfold span
  dsimp only
  split <;> nofun

theorem capabilityLine_kind_ne (cs : List Char) : (capabilityLine cs).kind ≠ .number := by
  unfold capabilityLine
  dsimp only
  split <;> nofun

theorem symbol_kind_ne (c : Char) (rest : List Char) : (symbol c rest).kind ≠ .number := by
  unfold symbol identifier
  dsimp only
  split
  · nofun
  · split
    · split <;> nofun
    · split <;> nofun

theorem lexeme_of_startsNumber {c : Char} {rest : List Char} (starts : StartsNumber c rest) :
    lexeme c rest = number (c :: rest) := by
  have differs : ∀ other, isAsciiDigit other = false → other ≠ '-' → c ≠ other := by
    intro other outside noMinus
    rcases starts with digit | ⟨rfl, -⟩
    · exact ne_of_digit digit outside
    · exact noMinus.symm
  unfold lexeme
  rw [if_neg (differs glyphMark (by decide) (by decide)),
    if_neg (mt And.left (differs '/' (by decide) (by decide))),
    if_neg (mt And.left (differs '/' (by decide) (by decide))),
    if_neg (differs '#' (by decide) (by decide)), if_neg (differs '"' (by decide) (by decide)),
    if_neg (not_or.mpr
      ⟨differs '\x7b' (by decide) (by decide), differs '[' (by decide) (by decide)⟩)]
  rcases starts with digit | minus
  · rw [if_pos digit]
  · rw [if_pos minus, ite_self]

theorem lexeme_number_iff {c : Char} {rest : List Char} :
    (lexeme c rest).kind = .number ↔ StartsNumber c rest := by
  constructor
  · intro isNumber
    refine Classical.byContradiction fun elsewhere => ?_
    revert isNumber
    rw [StartsNumber, not_or] at elsewhere
    unfold lexeme
    rw [if_neg elsewhere.1, if_neg elsewhere.2]
    split_ifs
    · exact glyphMarker_kind_ne rest
    · exact blockComment_kind_ne _
    · nofun
    · nofun
    · nofun
    · exact span_kind_ne c rest
    · nofun
    · exact capabilityLine_kind_ne _
    · exact symbol_kind_ne c rest
  · intro starts
    rw [lexeme_of_startsNumber starts]
    rfl

end Scan

/-- The token that is read at a place of the source, from the text behind that place. -/
def tokenAt (here : Location) (c : Char) (rest : List Char) : Token :=
  let found := Scan.lexeme c rest
  ⟨found.kind, String.ofList found.literal, found.value, here⟩

/-- What the grammar of numbers says about a token, from the text that was left when it was
read. -/
structure Token.NumberAt (token : Token) (remaining : List Char) : Prop where
  number_iff : token.kind = .number ↔ ∃ text, text <+: remaining ∧ Scan.IsNumber text
  longest : token.kind = .number → Scan.LongestNumber remaining token.literal.toList
  /-- The literal can be read, and the token stands for what is read from it. -/
  read : token.kind = .number → ∃ negative digits exponent,
    Decimal.readNumeral token.literal.toList = some (.decimal negative digits exponent) ∧
      token.value = some (.number (Decimal.Numeral.decimal negative digits exponent).toFloat)

theorem numberAt_tokenAt (here : Location) (c : Char) (rest : List Char) :
    (tokenAt here c rest).NumberAt (c :: rest) := by
  refine ⟨Scan.lexeme_number_iff.trans Scan.startsNumber_iff, ?_, ?_⟩
  · intro isNumber
    have starts := Scan.lexeme_number_iff.mp isNumber
    simp only [tokenAt, Scan.lexeme_of_startsNumber starts, String.toList_ofList]
    exact Scan.numberText_longest starts
  · intro isNumber
    have starts := Scan.lexeme_number_iff.mp isNumber
    obtain ⟨negative, digits, exponent, read⟩ :=
      Scan.readNumeral_of_isNumber (Scan.isNumber_numberText starts)
    simp only [tokenAt, Scan.lexeme_of_startsNumber starts, String.toList_ofList]
    refine ⟨negative, digits, exponent, read, ?_⟩
    rw [Scan.number, read]
    rfl

/-- The exponent lacks its digits, so the number ends before it. -/
example : (tokenAt .start '-' "7.5e+x".toList).literal = "-7.5" := by decide

/-- A text behind another one of the source is scanned from its first character that is no
blank, and then from where each token ends. At each of these places a token is read that
is a number as the grammar says, and that is taken with all of its literal and no more. -/
inductive NumbersTaken : (before text : List Char) → List Token → Prop
  | done {before gap : List Char} {token : Token} (blank : ∀ c ∈ gap, isGap c = true)
      (isEnd : token.kind = .endOfFile) (place : token.location = .behind (before ++ gap)) :
      NumbersTaken before gap [token]
  | token {before gap slice rest : List Char} {token : Token} {tokens : List Token}
      (blank : ∀ c ∈ gap, isGap c = true)
      (solid : ∃ c ∈ slice.head?, isGap c = false)
      (place : token.location = .behind (before ++ gap))
      (number : token.NumberAt (slice ++ rest))
      (taken : token.kind = .number → slice = token.literal.toList)
      (others : NumbersTaken (before ++ gap ++ slice) rest tokens) :
      NumbersTaken before (gap ++ (slice ++ rest)) (token :: tokens)

theorem tokensFrom_numbersTaken (here : Location) (cs : List Char) :
    ∀ {before gap : List Char}, here = .behind (before ++ gap) →
      (∀ c ∈ gap, isGap c = true) → NumbersTaken before (gap ++ cs) (tokensFrom here cs) := by
  fun_induction tokensFrom here cs with
  | case1 here =>
      intro before gap place blank
      rw [List.append_nil]
      exact .done blank rfl place
  | case2 here c rest isBlank ih =>
      intro before gap place blank
      rw [List.append_cons]
      apply ih
      · rw [place, ← Location.behind_concat, List.append_assoc]
      · intro d member
        rcases List.mem_append.mp member with earlier | this
        · exact blank d earlier
        · exact List.mem_singleton.mp this ▸ isBlank
  | case3 here c rest notBlank found =>
      rename_i ih
      intro before gap place blank
      have fits : found.Fits c rest := Scan.lexeme_fits c rest
      have whole : c :: rest = (c :: rest.take found.more) ++ rest.drop found.more := by
        rw [List.cons_append, List.take_append_drop]
      have next : here.after (c :: rest.take found.more) =
          .behind (before ++ gap ++ (c :: rest.take found.more) ++ []) := by
        rw [List.append_nil, Location.behind_append, place]
      have number : (tokenAt here c rest).NumberAt
          ((c :: rest.take found.more) ++ rest.drop found.more) := by
        rw [← whole]
        exact numberAt_tokenAt here c rest
      rw [whole]
      refine .token blank ⟨c, rfl, by simpa using notBlank⟩ place number ?_
        (ih next (List.forall_mem_nil _))
      intro isNumber
      have isVerbatim : found.kind.isVerbatim = true := congrArg Kind.isVerbatim isNumber
      rw [String.toList_ofList, fits.verbatim isVerbatim]

/-- Numbers are the longest match. Wherever a token of a source is read, it is a number
exactly if a number starts there. Its literal is then the longest number that starts
there, it stands for the decimal that is read from the literal, and scanning goes on right
behind it. -/
theorem numbers_longest (source : List Char) : NumbersTaken [] source (tokenize source) :=
  @tokensFrom_numbersTaken .start source [] [] rfl (List.forall_mem_nil _)

end GlyphScript
