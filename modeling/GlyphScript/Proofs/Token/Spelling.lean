import GlyphScript.Proofs.Text.Words
import GlyphScript.Proofs.Token.Spans

/-!
# How tokens are spelled

Each result below gives a spelling of a token and what may stand behind it. In front
of that the spelling is scanned as this one token, and scanning goes on right behind
it. Strings have many spellings (`Scan.Spelled`). The usual ones escape what has to be
escaped, and line ends, tabs and carriage returns as one likes (`tokenize_string`).
-/

namespace GlyphScript

/-! ## Glyphs -/

theorem tokensFrom_glyph (glyph : Glyph) (here : Location) (rest : List Char) :
    tokensFrom here (glyphMark :: (glyph.text.toList ++ [glyphMark] ++ rest)) =
      ⟨.glyph glyph, String.ofList (glyphMark :: (glyph.text.toList ++ [glyphMark])), none, here⟩ ::
        tokensFrom (here.after (glyphMark :: (glyph.text.toList ++ [glyphMark]))) rest := by
  have inside : ∀ c ∈ glyph.text.toList, decide (c ≠ glyphMark) = true := by
    cases glyph <;> exact List.all_eq_true.mp (by decide)
  have content : (glyph.text.toList ++ [glyphMark]).takeWhile (· ≠ glyphMark) =
      glyph.text.toList :=
    (Stretch.cut_append inside (by simp)).1
  have known : Glyph.ofText? (String.ofList glyph.text.toList) = some glyph := by
    cases glyph <;> decide
  refine tokensFrom_spelled (by decide) ?_ here
  rw [Scan.lexeme, if_pos rfl, Scan.glyphMarker_append (by simp)]
  simp only [Scan.glyphMarker, content, known]
  simp

/-! ## Names -/

/-- The characters of identifiers. -/
def isIdentifierChar (c : Char) : Bool :=
  Scan.isNameChar c || c == '.'

/-- A character that an identifier starts with. -/
def isIdentifierStart (c : Char) : Bool :=
  Text.isLetter c || c == '_'

theorem ne_of_start {c other : Char} (starts : isIdentifierStart c = true)
    (outside : isIdentifierStart other = false) : c ≠ other := by
  intro same
  rw [same, outside] at starts
  cases starts

theorem isPrefixOf_of_start (op : Operator) {c : Char} (starts : isIdentifierStart c = true)
    (rest : List Char) : op.text.toList.isPrefixOf (c :: rest) = false := by
  obtain ⟨first, others, text, outside⟩ : ∃ first others,
      op.text.toList = first :: others ∧ isIdentifierStart first = false := by
    cases op <;> exact ⟨_, _, rfl, by decide⟩
  have different : first ≠ c := (ne_of_start starts outside).symm
  simp [text, List.isPrefixOf, different]

theorem read?_of_start {c : Char} (starts : isIdentifierStart c = true) (rest : List Char) :
    Operator.read? (c :: rest) = none := by
  simp [Operator.read?, isPrefixOf_of_start _ starts]

theorem notDigit_of_start {c : Char} (starts : isIdentifierStart c = true) :
    Text.isAsciiDigit c = false := by
  cases digit : Text.isAsciiDigit c with
  | false => rfl
  | true =>
      rw [Text.isAsciiDigit, Bool.and_eq_true, decide_eq_true_eq, decide_eq_true_eq] at digit
      have low : 48 ≤ c.toNat := digit.1
      have high : c.toNat ≤ 57 := digit.2
      -- A digit stands before all letters and before the underscore.
      have notLetter : Text.isAsciiLetter c = false := by
        simp [Text.isAsciiLetter, Char.le_def, UInt32.le_iff_toNat_le]
        grind
      rw [isIdentifierStart, Text.isLetter, notLetter] at starts
      simp at starts
      rcases starts with beyond | rfl
      · omega
      · exact absurd high (by decide)

/-- Where an identifier starts the rule of identifiers applies, but for lines of
capabilities. -/
theorem lexeme_of_start {c : Char} {rest : List Char} (starts : isIdentifierStart c = true)
    (noWord : Scan.capabilityWord.isPrefixOf (c :: rest) = false) :
    Scan.lexeme c rest = Scan.identifier (c :: rest) := by
  have differs : ∀ other, isIdentifierStart other = false → c ≠ other :=
    fun _ => ne_of_start starts
  rw [Scan.lexeme, if_neg (differs glyphMark (by decide +kernel)),
    if_neg (mt And.left (differs '/' (by decide))),
    if_neg (mt And.left (differs '/' (by decide))), if_neg (differs '#' (by decide)),
    if_neg (differs '"' (by decide)),
    if_neg (not_or.mpr ⟨differs '\x7b' (by decide), differs '[' (by decide)⟩),
    if_neg (by simp [notDigit_of_start starts]), if_neg (mt And.left (differs '-' (by decide))),
    if_neg (differs '@' (by decide)), if_neg (by simp [noWord]), Scan.symbol,
    read?_of_start starts]
  exact if_pos starts

/-- How identifiers and keywords are spelled. -/
structure IsName (name : List Char) : Prop where
  starts : ∃ c ∈ name.head?, isIdentifierStart c = true
  inside : ∀ c ∈ name, isIdentifierChar c = true

theorem IsName.of_all {name : List Char} (starts : ∃ c ∈ name.head?, isIdentifierStart c = true)
    (inside : name.all isIdentifierChar = true) : IsName name :=
  ⟨starts, List.all_eq_true.mp inside⟩

/-- No name goes on with this text, and it makes no line of a capability of one. -/
def EndsName (rest : List Char) : Prop :=
  ∀ c ∈ rest.head?, isIdentifierChar c = false ∧ c ≠ '@'

theorem notCapabilityWord {c : Char} {cs rest : List Char}
    (inside : ∀ x ∈ cs, isIdentifierChar x = true) (ends : EndsName rest) :
    Scan.capabilityWord.isPrefixOf (c :: (cs ++ rest)) = false := by
  have notAt : ∀ x ∈ (cs ++ rest).head?, x ≠ '@' := by
    intro x isFirst
    cases cs with
    | nil => exact (ends x isFirst).2
    | cons first others =>
        cases isFirst
        intro isAt
        have outside := inside x List.mem_cons_self
        rw [isAt] at outside
        exact absurd outside (by decide)
  cases behind : cs ++ rest with
  | nil => simp [Scan.capabilityWord, List.isPrefixOf]
  | cons first others =>
      rw [behind] at notAt
      have different := (notAt first rfl).symm
      simp [Scan.capabilityWord, List.isPrefixOf, different]

theorem tokensFrom_name {name rest : List Char} {kind : Kind} (isName : IsName name)
    (ends : EndsName rest)
    (kindOf : ((Keyword.ofText? (String.ofList name)).map Kind.keyword).getD .identifier = kind)
    (here : Location) :
    tokensFrom here (name ++ rest) =
      ⟨kind, String.ofList name, none, here⟩ :: tokensFrom (here.after name) rest := by
  obtain ⟨⟨c, isFirst, starts⟩, inside⟩ := isName
  obtain ⟨cs, rfl⟩ := List.head?_eq_some_iff.mp isFirst
  have others : ∀ x ∈ cs, isIdentifierChar x = true := fun x inCs =>
    inside x (List.mem_cons_of_mem c inCs)
  have taken : (c :: (cs ++ rest)).takeWhile (fun x => Scan.isNameChar x || x == '.') = c :: cs :=
    (Stretch.cut_append inside fun x isNext => (ends x isNext).1).1
  have notBlank : isGap c = false := by
    have differs : ∀ other, isIdentifierStart other = false → c ≠ other :=
      fun _ => ne_of_start starts
    simp [isGap, differs ' ' (by decide), differs '\t' (by decide), differs '\r' (by decide)]
  refine tokensFrom_spelled notBlank ?_ here
  rw [lexeme_of_start starts (notCapabilityWord others ends), Scan.identifier, taken, ← kindOf]
  cases Keyword.ofText? (String.ofList (c :: cs)) with
  | none => rfl
  | some keyword => rfl

/-! ## Operators and atoms -/

theorem tokensFrom_assign (here : Location) (rest : List Char) :
    tokensFrom here ('=' :: ' ' :: rest) =
      ⟨.operator .assign, "=", none, here⟩ :: tokensFrom (here.after ['=']) (' ' :: rest) :=
  @tokensFrom_spelled '=' [] (' ' :: rest) _ _ _ (by decide) rfl here

theorem tokensFrom_colon (here : Location) (rest : List Char) :
    tokensFrom here (':' :: rest) =
      ⟨.operator .colon, ":", none, here⟩ :: tokensFrom (here.after [':']) rest :=
  @tokensFrom_spelled ':' [] rest _ _ _ (by decide) rfl here

theorem tokensFrom_atom {name rest : List Char}
    (inside : ∀ c ∈ name, Scan.isNameChar c = true)
    (stops : ∀ c ∈ rest.head?, Scan.isNameChar c = false) (here : Location) :
    tokensFrom here ('@' :: (name ++ rest)) =
      ⟨.atom, String.ofList ('@' :: name), some (Scan.ofChars name), here⟩ ::
        tokensFrom (here.after ('@' :: name)) rest := by
  refine tokensFrom_spelled (by decide) ?_ here
  show Scan.atom (name ++ rest) = _
  rw [Scan.atom, (Stretch.cut_append inside stops).1]

/-! ## Strings -/

namespace Scan

/-- How the characters of a string can be written: as they are, except for quotes and
backslashes, or by an escape that stands for them. -/
inductive Spelled : List Char → List Char → Prop where
  | done : Spelled [] []
  | plain {c : Char} {written cs : List Char} (noQuote : c ≠ '"') (noEscape : c ≠ '\\')
      (rest : Spelled written cs) : Spelled (c :: written) (c :: cs)
  | escaped (e : Char) {written cs : List Char} (rest : Spelled written cs) :
      Spelled ('\\' :: e :: written) (unescaped e :: cs)

theorem string_of_spelled {written cs : List Char} (spelled : Spelled written cs)
    (rest : List Char) :
    string (written ++ '"' :: rest) =
      ⟨.string, cs, some (ofChars cs), written.length + 1⟩ := by
  have parts : stringContent (written ++ '"' :: rest) = cs ∧
      stringWidth (written ++ '"' :: rest) = written.length + 1 := by
    induction spelled with
    | done => cases rest <;> exact ⟨rfl, rfl⟩
    | plain noQuote noEscape _ ih =>
        rw [List.cons_append, stringContent_cons noQuote noEscape,
          stringWidth_cons noQuote noEscape, ih.1, ih.2]
        exact ⟨rfl, rfl⟩
    | @escaped e written cs _ ih =>
        exact ⟨congrArg (unescaped e :: ·) ih.1, congrArg (· + 2) ih.2⟩
  simp only [string, parts]

end Scan

theorem tokensFrom_string {written cs : List Char} (spelled : Scan.Spelled written cs)
    (here : Location) (rest : List Char) :
    tokensFrom here ('"' :: (written ++ ['"'] ++ rest)) =
      ⟨.string, String.ofList cs, some (Scan.ofChars cs), here⟩ ::
        tokensFrom (here.after ('"' :: (written ++ ['"']))) rest := by
  refine tokensFrom_spelled (by decide) ?_ here
  have string := Scan.string_of_spelled spelled rest
  rw [List.append_assoc, List.length_append]
  exact string

/-- What a character is written as behind a backslash, if not as itself. -/
def escapeLetters : List (Char × Char) :=
  [('\n', 'n'), ('\t', 't'), ('\r', 'r')]

/-- The usual ways to write a text between quotes: quotes and backslashes are escaped, and
characters that have a letter of their own can be. -/
inductive Encoded : (text written : List Char) → Prop where
  | done : Encoded [] []
  | raw {c : Char} {text written : List Char} (noQuote : c ≠ '"') (noEscape : c ≠ '\\')
      (rest : Encoded text written) : Encoded (c :: text) (c :: written)
  | special {c : Char} {text written : List Char} (isSpecial : c = '"' ∨ c = '\\')
      (rest : Encoded text written) : Encoded (c :: text) ('\\' :: c :: written)
  | letter {c e : Char} {text written : List Char} (stands : (c, e) ∈ escapeLetters)
      (rest : Encoded text written) : Encoded (c :: text) ('\\' :: e :: written)

namespace Scan

theorem unescaped_special {c : Char} (isSpecial : c = '"' ∨ c = '\\') : unescaped c = c := by
  rcases isSpecial with rfl | rfl <;> rfl

theorem unescaped_letter {c e : Char} (stands : (c, e) ∈ escapeLetters) : unescaped e = c := by
  have all : ∀ pair ∈ escapeLetters, unescaped pair.2 = pair.1 := by decide
  exact all (c, e) stands

/-- A backslash is read together with the character behind it, so one that is escaped itself
never escapes what follows. -/
theorem spelled_of_encoded {text written : List Char} (encoded : Encoded text written) :
    Spelled written text := by
  induction encoded with
  | done => exact .done
  | raw noQuote noEscape _ ih => exact .plain noQuote noEscape ih
  | @special c text written isSpecial _ ih =>
      have spelled := Spelled.escaped c ih
      rwa [unescaped_special isSpecial] at spelled
  | @letter c e text written stands _ ih =>
      have spelled := Spelled.escaped e ih
      rwa [unescaped_letter stands] at spelled

end Scan

/-- A text between quotes is the first token of a source, whichever way it is encoded and
whatever follows it. The token holds the text itself, and the next one is looked for right
behind the closing quote. -/
theorem tokenize_string {s : String} {written : List Char} (encoded : Encoded s.toList written)
    (rest : List Char) :
    tokenize ('"' :: (written ++ ['"'] ++ rest)) =
      ⟨.string, s, some (.text s), .start⟩ ::
        tokensFrom (.behind ('"' :: (written ++ ['"']))) rest := by
  have string := tokensFrom_string (Scan.spelled_of_encoded encoded) .start rest
  have place : Location.behind ('"' :: (written ++ ['"'])) =
      Location.start.after ('"' :: (written ++ ['"'])) :=
    Location.behind_append [] _
  rw [Scan.ofChars, String.ofList_toList, ← place] at string
  exact string

/-- A backslash stands before a quote in the text, and of its two line ends only one is
escaped. -/
theorem tokenize_string_backslashes :
    Encoded "\\\"\n\n".toList "\\\\\\\"\n\\n".toList ∧
    tokenize ('"' :: ("\\\\\\\"\n\\n".toList ++ ['"'] ++ ['"', 'x'])) =
      ⟨.string, "\\\"\n\n", some (.text "\\\"\n\n"), .start⟩ ::
        tokensFrom ⟨2, 4⟩ ['"', 'x'] := by
  have encoded : Encoded "\\\"\n\n".toList "\\\\\\\"\n\\n".toList :=
    .special (.inr rfl) (.special (.inl rfl)
      (.raw (by decide) (by decide) (.letter (by decide) .done)))
  exact ⟨encoded, tokenize_string encoded ['"', 'x']⟩

/-! ## Lines of capabilities -/

namespace Text

theorem dropWhile_of_head {p : Char → Bool} {cs : List Char} (first : ∀ c ∈ cs.head?, p c = false) :
    cs.dropWhile p = cs :=
  (@Stretch.cut_append _ p [] cs nofun first).2

/-- What does not start or end with a blank cannot be trimmed. -/
theorem trim_eq {cs : List Char} (first : ∀ c ∈ cs.head?, isBlank c = false)
    (last : ∀ c ∈ cs.getLast?, isBlank c = false) : trim cs = cs := by
  rw [← List.head?_reverse] at last
  rw [trim, trimStart, dropWhile_of_head first, trimEnd, dropWhile_of_head last,
    List.reverse_reverse]

/-- A part is not found where its first character does not occur. -/
theorem contains_append {part before : List Char}
    (absent : ∃ first ∈ part.head?, first ∉ before) (cs : List Char) :
    contains part (before ++ cs) = contains part cs := by
  obtain ⟨first, isFirst, absent⟩ := absent
  obtain ⟨others, rfl⟩ := List.head?_eq_some_iff.mp isFirst
  induction before with
  | nil => rfl
  | cons c rest ih =>
      have different := List.ne_of_not_mem_cons absent
      rw [List.cons_append, contains, ih (List.not_mem_of_not_mem_cons absent)]
      simp [List.isPrefixOf, different]

end Text

/-- The name of a block of capabilities. The words that announce vectors and variables
would make another capability of it. -/
structure IsWord (word : List Char) : Prop where
  nonempty : word ≠ []
  inside : ∀ c ∈ word, Scan.isWordChar c = true
  noVector : Text.contains "ATOMIC_VECTOR".toList word = false
  noVariable : Text.contains "ATOMIC_VARIABLE".toList word = false

theorem toNat_of_wordChar {c : Char} (inWord : Scan.isWordChar c = true) :
    48 ≤ c.toNat ∧ c.toNat ≤ 122 := by
  simp only [Scan.isWordChar, Text.isAsciiAlphanumeric, Text.isAsciiLetter, Text.isAsciiDigit,
    Bool.or_eq_true, Bool.and_eq_true, decide_eq_true_eq, beq_iff_eq] at inWord
  rcases inWord with ((⟨low, high⟩ | ⟨low, high⟩) | ⟨low, high⟩) | rfl
  · exact ⟨Nat.le_trans (by decide) (show 97 ≤ c.toNat from low), high⟩
  · exact ⟨Nat.le_trans (by decide) (show 65 ≤ c.toNat from low),
      Nat.le_trans (show c.toNat ≤ 90 from high) (by decide)⟩
  · exact ⟨low, Nat.le_trans (show c.toNat ≤ 57 from high) (by decide)⟩
  · decide

theorem solid_of_wordChar {c : Char} (inWord : Scan.isWordChar c = true) :
    Text.isBlank c = false := by
  obtain ⟨low, high⟩ := toNat_of_wordChar inWord
  simp [Text.isBlank, Text.CodePoints.has, Text.blanks]
  omega

/-- What announces a block of capabilities. -/
def blockOpening : List Char := "C@@L BLOCK ".toList

/-- The line that announces a block of capabilities. -/
def capabilityHead (word : List Char) : List Char :=
  blockOpening ++ word

namespace IsWord

variable {word : List Char}

theorem solid (isWord : IsWord word) : ∀ c ∈ word, Text.isBlank c = false :=
  fun c inWord => solid_of_wordChar (isWord.inside c inWord)

theorem words_capabilityHead (isWord : IsWord word) :
    Text.words (capabilityHead word) = ["C@@L".toList, "BLOCK".toList, word] := by
  have last : Text.words word = [word] := by
    have alone := @Text.words_append word [] isWord.nonempty isWord.solid nofun
    rwa [List.append_nil, Text.words_nil] at alone
  show Text.words ("C@@L".toList ++ ' ' :: ("BLOCK".toList ++ ' ' :: word)) = _
  rw [Text.words_append_blank (by decide) (Text.solid_of_all (by decide)) (by decide),
    Text.words_append_blank (by decide) (Text.solid_of_all (by decide)) (by decide), last]

theorem trim_capabilityHead (isWord : IsWord word) :
    Text.trim (capabilityHead word) = capabilityHead word := by
  have first : (capabilityHead word).head? = some 'C' := rfl
  have last : (capabilityHead word).getLast? = word.getLast? := by
    rw [capabilityHead, List.getLast?_append, List.getLast?_eq_some_getLast isWord.nonempty]
    rfl
  apply Text.trim_eq
  · intro c isFirst
    cases first.symm.trans isFirst
    decide
  · intro c isLast
    exact isWord.solid c (List.mem_of_getLast? (last ▸ isLast))

theorem capabilityOf?_capabilityHead (isWord : IsWord word) :
    Scan.capabilityOf? (capabilityHead word) = some .block := by
  have noVector : Text.contains "ATOMIC_VECTOR".toList (capabilityHead word) = false := by
    rw [capabilityHead, Text.contains_append ⟨'A', by decide, by decide⟩, isWord.noVector]
  have noVariable : Text.contains "ATOMIC_VARIABLE".toList (capabilityHead word) = false := by
    rw [capabilityHead, Text.contains_append ⟨'A', by decide, by decide⟩, isWord.noVariable]
  have block : Text.contains "BLOCK".toList (capabilityHead word) = true := rfl
  simp only [Scan.capabilityOf?, Capability.text, List.find?, noVector, noVariable, block]

theorem capabilityName_capabilityHead (isWord : IsWord word) :
    Scan.capabilityName .block (capabilityHead word) = word := by
  have stem : word.takeWhile Scan.isWordChar = word := by
    have all := @List.takeWhile_append_of_pos _ Scan.isWordChar word [] isWord.inside
    rwa [List.append_nil, List.takeWhile_nil, List.append_nil] at all
  have named : Scan.nameOf? .block word = some word := by
    show Scan.stem? word = some word
    rw [Scan.stem?, stem]
    cases word with
    | nil => exact absurd rfl isWord.nonempty
    | cons c cs => rfl
  rw [Scan.capabilityName, isWord.words_capabilityHead]
  simp [Scan.capabilityWord, Capability.text, named]

end IsWord

theorem lexeme_capabilityWord (rest : List Char) :
    Scan.lexeme 'C' ('@' :: '@' :: 'L' :: rest) =
      Scan.capabilityLine ('C' :: '@' :: '@' :: 'L' :: rest) := by
  simp [Scan.lexeme, glyphMark, Text.isAsciiDigit, Scan.capabilityWord, List.isPrefixOf]

/-- What the line of a capability stands for. -/
def capabilityValue (word : List Char) : Value :=
  .record [("kind", .text "BLOCK"), ("name", Scan.ofChars word)]

theorem tokensFrom_capabilityHead {word rest : List Char} (isWord : IsWord word)
    (ends : ∀ c ∈ rest.head?, c = '\n') (here : Location) :
    tokensFrom here (capabilityHead word ++ rest) =
      ⟨.capability .block, String.ofList (capabilityHead word), some (capabilityValue word),
          here⟩ ::
        tokensFrom (here.after (capabilityHead word)) rest := by
  have oneLine : ∀ c ∈ capabilityHead word, decide (c ≠ '\n') = true := by
    intro c inLine
    refine decide_eq_true ?_
    rintro rfl
    rcases List.mem_append.mp inLine with inHead | inWord
    · exact absurd inHead (by decide)
    · exact absurd (isWord.inside _ inWord) (by decide)
  have line : Scan.line (capabilityHead word ++ rest) = capabilityHead word :=
    (Stretch.cut_append oneLine fun c isNext => by simp [ends c isNext]).1
  refine @tokensFrom_spelled 'C' (blockOpening.tail ++ word) rest _ _ _ (by decide) ?_ here
  refine (lexeme_capabilityWord (" BLOCK ".toList ++ word ++ rest)).trans ?_
  rw [show 'C' :: '@' :: '@' :: 'L' :: (" BLOCK ".toList ++ word ++ rest) =
    capabilityHead word ++ rest from rfl]
  simp only [Scan.capabilityLine, line, isWord.trim_capabilityHead,
    isWord.capabilityOf?_capabilityHead, isWord.capabilityName_capabilityHead]
  rfl

end GlyphScript
