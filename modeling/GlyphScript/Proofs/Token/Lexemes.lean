import GlyphScript.Proofs.Text.Split
import GlyphScript.Token.Scan

/-!
# What a lexeme takes

Every rule for a token takes characters that are there, and none gives the end of
the source. For the kinds of tokens that stand for themselves the literal is exactly
what was taken.

Results:
1. `numberText_isPrefix`: a number is the start of the text that it is read from.
2. `lexeme_fits`: the rules above, for whatever token starts with a character.
-/

namespace GlyphScript

/-- Kinds of tokens whose literal is their very text. -/
def Kind.isVerbatim : Kind → Bool
  | .illegal => true
  | .newline => true
  | .number => true
  | .json => true
  | .atom => true
  | .operator _ => true
  | .keyword _ => true
  | _ => false

/-! ## Operators -/

namespace Operator

theorem text_ne_nil (op : Operator) : op.text.toList ≠ [] := by
  cases op <;> decide

theorem prefix_of_read? {cs : List Char} {op : Operator} (found : read? cs = some op) :
    op.text.toList <+: cs := by
  unfold read? at found
  rcases Option.or_eq_some_iff.mp found with double | ⟨_, single⟩
  · have starts := List.find?_some double
    exact List.isPrefixOf_iff_prefix.mp starts
  · have starts := List.find?_some single
    exact List.isPrefixOf_iff_prefix.mp starts

end Operator

namespace Scan

/-! ## Lexemes -/

/-- What holds of a token that starts with the character `c` of a text. -/
structure Lexeme.Fits (found : Lexeme) (c : Char) (rest : List Char) : Prop where
  within : found.more ≤ rest.length
  notEnd : found.kind ≠ .endOfFile
  verbatim : found.kind.isVerbatim = true → found.literal = c :: rest.take found.more

theorem Lexeme.fits_of_prefix {found : Lexeme} {c : Char} {rest : List Char}
    (start : found.literal <+: c :: rest) (nonempty : found.literal ≠ [])
    (width : found.more = found.literal.length - 1) (notEnd : found.kind ≠ .endOfFile) :
    found.Fits c rest := by
  obtain ⟨first, others, literal⟩ := List.exists_cons_of_ne_nil nonempty
  rw [literal, List.length_cons, Nat.add_sub_cancel] at width
  rw [literal] at start
  obtain ⟨rfl, behind⟩ := List.cons_prefix_cons.mp start
  refine ⟨?_, notEnd, fun _ => ?_⟩
  · rw [width]
    exact behind.length_le
  · rw [literal, width, ← List.prefix_iff_eq_take.mp behind]

/-! ## Rules with a closing delimiter -/

theorem glyphMarker_fits (c : Char) (rest : List Char) : (glyphMarker rest).Fits c rest := by
  have shorter := (List.takeWhile_prefix (l := rest) (· ≠ glyphMark)).length_le
  have within : (if (rest.takeWhile (· ≠ glyphMark)).length < rest.length
      then (rest.takeWhile (· ≠ glyphMark)).length + 1
      else (rest.takeWhile (· ≠ glyphMark)).length) ≤ rest.length := by
    split
    · next closed => exact closed
    · exact shorter
  unfold glyphMarker
  dsimp only
  split
  · exact ⟨within, nofun, nofun⟩
  · split
    · exact ⟨within, nofun, nofun⟩
    · exact ⟨within, nofun, nofun⟩

theorem blockComment_fits (c mark : Char) (body : List Char) :
    (blockComment body).Fits c (mark :: body) := by
  unfold blockComment
  split
  · next before behind found =>
      have whole := congrArg List.length (Text.append_of_cut? found)
      simp only [List.length_append, List.length_cons, List.length_nil] at whole
      exact ⟨by simp only [List.length_cons]; omega, nofun, nofun⟩
  · exact ⟨Nat.le_refl _, nofun, nofun⟩

theorem stringWidth_le (rest : List Char) : stringWidth rest ≤ rest.length := by
  fun_induction stringWidth rest <;> simp only [List.length_cons, List.length_nil] <;> omega

theorem string_fits (c : Char) (rest : List Char) : (string rest).Fits c rest :=
  ⟨stringWidth_le rest, nofun, nofun⟩

theorem spanWidth_le (depth : Nat) (state : SpanState) (rest : List Char) :
    spanWidth depth state rest ≤ rest.length := by
  fun_induction spanWidth depth state rest <;>
    simp only [List.length_cons, List.length_nil] <;> omega

theorem span_fits (opening : Char) (rest : List Char) : (span opening rest).Fits opening rest := by
  unfold span
  dsimp only
  split
  · exact ⟨spanWidth_le _ _ _, nofun, fun _ => rfl⟩
  · exact ⟨spanWidth_le _ _ _, nofun, nofun⟩

/-! ## Lines -/

theorem line_isPrefix (cs : List Char) : line cs <+: cs :=
  List.takeWhile_prefix _

theorem lineComment_fits {c : Char} {opening : Nat} {body rest : List Char}
    (behind : opening + body.length ≤ rest.length) : (lineComment opening body).Fits c rest := by
  have shorter := (line_isPrefix body).length_le
  exact ⟨Nat.le_trans (Nat.add_le_add_left shorter opening) behind, nofun, nofun⟩

theorem capabilityLine_fits (c : Char) (rest : List Char) :
    (capabilityLine (c :: rest)).Fits c rest := by
  have shorter := (line_isPrefix (c :: rest)).length_le
  have within : (line (c :: rest)).length - 1 ≤ rest.length := by
    simp only [List.length_cons] at shorter
    omega
  unfold capabilityLine
  dsimp only
  split
  · exact ⟨within, nofun, nofun⟩
  · exact ⟨within, nofun, nofun⟩

/-! ## Numbers -/

/-- A start of a text and a start of what follows it are together a start. -/
theorem append_isPrefix {left right cs : List Char} (start : left <+: cs)
    (next : right <+: cs.drop left.length) : left ++ right <+: cs := by
  obtain ⟨rest, rfl⟩ := start
  rw [List.drop_left] at next
  exact (List.prefix_append_right_inj left).mpr next

theorem fractionText_isPrefix (cs : List Char) : fractionText cs <+: cs := by
  unfold fractionText
  split
  · next rest =>
      split
      · exact List.nil_prefix
      · exact List.cons_prefix_cons.mpr ⟨rfl, List.takeWhile_prefix _⟩
  · exact List.nil_prefix

theorem signText_isPrefix (cs : List Char) : signText cs <+: cs := by
  unfold signText
  split
  · exact List.cons_prefix_cons.mpr ⟨rfl, List.nil_prefix⟩
  · exact List.cons_prefix_cons.mpr ⟨rfl, List.nil_prefix⟩
  · exact List.nil_prefix

theorem exponentText_isPrefix (cs : List Char) : exponentText cs <+: cs := by
  unfold exponentText
  split
  · next mark rest =>
      split
      · simp only
        split
        · exact List.nil_prefix
        · refine List.cons_prefix_cons.mpr ⟨rfl, ?_⟩
          exact append_isPrefix (signText_isPrefix rest) (List.takeWhile_prefix _)
      · exact List.nil_prefix
  · exact List.nil_prefix

theorem magnitudeText_isPrefix (cs : List Char) : magnitudeText cs <+: cs := by
  have cut := List.takeWhile_append_dropWhile (p := Text.isAsciiDigit) (l := cs)
  unfold magnitudeText
  rw [List.append_assoc]
  conv => rhs; rw [← cut]
  refine (List.prefix_append_right_inj _).mpr ?_
  exact append_isPrefix (fractionText_isPrefix _) (exponentText_isPrefix _)

theorem numberText_isPrefix (cs : List Char) : numberText cs <+: cs := by
  unfold numberText
  split
  · next rest => exact List.cons_prefix_cons.mpr ⟨rfl, magnitudeText_isPrefix rest⟩
  · exact magnitudeText_isPrefix cs

theorem number_fits {c : Char} {rest : List Char} (starts : Text.isAsciiDigit c = true ∨ c = '-') :
    (number (c :: rest)).Fits c rest := by
  refine Lexeme.fits_of_prefix (numberText_isPrefix (c :: rest)) ?_ rfl nofun
  change numberText (c :: rest) ≠ []
  unfold numberText
  split
  · exact List.cons_ne_nil _ _
  · next noSign =>
      have digit := starts.resolve_right fun minus => noSign rest (minus ▸ rfl)
      simp [magnitudeText, digit]

/-! ## Names and symbols -/

theorem atom_fits (rest : List Char) : (atom rest).Fits '@' rest := by
  have start : rest.takeWhile isNameChar <+: rest := List.takeWhile_prefix _
  refine ⟨start.length_le, nofun, fun _ => ?_⟩
  exact congrArg ('@' :: ·) (List.prefix_iff_eq_take.mp start)

theorem identifier_fits {c : Char} {rest : List Char}
    (starts : (Text.isLetter c || c == '_') = true) : (identifier (c :: rest)).Fits c rest := by
  have named : (isNameChar c || c == '.') = true := by
    simp only [isNameChar, Text.isAlphanumeric, Bool.or_eq_true] at starts ⊢
    exact .inl (starts.imp_left .inl)
  have start := List.takeWhile_prefix (l := c :: rest) fun c => isNameChar c || c == '.'
  have nonempty : (c :: rest).takeWhile (fun c => isNameChar c || c == '.') ≠ [] := by
    simp [named]
  unfold identifier
  dsimp only
  split
  · exact Lexeme.fits_of_prefix start nonempty rfl nofun
  · exact Lexeme.fits_of_prefix start nonempty rfl nofun

theorem symbol_fits (c : Char) (rest : List Char) : (symbol c rest).Fits c rest := by
  have alone : [c] <+: c :: rest := List.cons_prefix_cons.mpr ⟨rfl, List.nil_prefix⟩
  unfold symbol
  split
  · next op found =>
      exact Lexeme.fits_of_prefix (Operator.prefix_of_read? found) (Operator.text_ne_nil op) rfl nofun
  · split
    · next starts => exact identifier_fits starts
    · split
      · exact Lexeme.fits_of_prefix alone nofun rfl nofun
      · exact Lexeme.fits_of_prefix alone nofun rfl nofun

theorem Lexeme.fits_ite {test : Prop} [Decidable test] {found other : Lexeme} {c : Char}
    {rest : List Char} (first : test → found.Fits c rest) (second : ¬ test → other.Fits c rest) :
    (if test then found else other).Fits c rest :=
  iteInduction (motive := fun found => Lexeme.Fits found c rest) first second

theorem lexeme_fits (c : Char) (rest : List Char) : (lexeme c rest).Fits c rest := by
  refine Lexeme.fits_ite (fun _ => glyphMarker_fits c rest) fun _ => ?_
  refine Lexeme.fits_ite (fun opening => ?_) fun _ => ?_
  · obtain ⟨body, rfl⟩ := List.head?_eq_some_iff.mp opening.2
    exact blockComment_fits c '*' body
  refine Lexeme.fits_ite (fun opening => ?_) fun _ => ?_
  · obtain ⟨body, rfl⟩ := List.head?_eq_some_iff.mp opening.2
    exact lineComment_fits (by simp [Nat.add_comm])
  refine Lexeme.fits_ite (fun _ => lineComment_fits (by simp)) fun _ => ?_
  refine Lexeme.fits_ite (fun _ => string_fits c rest) fun _ => ?_
  refine Lexeme.fits_ite (fun _ => span_fits c rest) fun _ => ?_
  refine Lexeme.fits_ite (fun digit => number_fits (.inl digit)) fun _ => ?_
  refine Lexeme.fits_ite (fun minus => number_fits (.inr minus.1)) fun _ => ?_
  refine Lexeme.fits_ite (fun mark => ?_) fun _ => ?_
  · rw [mark]
    exact atom_fits rest
  exact Lexeme.fits_ite (fun _ => capabilityLine_fits c rest) fun _ => symbol_fits c rest

end Scan

end GlyphScript
