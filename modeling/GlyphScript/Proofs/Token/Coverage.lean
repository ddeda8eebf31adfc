import GlyphScript.Proofs.Token.Lexemes
import GlyphScript.Token.Lexer

/-!
# Tokens cover their source

Cutting a source into tokens loses nothing but blanks, and each token tells where in
the source it was found.

Results:
1. `Location.behind_append`: places that are counted along a text are those that the
   whole text before them gives.
2. `tokenize_covered`: the tokens of a source are cut out of it one behind the other.
-/

namespace GlyphScript

namespace Location

/-- The place behind a text that a source starts with: its line ends give the line,
and the characters behind the last line end give the column. -/
def behind (text : List Char) : Location :=
  ⟨1 + text.count '\n', 1 + (text.reverse.takeWhile (· ≠ '\n')).length⟩

theorem behind_concat (text : List Char) (c : Char) :
    behind (text ++ [c]) = (behind text).next c := by
  by_cases lineEnd : c = '\n'
  · simp [behind, next, lineEnd, Nat.add_assoc]
  · simp [behind, next, lineEnd, Nat.add_assoc]

theorem after_append (here : Location) (text cs : List Char) :
    here.after (text ++ cs) = (here.after text).after cs :=
  List.foldl_append

theorem behind_append (text cs : List Char) : behind (text ++ cs) = (behind text).after cs := by
  induction cs generalizing text with
  | nil => rw [List.append_nil]; rfl
  | cons c rest ih =>
      rw [List.append_cons, ih, behind_concat]
      rfl

end Location

/-- The tokens cover a text that stands behind another one in a source. Blanks may
stand before each token, and nothing else is left over. -/
inductive Covered : (before text : List Char) → List Token → Prop
  | done {before gap : List Char} {token : Token}
      (blank : ∀ c ∈ gap, c = ' ' ∨ c = '\t' ∨ c = '\r')
      (isEnd : token.kind = .endOfFile)
      (place : token.location = .behind (before ++ gap)) :
      Covered before gap [token]
  | token {before gap slice rest : List Char} {token : Token} {tokens : List Token}
      (blank : ∀ c ∈ gap, c = ' ' ∨ c = '\t' ∨ c = '\r')
      (nonempty : slice ≠ [])
      (notEnd : token.kind ≠ .endOfFile)
      (place : token.location = .behind (before ++ gap))
      (verbatim : token.kind.isVerbatim = true → token.literal = String.ofList slice)
      (others : Covered (before ++ gap ++ slice) rest tokens) :
      Covered before (gap ++ slice ++ rest) (token :: tokens)

theorem isGap_iff {c : Char} : isGap c = true ↔ c = ' ' ∨ c = '\t' ∨ c = '\r' := by
  simp [isGap, or_assoc]

theorem tokensFrom_covered (here : Location) (cs : List Char) :
    ∀ {before gap : List Char}, here = .behind (before ++ gap) →
      (∀ c ∈ gap, c = ' ' ∨ c = '\t' ∨ c = '\r') →
      Covered before (gap ++ cs) (tokensFrom here cs) := by
  fun_induction tokensFrom here cs with
  | case1 here =>
      intro before gap place blank
      rw [List.append_nil]
      exact .done blank rfl place
  | case2 here c rest isBlank ih =>
      -- A blank belongs to the gap before the next token.
      intro before gap place blank
      rw [List.append_cons]
      apply ih
      · rw [place, ← Location.behind_concat, List.append_assoc]
      · intro d member
        rcases List.mem_append.mp member with earlier | this
        · exact blank d earlier
        · exact isGap_iff.mp (List.mem_singleton.mp this ▸ isBlank)
  | case3 here c rest notBlank found =>
      rename_i ih
      intro before gap place blank
      have fits : found.Fits c rest := Scan.lexeme_fits c rest
      have whole : gap ++ c :: rest =
          gap ++ (c :: rest.take found.more) ++ rest.drop found.more := by
        rw [List.append_assoc, List.cons_append, List.take_append_drop]
      have next : here.after (c :: rest.take found.more) =
          .behind (before ++ gap ++ (c :: rest.take found.more) ++ []) := by
        rw [List.append_nil, Location.behind_append, place]
      rw [whole]
      refine .token blank (List.cons_ne_nil _ _) fits.notEnd place ?_ (ih next nofun)
      intro verbatim
      exact congrArg String.ofList (fits.verbatim verbatim)

/-- The tokens of a source are cut out of it one behind the other, with only blanks
between them. Each takes at least one character, up to the end of the source, which
is the last token and the only one of its kind. The place of a token is where its
slice starts, and literals that are not decoded are the slices themselves. -/
theorem tokenize_covered (source : List Char) : Covered [] source (tokenize source) :=
  @tokensFrom_covered .start source [] [] rfl nofun

end GlyphScript
