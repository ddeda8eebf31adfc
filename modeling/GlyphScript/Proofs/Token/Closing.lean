import GlyphScript.Proofs.Token.Lexemes

/-!
# Closing delimiters

Glyph markers, block comments, strings and bracketed spans end at a closing
delimiter, or at the end of the text if that is missing. Once the delimiter is there,
what follows it makes no difference.

Results:
1. `glyphMarker_append`, `blockComment_append`, `string_append`, `span_append`: a token
   that is closed is the same in front of any further text.
-/

namespace GlyphScript

theorem Text.cut?_append {sep cs before behind : List Char}
    (found : Text.cut? sep cs = some (before, behind)) (more : List Char) :
    Text.cut? sep (cs ++ more) = some (before, behind ++ more) := by
  induction cs generalizing before with
  | nil => simp [Text.cut?] at found
  | cons c rest ih =>
      simp only [Text.cut?] at found
      rw [List.cons_append, Text.cut?]
      split at found
      · next starts =>
          obtain ⟨tail, equal⟩ := List.isPrefixOf_iff_prefix.mp starts
          have startsMore : sep.isPrefixOf (c :: (rest ++ more)) = true :=
            List.isPrefixOf_iff_prefix.mpr ⟨tail ++ more, by
              rw [← List.append_assoc, equal, List.cons_append]⟩
          cases found
          rw [if_pos startsMore, ← List.cons_append, ← equal, List.append_assoc, List.drop_left,
            List.drop_left]
      · next starts =>
          obtain ⟨⟨inner, tail⟩, cut, equal⟩ := Option.map_eq_some_iff.mp found
          cases equal
          have fits := Text.length_of_cut? cut
          have startsMore : ¬ sep.isPrefixOf (c :: (rest ++ more)) = true := by
            intro longer
            refine starts (List.isPrefixOf_iff_prefix.mpr ?_)
            -- The separator occurs in `rest`, so it is not too long for the shorter text.
            refine List.prefix_of_prefix_length_le (List.isPrefixOf_iff_prefix.mp longer)
              (List.prefix_append (c :: rest) more) ?_
            simp only [List.length_cons]
            omega
          rw [if_neg startsMore, ih cut]
          rfl

namespace Scan

/-- Whether a string has its closing quote, from behind the opening one on. -/
def stringCloses : List Char → Bool
  | [] => false
  | c :: rest =>
      if c = '"' then true
      else if c = '\\' then
        match rest with
        | [] => false
        | _ :: tail => stringCloses tail
      else stringCloses rest

/-- Whether `depth` open brackets are closed. -/
def spanCloses (depth : Nat) : SpanState → List Char → Bool
  | _, [] => false
  | .escaped, _ :: rest => spanCloses depth .inText rest
  | .inText, c :: rest =>
      if c = '\\' then spanCloses depth .escaped rest
      else if c = '"' then spanCloses depth .outside rest
      else spanCloses depth .inText rest
  | .outside, c :: rest =>
      if c = '"' then spanCloses depth .inText rest
      else if c = '\x7b' ∨ c = '[' then spanCloses (depth + 1) .outside rest
      else if c = '\x7d' ∨ c = ']' then
        if depth ≤ 1 then true else spanCloses (depth - 1) .outside rest
      else spanCloses depth .outside rest

/-- Whether the token that starts with `c` has its closing delimiter, if it needs one. -/
def closes (c : Char) (rest : List Char) : Bool :=
  if c = glyphMark then rest.contains glyphMark
  else if c = '/' ∧ rest.head? = some '*' then (Text.cut? ['*', '/'] (rest.drop 1)).isSome
  else if c = '"' then stringCloses rest
  else if c = '\x7b' ∨ c = '[' then spanCloses 1 .outside rest
  else true

theorem glyphMarker_append {rest : List Char} (closed : glyphMark ∈ rest) (more : List Char) :
    glyphMarker (rest ++ more) = glyphMarker rest := by
  have shorter : (rest.takeWhile (· ≠ glyphMark)).length < rest.length := by
    refine Nat.lt_of_le_of_ne (List.takeWhile_prefix _).length_le fun equal => ?_
    have all := List.all_takeWhile (l := rest) (p := fun c => c ≠ glyphMark)
    rw [(List.takeWhile_prefix _).eq_of_length equal, List.all_eq_true] at all
    exact of_decide_eq_true (all glyphMark closed) rfl
  have content : (rest ++ more).takeWhile (· ≠ glyphMark) = rest.takeWhile (· ≠ glyphMark) := by
    rw [List.takeWhile_append, if_neg (Nat.ne_of_lt shorter)]
  have shorterMore : (rest.takeWhile (· ≠ glyphMark)).length < (rest ++ more).length := by
    rw [List.length_append]
    omega
  unfold glyphMarker
  simp only [content, shorter, shorterMore]

theorem blockComment_append {body : List Char} (closed : (Text.cut? ['*', '/'] body).isSome)
    (more : List Char) : blockComment (body ++ more) = blockComment body := by
  obtain ⟨⟨before, behind⟩, found⟩ := Option.isSome_iff_exists.mp closed
  simp only [blockComment, found, Text.cut?_append found more]

theorem stringContent_cons {c : Char} (noQuote : c ≠ '"') (noEscape : c ≠ '\\')
    (rest : List Char) : stringContent (c :: rest) = c :: stringContent rest := by
  cases rest <;> simp [stringContent, noQuote, noEscape]

theorem stringWidth_cons {c : Char} (noQuote : c ≠ '"') (noEscape : c ≠ '\\')
    (rest : List Char) : stringWidth (c :: rest) = stringWidth rest + 1 := by
  cases rest <;> simp [stringWidth, noQuote, noEscape]

theorem string_append {rest : List Char} (closed : stringCloses rest = true) (more : List Char) :
    string (rest ++ more) = string rest := by
  have same : stringContent (rest ++ more) = stringContent rest ∧
      stringWidth (rest ++ more) = stringWidth rest := by
    fun_induction stringCloses rest with
    | case1 => cases closed
    | case2 rest => cases rest <;> cases more <;> exact ⟨rfl, rfl⟩
    | case3 => cases closed
    | case4 e tail _ ih =>
        obtain ⟨content, width⟩ := ih closed
        exact ⟨congrArg (unescaped e :: ·) content, congrArg (· + 2) width⟩
    | case5 c rest noQuote noEscape ih =>
        obtain ⟨content, width⟩ := ih closed
        rw [List.cons_append, stringContent_cons noQuote noEscape,
          stringContent_cons noQuote noEscape, stringWidth_cons noQuote noEscape,
          stringWidth_cons noQuote noEscape, content, width]
        exact ⟨rfl, rfl⟩
  simp only [string, same]

theorem spanWidth_append {depth : Nat} {state : SpanState} {rest : List Char}
    (closed : spanCloses depth state rest = true) (more : List Char) :
    spanWidth depth state (rest ++ more) = spanWidth depth state rest := by
  -- Each step looks at one character, and the last one is a bracket inside of `rest`.
  fun_induction spanCloses depth state rest <;> simp_all [spanWidth]

theorem span_append {rest : List Char} (closed : spanCloses 1 .outside rest = true)
    (opening : Char) (more : List Char) : span opening (rest ++ more) = span opening rest := by
  simp only [span, spanWidth_append closed, List.take_append_of_le_length (spanWidth_le _ _ _)]

end Scan

end GlyphScript
