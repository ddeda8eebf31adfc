import GlyphScript.Proofs.Json.Balance
import GlyphScript.Proofs.Token.Separation

/-!
# Spans of JSON

Where a span in brackets ends is found by counting, before anything is read. For a
text that is a JSON document the count comes out right: the span is the whole
document, whatever stands behind it.

Results:
1. `spanWidth_of_balanced`: the scanner passes over balanced text.
2. `span_of_readValue`: a document that starts with a bracket is scanned as a whole.
3. `tokenize_document`: such a document is the first token of a source.
-/

namespace GlyphScript

namespace Scan

open Json (InText Balanced isOpening isClosing isInert)

/-- The scanner leaves a text where a JSON reader does. -/
theorem spanWidth_of_inText {cs rest : List Char} (inner : InText cs rest) :
    ∃ text, cs = text ++ rest ∧ ∀ depth more,
      spanWidth depth .inText (text ++ more) = text.length + spanWidth depth .outside more := by
  induction inner with
  | close => exact ⟨['"'], rfl, fun depth more => by simp [spanWidth, Nat.add_comm]⟩
  | @escaped c cs rest _ ih =>
      obtain ⟨text, rfl, width⟩ := ih
      refine ⟨'\\' :: c :: text, rfl, fun depth more => ?_⟩
      simp only [List.cons_append, spanWidth, if_true, width, List.length_cons]
      omega
  | @plain c cs rest noQuote noEscape _ ih =>
      obtain ⟨text, rfl, width⟩ := ih
      refine ⟨c :: text, rfl, fun depth more => ?_⟩
      simp only [List.cons_append, spanWidth, noEscape, noQuote, if_false, width,
        List.length_cons]
      omega

theorem spanWidth_opening {c : Char} (opens : isOpening c = true) (depth : Nat)
    (rest : List Char) :
    spanWidth depth .outside (c :: rest) = spanWidth (depth + 1) .outside rest + 1 := by
  simp only [isOpening, Bool.or_eq_true, beq_iff_eq] at opens
  rcases opens with rfl | rfl <;> rfl

/-- The bracket that closes the last open one ends the span. -/
theorem spanWidth_closing {c : Char} (closes : isClosing c = true) (depth : Nat)
    (rest : List Char) :
    spanWidth (depth + 1) .outside (c :: rest) =
      (if depth = 0 then 0 else spanWidth depth .outside rest) + 1 := by
  simp only [isClosing, Bool.or_eq_true, beq_iff_eq] at closes
  cases depth with
  | zero => rcases closes with rfl | rfl <;> rfl
  | succ depth => rcases closes with rfl | rfl <;> rfl

theorem spanWidth_inert {c : Char} (inert : isInert c = true) (depth : Nat) (rest : List Char) :
    spanWidth depth .outside (c :: rest) = spanWidth depth .outside rest + 1 := by
  simp only [isInert, isOpening, isClosing, Bool.not_eq_true', Bool.or_eq_false_iff,
    beq_eq_false_iff_ne] at inert
  simp [spanWidth, inert]

/-- The scanner passes over balanced text: all brackets in it are closed again. -/
theorem spanWidth_of_balanced {cs rest : List Char} (balanced : Balanced cs rest) :
    ∃ text, cs = text ++ rest ∧ ∀ depth more,
      spanWidth (depth + 1) .outside (text ++ more) =
        text.length + spanWidth (depth + 1) .outside more := by
  induction balanced with
  | done => exact ⟨[], rfl, fun depth more => by simp⟩
  | @inert c cs rest inert _ ih =>
      obtain ⟨text, rfl, width⟩ := ih
      refine ⟨c :: text, rfl, fun depth more => ?_⟩
      rw [List.cons_append, spanWidth_inert inert, width, List.length_cons]
      omega
  | @text cs behind rest inner _ ih =>
      obtain ⟨quoted, rfl, inside⟩ := spanWidth_of_inText inner
      obtain ⟨text, rfl, width⟩ := ih
      refine ⟨'"' :: (quoted ++ text), by simp, fun depth more => ?_⟩
      simp only [List.cons_append, List.append_assoc, spanWidth, if_true, inside, width,
        List.length_cons, List.length_append]
      omega
  | @nested opening closing cs behind rest opens closes _ _ ihInner ihOthers =>
      obtain ⟨inner, rfl, inside⟩ := ihInner
      obtain ⟨text, rfl, width⟩ := ihOthers
      refine ⟨opening :: (inner ++ closing :: text), by simp, fun depth more => ?_⟩
      rw [List.cons_append, spanWidth_opening opens, List.append_assoc, inside, List.cons_append,
        spanWidth_closing closes, if_neg (Nat.succ_ne_zero depth), width]
      simp only [List.length_cons, List.length_append]
      omega

/-- A document that starts with a bracket is scanned as a whole, whatever follows. -/
theorem span_of_readValue {opening : Char} {cs : List Char} {value : Value}
    (opens : isOpening opening = true)
    (read : Json.readValue Json.maxDepth (opening :: cs) = .ok (value, [])) (rest : List Char) :
    span opening (cs ++ rest) = ⟨.json, opening :: cs, some value, cs.length⟩ := by
  obtain ⟨closing, closes, balanced⟩ := Json.balanced_readContainer opens read
  obtain ⟨inner, shape, inside⟩ := spanWidth_of_balanced balanced
  have width : spanWidth 1 .outside (cs ++ rest) = cs.length := by
    rw [shape, List.append_assoc, inside 0, List.cons_append, spanWidth_closing closes]
    simp
  have accepted : Json.read? (opening :: cs) = some value := by
    simp [Json.read?, Json.read, read, Json.skipSpace, Except.toOption]
  simp only [span, width, List.take_left, accepted]

/-- Brackets are tokens of their own kind. -/
theorem lexeme_opening {c : Char} (opens : isOpening c = true) (rest : List Char) :
    lexeme c rest = span c rest := by
  simp only [isOpening, Bool.or_eq_true, beq_iff_eq] at opens
  rcases opens with rfl | rfl <;> simp [lexeme, glyphMark]

end Scan

/-- A document without blanks at its end is read up to that end. -/
theorem Json.readValue_of_read {document : List Char} {value : Value}
    (accepted : Json.read document = .ok value)
    (closed : ∀ c ∈ document.getLast?, Json.isSpace c = false) :
    Json.readValue Json.maxDepth document = .ok (value, []) := by
  unfold Json.read at accepted
  split at accepted
  · next found rest read =>
      obtain ⟨text, shape, -⟩ := Scan.spanWidth_of_balanced (Json.balanced_readValue read)
      split at accepted
      · next onlyBlanks =>
          cases accepted
          rw [read]
          cases last : rest.getLast? with
          | none => rw [List.getLast?_eq_none_iff.mp last]
          | some c =>
              -- The last character of the document would be a blank.
              have isLast : document.getLast? = some c := by
                rw [shape, List.getLast?_append, last, Option.some_or]
              have blanks := List.all_takeWhile (l := rest) (p := Json.isSpace)
              have whole := List.takeWhile_append_dropWhile (l := rest) (p := Json.isSpace)
              rw [Json.skipSpace] at onlyBlanks
              rw [onlyBlanks, List.append_nil] at whole
              rw [whole, List.all_eq_true] at blanks
              have blank := blanks c (List.mem_of_getLast? last)
              rw [closed c isLast] at blank
              cases blank
      · cases accepted
  · cases accepted

/-- A token is found where a rule takes exactly the characters of its spelling. -/
theorem tokensFrom_spelled {c : Char} {cs rest : List Char} {kind : Kind} {literal : List Char}
    {value : Option Value} (notBlank : isGap c = false)
    (read : Scan.lexeme c (cs ++ rest) = ⟨kind, literal, value, cs.length⟩) (here : Location) :
    tokensFrom here (c :: (cs ++ rest)) =
      ⟨kind, String.ofList literal, value, here⟩ :: tokensFrom (here.after (c :: cs)) rest := by
  rw [tokensFrom_of_lexeme (by simp [notBlank]) read, List.take_left, List.drop_left]

theorem tokensFrom_document {opening : Char} {cs : List Char} {value : Value}
    (opens : Json.isOpening opening = true)
    (read : Json.readValue Json.maxDepth (opening :: cs) = .ok (value, []))
    (here : Location) (rest : List Char) :
    tokensFrom here (opening :: cs ++ rest) =
      ⟨.json, String.ofList (opening :: cs), some value, here⟩ ::
        tokensFrom (here.after (opening :: cs)) rest := by
  have notBlank : isGap opening = false := by
    simp only [Json.isOpening, Bool.or_eq_true, beq_iff_eq] at opens
    rcases opens with rfl | rfl <;> decide
  have first := (Scan.lexeme_opening opens (cs ++ rest)).trans
    (Scan.span_of_readValue opens read rest)
  exact tokensFrom_spelled notBlank first here

/-- A JSON document that starts with a bracket and has no blanks at its end is the first
token of a source, whatever follows it: its literal is the document and its value is
that of the document. The next token is looked for right behind it. -/
theorem tokenize_document {document : List Char} {value : Value}
    (opens : document.head? = some '\x7b' ∨ document.head? = some '[')
    (closed : ∀ c ∈ document.getLast?, Json.isSpace c = false)
    (accepted : Json.read document = .ok value) (rest : List Char) :
    tokenize (document ++ rest) =
      ⟨.json, String.ofList document, some value, .start⟩ ::
        tokensFrom (Location.start.after document) rest := by
  have read := Json.readValue_of_read accepted closed
  rcases opens with brace | bracket
  · obtain ⟨cs, rfl⟩ := List.head?_eq_some_iff.mp brace
    exact tokensFrom_document rfl read .start rest
  · obtain ⟨cs, rfl⟩ := List.head?_eq_some_iff.mp bracket
    exact tokensFrom_document rfl read .start rest

/-- A document with brackets and escaped quotes inside of its texts. -/
def quotedBrackets : List Char :=
  "[\"]\\\"\x7d\\\\\", \x7b\"k[\": [\n]\x7d]".toList

theorem tokenize_document_quotedBrackets :
    Json.read quotedBrackets = .ok (.list [.text "]\"\x7d\\", .dict [("k[", .list [])]]) ∧
    tokenize (quotedBrackets ++ ['"', ']']) =
      ⟨.json, String.ofList quotedBrackets,
        some (.list [.text "]\"\x7d\\", .dict [("k[", .list [])]]), .start⟩ ::
        tokensFrom ⟨2, 4⟩ ['"', ']'] := by
  have accepted : Json.read quotedBrackets =
      .ok (.list [.text "]\"\x7d\\", .dict [("k[", .list [])]]) := rfl
  have closed : ∀ c ∈ quotedBrackets.getLast?, Json.isSpace c = false := by
    rintro c ⟨⟩
    rfl
  exact ⟨accepted, tokenize_document (.inr rfl) closed accepted ['"', ']']⟩

end GlyphScript
