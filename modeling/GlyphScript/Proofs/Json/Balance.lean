import GlyphScript.Json.Reader

/-!
# Brackets in a JSON document

What a JSON reader takes is balanced: every opening bracket has a closing one, and
brackets inside of texts do not count. The shapes of the brackets are not compared
here, since a scanner for brackets does not compare them either.

Results:
1. `inText_of_readText`: a text is read up to its first quote that is not escaped.
2. `balanced_readValue`: reading a value takes a balanced stretch of the document.
-/

namespace GlyphScript.Json

open Text (isAsciiDigit)

/-- The rest of a text that stands behind `cs`, which starts inside the quotes: each
backslash takes the next character with it. -/
inductive InText : (cs rest : List Char) → Prop
  | close {rest : List Char} : InText ('"' :: rest) rest
  | escaped {c : Char} {cs rest : List Char} (inner : InText cs rest) :
      InText ('\\' :: c :: cs) rest
  | plain {c : Char} {cs rest : List Char} (noQuote : c ≠ '"') (noEscape : c ≠ '\\')
      (inner : InText cs rest) : InText (c :: cs) rest

def isOpening (c : Char) : Bool :=
  c == '\x7b' || c == '['

def isClosing (c : Char) : Bool :=
  c == '\x7d' || c == ']'

/-- A character that neither opens nor closes anything. -/
def isInert (c : Char) : Bool :=
  !(c == '"' || isOpening c || isClosing c)

/-- Between `cs` and its `rest` every bracket and every quote is closed. -/
inductive Balanced : (cs rest : List Char) → Prop
  | done {rest : List Char} : Balanced rest rest
  | inert {c : Char} {cs rest : List Char} (inert : isInert c = true)
      (others : Balanced cs rest) : Balanced (c :: cs) rest
  | text {cs behind rest : List Char} (inner : InText cs behind)
      (others : Balanced behind rest) : Balanced ('"' :: cs) rest
  | nested {opening closing : Char} {cs behind rest : List Char} (opens : isOpening opening = true)
      (closes : isClosing closing = true) (inner : Balanced cs (closing :: behind))
      (others : Balanced behind rest) : Balanced (opening :: cs) rest

theorem Balanced.trans {cs middle rest : List Char} (first : Balanced cs middle)
    (second : Balanced middle rest) : Balanced cs rest := by
  induction first with
  | done => exact second
  | inert inert _ ih => exact .inert inert (ih second)
  | text inner _ ih => exact .text inner (ih second)
  | nested opens closes inner _ _ ih => exact .nested opens closes inner (ih second)

theorem ok_of_map {ε α β : Type} {f : α → β} {result : Except ε α} {b : β}
    (mapped : result.map f = .ok b) : ∃ a, result = .ok a ∧ f a = b := by
  cases result with
  | error fault => cases mapped
  | ok a => exact ⟨a, rfl, Except.ok.inj mapped⟩

/-! ## Blanks, words and numbers -/

theorem balanced_dropWhile {p : Char → Bool} (inert : ∀ c, p c = true → isInert c = true)
    (cs : List Char) : Balanced cs (cs.dropWhile p) := by
  induction cs with
  | nil => exact .done
  | cons c rest ih =>
      cases inClass : p c with
      | false =>
          rw [List.dropWhile_cons_of_neg (by simp [inClass])]
          exact .done
      | true =>
          rw [List.dropWhile_cons_of_pos inClass]
          exact .inert (inert c inClass) ih

theorem isInert_of_isSpace (c : Char) (space : isSpace c = true) : isInert c = true := by
  simp only [isSpace, Bool.or_eq_true, beq_iff_eq] at space
  rcases space with ((rfl | rfl) | rfl) | rfl <;> rfl

theorem isInert_of_isAsciiDigit (c : Char) (digit : isAsciiDigit c = true) :
    isInert c = true := by
  cases special : isInert c with
  | true => rfl
  | false =>
      simp only [isInert, isOpening, isClosing, Bool.not_eq_false', Bool.or_eq_true,
        beq_iff_eq] at special
      rcases special with (rfl | rfl | rfl) | rfl | rfl <;> cases digit

theorem balanced_skipSpace (cs : List Char) : Balanced cs (skipSpace cs) :=
  balanced_dropWhile isInert_of_isSpace cs

theorem balanced_skipDigits (cs : List Char) : Balanced cs (cs.dropWhile isAsciiDigit) :=
  balanced_dropWhile isInert_of_isAsciiDigit cs

theorem balanced_readWord {word cs rest : List Char} (inert : ∀ c ∈ word, isInert c = true)
    (found : readWord word cs = .ok rest) : Balanced cs rest := by
  induction word generalizing cs with
  | nil =>
      cases found
      exact .done
  | cons expected word ih =>
      cases cs with
      | nil => cases found
      | cons c cs =>
          rw [readWord] at found
          split at found
          · next same =>
              rw [same]
              exact .inert (inert expected List.mem_cons_self)
                (ih (fun c member => inert c (List.mem_cons_of_mem _ member)) found)
          · cases found

theorem balanced_readWhole {cs digits rest : List Char}
    (found : readWhole cs = .ok (digits, rest)) : Balanced cs rest := by
  unfold readWhole at found
  split at found
  · cases found
  · next c behind =>
      split at found
      · next zero =>
          have same : behind = rest := by
            split at found
            · split at found
              · cases found
              · cases found
                rfl
            · cases found
              rfl
          rw [zero, same]
          exact .inert rfl .done
      · split at found
        · next digit =>
            cases found
            exact .inert (isInert_of_isAsciiDigit c digit) (balanced_skipDigits behind)
        · cases found

theorem balanced_readFraction {cs rest : List Char} {digits : Option (List Char)}
    (found : readFraction cs = .ok (digits, rest)) : Balanced cs rest := by
  unfold readFraction at found
  split at found
  · next behind =>
      split at found
      · cases found
      · cases found
      · cases found
        exact .inert rfl (balanced_skipDigits _)
  · cases found
    exact .done

theorem balanced_readExponent {isZero : Bool} {cs rest : List Char} {exponent : Option Int}
    (found : readExponent isZero cs = .ok (exponent, rest)) : Balanced cs rest := by
  unfold readExponent at found
  split at found
  · cases found
    exact .done
  · next mark behind =>
      split at found
      · next isMark =>
          have inertMark : isInert mark = true := by
            rcases isMark with rfl | rfl <;> rfl
          refine .inert inertMark ?_
          split at found
          next negative digits sign =>
            have signed : Balanced behind digits := by
              split at sign <;> cases sign
              · exact .inert rfl .done
              · exact .inert rfl .done
              · exact .done
            refine signed.trans ?_
            split at found
            · cases found
            · next d others =>
                split at found
                · next digit =>
                    have same : others.dropWhile isAsciiDigit = rest := by
                      dsimp only at found
                      split at found
                      · exact congrArg Prod.snd (Except.ok.inj found)
                      · split at found
                        · exact congrArg Prod.snd (Except.ok.inj found)
                        · cases found
                    rw [← same]
                    exact .inert (isInert_of_isAsciiDigit d digit) (balanced_skipDigits others)
                · cases found
      · cases found
        exact .done

theorem balanced_readNumber {negative : Bool} {cs rest : List Char} {x : Float}
    (found : readNumber negative cs = .ok (x, rest)) : Balanced cs rest := by
  simp only [readNumber, bind, Except.bind] at found
  split at found
  · cases found
  · next whole readsWhole =>
      refine (balanced_readWhole readsWhole).trans ?_
      split at found
      · cases found
      · next fraction readsFraction =>
          refine (balanced_readFraction readsFraction).trans ?_
          split at found
          · cases found
          · next exponent readsExponent =>
              have same : exponent.2 = rest := by
                split at found
                · exact congrArg Prod.snd (Except.ok.inj found)
                · cases found
              rw [← same]
              exact balanced_readExponent readsExponent

/-! ## Texts -/

theorem plain_of_hexValue? {c : Char} {n : Nat} (digit : hexValue? c = some n) :
    c ≠ '"' ∧ c ≠ '\\' := by
  constructor
  · rintro rfl
    cases digit
  · rintro rfl
    cases digit

/-- Four hexadecimal digits are plain characters of a text. -/
theorem inText_of_hexUnit? {a b c d : Char} {n : Nat} {cs rest : List Char}
    (unit : hexUnit? a b c d = some n) (inner : InText cs rest) :
    InText (a :: b :: c :: d :: cs) rest := by
  simp only [hexUnit?, bind_pure_comp, Option.bind_eq_bind, Option.bind_eq_some_iff,
    Option.map_eq_map, Option.map_eq_some_iff] at unit
  obtain ⟨_, first, _, second, _, third, _, fourth, _⟩ := unit
  have plainA := plain_of_hexValue? first
  have plainB := plain_of_hexValue? second
  have plainC := plain_of_hexValue? third
  have plainD := plain_of_hexValue? fourth
  exact .plain plainA.1 plainA.2 (.plain plainB.1 plainB.2
    (.plain plainC.1 plainC.2 (.plain plainD.1 plainD.2 inner)))

theorem inText_of_readCodeUnit {c : Char} {cs tail rest : List Char}
    (found : readCodeUnit cs = .ok (c, tail)) (inner : InText tail rest) : InText cs rest := by
  unfold readCodeUnit at found
  split at found
  · split at found
    · cases found
    · next n unit =>
        refine inText_of_hexUnit? unit ?_
        split at found
        · cases found
        · split at found
          · -- A high surrogate is followed by an escape of its own.
            split at found
            · split at found
              · split at found
                · cases found
                · next m low =>
                    split at found
                    · obtain ⟨-, rfl⟩ := Prod.mk.inj (Except.ok.inj found)
                      exact .escaped (inText_of_hexUnit? low inner)
                    · cases found
              · cases found
            · cases found
            · cases found
            · cases found
            · cases found
          · obtain ⟨-, rfl⟩ := Prod.mk.inj (Except.ok.inj found)
            exact inner
  · cases found

theorem inText_of_readText {fuel : Nat} {read cs decoded rest : List Char}
    (found : readText fuel read cs = .ok (decoded, rest)) : InText cs rest := by
  induction fuel generalizing read cs with
  | zero => cases cs <;> cases found
  | succ fuel ih =>
      cases cs with
      | nil => cases found
      | cons c behind =>
          unfold readText at found
          split at found
          · next quote =>
              cases found
              rw [quote]
              exact .close
          · next noQuote =>
              split at found
              · next backslash =>
                  rw [backslash]
                  split at found
                  · cases found
                  · next e tail =>
                      refine .escaped ?_
                      split at found
                      · split at found
                        · next unit => exact inText_of_readCodeUnit unit (ih found)
                        · cases found
                      · split at found
                        · exact ih found
                        · cases found
              · next noEscape =>
                  split at found
                  · cases found
                  · exact .plain noQuote noEscape (ih found)

theorem inText_of_readString {cs rest : List Char} {s : String}
    (found : readString cs = .ok (s, rest)) : InText cs rest := by
  obtain ⟨⟨decoded, behind⟩, read, same⟩ := ok_of_map found
  cases same
  exact inText_of_readText read

/-! ## Containers -/

section Containers

variable {readItem : List Char → Reading Value}
  (items : ∀ {cs rest : List Char} {value : Value},
    readItem cs = .ok (value, rest) → Balanced cs rest)

include items

theorem balanced_readItems {fuel : Nat} {read values : List Value} {cs rest : List Char}
    (found : readItems readItem fuel read cs = .ok (values, rest)) :
    Balanced cs (']' :: rest) := by
  induction fuel generalizing read cs with
  | zero => cases found
  | succ fuel ih =>
      refine (balanced_skipSpace cs).trans ?_
      rw [readItems] at found
      split at found
      · next behind close =>
          cases found
          rw [close]
          exact .done
      · next behind comma =>
          rw [comma]
          refine .inert rfl ((balanced_skipSpace behind).trans ?_)
          split at found
          · cases found
          · cases found
          · split at found
            · next item tail first => exact (items first).trans (ih found)
            · cases found
      · cases found
      · cases found

theorem balanced_readList {cs rest : List Char} {value : Value}
    (found : readList readItem cs = .ok (value, rest)) : Balanced cs (']' :: rest) := by
  refine (balanced_skipSpace cs).trans ?_
  unfold readList at found
  split at found
  · cases found
  · next behind close =>
      cases found
      rw [close]
      exact .done
  · split at found
    · next item tail first =>
        obtain ⟨⟨values, behind⟩, others, same⟩ := ok_of_map found
        cases same
        exact (items first).trans (balanced_readItems items others)
    · cases found

theorem balanced_readEntry {cs rest : List Char} {entry : String × Value}
    (found : readEntry readItem cs = .ok (entry, rest)) : Balanced cs rest := by
  unfold readEntry at found
  split at found
  · next behind =>
      split at found
      · next key tail read =>
          refine .text (inText_of_readString read) ((balanced_skipSpace tail).trans ?_)
          split at found
          · next colon =>
              obtain ⟨⟨value, behindValue⟩, item, same⟩ := ok_of_map found
              cases same
              rw [colon]
              exact .inert rfl (items item)
          · cases found
          · cases found
      · cases found
  · cases found

theorem balanced_readEntries {fuel : Nat} {read entries : Dict} {cs rest : List Char}
    (found : readEntries readItem fuel read cs = .ok (entries, rest)) :
    Balanced cs ('\x7d' :: rest) := by
  induction fuel generalizing read cs with
  | zero => cases found
  | succ fuel ih =>
      refine (balanced_skipSpace cs).trans ?_
      rw [readEntries] at found
      split at found
      · next behind close =>
          cases found
          rw [close]
          exact .done
      · next behind comma =>
          rw [comma]
          refine .inert rfl ((balanced_skipSpace behind).trans ?_)
          split at found
          · cases found
          · cases found
          · split at found
            · next entry tail first => exact (balanced_readEntry items first).trans (ih found)
            · cases found
      · cases found
      · cases found

theorem balanced_readObject {cs rest : List Char} {value : Value}
    (found : readObject readItem cs = .ok (value, rest)) : Balanced cs ('\x7d' :: rest) := by
  refine (balanced_skipSpace cs).trans ?_
  unfold readObject at found
  split at found
  · cases found
  · next behind close =>
      cases found
      rw [close]
      exact .done
  · split at found
    · next entry tail first =>
        obtain ⟨⟨entries, behind⟩, others, same⟩ := ok_of_map found
        cases same
        exact (balanced_readEntry items first).trans (balanced_readEntries items others)
    · cases found

end Containers

/-! ## Values -/

theorem balanced_readScalar {cs rest : List Char} {value : Value}
    (found : readScalar cs = .ok (value, rest)) : Balanced cs rest := by
  -- A word or a number consists of inert characters.
  have word {first : Char} {others behind : List Char} {result : Value}
      (inert : ∀ c ∈ first :: others, isInert c = true)
      (read : (readWord others behind).map (result, ·) = .ok (value, rest)) :
      Balanced (first :: behind) rest := by
    obtain ⟨tail, spelled, same⟩ := ok_of_map read
    cases same
    exact .inert (inert first List.mem_cons_self)
      (balanced_readWord (fun c member => inert c (List.mem_cons_of_mem _ member)) spelled)
  have number {negative : Bool} {behind : List Char}
      {build : Float × List Char → Value × List Char} (keeps : ∀ read, (build read).2 = read.2)
      (read : (readNumber negative behind).map build = .ok (value, rest)) :
      Balanced behind rest := by
    obtain ⟨⟨x, tail⟩, digits, same⟩ := ok_of_map read
    have left := keeps (x, tail)
    rw [same] at left
    cases left
    exact balanced_readNumber digits
  unfold readScalar at found
  split at found
  · cases found
  · next c behind =>
      split at found
      · next isN => exact isN ▸ word (List.all_eq_true.mp (by decide)) found
      split at found
      · next isT => exact isT ▸ word (List.all_eq_true.mp (by decide)) found
      split at found
      · next isF => exact isF ▸ word (List.all_eq_true.mp (by decide)) found
      split at found
      · next minus => exact minus ▸ .inert rfl (number (fun _ => rfl) found)
      split at found
      · exact number (fun _ => rfl) found
      split at found
      · next quote =>
          obtain ⟨⟨s, tail⟩, read, same⟩ := ok_of_map found
          cases same
          exact quote ▸ .text (inText_of_readString read) .done
      · cases found

/-- A value that is read is a balanced stretch of the document. -/
theorem balanced_readValue {depth : Nat} {cs rest : List Char} {value : Value}
    (found : readValue depth cs = .ok (value, rest)) : Balanced cs rest := by
  induction depth generalizing cs rest value with
  | zero =>
      refine (balanced_skipSpace cs).trans ?_
      unfold readValue at found
      split at found
      · cases found
      · cases found
      · exact balanced_readScalar found
  | succ depth ih =>
      refine (balanced_skipSpace cs).trans ?_
      unfold readValue at found
      split at found
      · next behind bracket =>
          rw [bracket]
          exact .nested rfl rfl (balanced_readList ih found) .done
      · next behind brace =>
          rw [brace]
          exact .nested rfl rfl (balanced_readObject ih found) .done
      · exact balanced_readScalar found

/-- A value that starts with a bracket ends with one, and is balanced in between. -/
theorem balanced_readContainer {depth : Nat} {opening : Char} {cs rest : List Char} {value : Value}
    (opens : isOpening opening = true)
    (found : readValue depth (opening :: cs) = .ok (value, rest)) :
    ∃ closing, isClosing closing = true ∧ Balanced cs (closing :: rest) := by
  simp only [isOpening, Bool.or_eq_true, beq_iff_eq] at opens
  cases depth with
  | zero => rcases opens with rfl | rfl <;> cases found
  | succ depth =>
      rcases opens with rfl | rfl
      · exact ⟨'\x7d', rfl, balanced_readObject balanced_readValue found⟩
      · exact ⟨']', rfl, balanced_readList balanced_readValue found⟩

end GlyphScript.Json
