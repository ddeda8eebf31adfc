import Mathlib.Data.List.TakeWhile
import GlyphScript.Proofs.Stretch
import GlyphScript.Text.Blank

/-!
# Words

A text is cut into words at its blanks. The words are the only pieces without blanks
that it is made of (`Spaced.words_eq`, `spaced_words`).
-/

namespace GlyphScript.Text

theorem words_eq (cs : List Char) :
    words cs = match cs.dropWhile isBlank with
      | [] => []
      | c :: rest =>
          (c :: rest.takeWhile (!isBlank ·)) :: words (rest.dropWhile (!isBlank ·)) := by
  rw [words]
  split
  · next none => rw [none]
  · next c rest found => rw [found]

theorem words_of_blank {c : Char} (blank : isBlank c = true) (rest : List Char) :
    words (c :: rest) = words rest := by
  rw [words_eq, words_eq rest, List.dropWhile_cons_of_pos blank]

theorem words_nil : words [] = [] := by
  rw [words_eq, List.dropWhile_nil]

/-- A stretch without blanks is a word where a blank or nothing follows it. -/
theorem words_append {word rest : List Char} (nonempty : word ≠ [])
    (solid : ∀ c ∈ word, isBlank c = false) (ends : ∀ c ∈ rest.head?, isBlank c = true) :
    words (word ++ rest) = word :: words rest := by
  obtain ⟨c, cs, rfl⟩ := List.exists_cons_of_ne_nil nonempty
  have starts : (c :: cs ++ rest).dropWhile isBlank = c :: (cs ++ rest) :=
    List.dropWhile_cons_of_neg (by simp [solid c List.mem_cons_self])
  obtain ⟨taken, dropped⟩ := @Stretch.cut_append _ (!isBlank ·) cs rest
    (fun x inCs => by simp [solid x (List.mem_cons_of_mem c inCs)])
    (fun x isNext => by simp [ends x isNext])
  rw [words_eq, starts]
  simp only
  rw [taken, dropped]

theorem solid_of_all {word : List Char} (all : word.all (!isBlank ·) = true) :
    ∀ c ∈ word, isBlank c = false := by
  simpa using all

theorem words_append_blank {word : List Char} (nonempty : word ≠ [])
    (solid : ∀ c ∈ word, isBlank c = false) {c : Char} (blank : isBlank c = true)
    (rest : List Char) : words (word ++ c :: rest) = word :: words rest := by
  have ends : ∀ x ∈ (c :: rest).head?, isBlank x = true :=
    fun x isNext => Option.some.inj isNext ▸ blank
  rw [words_append nonempty solid ends, words_of_blank blank]

/-! ## Texts made of words -/

/-- The text is made of words with blanks between them, and maybe around them. -/
inductive Spaced : List Char → List (List Char) → Prop
  | blank {gap : List Char} (blanks : ∀ c ∈ gap, isBlank c = true) : Spaced gap []
  | word {gap word rest : List Char} {words : List (List Char)}
      (blanks : ∀ c ∈ gap, isBlank c = true) (nonempty : word ≠ [])
      (solid : ∀ c ∈ word, isBlank c = false) (ends : ∀ c ∈ rest.head?, isBlank c = true)
      (others : Spaced rest words) : Spaced (gap ++ (word ++ rest)) (word :: words)

/-- Blanks in front do not matter. -/
theorem words_append_of_blank {gap : List Char} (blanks : ∀ c ∈ gap, isBlank c = true)
    (rest : List Char) : words (gap ++ rest) = words rest := by
  induction gap with
  | nil => rfl
  | cons c others ih =>
      obtain ⟨first, othersBlank⟩ := List.forall_mem_cons.mp blanks
      rw [List.cons_append, words_of_blank first, ih othersBlank]

theorem Spaced.words_eq {cs : List Char} {pieces : List (List Char)} (spaced : Spaced cs pieces) :
    words cs = pieces := by
  induction spaced with
  | @blank gap blanks => rw [← List.append_nil gap, words_append_of_blank blanks, words_nil]
  | word blanks nonempty solid ends _ ih =>
      rw [words_append_of_blank blanks, words_append nonempty solid ends, ih]

theorem spaced_words (cs : List Char) : Spaced cs (words cs) := by
  fun_induction words cs with
  | case1 cs blank => exact .blank (List.dropWhile_eq_nil_iff.mp blank)
  | case2 cs c rest found ih =>
      -- The blanks in front, the word up to the next blank, and what is left.
      have whole : cs = cs.takeWhile isBlank ++
          (c :: rest.takeWhile (!isBlank ·) ++ rest.dropWhile (!isBlank ·)) := by
        rw [List.cons_append, List.takeWhile_append_dropWhile, ← found,
          List.takeWhile_append_dropWhile]
      have blanks : ∀ x ∈ cs.takeWhile isBlank, isBlank x = true :=
        fun x member => List.mem_takeWhile_imp member
      have firstSolid : isBlank c = false := by
        have first := List.head?_dropWhile_not isBlank cs
        rw [found] at first
        exact first
      have othersSolid : ∀ x ∈ rest.takeWhile (!isBlank ·), isBlank x = false := by
        intro x member
        simpa using List.mem_takeWhile_imp member
      have ends : ∀ x ∈ (rest.dropWhile (!isBlank ·)).head?, isBlank x = true := by
        intro x isFirst
        have first := List.head?_dropWhile_not (!isBlank ·) rest
        rw [Option.mem_def.mp isFirst] at first
        simpa using first
      have spaced := Spaced.word blanks (List.cons_ne_nil c _)
        (List.forall_mem_cons.mpr ⟨firstSolid, othersSolid⟩) ends ih
      rw [← whole] at spaced
      exact spaced

theorem Spaced.nonempty {cs : List Char} {pieces : List (List Char)} (spaced : Spaced cs pieces) :
    ∀ word ∈ pieces, word ≠ [] := by
  induction spaced with
  | blank _ => nofun
  | word _ nonempty _ _ _ ih => exact List.forall_mem_cons.mpr ⟨nonempty, ih⟩

end GlyphScript.Text
