/-!
# The stretch of one class at the start of a list

Scanning and parsing take the longest stretch of elements of one class. What
stands behind the list does not matter if it starts with an element of another
class.
-/

namespace GlyphScript.Stretch

variable {α : Type} {p : α → Bool}

theorem takeWhile_append {left right : List α} (stop : ∀ x ∈ right.head?, p x = false) :
    (left ++ right).takeWhile p = left.takeWhile p := by
  induction left with
  | nil =>
      cases right with
      | nil => rfl
      | cons x rest => simp [stop x rfl]
  | cons x rest ih =>
      cases inClass : p x with
      | false => simp [inClass]
      | true => simp [inClass, ih]

theorem dropWhile_append {left right : List α} (stop : ∀ x ∈ right.head?, p x = false) :
    (left ++ right).dropWhile p = left.dropWhile p ++ right := by
  induction left with
  | nil =>
      cases right with
      | nil => rfl
      | cons x rest => simp [stop x rfl]
  | cons x rest ih =>
      cases inClass : p x with
      | false => simp [inClass]
      | true => simp [inClass, ih]

/-- A list of one class is cut off exactly where another class begins. -/
theorem cut_append {left right : List α} (inClass : ∀ x ∈ left, p x = true)
    (stop : ∀ x ∈ right.head?, p x = false) :
    (left ++ right).takeWhile p = left ∧ (left ++ right).dropWhile p = right := by
  rw [takeWhile_append stop, dropWhile_append stop, ← List.append_nil left,
    List.takeWhile_append_of_pos inClass, List.dropWhile_append_of_pos inClass]
  simp

end GlyphScript.Stretch
