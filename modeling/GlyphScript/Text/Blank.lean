import GlyphScript.Text.CodePoints

/-!
# Blanks

The characters that may stand around a text without being part of it, and the
two ways of doing away with them: at both ends (`trim`) and between words
(`words`).
-/

namespace GlyphScript.Text

/-- The characters with the property White_Space. -/
def blanks : CodePoints := [
  (0x9, 0xD), (0x20, 0x20), (0x85, 0x85), (0xA0, 0xA0), (0x1680, 0x1680), (0x2000, 0x200A),
  (0x2028, 0x2029), (0x202F, 0x202F), (0x205F, 0x205F), (0x3000, 0x3000)]

def isBlank (c : Char) : Bool :=
  blanks.has c

def trimStart (cs : List Char) : List Char :=
  cs.dropWhile isBlank

def trimEnd (cs : List Char) : List Char :=
  (cs.reverse.dropWhile isBlank).reverse

def trim (cs : List Char) : List Char :=
  trimEnd (trimStart cs)

/-- The maximal runs of characters that are not blank, in order. -/
def words (cs : List Char) : List (List Char) :=
  match _found : cs.dropWhile isBlank with
  | [] => []
  | c :: rest =>
      (c :: rest.takeWhile (!isBlank ·)) :: words (rest.dropWhile (!isBlank ·))
termination_by cs.length
decreasing_by
  have dropped := (List.dropWhile_suffix isBlank (l := cs)).length_le
  have rest_dropped := (List.dropWhile_suffix (!isBlank ·) (l := rest)).length_le
  rw [_found] at dropped
  simp only [List.length_cons] at dropped
  omega

end GlyphScript.Text
