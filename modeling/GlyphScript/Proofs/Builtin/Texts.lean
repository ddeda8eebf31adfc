import GlyphScript.Builtin.Texts
import GlyphScript.Proofs.Text.Split

/-!
# Splitting and joining values

`split` and `join` take the texts that their arguments stand for, so they are inverse up
to that text: what is joined again is the text of the value that was split, and no
longer the value (`join_split`).
-/

namespace GlyphScript.Builtin

theorem chars_ofChars (cs : List Char) : chars (ofChars cs) = cs :=
  String.toList_ofList

theorem ofChars_chars (value : Value) : ofChars (chars value) = .text value.toText := by
  rw [ofChars, chars, String.ofList_toList]

theorem chars_eq_nil_iff {value : Value} : chars value = [] ↔ value.toText = "" := by
  rw [chars, String.toList_eq_nil_iff]

theorem join_pieces (pieces : List (List Char)) (sep : Value) :
    join [.list (pieces.map ofChars), sep] = ofChars (Text.join (chars sep) pieces) := by
  have texts : (pieces.map ofChars).map chars = pieces := by
    rw [List.map_map]
    exact List.map_id'' chars_ofChars pieces
  rw [join, texts]

/-- Joining what was split gives the text that was split, whatever values stand for the
text and for the separator. The empty separator leaves single characters. At any other one
the text is cut from left to right wherever it is found. -/
theorem join_split (s sep : Value) :
    join [split [s, sep], sep] = .text s.toText ∧
      ∃ pieces, split [s, sep] = .list (pieces.map ofChars) ∧
        if sep.toText = "" then ∀ piece ∈ pieces, piece.length = 1
        else Text.CutAt (chars sep) pieces := by
  have cut : split [s, sep] = .list ((Text.splitOn (chars sep) (chars s)).map ofChars) := rfl
  refine ⟨?_, Text.splitOn (chars sep) (chars s), cut, ?_⟩
  · rw [cut, join_pieces, Text.join_splitOn, ofChars_chars]
  · split
    · next empty =>
        rw [chars_eq_nil_iff.mpr empty, Text.splitOn, dif_pos rfl]
        intro piece member
        obtain ⟨c, -, rfl⟩ := List.mem_map.mp member
        rfl
    · next nonempty => exact Text.cutAt_splitOn (mt chars_eq_nil_iff.mp nonempty) (chars s)

end GlyphScript.Builtin
