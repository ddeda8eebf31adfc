import GlyphScript.Text.Split

/-!
# Cutting and joining

Joining the pieces of a text gives the text back, whatever the separator is. The pieces
are told apart from others that join to the same text by where the separator is found:
as early as possible, also where its occurrences overlap.

Results:
1. `join_splitOn`: joining undoes cutting.
2. `cutAt_splitOn`: at a separator that is not empty a text is cut from left to right.
3. `CutAt.splitOn_join`: cutting undoes the joining of such pieces.
-/

namespace GlyphScript.Text

variable {sep : List Char}

/-! ## The first occurrence of a separator -/

theorem append_of_cut? {cs before behind : List Char}
    (found : cut? sep cs = some (before, behind)) : before ++ sep ++ behind = cs := by
  induction cs generalizing before with
  | nil => simp [cut?] at found
  | cons c rest ih =>
      simp only [cut?] at found
      split at found
      · next starts =>
          obtain ⟨tail, equal⟩ := List.isPrefixOf_iff_prefix.mp starts
          rw [← equal, List.drop_left] at found
          cases found
          exact equal
      · obtain ⟨⟨inner, tail⟩, cut, equal⟩ := Option.map_eq_some_iff.mp found
        cases equal
        exact congrArg (c :: ·) (ih cut)

theorem cut?_eq_none_iff (nonempty : sep ≠ []) {cs : List Char} :
    cut? sep cs = none ↔ ¬ sep <:+: cs := by
  induction cs with
  | nil => simp [cut?, nonempty]
  | cons c rest ih =>
      rw [List.infix_cons_iff, not_or, ← ih, cut?, ← List.isPrefixOf_iff_prefix]
      split
      · next starts => simp [starts]
      · next elsewhere => simp [elsewhere]

/-- No occurrence ends before the one that is found. -/
theorem absent_of_cut? (nonempty : sep ≠ []) {cs before behind : List Char}
    (found : cut? sep cs = some (before, behind)) : ¬ sep <:+: before ++ sep.dropLast := by
  induction cs generalizing before with
  | nil => simp [cut?] at found
  | cons c rest ih =>
      simp only [cut?] at found
      split at found
      · cases found
        intro sooner
        have fits := sooner.length_le
        rw [List.nil_append, List.length_dropLast] at fits
        have positive := List.length_pos_iff.mpr nonempty
        omega
      · next elsewhere =>
          obtain ⟨⟨inner, tail⟩, cut, equal⟩ := Option.map_eq_some_iff.mp found
          cases equal
          rw [List.cons_append, List.infix_cons_iff, not_or]
          refine ⟨fun starts => elsewhere ?_, ih cut⟩
          have whole : c :: (inner ++ sep.dropLast) <+: c :: rest := by
            rw [← append_of_cut? cut, List.append_assoc, List.prefix_cons_inj,
              List.prefix_append_right_inj]
            exact (List.dropLast_prefix sep).trans (List.prefix_append sep tail)
          exact List.isPrefixOf_iff_prefix.mpr (starts.trans whole)

theorem cut?_of_absent (nonempty : sep ≠ []) {piece : List Char}
    (absent : ¬ sep <:+: piece ++ sep.dropLast) (rest : List Char) :
    cut? sep (piece ++ sep ++ rest) = some (piece, rest) := by
  induction piece with
  | nil =>
      obtain ⟨first, others, rfl⟩ := List.exists_cons_of_ne_nil nonempty
      simp [cut?]
  | cons c others ih =>
      rw [List.cons_append, List.infix_cons_iff, not_or] at absent
      have elsewhere : ¬ sep.isPrefixOf (c :: (others ++ sep ++ rest)) = true := by
        intro starts
        have found := List.isPrefixOf_iff_prefix.mp starts
        refine absent.1 (List.prefix_of_prefix_length_le found ?_ ?_)
        · rw [List.append_assoc, List.prefix_cons_inj, List.prefix_append_right_inj]
          exact (List.dropLast_prefix sep).trans (List.prefix_append sep rest)
        · rw [List.length_cons, List.length_append, List.length_dropLast]
          omega
      rw [List.cons_append, List.cons_append, cut?, if_neg elsewhere, ih absent.2]
      rfl

/-! ## Pieces -/

/-- Pieces of a text that was cut at every occurrence of a separator from left to right:
it is not in the last piece, and behind the others it is not found any sooner. -/
inductive CutAt (sep : List Char) : List (List Char) → Prop where
  | last {piece : List Char} (absent : ¬ sep <:+: piece) : CutAt sep [piece]
  | piece {piece : List Char} {pieces : List (List Char)}
      (absent : ¬ sep <:+: piece ++ sep.dropLast) (others : CutAt sep pieces) :
      CutAt sep (piece :: pieces)

theorem CutAt.ne_nil {pieces : List (List Char)} (cut : CutAt sep pieces) : pieces ≠ [] := by
  cases cut <;> exact List.cons_ne_nil _ _

theorem join_cons (piece : List Char) {pieces : List (List Char)} (nonempty : pieces ≠ []) :
    join sep (piece :: pieces) = piece ++ sep ++ join sep pieces := by
  obtain ⟨next, rest, rfl⟩ := List.exists_cons_of_ne_nil nonempty
  exact List.intercalate_cons_cons

theorem join_singletons (cs : List Char) : join [] (cs.map fun c => [c]) = cs := by
  induction cs with
  | nil => rfl
  | cons c rest ih =>
      cases rest with
      | nil => rfl
      | cons next others =>
          rw [List.map_cons, join_cons [c] (by simp), ih]
          rfl

theorem cutAt_splitOn (nonempty : sep ≠ []) (cs : List Char) : CutAt sep (splitOn sep cs) := by
  fun_induction splitOn sep cs with
  | case1 cs empty => exact absurd empty nonempty
  | case2 cs _ missing => exact .last ((cut?_eq_none_iff nonempty).mp missing)
  | case3 cs _ before behind found ih => exact .piece (absent_of_cut? nonempty found) ih

/-- Joining undoes cutting. The empty separator leaves single characters. -/
theorem join_splitOn (sep cs : List Char) : join sep (splitOn sep cs) = cs := by
  fun_induction splitOn sep cs with
  | case1 cs empty => rw [empty, join_singletons]
  | case2 cs _ missing => exact List.intercalate_singleton
  | case3 cs nonempty before behind found ih =>
      rw [join_cons before (cutAt_splitOn nonempty behind).ne_nil, ih, append_of_cut? found]

/-- Pieces that the separator was found behind are found again. -/
theorem CutAt.splitOn_join (nonempty : sep ≠ []) {pieces : List (List Char)}
    (cut : CutAt sep pieces) : splitOn sep (join sep pieces) = pieces := by
  induction cut with
  | @last piece absent =>
      have missing := (cut?_eq_none_iff nonempty).mpr absent
      rw [join, List.intercalate_singleton, splitOn, dif_neg nonempty]
      split
      · rfl
      · next found =>
          rw [missing] at found
          cases found
  | @piece piece pieces absent others ih =>
      have found := cut?_of_absent nonempty absent (join sep pieces)
      rw [join_cons piece others.ne_nil, splitOn, dif_neg nonempty]
      split
      · next missing =>
          rw [found] at missing
          cases missing
      · next again =>
          rw [found] at again
          cases again
          rw [ih]

/-- A separator of one character occurs in no piece. -/
theorem cutAt_mark {mark : Char} {pieces : List (List Char)} (nonempty : pieces ≠ [])
    (separate : ∀ piece ∈ pieces, mark ∉ piece) : CutAt [mark] pieces := by
  have absent : ∀ piece ∈ pieces, ¬ [mark] <:+: piece := fun piece member occurs =>
    separate piece member (occurs.subset (List.mem_singleton_self mark))
  induction pieces with
  | nil => exact absurd rfl nonempty
  | cons piece others ih =>
      cases others with
      | nil => exact .last (absent piece List.mem_cons_self)
      | cons next rest =>
          refine .piece ?_ (ih (List.cons_ne_nil next rest) ?_ ?_)
          · rw [List.dropLast_singleton, List.append_nil]
            exact absent piece List.mem_cons_self
          · exact fun other member => separate other (List.mem_cons_of_mem piece member)
          · exact fun other member => absent other (List.mem_cons_of_mem piece member)

end GlyphScript.Text
