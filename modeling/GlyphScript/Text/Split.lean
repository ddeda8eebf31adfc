/-!
# Cutting texts at a separator

`splitOn` cuts a text at every occurrence of a separator, from left to right and
without overlap; `join` puts pieces together again.
-/

namespace GlyphScript.Text

/-- The text before and behind the first occurrence of `sep`. -/
def cut? (sep : List Char) : List Char → Option (List Char × List Char)
  | [] => none
  | c :: rest =>
      if sep.isPrefixOf (c :: rest) then some ([], (c :: rest).drop sep.length)
      else (cut? sep rest).map fun (before, behind) => (c :: before, behind)

theorem length_of_cut? {sep cs before behind : List Char}
    (found : cut? sep cs = some (before, behind)) : behind.length + sep.length ≤ cs.length := by
  induction cs generalizing before with
  | nil => simp [cut?] at found
  | cons c rest ih =>
      simp only [cut?] at found
      split at found
      · next starts =>
          have fits := (List.isPrefixOf_iff_prefix.mp starts).length_le
          simp only [Option.some.injEq, Prod.mk.injEq] at found
          rw [← found.2, List.length_drop]
          omega
      · obtain ⟨⟨inner, tail⟩, cut, equal⟩ := Option.map_eq_some_iff.mp found
        simp only [Prod.mk.injEq] at equal
        have fits := ih (equal.2 ▸ cut)
        simp only [List.length_cons]
        omega

/-- The pieces between the occurrences of `sep`; the empty separator cuts between
all characters. -/
def splitOn (sep cs : List Char) : List (List Char) :=
  if _nonempty : sep = [] then cs.map fun c => [c]
  else
    match _found : cut? sep cs with
    | none => [cs]
    | some (before, behind) => before :: splitOn sep behind
termination_by cs.length
decreasing_by
  have fits := length_of_cut? _found
  have positive := List.length_pos_iff.mpr _nonempty
  omega

def join (sep : List Char) (pieces : List (List Char)) : List Char :=
  List.intercalate sep pieces

/-- Puts `new` in the place of every occurrence of `sep`. The empty text occurs
before every character and at the end. -/
def replace (sep new cs : List Char) : List Char :=
  if sep = [] then new ++ cs.flatMap fun c => c :: new
  else join new (splitOn sep cs)

def contains (part : List Char) : List Char → Bool
  | [] => part.isEmpty
  | c :: rest => part.isPrefixOf (c :: rest) || contains part rest

end GlyphScript.Text
