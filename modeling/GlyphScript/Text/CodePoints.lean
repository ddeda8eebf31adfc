/-!
# Sets of code points

A set of characters is given by closed ranges of code points. The properties of
characters that the language depends on are such sets; they follow the Unicode
character database, version 17.
-/

namespace GlyphScript.Text

abbrev CodePoints := List (Nat × Nat)

def CodePoints.has (set : CodePoints) (c : Char) : Bool :=
  set.any fun range => range.1 ≤ c.toNat && c.toNat ≤ range.2

end GlyphScript.Text
