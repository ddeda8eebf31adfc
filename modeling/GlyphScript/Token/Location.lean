/-!
# Places in a source text

Lines and columns count characters and start from one.
-/

namespace GlyphScript

structure Location where
  line : Nat
  column : Nat
deriving DecidableEq, Repr

namespace Location

/-- The first character of a text. -/
def start : Location := ⟨1, 1⟩

/-- The place behind a character. -/
def next (here : Location) (c : Char) : Location :=
  if c = '\n' then ⟨here.line + 1, 1⟩ else ⟨here.line, here.column + 1⟩

/-- The place behind a stretch of text. -/
def after (here : Location) (cs : List Char) : Location :=
  cs.foldl next here

end Location

end GlyphScript
