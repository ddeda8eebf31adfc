import GlyphScript.Token.Basic
import GlyphScript.Token.Scan

/-!
# The tokens of a source

Between two tokens there are only blanks. The last token stands for the end of
the source.
-/

namespace GlyphScript

/-- Blanks between tokens. Line ends are tokens themselves. -/
def isGap (c : Char) : Bool :=
  c == ' ' || c == '\t' || c == '\r'

/-- The tokens of a text that starts at a place of the source. -/
def tokensFrom (here : Location) : List Char → List Token
  | [] => [⟨.endOfFile, "", none, here⟩]
  | c :: rest =>
      if isGap c then tokensFrom (here.next c) rest
      else
        let found := Scan.lexeme c rest
        ⟨found.kind, String.ofList found.literal, found.value, here⟩ ::
          tokensFrom (here.after (c :: rest.take found.more)) (rest.drop found.more)
termination_by cs => cs.length
decreasing_by
  all_goals simp only [List.length_cons, List.length_drop]; omega

def tokenize (source : List Char) : List Token :=
  tokensFrom .start source

end GlyphScript
