import GlyphScript.Program.Parser

/-!
# Errors of loading, running and calling

Library handlers and builtins do not raise these: they say what is wrong in the
value that they give.
-/

namespace GlyphScript

inductive RunError where
  /-- The source has errors, so nothing is loaded. -/
  | parse (errors : List ParseError)
  | noProgram
  | handlerNotFound (name : String)
  /-- A call stands deeper in a chain of calls than the limit. -/
  | depthExceeded (limit : Nat)
  /-- A handler gave up. -/
  | handlerFailed (handler message : String)

namespace RunError

def message : RunError → String
  | parse errors => "parse failed: " ++ ParseError.displayAll errors
  | noProgram => "no program loaded"
  | handlerNotFound name => "handler not found: " ++ name
  | depthExceeded limit => "maximum call depth exceeded (limit " ++ toString limit ++ ")"
  | handlerFailed handler message => "handler " ++ handler ++ " failed: " ++ message

end RunError

/-- What a call gives. -/
abbrev Outcome := Except RunError Value

end GlyphScript
