import GlyphScript.Request
import GlyphScript.Store

/-!
# Answers of library handlers

An answer is a dict that says under `ok` whether the request could be met.
-/

namespace GlyphScript.Library

def success (fields : List (String × Value)) : Value :=
  .record (fields ++ [("ok", .bool true)])

/-- A refusal, with what it is about. -/
def refusal (message : String) (about : List (String × Value)) : Value :=
  .record ([("ok", .bool false), ("error", .text message)] ++ about)

def failure (message : String) : Value :=
  refusal message []

/-- The answer to a request that no library handler serves. -/
def echo (request : Request) : Value :=
  success [("handler", .text request.handler), ("params", .dict request.params)]

end GlyphScript.Library
