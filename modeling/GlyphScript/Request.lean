import GlyphScript.Json.Writer

/-!
# Calls and requests

A call names a handler and says what to ask it. The request is what the handler
then sees: the call with its parameters settled, and how deep in a chain of calls
it stands, the outermost call being at depth one.
-/

namespace GlyphScript

structure Call where
  handler : String
  /-- Without them the handler is asked with the parameters it was declared with. -/
  params : Option Dict
  body : Dict
  query : Dict

/-- A call that gives only a body. -/
def Call.withBody (handler : String) (body : Dict) : Call :=
  ⟨handler, none, body, []⟩

structure Request where
  handler : String
  params : Dict
  body : Dict
  query : Dict
  depth : Nat

namespace Request

/-- An argument is looked for in the body, then in the parameters, then in the
query. -/
def arg? (request : Request) (key : String) : Option Value :=
  ((request.body.find? key).or (request.params.find? key)).or (request.query.find? key)

/-- The text of an argument that has one. -/
def argText? (request : Request) (key : String) : Option String :=
  ((request.arg? key).map Value.toText).filter (· ≠ "")

end Request

end GlyphScript
