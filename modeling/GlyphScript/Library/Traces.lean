import GlyphScript.Library.Answer

/-!
# Trace records

Records are numbered from one in the order of their posting, and are never
changed.
-/

namespace GlyphScript.Library

def traceId (number : Nat) : String :=
  "rlhf_" ++ toString number

def traceRecord (number : Nat) (body : Dict) : Value :=
  let field (key : String) := (body.find? key).getD .null
  .record [("case_id", .text (traceId number)), ("title", field "title"),
    ("label", field "label"), ("body", field "body")]

def listTraces (store : Store) : Value × Store :=
  (success [("mode", .text "list"), ("total", .ofNat store.traces.length),
    ("items", .list store.traces)], store)

/-- The id of the wanted record: a parameter, else of the query, else of the
body. -/
def wantedTrace (request : Request) : String :=
  ((((request.params.find? "id").or (request.query.find? "id")).or
    (request.body.find? "id")).map Value.toText).getD ""

def hasTraceId (id : String) (trace : Value) : Bool :=
  (trace.field? "case_id").bind Value.text? == some id

def findTrace (id : String) (store : Store) : Value × Store :=
  match store.traces.find? (hasTraceId id) with
  | some trace => (success [("mode", .text "get"), ("item", trace)], store)
  | none => (refusal "Case not found" [("case_id", .text id)], store)

def postTrace (body : Dict) (store : Store) : Value × Store :=
  let number := store.traces.length + 1
  (success [("mode", .text "post"), ("case_id", .text (traceId number)),
    ("message", .text "RLHF case created")],
    { store with traces := store.traces ++ [traceRecord number body] })

end GlyphScript.Library
