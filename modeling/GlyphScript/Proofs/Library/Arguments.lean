import GlyphScript.Proofs.Library.Effects

/-!
# Arguments of requests

A request carries arguments in its body, in its parameters and in its query. Most handlers
of the library look an argument up in this order, so it makes no difference to them in
which part an argument stands. The handler that shows a trace record looks in the body
last. To that handler it does make a difference if the id stands in two parts.

Results:
1. `arg?_eq`, `recordId_eq`: looking up an argument in the parts of a request is looking it
   up in the merged arguments, with one order of the parts or the other.
2. `serve_congr`: four handlers read nothing of a request but its merged arguments.
3. `recordId_of_findTrace`: the answer about a record tells which id was looked for.
4. `perform_sameArguments`: when requests with the same arguments are answered alike.
-/

namespace GlyphScript

namespace Request

/-- The parts of the request are tables. -/
structure Ordered (request : Request) : Prop where
  params : request.params.Ordered
  body : request.body.Ordered
  query : request.query.Ordered

/-- All arguments of a request. Those of the body win over the parameters, and these win
over the query. -/
def arguments (request : Request) : Dict :=
  (request.query.extend request.params).extend request.body

/-- The text of the id of a record, empty if there is none. Here the parameters win over
the query, and this wins over the body. -/
def recordId (request : Request) : String :=
  ((((request.body.extend request.query).extend request.params).find? "id").map
    Value.toText).getD ""

theorem arg?_eq {request : Request} (ordered : request.Ordered) (key : String) :
    request.arg? key = request.arguments.find? key := by
  rw [arguments, Table.find?_extend _ ordered.body, Table.find?_extend _ ordered.params, arg?,
    Option.or_assoc]

theorem recordId_eq {request : Request} (ordered : request.Ordered) :
    Library.wantedTrace request = request.recordId := by
  rw [recordId, Table.find?_extend _ ordered.params, Table.find?_extend _ ordered.query,
    Library.wantedTrace, Option.or_assoc]

end Request

namespace Library

/-- The handlers that look arguments up in the body first. -/
def argumentHandlers : List String :=
  ["tape_boot", "basher_run", "ram_get", "ram_set"]

section

variable {left right : Request}

theorem withText_congr (same : ∀ key, left.arg? key = right.arg? key) (key missing : String)
    {serve serve' : String → Store → Value × Store} (alike : serve = serve') (store : Store) :
    LibraryHandler.withText left key missing serve store =
      LibraryHandler.withText right key missing serve' store := by
  unfold LibraryHandler.withText Request.argText?
  rw [same key, alike]

theorem serve_congr (same : ∀ key, left.arg? key = right.arg? key) {name : String}
    (member : name ∈ argumentHandlers) (store : Store) :
    Library.serve name left store = Library.serve name right store := by
  simp only [argumentHandlers, List.mem_cons, List.not_mem_nil, or_false] at member
  rcases member with rfl | rfl | rfl | rfl
  · exact withText_congr same "tape_id" _ rfl store
  · exact withText_congr same "command" _ rfl store
  · exact withText_congr same "key" _ rfl store
  · -- The value to be written is an argument as well.
    refine withText_congr same "key" _ ?_ store
    rw [same "value"]

end

theorem serve_record {request : Request} (ordered : request.Ordered) (store : Store) :
    Library.serve "cms_rlhf_get" request store = findTrace request.recordId store := by
  rw [← Request.recordId_eq ordered]
  rfl

/-- Where there are no records, the refusal names the id. -/
theorem recordId_of_findTrace {id other : String}
    (same : (findTrace id .empty).1 = (findTrace other .empty).1) : id = other := by
  have distinct : ["ok", "error", "case_id"].Nodup := by decide
  have named : ∀ wanted, (findTrace wanted .empty).1.field? "case_id" = some (.text wanted) :=
    fun wanted => Value.field?_record (by exact distinct) "case_id"
  have sameField := named other
  rw [← same, named id] at sameField
  cases sameField
  rfl

end Library

/-- Two requests with the same merged arguments are answered alike on every machine, and
leave the same machine, by the handlers that boot a tape, run a command, and read and write
the memory. The handler that shows a record answers them alike on every machine exactly if
they have the same id in the order in which this handler looks for it. -/
theorem perform_sameArguments {left right : Request} (leftOrdered : left.Ordered)
    (rightOrdered : right.Ordered) (same : left.arguments = right.arguments)
    (call : String → Dict → Machine → Outcome × Machine) (scope : Nat) :
    (∀ name ∈ Library.argumentHandlers, ∀ machine,
      Machine.perform call scope (.answer (Library.serve name left)) machine =
        Machine.perform call scope (.answer (Library.serve name right)) machine) ∧
    ((∀ machine, Machine.perform call scope (.answer (Library.serve "cms_rlhf_get" left)) machine =
        Machine.perform call scope (.answer (Library.serve "cms_rlhf_get" right)) machine) ↔
      left.recordId = right.recordId) := by
  have sameArgs : ∀ key, left.arg? key = right.arg? key := by
    intro key
    rw [Request.arg?_eq leftOrdered, Request.arg?_eq rightOrdered, same]
  refine ⟨?_, ?_, ?_⟩
  · intro name member machine
    rw [funext (Library.serve_congr sameArgs member)]
  · intro alike
    -- Without any records the answers show the two ids.
    have answers := congrArg Prod.fst (alike .empty)
    have shown : (Library.serve "cms_rlhf_get" left .empty).1 =
        (Library.serve "cms_rlhf_get" right .empty).1 := Except.ok.inj answers
    rw [Library.serve_record leftOrdered, Library.serve_record rightOrdered] at shown
    exact Library.recordId_of_findTrace shown
  · intro sameId machine
    rw [funext (Library.serve_record leftOrdered), funext (Library.serve_record rightOrdered),
      sameId]

/-- A request with a key in two parts and a value in the third one. -/
def spreadRequest : Request :=
  ⟨"ram_set", [("key", .text "hidden")], [("key", .text "shown")], [("value", .text "new")], 1⟩

/-- The same arguments in the body alone. -/
def bodyOnlyRequest : Request :=
  ⟨"ram_set", [], [("key", .text "shown"), ("value", .text "new")], [], 1⟩

/-- Both requests write the value to the key of the body. -/
theorem perform_sameArguments_spreadRequest :
    spreadRequest.arguments = bodyOnlyRequest.arguments ∧
    ∀ call scope machine,
      Machine.perform call scope (.answer (Library.serve "ram_set" spreadRequest)) machine =
        Machine.perform call scope (.answer (Library.serve "ram_set" bodyOnlyRequest)) machine := by
  have spreadOrdered : spreadRequest.Ordered := ⟨by decide, by decide, by decide⟩
  have bodyOrdered : bodyOnlyRequest.Ordered := ⟨by decide, by decide, by decide⟩
  have same : spreadRequest.arguments = bodyOnlyRequest.arguments := rfl
  refine ⟨same, fun call scope machine => ?_⟩
  exact (perform_sameArguments spreadOrdered bodyOrdered same call scope).1 "ram_set"
    (by decide) machine

/-- A store with two records. -/
def Store.twoRecords : Store :=
  (Library.postTrace [("title", .text "second")]
    (Library.postTrace [("title", .text "first")] .empty).2).2

/-- What is shown of the title of a record. -/
def Value.shownTitle? (answer : Value) : Option String :=
  ((answer.field? "item").bind (·.field? "title")).bind Value.text?

/-- An id in the body and another one in the parameters: the arguments are those of the body
alone, but another record is shown. -/
theorem serve_differs_twoIds :
    let both : Request :=
      ⟨"cms_rlhf_get", [("id", .text "rlhf_1")], [("id", .text "rlhf_2")], [], 1⟩
    let alone : Request := ⟨"cms_rlhf_get", [], [("id", .text "rlhf_2")], [], 1⟩
    both.Ordered ∧ alone.Ordered ∧ both.arguments = alone.arguments ∧
      (Library.serve "cms_rlhf_get" both .twoRecords).1.shownTitle? = some "first" ∧
      (Library.serve "cms_rlhf_get" alone .twoRecords).1.shownTitle? = some "second" := by
  refine ⟨⟨by decide, by decide, by decide⟩, ⟨by decide, by decide, by decide⟩, rfl, ?_, ?_⟩
  · decide +kernel
  · decide +kernel

end GlyphScript
