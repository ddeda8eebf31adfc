import GlyphScript.Proofs.Session.Requests

/-!
# Trace records

The records of a session are those of its posts, in order, and are numbered from one. No
command changes a record or takes one away, so a record can be found by the id that it
was given when it was posted.

Results:
1. `isRecord_traceRecord`, `traceId_injective`: what a record holds, and that no two
   records have the same id.
2. `Numbered.find?_eq_some`, `Numbered.find?_eq_none`: which record is found under an id.
3. `traces_eq`, `traces_growing`: the records of a session, and what further commands do
   to them.
4. `traces_of_history`: all of this for every session.
-/

namespace GlyphScript

namespace Library

/-! ## One record -/

/-- What the record with a number holds of the body that was posted. -/
structure IsRecord (number : Nat) (posted : Dict) (record : Value) : Prop where
  caseId : record.field? "case_id" = some (.text ("rlhf_" ++ toString number))
  title : record.field? "title" = some ((posted.find? "title").getD .null)
  label : record.field? "label" = some ((posted.find? "label").getD .null)
  body : record.field? "body" = some ((posted.find? "body").getD .null)

theorem isRecord_traceRecord (number : Nat) (posted : Dict) :
    IsRecord number posted (traceRecord number posted) := by
  have distinct : ["case_id", "title", "label", "body"].Nodup := by decide
  constructor
  · exact Value.field?_record (by exact distinct) "case_id"
  · exact Value.field?_record (by exact distinct) "title"
  · exact Value.field?_record (by exact distinct) "label"
  · exact Value.field?_record (by exact distinct) "body"

/-- The digits of a number can be read back. -/
theorem traceId_injective {number other : Nat} (same : traceId number = traceId other) :
    number = other := by
  have sameText : Nat.repr number = Nat.repr other :=
    (String.append_right_inj "rlhf_").mp same
  have sameDigits : Nat.toDigits 10 number = Nat.toDigits 10 other :=
    String.ofList_injective sameText
  rw [← @Nat.ofDigitChars_ten_toDigits number, sameDigits, Nat.ofDigitChars_ten_toDigits]

/-! ## Finding a record -/

/-- Every record has the id of its place, counted from one. -/
def Numbered (traces : List Value) : Prop :=
  ∀ (i : Nat) (record : Value), traces[i]? = some record →
    record.field? "case_id" = some (.text (traceId (i + 1)))

namespace Numbered

variable {traces : List Value}

theorem hasTraceId_iff (numbered : Numbered traces) {i : Nat} {record : Value}
    (there : traces[i]? = some record) (id : String) :
    hasTraceId id record = true ↔ id = traceId (i + 1) := by
  rw [hasTraceId, numbered i record there, beq_iff_eq]
  show some (traceId (i + 1)) = some id ↔ _
  rw [Option.some.injEq]
  exact eq_comm

theorem find?_eq_some (numbered : Numbered traces) {i : Nat} {record : Value}
    (there : traces[i]? = some record) :
    traces.find? (hasTraceId (traceId (i + 1))) = some record := by
  obtain ⟨inside, same⟩ := List.getElem?_eq_some_iff.mp there
  refine List.find?_eq_some_iff_getElem.mpr
    ⟨(numbered.hasTraceId_iff there _).mpr rfl, i, inside, same, ?_⟩
  intro j before
  have other := numbered.hasTraceId_iff (List.getElem?_eq_getElem (Nat.lt_trans before inside))
    (traceId (i + 1))
  rw [Bool.not_eq_true', Bool.eq_false_iff]
  intro found
  have equal := traceId_injective (other.mp found)
  omega

theorem find?_eq_none (numbered : Numbered traces) {id : String}
    (unknown : ∀ i < traces.length, id ≠ traceId (i + 1)) :
    traces.find? (hasTraceId id) = none := by
  rw [List.find?_eq_none]
  intro record member found
  obtain ⟨i, inside, same⟩ := List.getElem_of_mem member
  have there : traces[i]? = some record := List.getElem?_eq_some_iff.mpr ⟨inside, same⟩
  exact unknown i inside ((numbered.hasTraceId_iff there id).mp found)

end Numbered

/-- The request carries an id in exactly one of its parts. -/
inductive CarriesId (request : Request) (id : Value) : Prop
  | params (given : request.params.find? "id" = some id)
      (noQuery : request.query.find? "id" = none) (noBody : request.body.find? "id" = none)
  | query (noParams : request.params.find? "id" = none)
      (given : request.query.find? "id" = some id) (noBody : request.body.find? "id" = none)
  | body (noParams : request.params.find? "id" = none)
      (noQuery : request.query.find? "id" = none) (given : request.body.find? "id" = some id)

theorem CarriesId.wantedTrace_eq {request : Request} {id : Value}
    (carries : CarriesId request id) : wantedTrace request = id.toText := by
  unfold wantedTrace
  cases carries with
  | params given _ _ => rw [given]; rfl
  | query noParams given _ => rw [noParams, given]; rfl
  | body noParams noQuery given => rw [noParams, noQuery, given]; rfl

/-- The request was met, and the record is the item of the answer. -/
structure Shows (answer record : Value) : Prop where
  met : answer.field? "ok" = some (.bool true)
  item : answer.field? "item" = some record

theorem shows_findTrace {id : String} {store : Store} {record : Value}
    (found : store.traces.find? (hasTraceId id) = some record) :
    Shows (findTrace id store).1 record := by
  have distinct : ["mode", "item", "ok"].Nodup := by decide
  simp only [findTrace, found]
  constructor
  · exact Value.field?_record (by exact distinct) "ok"
  · exact Value.field?_record (by exact distinct) "item"

theorem findTrace_of_missing {id : String} {store : Store}
    (missing : store.traces.find? (hasTraceId id) = none) :
    (findTrace id store).1.field? "ok" = some (.bool false) := by
  simp only [findTrace, missing]
  exact find?_refusal _ (by simp)

/-! ## All records -/

/-- Posting is all that is ever done to the records. -/
theorem writtenBy_traces : WrittenBy "cms_rlhf_post" Store.traces fun request traces =>
    traces ++ [traceRecord (traces.length + 1) request.body] where
  named _ _ := rfl
  others name different request store := by
    rcases (serve_effect name request store).framed.traces with same | ⟨named, _⟩
    · exact same
    · exact absurd named different
  apart _ _ _ _ _ := rfl

/-- Posts are numbered on from the records that are there. -/
theorem changedBy_posts (requests : List Request) (traces : List Value) :
    changedBy (fun request traces => traces ++ [traceRecord (traces.length + 1) request.body])
        requests traces =
      traces ++ requests.mapIdx fun i request =>
        traceRecord (traces.length + i + 1) request.body := by
  unfold changedBy
  induction requests generalizing traces with
  | nil => rw [List.mapIdx_nil, List.append_nil]; rfl
  | cons first rest ih =>
      rw [List.foldl_cons, ih, List.mapIdx_cons, List.append_assoc, List.singleton_append,
        List.length_append, List.length_singleton]
      simp only [Nat.add_assoc, Nat.add_comm 1, Nat.add_zero]

end Library

open Library

section

variable {limit : Nat} {commands : List Command} {calls : List CallTree} {session : Session}

theorem Session.History.traces_eq
    (history : (Session.start limit).History commands calls session)
    (inside : ∀ command ∈ commands, command.registers = false) :
    session.machine.store.traces =
      (requestsTo "cms_rlhf_post" calls).mapIdx fun i request =>
        traceRecord (i + 1) request.body := by
  have posted := history.view_eq writtenBy_traces nofun inside
  rw [posted, changedBy_posts]
  show [] ++ List.mapIdx (fun i (request : Request) => traceRecord (0 + i + 1) request.body) _ = _
  simp only [List.nil_append, Nat.zero_add]

theorem Session.History.traces_growing {more : List Command} {after : Session}
    (history : session.History more calls after) (served : session.machine.ServedAs Eq)
    (inside : ∀ command ∈ more, command.registers = false) :
    session.machine.store.traces <+: after.machine.store.traces := by
  rw [history.view_eq writtenBy_traces served inside, changedBy_posts]
  exact List.prefix_append _ _

/-- Whatever commands a session is given, if none of them registers a handler from outside:
there is one record for each post, in order, numbered from one and with what was posted.
No further command changes or removes a record. A request with an id in exactly one of its
parts is answered by the record with that id, and is refused if there is none. -/
theorem traces_of_history (history : (Session.start limit).History commands calls session)
    (inside : ∀ command ∈ commands, command.registers = false) :
    session.machine.store.traces.length = (requestsTo "cms_rlhf_post" calls).length ∧
    (∀ i request record, (requestsTo "cms_rlhf_post" calls)[i]? = some request →
      session.machine.store.traces[i]? = some record → IsRecord (i + 1) request.body record) ∧
    (∀ more, (∀ command ∈ more, command.registers = false) →
      session.machine.store.traces <+: (session.after more).machine.store.traces) ∧
    (∀ request id, CarriesId request id →
      (∀ i record, session.machine.store.traces[i]? = some record →
        id.toText = "rlhf_" ++ toString (i + 1) →
        Shows (Library.serve "cms_rlhf_get" request session.machine.store).1 record) ∧
      ((∀ i < session.machine.store.traces.length, id.toText ≠ "rlhf_" ++ toString (i + 1)) →
        (Library.serve "cms_rlhf_get" request session.machine.store).1.field? "ok" =
          some (.bool false))) := by
  have records := history.traces_eq inside
  have isRecord : ∀ i request record, (requestsTo "cms_rlhf_post" calls)[i]? = some request →
      session.machine.store.traces[i]? = some record → IsRecord (i + 1) request.body record := by
    intro i request record posted there
    rw [records, List.getElem?_mapIdx, posted] at there
    cases there
    exact isRecord_traceRecord (i + 1) request.body
  have numbered : Numbered session.machine.store.traces := by
    intro i record there
    rw [records, List.getElem?_mapIdx] at there
    obtain ⟨request, _, same⟩ := Option.map_eq_some_iff.mp there
    rw [← same]
    exact (isRecord_traceRecord (i + 1) request.body).caseId
  refine ⟨?_, isRecord, ?_, ?_⟩
  · rw [records, List.length_mapIdx]
  · intro more moreInside
    obtain ⟨_, further⟩ := session.exists_history more
    exact further.traces_growing (history.served nofun inside) moreInside
  · intro request id carries
    have answer : Library.serve "cms_rlhf_get" request session.machine.store =
        findTrace id.toText session.machine.store := by
      rw [← carries.wantedTrace_eq]
      rfl
    rw [answer]
    constructor
    · intro i record there named
      refine shows_findTrace ?_
      rw [named]
      exact numbered.find?_eq_some there
    · intro unknown
      exact findTrace_of_missing (numbered.find?_eq_none unknown)

end

/-- A program with the capabilities for records. -/
def recordingProgram : Program :=
  { Program.empty with
    capabilityBlocks := [("cms_rlhf_get", ⟨"cms_rlhf_get", none, [], [], ⟨1, 1⟩⟩),
      ("cms_rlhf_post", ⟨"cms_rlhf_post", none, [], [], ⟨2, 1⟩⟩)] }

/-- Two posts, one of them without a label, and a request for a record in between. -/
def postingCommands : List Command :=
  [.loadProgram 0 recordingProgram,
    .dispatch 0 (.withBody "cms_rlhf_post" [("label", .text "good"), ("title", .text "first")]),
    .dispatch 0 (.withBody "cms_rlhf_get" [("id", .text "rlhf_2")]),
    .dispatch 0 (.withBody "cms_rlhf_post" [("title", .text "second")])]

/-- The number of an id is compared digit by digit, so a leading zero names no record. -/
theorem traces_of_history_twoPosts :
    ∃ calls session, (Session.start 4).History postingCommands calls session ∧
      (requestsTo "cms_rlhf_post" calls).length = 2 ∧
      (∃ record, session.machine.store.traces[1]? = some record ∧
        Shows (Library.serve "cms_rlhf_get"
          ⟨"cms_rlhf_get", [], [], [("id", .text "rlhf_2")], 1⟩ session.machine.store).1 record) ∧
      (Library.serve "cms_rlhf_get" ⟨"cms_rlhf_get", [("id", .text "rlhf_02")], [], [], 1⟩
        session.machine.store).1.field? "ok" = some (.bool false) := by
  have inside : ∀ command ∈ postingCommands, command.registers = false := by
    intro command member
    simp only [postingCommands, List.mem_cons, List.not_mem_nil, or_false] at member
    rcases member with rfl | rfl | rfl | rfl <;> rfl
  obtain ⟨calls, history⟩ := (Session.start 4).exists_history postingCommands
  obtain ⟨count, _, _, get⟩ := traces_of_history history inside
  have two : ((Session.start 4).after postingCommands).machine.store.traces.length = 2 := rfl
  refine ⟨calls, _, history, count.symm.trans two, ⟨_, rfl, ?_⟩, ?_⟩
  · exact (get _ _ (.query rfl rfl rfl)).1 1 _ rfl rfl
  · refine (get _ _ (.params rfl rfl rfl)).2 ?_
    rw [two]
    decide

end GlyphScript
