import GlyphScript.Proofs.Library.Effects
import GlyphScript.Proofs.Session.History

/-!
# Requests of a session

Some parts of the store are written by one handler of the library only. Such a part is
what the requests to that handler make of it, one after the other, whatever else the
session is told to do in between.

Results:
1. `Worked.view_eq`, `Stepped.view_eq`, `History.view_eq`: the view after the calls of a run, a
   command and a session.
2. `History.served`: as long as no handler is registered from outside, the library serves
   all handlers at the end of a history as well.
3. `exists_history_calling`: every list of calls to the capabilities of a program is put to
   the library by some session.
-/

namespace GlyphScript

/-- The requests that calls have put to the handler of a name, in order. -/
def requestsTo (name : String) (trees : List CallTree) : List Request :=
  (CallTree.nodesIn trees).filterMap fun tree =>
    if tree.visit.call.handler = name then tree.request else none

theorem requestsTo_append (name : String) (trees more : List CallTree) :
    requestsTo name (trees ++ more) = requestsTo name trees ++ requestsTo name more := by
  rw [requestsTo, CallTree.nodesIn_append, List.filterMap_append]
  rfl

/-- A call without further calls counts by itself. -/
theorem requestsTo_cons (name : String) (visit : Visit) (request : Option Request)
    (rest : List CallTree) :
    requestsTo name (.node visit request [] :: rest) =
      (if visit.call.handler = name then request else none).toList ++ requestsTo name rest := by
  rw [← List.singleton_append, requestsTo_append]
  congr 1

/-- What those requests are about. -/
def bodiesTo (name : String) (trees : List CallTree) : List Dict :=
  (requestsTo name trees).map Request.body

/-- A part of the store is written by the handler of one name. Neither other handlers nor
what a session writes on its own account change it. -/
structure WrittenBy {α : Type} (name : String) (view : Store → α) (change : Request → α → α) :
    Prop where
  named : ∀ request store,
    view (Library.serve name request store).2 = change request (view store)
  others : ∀ other, other ≠ name → ∀ request store,
    view (Library.serve other request store).2 = view store
  apart : ∀ (store : Store) manifest errors memory vectors,
    view { store with
      manifest := manifest, errors := errors, memory := memory, vectors := vectors } = view store

section

variable {α : Type} {name : String} {view : Store → α} {change : Request → α → α}

/-- What requests make of a part of the store. -/
def changedBy (change : Request → α → α) (requests : List Request) (before : α) : α :=
  requests.foldl (fun part request => change request part) before

theorem Worked.view_eq (written : WrittenBy name view change) {before after : Store}
    {trees : List CallTree} (worked : Worked Eq before trees after) :
    view after = changedBy change (requestsTo name trees) (view before) := by
  induction worked with
  | nothing => rfl
  | failed _ ih =>
      rw [requestsTo_cons, ite_self]
      exact ih
  | @answered store _ visit request _ _ _ fit _ ih =>
      subst fit
      rw [ih, requestsTo_cons, changedBy, changedBy, List.foldl_append]
      by_cases named : visit.call.handler = name
      · rw [if_pos named, named, written.named]
        rfl
      · rw [if_neg named, written.others _ named]
        rfl

theorem WrittenBy.registerProgram (written : WrittenBy name view change) (machine : Machine)
    (program : Program) : view (machine.registerProgram program).store = view machine.store := by
  obtain ⟨manifest, vectors, same⟩ := machine.redeclared_registerProgram program
  rw [same]
  exact written.apart machine.store manifest machine.store.errors machine.store.memory vectors

theorem WrittenBy.registered (written : WrittenBy name view change) (machine : Machine)
    (outer : OuterCall) : view (outer.registered machine).store = view machine.store := by
  rcases outer.registered_eq machine with same | ⟨program, same⟩
  · rw [same]
  · rw [same]
    exact written.registerProgram machine program

theorem WrittenBy.logError (written : WrittenBy name view change) (store : Store)
    (message : String) : view (store.logError message) = view store :=
  written.apart store store.manifest (store.errors ++ [message]) store.memory store.vectors

namespace Session

theorem Adjusted.view_eq (written : WrittenBy name view change) {session after : Session}
    {command : Command} (adjusted : session.Adjusted command after) :
    view after.machine.store = view session.machine.store := by
  have apart := written.apart session.machine.store
  cases adjusted with
  | same => rfl
  | spawned => rfl
  | bound => rfl
  | loaded _ program => exact written.registerProgram session.machine program
  | vector => exact apart _ _ _ _
  | remembered => exact apart _ _ _ _
  | logged => exact apart _ _ _ _

theorem Stepped.view_eq (written : WrittenBy name view change) {session after : Session}
    {command : Command} {trees : List CallTree} (stepped : session.Stepped command trees after)
    (served : session.machine.ServedAs Eq) (inside : command.registers = false) :
    view after.machine.store =
      changedBy change (requestsTo name trees) (view session.machine.store) := by
  cases stepped with
  | silent nothing => exact (adjusted_step nothing inside).view_eq written
  | @started _ outer _ _ _ recorded =>
      obtain ⟨store, worked, _, left⟩ := recorded.left (fun _ => rfl) served
      have made := worked.view_eq written
      rw [written.registered session.machine outer] at made
      rcases left with same | ⟨message, same⟩
      · rw [← made, ← same]
      · rw [← made, ← written.logError store message, ← same]

theorem History.view_eq (written : WrittenBy name view change) {session after : Session}
    {commands : List Command} {trees : List CallTree}
    (history : session.History commands trees after) (served : session.machine.ServedAs Eq)
    (inside : ∀ command ∈ commands, command.registers = false) :
    view after.machine.store =
      changedBy change (requestsTo name trees) (view session.machine.store) := by
  induction history with
  | done => rfl
  | next stepped _ ih =>
      -- The requests of the first command are put before those of the others.
      obtain ⟨firstInside, restInside⟩ := List.forall_mem_cons.mp inside
      rw [ih (stepped.served served firstInside) restInside, stepped.view_eq written served firstInside,
        requestsTo_append, changedBy, changedBy, changedBy, List.foldl_append]

end Session

end

theorem Session.History.served {session after : Session} {commands : List Command}
    {trees : List CallTree} (history : session.History commands trees after)
    (served : session.machine.ServedAs Eq)
    (inside : ∀ command ∈ commands, command.registers = false) :
    after.machine.ServedAs Eq := by
  induction history with
  | done => exact served
  | next stepped _ ih =>
      obtain ⟨firstInside, restInside⟩ := List.forall_mem_cons.mp inside
      exact ih (stepped.served served firstInside) restInside

/-! ## Calls from outside -/

namespace Session

/-- A call of a handler that is there becomes a request to the library. -/
theorem exists_dispatched {session : Session} {id : Nat} {interpreter : Interpreter} {call : Call}
    (present : session.interpreters[id]? = some interpreter) (within : 1 ≤ interpreter.limit)
    (served : session.machine.ServedAs Eq)
    (known : session.machine.handlers.contains call.handler = true) :
    ∃ visit request after, session.Stepped (.dispatch id call) [.node visit (some request) []] after ∧
      visit.call = call ∧ request.body = call.body ∧
      after.interpreters = session.interpreters ∧
      after.machine.handlers = session.machine.handlers := by
  obtain ⟨handler, found⟩ := Option.isSome_iff_exists.mp known
  obtain ⟨_, rfl, executes⟩ := served _ _ found
  have starts : session.started? (.dispatch id call) = some (interpreter, .dispatch call) := by
    rw [started?, present]
    rfl
  have performed := performed_answer interpreter.limit Machine.root 1
    (Library.serve call.handler (call.request handler 1)) session.machine
  have executed : handler.executor (call.request handler 1) =
      .answer (Library.serve call.handler (call.request handler 1)) := by
    rw [executes]
  rw [← executed] at performed
  exact ⟨_, _, _, .started starts (.dispatch (.entered within found performed)), rfl, rfl, rfl, rfl⟩

theorem exists_history_dispatching {session : Session} {id : Nat} {interpreter : Interpreter}
    (present : session.interpreters[id]? = some interpreter) (within : 1 ≤ interpreter.limit)
    (served : session.machine.ServedAs Eq) (calls : List Call)
    (known : ∀ call ∈ calls, session.machine.handlers.contains call.handler = true) :
    ∃ trees after, session.History (calls.map (.dispatch id)) trees after ∧
      ∀ name, bodiesTo name trees =
        (calls.filter fun call => call.handler = name).map Call.body := by
  induction calls generalizing session with
  | nil => exact ⟨[], session, .done, fun _ => rfl⟩
  | cons call others ih =>
      obtain ⟨firstKnown, othersKnown⟩ := List.forall_mem_cons.mp known
      obtain ⟨visit, request, middle, stepped, rfl, sameBody, sameInterpreters, sameHandlers⟩ :=
        exists_dispatched present within served firstKnown
      rw [← sameInterpreters] at present
      rw [← sameHandlers] at othersKnown
      obtain ⟨trees, after, history, asked⟩ :=
        ih present (served.of_handlers sameHandlers) othersKnown
      refine ⟨_, after, .next stepped history, fun name => ?_⟩
      rw [bodiesTo, List.singleton_append, requestsTo_cons, List.map_append, ← bodiesTo, asked]
      by_cases named : visit.call.handler = name
      · simp [named, sameBody]
      · simp [named]

/-- Loads a program and makes calls. -/
def callingCommands (program : Program) (calls : List Call) : List Command :=
  .loadProgram 0 program :: calls.map (.dispatch 0)

theorem callingCommands_inside (program : Program) (calls : List Call) :
    ∀ command ∈ callingCommands program calls, command.registers = false := by
  intro command member
  rcases List.mem_cons.mp member with rfl | later
  · rfl
  · obtain ⟨call, _, rfl⟩ := List.mem_map.mp later
    rfl

theorem exists_history_calling (limit : Nat) (within : 1 ≤ limit) (program : Program)
    (calls : List Call) (known : ∀ call ∈ calls,
      (Machine.empty.registerProgram program).handlers.contains call.handler = true) :
    ∃ trees session, (start limit).History (callingCommands program calls) trees session ∧
      ∀ name, bodiesTo name trees =
        (calls.filter fun call => call.handler = name).map Call.body := by
  have stepped : (start limit).Stepped (.loadProgram 0 program) []
      ((start limit).step (.loadProgram 0 program)).2 := .silent rfl
  have present : ((start limit).step (.loadProgram 0 program)).2.interpreters[0]? =
      some ((Interpreter.new limit).loadProgram program .empty).1 := rfl
  obtain ⟨trees, session, history, asked⟩ :=
    exists_history_dispatching present within (stepped.served nofun rfl) calls known
  exact ⟨trees, session, .next stepped history, asked⟩

end Session

end GlyphScript
