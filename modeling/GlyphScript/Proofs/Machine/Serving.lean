import GlyphScript.Proofs.Machine.CallDepth
import GlyphScript.Proofs.Scope

/-!
# Machines that the library serves

If all handlers of a machine pass their requests on to the library, a call makes no
further calls and changes the store only. So the calls of a run change the store one
after the other, and everything else is as it was before the first of them.

Results:
1. `Called.served`: all that can come of a call.
2. `BlocksRun.served`, `Executed.served`: a run leaves the store that its calls make of
   it, and fails only if the limit does not allow any call.
3. `ServedAs.registerProgram`: programs register only handlers of the library.
-/

namespace GlyphScript

/-- Every handler passes its requests on to the library, under a name that fits its own. -/
def Machine.ServedAs (fits : String → String → Prop) (machine : Machine) : Prop :=
  ∀ name handler, machine.handlers.find? name = some handler →
    ∃ served, fits name served ∧
      handler.executor = fun request => .answer (Library.serve served request)

section

variable {fits : String → String → Prop}

/-! ## Calls -/

/-- What can come of a call: it is too deep, its handler is not there, or the library
answers. -/
inductive ServedCall (fits : String → String → Prop) (limit : Nat) : CallTree → Prop
  | refused {depth : Nat} {call : Call} {machine : Machine} (exceeds : limit < depth) :
      ServedCall fits limit
        (.node ⟨depth, call, machine, .error (.depthExceeded limit), machine⟩ none [])
  | unknown {depth : Nat} {call : Call} {machine : Machine}
      (absent : machine.handlers.find? call.handler = none) :
      ServedCall fits limit
        (.node ⟨depth, call, machine, .error (.handlerNotFound call.handler), machine⟩ none [])
  | answered {depth : Nat} {call : Call} {machine : Machine} {handler : Handler} {name : String}
      (found : machine.handlers.find? call.handler = some handler)
      (fit : fits call.handler name) :
      ServedCall fits limit (.node ⟨depth, call, machine,
        .ok (Library.serve name (call.request handler depth) machine.store).1,
        { machine with
          store := (Library.serve name (call.request handler depth) machine.store).2 }⟩
        (some (call.request handler depth)) [])

/-- Asking the library makes no calls. -/
theorem Performed.answer {limit scope depth : Nat} {use : Store → Value × Store}
    {machine : Machine} {nested : List CallTree} {result : Outcome × Machine}
    (performed : Performed limit scope depth (.answer use) machine nested result) :
    nested = [] ∧
      result = (.ok (use machine.store).1, { machine with store := (use machine.store).2 }) := by
  cases performed with
  | quiet step rest =>
      cases step
      cases rest with
      | finish => exact ⟨rfl, rfl⟩
      | quiet step _ => cases step

theorem performed_answer (limit scope depth : Nat) (use : Store → Value × Store)
    (machine : Machine) : Performed limit scope depth (.answer use) machine []
      (.ok (use machine.store).1, { machine with store := (use machine.store).2 }) :=
  .quiet rfl .finish

theorem Called.served {limit scope : Nat} {tree : CallTree} (called : Called limit scope tree)
    (served : tree.visit.before.ServedAs fits) : ServedCall fits limit tree := by
  cases called with
  | refused exceeds => exact .refused exceeds
  | unknown _ absent => exact .unknown absent
  | entered _ found performed =>
      obtain ⟨name, fit, executes⟩ := served _ _ found
      rw [executes] at performed
      obtain ⟨rfl, rfl⟩ := performed.answer
      exact .answered found fit

/-! ## Runs -/

/-- The store after calls that the library answers one after the other. -/
inductive Worked (fits : String → String → Prop) : Store → List CallTree → Store → Prop
  | nothing {store : Store} : Worked fits store [] store
  | failed {store after : Store} {visit : Visit} {rest : List CallTree}
      (others : Worked fits store rest after) :
      Worked fits store (.node visit none [] :: rest) after
  | answered {store after : Store} {visit : Visit} {request : Request} {name : String}
      {rest : List CallTree} (found : visit.before.store = store)
      (fit : fits visit.call.handler name)
      (others : Worked fits (Library.serve name request store).2 rest after) :
      Worked fits store (.node visit (some request) [] :: rest) after

theorem Worked.append {first second third : Store} {trees more : List CallTree}
    (worked : Worked fits first trees second) (further : Worked fits second more third) :
    Worked fits first (trees ++ more) third := by
  induction worked with
  | nothing => exact further
  | failed _ ih => exact .failed (ih further)
  | answered found fit _ ih => exact .answered found fit (ih further)

/-- What serving a request keeps is kept by calls. -/
theorem Worked.keeps {α : Type} {view : Store → α}
    (kept : ∀ name request store, view (Library.serve name request store).2 = view store)
    {before after : Store} {trees : List CallTree} (worked : Worked fits before trees after) :
    view after = view before := by
  induction worked with
  | nothing => rfl
  | failed _ ih => exact ih
  | answered _ _ _ ih => exact ih.trans (kept _ _ _)

/-- The outcome is no error unless the limit is zero. -/
def FailsOnlyAtZero {α : Type} (limit : Nat) (outcome : Except RunError α) : Prop :=
  (∃ value, outcome = .ok value) ∨ limit = 0

/-- Registered capabilities are answered, so only the limit can stop them. -/
theorem NestedCalled.served {limit scope : Nat} {blocks : List CapabilityBlock}
    {last : Option Value} {machine : Machine} {trees : List CallTree}
    {result : Except RunError (Option Value) × Machine}
    (called : NestedCalled limit scope blocks last machine trees result)
    (served : machine.ServedAs fits) :
    ∃ store, Worked fits machine.store trees store ∧
      result.2 = { machine with store := store } ∧ FailsOnlyAtZero limit result.1 := by
  induction called with
  | done => exact ⟨_, .nothing, rfl, .inl ⟨_, rfl⟩⟩
  | passed _ _ ih => exact ih served
  | answered _ called _ ih =>
      cases called.served served with
      | answered _ fit =>
          obtain ⟨store, worked, same, fails⟩ := ih served
          exact ⟨store, .answered rfl fit worked, same, fails⟩
  | @failed block _ _ machine _ _ _ _ present called =>
      cases called.served served with
      | refused exceeds => exact ⟨_, .failed .nothing, rfl, .inr (by omega)⟩
      | unknown absent =>
          have missing : machine.handlers.find? block.handlerName = none := absent
          rw [Table.contains, missing] at present
          cases present

/-- The scope of a block is gone when the block is left. -/
theorem Block.leave_enter (block : Block) (machine : Machine) (store : Store)
    (outcome : Except RunError (Option Value)) :
    (block.leave (block.enter machine).1
      (outcome, { (block.enter machine).2 with store := store })).2 =
        { machine with store := store } := by
  simp [Block.leave, Block.enter, Forest.add, Forest.close]

/-- What can come of running blocks: the store that their calls leave, or an error in the
log if the limit is zero. -/
theorem BlocksRun.served {limit : Nat} {blocks : List Block} {last : Option Value}
    {machine : Machine} {trees : List CallTree}
    {result : Except RunError (Option Value) × Machine}
    (run : BlocksRun limit blocks last machine trees result) (served : machine.ServedAs fits) :
    ∃ store, Worked fits machine.store trees store ∧
      ((∃ value, result = (.ok value, { machine with store := store })) ∨
        limit = 0 ∧ ∃ error message,
          result = (.error error, { machine with store := store.logError message })) := by
  induction run with
  | done => exact ⟨_, .nothing, .inl ⟨_, rfl⟩⟩
  | @finished block _ _ machine _ _ _ _ inside _ called left _ ih =>
      obtain ⟨store, worked, same, _⟩ := called.served served
      have back := block.leave_enter machine store inside.1
      rw [← same, show (inside.1, inside.2) = inside from rfl, left] at back
      subst back
      obtain ⟨final, further, outcome⟩ := ih served
      exact ⟨final, worked.append further, outcome⟩
  | @failed block _ _ machine _ _ _ inside called left =>
      obtain ⟨store, worked, same, fails⟩ := called.served served
      have back := block.leave_enter machine store inside.1
      rw [← same, show (inside.1, inside.2) = inside from rfl, left] at back
      subst back
      refine ⟨store, worked, .inr ⟨?_, _, _, rfl⟩⟩
      rcases fails with ⟨value, answered⟩ | zero
      · -- A block whose capabilities were answered does not fail.
        have outcome := congrArg Prod.fst left
        rw [Block.leave, answered] at outcome
        cases outcome
      · exact zero

/-! ## Programs -/

namespace Machine

/-- The machine on which the blocks of a program are run. -/
def bound (machine : Machine) (program : Program) : Machine :=
  (program.assignments.foldl assign (none, program.declarations.foldl declare machine)).2

/-- Binding variables changes scopes only. -/
theorem bound_eq (machine : Machine) (program : Program) :
    ∃ scopes, machine.bound program = { machine with scopes := scopes } := by
  refine List.foldlRecOn program.assignments assign
    (motive := fun state => ∃ scopes, state.2 = { machine with scopes := scopes }) ?_ ?_
  · refine List.foldlRecOn program.declarations declare
      (motive := fun after => ∃ scopes, after = { machine with scopes := scopes }) ?_ ?_
    · exact ⟨machine.scopes, rfl⟩
    · rintro _ ⟨scopes, rfl⟩ _ _
      exact ⟨_, rfl⟩
  · rintro state ⟨scopes, same⟩ _ _
    rw [assign, same]
    exact ⟨_, rfl⟩

theorem bound_store (machine : Machine) (program : Program) :
    (machine.bound program).store = machine.store := by
  obtain ⟨_, same⟩ := machine.bound_eq program
  rw [same]

theorem bound_handlers (machine : Machine) (program : Program) :
    (machine.bound program).handlers = machine.handlers := by
  obtain ⟨_, same⟩ := machine.bound_eq program
  rw [same]

theorem ServedAs.of_handlers {machine other : Machine} (served : machine.ServedAs fits)
    (same : other.handlers = machine.handlers) : other.ServedAs fits := by
  unfold ServedAs
  rw [same]
  exact served

end Machine

theorem OuterCall.Executed.served {limit : Nat} {program : Program} {machine : Machine}
    {trees : List CallTree} {result : Except RunError (Option Value) × Machine}
    (executed : Executed limit program machine trees result) (served : machine.ServedAs fits) :
    ∃ store, Worked fits machine.store trees store ∧
      ((∃ value, result = (.ok value, { machine.bound program with store := store })) ∨
        limit = 0 ∧ ∃ error message, result =
          (.error error, { machine.bound program with store := store.logError message })) := by
  rw [← machine.bound_store program]
  exact BlocksRun.served executed (served.of_handlers (machine.bound_handlers program))

/-! ## Registration -/

theorem Machine.ServedAs.registerCapability (reflexive : ∀ name, fits name name)
    {machine : Machine} (served : machine.ServedAs fits) (block : CapabilityBlock) :
    (machine.registerCapability block).ServedAs fits := by
  intro name handler found
  rw [Machine.registerCapability, Machine.register, Table.find?_insert] at found
  split at found
  · next same =>
      cases found
      exact ⟨block.handlerName, same ▸ reflexive name, rfl⟩
  · exact served name handler found

theorem Machine.ServedAs.registerProgram (reflexive : ∀ name, fits name name)
    {machine : Machine} (served : machine.ServedAs fits) (program : Program) :
    (machine.registerProgram program).ServedAs fits := by
  unfold Machine.registerProgram
  refine List.foldlRecOn _ _ (List.foldlRecOn _ _ (List.foldlRecOn _ _ ?_ ?_) ?_) ?_
  · cases program.manifest with
    | none => exact served
    | some manifest => exact served
  · exact fun _ held block _ => held.registerCapability reflexive block
  · exact fun _ held _ _ => held
  · exact fun _ held _ _ => held

/-- The stores differ at most in their manifests and vectors. -/
def Machine.Redeclared (before after : Machine) : Prop :=
  ∃ manifest vectors,
    after.store = { before.store with manifest := manifest, vectors := vectors }

theorem Machine.redeclared_registerProgram (machine : Machine) (program : Program) :
    machine.Redeclared (machine.registerProgram program) := by
  unfold Machine.registerProgram
  refine List.foldlRecOn _ _ (List.foldlRecOn _ _ (List.foldlRecOn _ _ ?_ ?_) ?_) ?_
  · cases program.manifest with
    | none => exact ⟨_, _, rfl⟩
    | some manifest => exact ⟨manifest.raw, _, rfl⟩
  · exact fun _ held _ _ => held
  · exact fun _ held _ _ => held
  · rintro after ⟨manifest, vectors, same⟩ vector _
    refine ⟨manifest, vectors.insert vector.name vector.params, ?_⟩
    rw [Machine.registerVector, same]

/-! ## Calls from outside -/

namespace OuterCall

/-- The machine on which the calls are made: a source that is evaluated is registered
before. -/
def registered (machine : Machine) : OuterCall → Machine
  | eval source =>
      match Interpreter.checked source with
      | .ok program => machine.registerProgram program
      | .error _ => machine
  | _ => machine

theorem registered_of_ok {source : List Char} {program : Program}
    (right : Interpreter.checked source = .ok program) (machine : Machine) :
    (eval source).registered machine = machine.registerProgram program := by
  simp only [registered, right]

theorem registered_of_error {source : List Char} {error : RunError}
    (wrong : Interpreter.checked source = .error error) (machine : Machine) :
    (eval source).registered machine = machine := by
  simp only [registered, wrong]

/-- At most one program is registered. -/
theorem registered_eq (outer : OuterCall) (machine : Machine) :
    outer.registered machine = machine ∨
      ∃ program, outer.registered machine = machine.registerProgram program := by
  cases outer with
  | dispatch call => exact .inl rfl
  | run => exact .inl rfl
  | eval source =>
      cases checked : Interpreter.checked source with
      | ok program => exact .inr ⟨program, registered_of_ok checked machine⟩
      | error error => exact .inl (registered_of_error checked machine)

theorem served_registered (reflexive : ∀ name, fits name name) {machine : Machine}
    (served : machine.ServedAs fits) (outer : OuterCall) :
    (outer.registered machine).ServedAs fits := by
  rcases outer.registered_eq machine with same | ⟨program, same⟩
  · rw [same]
    exact served
  · rw [same]
    exact served.registerProgram reflexive program

/-- The machine after calls has the handlers from before, and the store that the calls
leave, maybe with an error in its log. -/
def Left (fits : String → String → Prop) (before : Machine) (trees : List CallTree)
    (after : Machine) : Prop :=
  ∃ store, Worked fits before.store trees store ∧ after.handlers = before.handlers ∧
    (after.store = store ∨ ∃ message, after.store = store.logError message)

theorem Executed.left {limit : Nat} {program : Program} {machine : Machine}
    {trees : List CallTree} {result : Except RunError (Option Value) × Machine}
    (executed : Executed limit program machine trees result) (served : machine.ServedAs fits) :
    Left fits machine trees result.2 := by
  have handlers := machine.bound_handlers program
  obtain ⟨store, worked, ⟨value, rfl⟩ | ⟨_, error, message, rfl⟩⟩ := executed.served served
  · exact ⟨store, worked, handlers, .inl rfl⟩
  · exact ⟨store, worked, handlers, .inr ⟨message, rfl⟩⟩

theorem Recorded.left (reflexive : ∀ name, fits name name) {outer : OuterCall}
    {interpreter : Interpreter} {machine : Machine} {trees : List CallTree}
    {result : Outcome × Machine} (recorded : outer.Recorded interpreter machine trees result)
    (served : machine.ServedAs fits) : Left fits (outer.registered machine) trees result.2 := by
  cases recorded with
  | dispatch called =>
      cases called.served served with
      | refused => exact ⟨_, .failed .nothing, rfl, .inl rfl⟩
      | unknown => exact ⟨_, .failed .nothing, rfl, .inl rfl⟩
      | answered _ fit => exact ⟨_, .answered rfl fit .nothing, rfl, .inl rfl⟩
  | runNothing _ => exact ⟨_, .nothing, rfl, .inl rfl⟩
  | run _ executed => exact executed.left served
  | evalNothing wrong =>
      rw [registered_of_error wrong]
      exact ⟨_, .nothing, rfl, .inl rfl⟩
  | eval right executed =>
      rw [registered_of_ok right]
      exact executed.left (served.registerProgram reflexive _)

end OuterCall

end

end GlyphScript
