import GlyphScript.Proofs.Machine.KeptParts

/-!
# Where execution stops

A program is executed block by block, and a block call by call. The first call that fails
ends everything: nothing is called after it, and the error goes to the log with the name of
the block. If no call fails, nothing is logged, and the last block has the last word.

Results:
1. `failsInside_iff`: which call of a block fails.
2. `FailsAt.blocksRun`, `failsAt_of_blocksRun`: which block fails, and what is called and
   logged then.
3. `lastValue_of_executed`: the last value of a program none of whose blocks fails.
4. `execution_stops`: all of this for running a program and for evaluating a source.
-/

namespace GlyphScript

/-! ## Calls of a block -/

/-- One of the capabilities inside a block fails: those before it are called without an
error or passed over, and its own call gives the error. The trees are all calls up to this
one. -/
inductive FailsInside (limit scope : Nat) (last : Option Value) (machine : Machine) :
    List CapabilityBlock → RunError → List CallTree → Machine → Prop
  | intro {earlier later : List CapabilityBlock} {nested : CapabilityBlock}
      {trees inner : List CallTree} {value : Option Value} {reached after : Machine}
      {request : Option Request} {error : RunError}
      (called : NestedCalled limit scope earlier last machine trees (.ok value, reached))
      (present : reached.handlers.contains nested.handlerName = true)
      (failed : Called limit scope
        (.node ⟨1, nested.call reached scope, reached, .error error, after⟩ request inner)) :
      FailsInside limit scope last machine (earlier ++ nested :: later) error
        (trees ++
          [.node ⟨1, nested.call reached scope, reached, .error error, after⟩ request inner]) after

section

variable {limit scope : Nat} {last : Option Value} {machine : Machine}

theorem NestedCalled.append {earlier later : List CapabilityBlock} {value : Option Value}
    {reached : Machine} {trees more : List CallTree}
    {result : Except RunError (Option Value) × Machine}
    (called : NestedCalled limit scope earlier last machine trees (.ok value, reached))
    (others : NestedCalled limit scope later value reached more result) :
    NestedCalled limit scope (earlier ++ later) last machine (trees ++ more) result := by
  generalize ended : (Except.ok value, reached) = middle at called
  induction called with
  | done =>
      cases ended
      exact others
  | passed absent _ ih => exact .passed absent (ih ended)
  | answered present called _ ih => exact .answered present called (ih ended)
  | failed => cases ended

/-- What stands before the failing call is extended by one more capability. -/
theorem FailsInside.cons {block : CapabilityBlock} {rest : List CapabilityBlock}
    {value : Option Value} {middle after : Machine} {trees more : List CallTree}
    {error : RunError}
    (first : NestedCalled limit scope [block] last machine trees (.ok value, middle))
    (fails : FailsInside limit scope value middle rest error more after) :
    FailsInside limit scope last machine (block :: rest) error (trees ++ more) after := by
  cases fails with
  | intro called present failed =>
      rw [← List.append_assoc]
      exact .intro (first.append called) present failed

/-- A block ends with an error exactly if one of the capabilities inside it fails. -/
theorem failsInside_iff {blocks : List CapabilityBlock} {error : RunError}
    {trees : List CallTree} {after : Machine} :
    FailsInside limit scope last machine blocks error trees after ↔
      NestedCalled limit scope blocks last machine trees (.error error, after) := by
  constructor
  · rintro ⟨called, present, failed⟩
    exact called.append (.failed present failed)
  · intro called
    generalize ended : (Except.error error, after) = result at called
    induction called with
    | done => cases ended
    | passed absent _ ih => exact (ih ended).cons (.passed absent .done)
    | answered present called _ ih => exact (ih ended).cons (.answered present called .done)
    | failed present called =>
        cases ended
        exact .intro .done present called

end

/-! ## Blocks of a run -/

/-- Running the blocks fails in one of them: those before it are run, and then one of the
capabilities inside it fails. The trees are all calls up to that one. -/
inductive FailsAt (limit : Nat) (machine : Machine) :
    List Block → Block → RunError → List CallTree → Prop
  | intro {earlier later : List Block} {block : Block} {trees more : List CallTree}
      {last : Option Value} {middle after : Machine} {error : RunError}
      (run : BlocksRun limit earlier none machine trees (.ok last, middle))
      (fails : FailsInside limit (block.enter middle).1 none (block.enter middle).2
        block.capabilities error more after) :
      FailsAt limit machine (earlier ++ block :: later) block error (trees ++ more)

section

variable {limit : Nat} {first last : Option Value} {machine : Machine}

theorem BlocksRun.append {earlier later : List Block} {middle : Machine}
    {trees more : List CallTree} {result : Except RunError (Option Value) × Machine}
    (run : BlocksRun limit earlier first machine trees (.ok last, middle))
    (others : BlocksRun limit later last middle more result) :
    BlocksRun limit (earlier ++ later) first machine (trees ++ more) result := by
  generalize ended : (Except.ok last, middle) = reached at run
  induction run with
  | done =>
      cases ended
      exact others
  | finished called left _ ih =>
      rw [List.append_assoc]
      exact .finished called left (ih ended)
  | failed => cases ended

theorem BlocksRun.split {earlier later : List Block} {after : Machine} {trees : List CallTree}
    (run : BlocksRun limit (earlier ++ later) first machine trees (.ok last, after)) :
    ∃ before more value middle, trees = before ++ more ∧
      BlocksRun limit earlier first machine before (.ok value, middle) ∧
      BlocksRun limit later value middle more (.ok last, after) := by
  induction earlier generalizing first machine trees with
  | nil => exact ⟨[], trees, first, machine, rfl, .done, run⟩
  | cons block rest ih =>
      cases run with
      | @finished _ _ _ _ _ _ here _ _ _ called left others =>
          obtain ⟨before, more, value, middle, rfl, run, behind⟩ := ih others
          exact ⟨here ++ before, more, value, middle, (List.append_assoc _ _ _).symm,
            .finished called left run, behind⟩

/-- The value from before the blocks matters only if there is no block. -/
theorem BlocksRun.restart {blocks : List Block} {after : Machine} {trees : List CallTree}
    (run : BlocksRun limit blocks first machine trees (.ok last, after)) (other : Option Value) :
    ∃ value, BlocksRun limit blocks other machine trees (.ok value, after) := by
  cases run with
  | done => exact ⟨other, .done⟩
  | finished called left others => exact ⟨last, .finished called left others⟩

/-- The error ends the run, and is all that is added to the log. -/
theorem FailsAt.blocksRun {blocks : List Block} {block : Block} {error : RunError}
    {calls : List CallTree} (fails : FailsAt limit machine blocks block error calls)
    (keeps : machine.Keeps Store.errors) (first : Option Value) :
    ∃ after, BlocksRun limit blocks first machine calls (.error error, after) ∧
      after.store.errors = machine.store.errors ++ [block.name ++ ": " ++ error.message] := by
  cases fails with
  | intro run fails =>
      have called := failsInside_iff.mp fails
      have before := run.unaltered keeps
      have inside := called.unaltered_leave before.keeps
      obtain ⟨value, restarted⟩ := run.restart first
      refine ⟨_, restarted.append (.failed called rfl), ?_⟩
      exact congrArg (· ++ [_]) (inside.same.trans before.same)

theorem FailsAt.cons {blocks : List Block} {block other : Block} {error : RunError}
    {middle : Machine} {trees calls : List CallTree}
    (run : BlocksRun limit [other] none machine trees (.ok last, middle))
    (fails : FailsAt limit middle blocks block error calls) :
    FailsAt limit machine (other :: blocks) block error (trees ++ calls) := by
  cases fails with
  | intro others fails =>
      obtain ⟨_, restarted⟩ := others.restart last
      rw [← List.append_assoc]
      exact .intro (run.append restarted) fails

/-- A block ends with an error exactly if its calls do. -/
theorem Block.leave_cases {block : Block} {scope : Nat} {outcome : Outcome} {after : Machine}
    {inside : Except RunError (Option Value) × Machine}
    (left : block.leave scope inside = (outcome, after)) :
    (∃ error, outcome = .error error ∧ inside = (.error error, inside.2)) ∨
      ∃ last, outcome = .ok ((last.or block.emit).getD .null) ∧ inside = (.ok last, inside.2) := by
  obtain ⟨ended, reached⟩ := inside
  cases ended with
  | error error => exact .inl ⟨error, (congrArg Prod.fst left).symm, rfl⟩
  | ok last => exact .inr ⟨last, (congrArg Prod.fst left).symm, rfl⟩

theorem FailsAt.mem {blocks : List Block} {block : Block} {error : RunError}
    {calls : List CallTree} (fails : FailsAt limit machine blocks block error calls) :
    block ∈ blocks := by
  cases fails
  exact List.mem_append_right _ List.mem_cons_self

/-- A run ends with an error only if one of the blocks fails. -/
theorem failsAt_of_blocksRun {blocks : List Block} {error : RunError} {calls : List CallTree}
    {after : Machine} (run : BlocksRun limit blocks first machine calls (.error error, after)) :
    ∃ block, FailsAt limit machine blocks block error calls := by
  generalize ended : (Except.error error, after) = result at run
  induction run with
  | done => cases ended
  | finished called left _ ih =>
      -- The failing block comes later, so this one belongs to the blocks before it.
      obtain ⟨block, fails⟩ := ih ended
      have alone : BlocksRun limit [_] none _ _ _ := .finished called left .done
      rw [List.append_nil] at alone
      exact ⟨block, fails.cons alone⟩
  | @failed block _ _ _ _ _ _ inside called left =>
      cases ended
      rcases Block.leave_cases left with ⟨_, ⟨⟩, wrong⟩ | ⟨_, ⟨⟩, _⟩
      rw [wrong] at called
      exact ⟨block, .intro .done (failsInside_iff.mpr called)⟩

end

/-! ## Values -/

/-- The value of a block after the calls of the capabilities inside it: what the last call
gave, or what the block emits if there was none. -/
def Block.Gives (block : Block) (calls : List CallTree) (value : Value) : Prop :=
  match calls.getLast? with
  | some call => call.visit.outcome = .ok value
  | none => value = block.emit.getD .null

/-- The last value of a program whose blocks are run without an error by these calls: that of
the last block, else that of the last assignment, else null. -/
inductive LastValue (limit : Nat) (program : Program) (machine : Machine) :
    List CallTree → Value → Prop
  | block {earlier : List Block} {block : Block} {trees calls : List CallTree}
      {last inside : Option Value} {middle after : Machine} {value : Value}
      (blocks : program.blocks = earlier ++ [block])
      (run : BlocksRun limit earlier none (machine.bound program) trees (.ok last, middle))
      (called : NestedCalled limit (block.enter middle).1 block.capabilities none
        (block.enter middle).2 calls (.ok inside, after))
      (gives : block.Gives calls value) : LastValue limit program machine (trees ++ calls) value
  | assignment {earlier : List Binding} {binding : Binding} (noBlocks : program.blocks = [])
      (assignments : program.assignments = earlier ++ [binding]) :
      LastValue limit program machine [] (Dict.resolved
        (machine.bound { program with assignments := earlier }).bindings binding.value)
  | nothing (noBlocks : program.blocks = []) (noAssignments : program.assignments = []) :
      LastValue limit program machine [] .null

/-- The value behind calls without an error is that of the last one. -/
theorem NestedCalled.last_value {limit scope : Nat} {blocks : List CapabilityBlock}
    {first last : Option Value} {machine after : Machine} {trees : List CallTree}
    (called : NestedCalled limit scope blocks first machine trees (.ok last, after)) :
    match trees.getLast? with
    | some tree => ∃ value, tree.visit.outcome = .ok value ∧ last = some value
    | none => last = first := by
  generalize ended : (Except.ok last, after) = result at called
  induction called with
  | done =>
      cases ended
      rfl
  | passed _ _ ih => exact ih ended
  | @answered _ _ _ _ _ value _ _ trees _ _ _ _ ih =>
      -- This call is the last one only if no call comes after it.
      have later := ih ended
      rw [List.getLast?_cons]
      cases isLast : trees.getLast? with
      | none =>
          rw [isLast] at later
          exact ⟨value, rfl, later⟩
      | some tree =>
          rw [isLast] at later
          exact later
  | failed => cases ended

theorem NestedCalled.gives {limit : Nat} {block : Block} {machine after : Machine}
    {last : Option Value} {trees : List CallTree} {scope : Nat}
    (called : NestedCalled limit scope block.capabilities none machine trees (.ok last, after)) :
    block.Gives trees ((last.or block.emit).getD .null) := by
  have lastValue := called.last_value
  unfold Block.Gives
  cases isLast : trees.getLast? with
  | none =>
      rw [isLast] at lastValue
      subst lastValue
      rfl
  | some tree =>
      rw [isLast] at lastValue
      obtain ⟨value, given, rfl⟩ := lastValue
      exact given

/-- The last assignment sees the bindings made before it. -/
theorem Machine.last_assigned (machine : Machine) {program : Program} {earlier : List Binding}
    {binding : Binding} (assignments : program.assignments = earlier ++ [binding]) :
    (program.assignments.foldl assign (none, program.declarations.foldl declare machine)).1 =
      some (Dict.resolved (machine.bound { program with assignments := earlier }).bindings
        binding.value) := by
  rw [assignments, List.foldl_append, List.foldl_cons, assign, resolve_root]
  rfl

theorem lastValue_of_executed {limit : Nat} {program : Program} {machine after : Machine}
    {last : Option Value} {calls : List CallTree}
    (executed : OuterCall.Executed limit program machine calls (.ok last, after)) :
    LastValue limit program machine calls (last.getD .null) := by
  have run : BlocksRun limit program.blocks _ (machine.bound program) calls (.ok last, after) :=
    executed
  rcases List.eq_nil_or_concat program.blocks with noBlocks | ⟨earlier, block, blocks⟩
  · rw [noBlocks] at run
    cases run with
    | done =>
        rcases List.eq_nil_or_concat program.assignments with
          noAssignments | ⟨earlier, binding, assignments⟩
        · rw [noAssignments]
          exact .nothing noBlocks noAssignments
        · rw [List.concat_eq_append] at assignments
          rw [machine.last_assigned assignments]
          exact .assignment noBlocks assignments
  · rw [List.concat_eq_append] at blocks
    rw [blocks] at run
    obtain ⟨trees, more, value, middle, rfl, before, here⟩ := run.split
    obtain ⟨_, restarted⟩ := before.restart none
    cases here with
    | finished called left others =>
        cases others
        rcases Block.leave_cases left with ⟨_, ⟨⟩, _⟩ | ⟨last, ⟨⟩, right⟩
        rw [right] at called
        rw [List.append_nil]
        exact .block blocks restarted called called.gives

/-! ## Calls from outside -/

namespace OuterCall

/-- What executes a program: running the one that is loaded, or evaluating a source without
errors. -/
inductive Starts (interpreter : Interpreter) : OuterCall → Program → Prop
  | run {program : Program} (loaded : interpreter.program = some program) :
      Starts interpreter .run program
  | eval {source : List Char} (noErrors : (parse source).errors = []) :
      Starts interpreter (.eval source) (parse source).program

/-- What is given once the program has been executed: an overview of the machine that is left,
or the last value. -/
inductive Gives (limit : Nat) (program : Program) (machine : Machine) (calls : List CallTree)
    (after : Machine) : OuterCall → Value → Prop
  | run : Gives limit program machine calls after .run after.snapshot
  | eval {source : List Char} {value : Value} (last : LastValue limit program machine calls value) :
      Gives limit program machine calls after (.eval source) value

/-- These calls are made, and no others. -/
def Makes (outer : OuterCall) (interpreter : Interpreter) (machine : Machine)
    (calls : List CallTree) : Prop :=
  ∀ trees result, outer.Recorded interpreter machine trees result ↔
    trees = calls ∧ result = outer.result interpreter machine

section

variable {outer : OuterCall} {interpreter : Interpreter} {program : Program}
  {machine after : Machine} {calls : List CallTree}

theorem Recorded.makes {result : Outcome × Machine}
    (recorded : outer.Recorded interpreter machine calls result) :
    outer.result interpreter machine = result ∧ outer.Makes interpreter machine calls := by
  obtain ⟨trees, actual⟩ := outer.exists_recorded interpreter machine
  obtain ⟨rfl, rfl⟩ := recorded.unique actual
  refine ⟨rfl, fun others result => ⟨recorded.unique, ?_⟩⟩
  rintro ⟨rfl, rfl⟩
  exact recorded

theorem Starts.recorded_error {error : RunError} (starts : outer.Starts interpreter program)
    (executed : Executed interpreter.limit program (outer.registered machine) calls
      (.error error, after)) :
    outer.Recorded interpreter machine calls (.error error, after) := by
  cases starts with
  | run loaded => exact .run loaded executed
  | eval noErrors =>
      have right := Interpreter.checked_of_noErrors noErrors
      rw [registered_of_ok right] at executed
      exact .eval right executed

theorem Starts.recorded_ok {last : Option Value} (starts : outer.Starts interpreter program)
    (executed : Executed interpreter.limit program (outer.registered machine) calls
      (.ok last, after)) :
    ∃ value, outer.Recorded interpreter machine calls (.ok value, after) ∧
      outer.Gives interpreter.limit program (outer.registered machine) calls after value := by
  cases starts with
  | run loaded => exact ⟨_, .run loaded executed, .run⟩
  | eval noErrors =>
      have right := Interpreter.checked_of_noErrors noErrors
      have lastValue := lastValue_of_executed executed
      rw [registered_of_ok right] at executed
      exact ⟨_, .eval right executed, .eval lastValue⟩

theorem unaltered_registered (keeps : machine.Keeps Store.errors) (outer : OuterCall)
    (program : Program) :
    machine.Unaltered Store.errors ((outer.registered machine).bound program) := by
  have registered : machine.Unaltered Store.errors (outer.registered machine) := by
    rcases outer.registered_eq machine with same | ⟨other, same⟩
    · rw [same]
      exact ⟨keeps, rfl⟩
    · rw [same]
      exact keeps.registerProgram other
  refine registered.trans ⟨?_, congrArg Store.errors (Machine.bound_store _ _)⟩
  exact Machine.Uses.of_handlers registered.keeps (Machine.bound_handlers _ _)

end

end OuterCall

/-- On a machine none of whose handlers writes to the error log, executing a program stops at
the first call that fails. Then the error of this call is given, no call is made after it,
and all that is added to the log is the error with the name of the block. If no call fails,
the log stays as it is. Then running gives an overview of the machine, and evaluating gives
the last value. -/
theorem execution_stops {interpreter : Interpreter} {machine : Machine} {outer : OuterCall}
    {program : Program} (keeps : machine.Keeps Store.errors)
    (starts : outer.Starts interpreter program) :
    (∀ block error calls,
      FailsAt interpreter.limit ((outer.registered machine).bound program) program.blocks block
        error calls →
      ∃ after, outer.result interpreter machine = (.error error, after) ∧
        outer.Makes interpreter machine calls ∧
        after.store.errors = machine.store.errors ++ [block.name ++ ": " ++ error.message]) ∧
    ((∀ block error calls,
      ¬ FailsAt interpreter.limit ((outer.registered machine).bound program) program.blocks block
        error calls) →
      ∃ calls value after, outer.result interpreter machine = (.ok value, after) ∧
        outer.Makes interpreter machine calls ∧
        outer.Gives interpreter.limit program (outer.registered machine) calls after value ∧
        after.store.errors = machine.store.errors) := by
  have start := OuterCall.unaltered_registered keeps outer program
  constructor
  · intro block error calls fails
    obtain ⟨after, run, logged⟩ := fails.blocksRun start.keeps _
    obtain ⟨same, makes⟩ := (starts.recorded_error run).makes
    rw [start.same] at logged
    exact ⟨after, same, makes, logged⟩
  · intro never
    obtain ⟨calls, executed⟩ :=
      OuterCall.exists_executed interpreter.limit program (outer.registered machine)
    generalize Machine.execute interpreter.limit program (outer.registered machine) = ended
      at executed
    obtain ⟨outcome, after⟩ := ended
    cases outcome with
    | error error =>
        -- There is no error without a block that fails.
        obtain ⟨block, fails⟩ := failsAt_of_blocksRun executed
        exact absurd fails (never block error calls)
    | ok last =>
        obtain ⟨value, recorded, gives⟩ := starts.recorded_ok executed
        obtain ⟨same, makes⟩ := recorded.makes
        have silent := BlocksRun.unaltered executed start.keeps
        exact ⟨calls, value, after, same, makes, gives, silent.same.trans start.same⟩

/-- A handler that writes to the memory. -/
def Handler.noting : Handler :=
  .ofExecutor fun _ => .answer fun store => (.null, store.remember "noted" .null)

/-- A handler that fails. -/
def Handler.refusing : Handler :=
  .ofExecutor fun request => .fail (.handlerFailed request.handler "no")

def Machine.refusing : Machine :=
  (Machine.empty.register "note" .noting).register "refuse" .refusing

theorem Machine.refusing_keeps : Machine.refusing.Keeps Store.errors := by
  have empty : Machine.empty.Keeps Store.errors := nofun
  have noting : ∀ request, (Handler.noting.executor request).Uses
      (Primitive.Keeps Store.errors) := fun _ => ⟨fun _ => rfl, fun _ => trivial⟩
  have refusing : ∀ request, (Handler.refusing.executor request).Uses
      (Primitive.Keeps Store.errors) := fun _ => trivial
  exact Machine.Uses.register (Machine.Uses.register empty "note" noting) "refuse" refusing

/-- A capability without parameters. -/
def plainCapability (name : String) : CapabilityBlock :=
  ⟨name, none, [], [], ⟨1, 1⟩⟩

/-- A block without parameters. -/
def plainBlock (name : String) (nested : List String) : Block :=
  ⟨name, [], nested.map fun name => .capabilityBlock (plainCapability name), none, ⟨1, 1⟩⟩

/-- An assignment inside of a block is passed over, and so is an unknown capability. -/
def skippingBlock : Block :=
  ⟨"first", [], [.assignment ⟨"x", .null, ⟨1, 1⟩⟩, .capabilityBlock (plainCapability "absent"),
    .capabilityBlock (plainCapability "note")], none, ⟨1, 1⟩⟩

def brokenBlock : Block := plainBlock "broken" ["note", "refuse", "note"]

/-- The second of these blocks fails, with one more capability behind the failing one. -/
def brokenProgram : Program :=
  { Program.empty with blocks := [skippingBlock, brokenBlock, plainBlock "later" ["note"]] }

theorem called_note (scope : Nat) (machine : Machine)
    (found : machine.handlers.find? "note" = some .noting) :
    ∃ request, Called 1 scope (.node ⟨1, (plainCapability "note").call machine scope, machine,
      .ok .null, machine.remember "noted" .null⟩ request []) := by
  have performed : Performed 1 scope 1 _ machine [] (.ok .null, machine.remember "noted" .null) :=
    performed_answer 1 scope 1 (fun store => (.null, store.remember "noted" .null)) machine
  exact ⟨_, @Called.entered 1 scope 1 _ machine .noting [] (_, _) (Nat.le_refl 1) found performed⟩

theorem called_refuse (scope : Nat) (machine : Machine)
    (found : machine.handlers.find? "refuse" = some .refusing) :
    ∃ request, Called 1 scope (.node ⟨1, (plainCapability "refuse").call machine scope, machine,
      .error (.handlerFailed "refuse" "no"), machine⟩ request []) := by
  have performed : Performed 1 scope 1 _ machine []
      (.error (.handlerFailed "refuse" "no"), machine) := .finish
  exact ⟨_, @Called.entered 1 scope 1 _ machine .refusing [] (_, _) (Nat.le_refl 1) found performed⟩

/-- The calls of the program end with the one that is refused. -/
theorem brokenProgram_fails : ∃ calls,
    FailsAt 1 Machine.refusing brokenProgram.blocks brokenBlock (.handlerFailed "refuse" "no")
      calls ∧
    calls.map (fun tree => tree.visit.call.handler) = ["note", "note", "refuse"] := by
  let noted := Machine.refusing.remember "noted" .null
  obtain ⟨_, early⟩ := called_note 1 (skippingBlock.enter Machine.refusing).2 rfl
  have first : BlocksRun 1 [skippingBlock] none Machine.refusing _ (.ok (some .null), noted) :=
    .finished (.passed rfl (.answered rfl early .done)) rfl .done
  obtain ⟨_, again⟩ := called_note 1 (brokenBlock.enter noted).2 rfl
  have inside : NestedCalled 1 1 [plainCapability "note"] none (brokenBlock.enter noted).2 _
      (.ok (some .null), _) := .answered rfl again .done
  obtain ⟨_, refused⟩ := called_refuse 1 ((brokenBlock.enter noted).2.remember "noted" .null) rfl
  have second : FailsInside 1 1 none (brokenBlock.enter noted).2 brokenBlock.capabilities
      (.handlerFailed "refuse" "no") _ _ := .intro inside rfl refused
  exact ⟨_, .intro first second, rfl⟩

/-- A source without blocks. -/
def assigningSource : List Char :=
  "⟁Wo⟁ y = \"@x\"".toList

/-- Neither the capability behind the failing one nor the last block is called. Where there
are no blocks, nothing fails. -/
theorem execution_stops_brokenProgram :
    (∃ calls after,
      OuterCall.run.result ⟨1, some brokenProgram⟩ Machine.refusing =
        (.error (.handlerFailed "refuse" "no"), after) ∧
      OuterCall.run.Makes ⟨1, some brokenProgram⟩ Machine.refusing calls ∧
      calls.map (fun tree => tree.visit.call.handler) = ["note", "note", "refuse"] ∧
      after.store.errors = ["broken: handler refuse failed: no"]) ∧
    ∃ calls value after,
      (OuterCall.eval assigningSource).result (.new 1) Machine.refusing = (.ok value, after) ∧
      (OuterCall.eval assigningSource).Makes (.new 1) Machine.refusing calls ∧
      after.store.errors = [] := by
  constructor
  · obtain ⟨calls, fails, names⟩ := brokenProgram_fails
    have starts : OuterCall.run.Starts ⟨1, some brokenProgram⟩ brokenProgram := .run rfl
    obtain ⟨after, same, makes, logged⟩ :=
      (execution_stops Machine.refusing_keeps starts).1 _ _ calls fails
    exact ⟨calls, after, same, makes, names, logged⟩
  · have noErrors : (parse assigningSource).errors = [] := by decide +kernel
    have noBlocks : (parse assigningSource).program.blocks = [] :=
      List.eq_nil_of_length_eq_zero (by decide +kernel)
    have starts : (OuterCall.eval assigningSource).Starts (.new 1) _ := .eval noErrors
    obtain ⟨calls, value, after, same, makes, _, logged⟩ :=
      (execution_stops Machine.refusing_keeps starts).2 fun block _ _ fails =>
        List.not_mem_nil (noBlocks ▸ fails.mem)
    exact ⟨calls, value, after, same, makes, logged⟩

end GlyphScript
