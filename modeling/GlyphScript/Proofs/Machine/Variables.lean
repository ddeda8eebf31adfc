import GlyphScript.Proofs.Machine.Serving
import GlyphScript.Proofs.Program.Errors

/-!
# What decides the variables

Declarations and assignments bind variables. Blocks have scopes of their own, and on a
machine that the library serves no call binds anything. So the variables after a run are
those before it with the declarations over them and the assignments over these, whatever
comes of the blocks.

Results:
1. `resolve_root`, `bindings_bound`: binding as a function on the variables alone.
2. `scopes_runBlock`, `scopes_call`: blocks and calls leave all scopes as they were.
3. `bindings_decided`: the variables after running or evaluating a program.
-/

namespace GlyphScript

/-! ## Bindings of a program -/

/-- The name that a text refers to, which stands behind an at sign. -/
def Value.referenced? : Value → Option String
  | .text reference =>
      match reference.toList with
      | '@' :: first :: others => some (String.ofList (first :: others))
      | _ => none
  | _ => none

theorem Value.referenced?_of_marked {reference : String} {first : Char} {others : List Char}
    (spelled : reference.toList = '@' :: first :: others) :
    (Value.text reference).referenced? = some (String.ofList (first :: others)) := by
  simp only [referenced?, spelled]

theorem Value.referenced?_of_unmarked {reference : String}
    (unmarked : ∀ first others, reference.toList = '@' :: first :: others → False) :
    (Value.text reference).referenced? = none := by
  -- What is left of the match asks for `unmarked`.
  simp only [referenced?]

/-- What a value stands for beside these bindings: for what is bound to the name it refers
to, with the at sign or else without it, and otherwise for itself. -/
def Dict.resolved (bindings : Dict) (value : Value) : Value :=
  match value.referenced? with
  | some name => ((bindings.find? ("@" ++ name)).or (bindings.find? name)).getD value
  | none => value

/-- The bindings after assignments, each of which sees the bindings made before it. -/
def Dict.assigned (bindings : Dict) : List Binding → Dict
  | [] => bindings
  | first :: rest =>
      Dict.assigned (bindings.insert first.name (Dict.resolved bindings first.value)) rest

/-- A binding without its place. -/
def Binding.pair (binding : Binding) : String × Value :=
  (binding.name, binding.value)

namespace Program

/-- The bindings after a program: its declarations in order, then its assignments. -/
def rebound (program : Program) (bindings : Dict) : Dict :=
  Dict.assigned (bindings.extend (program.declarations.map Binding.pair)) program.assignments

/-- What the capability variables are bound to at first. -/
def defaults (program : Program) : List (String × Value) :=
  program.capabilityVariables.entries.map fun var => (var.name, var.default)

end Program

namespace Machine

/-! ## Bindings of a machine -/

/-- What the scope of the program's own variables binds. -/
def bindings (machine : Machine) : Dict :=
  machine.scopes.own root

/-- There is a scope for the program's own variables. -/
def Rooted (machine : Machine) : Prop :=
  root < machine.scopes.scopes.length

theorem get?_root (scopes : Forest) (name : String) :
    scopes.get? root name = (scopes.own root).find? name := by
  rw [Forest.get?, root, Forest.chain_zero, List.findSome?_singleton]

/-- In the outermost scope a value stands for what the variables make of it. -/
theorem resolve_root (scopes : Forest) (value : Value) :
    resolve scopes root value = Dict.resolved (scopes.own root) value := by
  cases value with
  | text reference =>
      unfold resolve
      simp only [get?_root]
      split
      · next first others spelled =>
          have marked : "@" ++ String.ofList (first :: others) = reference := by
            rw [← String.toList_inj, String.toList_append, spelled]
            exact congrArg ('@' :: ·) String.toList_ofList
          simp only [Dict.resolved, Value.referenced?_of_marked spelled, marked]
      · next other => rw [Dict.resolved, Value.referenced?_of_unmarked other]
  | _ => rfl

theorem bindings_bind {machine : Machine} (rooted : machine.Rooted) (name : String)
    (value : Value) : (machine.bind name value).bindings = machine.bindings.insert name value :=
  Forest.own_modify_self machine.scopes _ rooted

theorem Rooted.bind {machine : Machine} (rooted : machine.Rooted) (name : String)
    (value : Value) : (machine.bind name value).Rooted := by
  unfold Rooted Machine.bind Forest.set Forest.modify
  rw [List.length_modify]
  exact rooted

/-- Binding pairs one after the other extends the variables by them. -/
theorem bindings_foldl_bind {α : Type} (pair : α → String × Value) (items : List α)
    {machine : Machine} (rooted : machine.Rooted) :
    (items.foldl (fun machine item => machine.bind (pair item).1 (pair item).2) machine).Rooted ∧
      (items.foldl (fun machine item => machine.bind (pair item).1 (pair item).2)
        machine).bindings = machine.bindings.extend (items.map pair) := by
  induction items generalizing machine with
  | nil => exact ⟨rooted, rfl⟩
  | cons first rest ih =>
      rw [List.foldl_cons, List.map_cons]
      have others := ih (rooted.bind (pair first).1 (pair first).2)
      rw [bindings_bind rooted] at others
      exact others

theorem bindings_foldl_assign (bindings : List Binding) {state : Option Value × Machine}
    (rooted : state.2.Rooted) :
    (bindings.foldl assign state).2.bindings = Dict.assigned state.2.bindings bindings := by
  induction bindings generalizing state with
  | nil => rfl
  | cons first rest ih =>
      rw [List.foldl_cons, @ih (assign state first) (rooted.bind first.name _), assign,
        bindings_bind rooted, resolve_root]
      rfl

theorem bindings_bound {machine : Machine} (rooted : machine.Rooted) (program : Program) :
    (machine.bound program).bindings = program.rebound machine.bindings := by
  obtain ⟨declaredRooted, declared⟩ :=
    bindings_foldl_bind Binding.pair program.declarations rooted
  rw [bound, bindings_foldl_assign _ declaredRooted, Program.rebound]
  exact congrArg (Dict.assigned · program.assignments) declared

theorem scopes_foldl {α : Type} (step : Machine → α → Machine)
    (quiet : ∀ machine item, (step machine item).scopes = machine.scopes) (items : List α)
    (machine : Machine) : (items.foldl step machine).scopes = machine.scopes :=
  List.foldlRecOn items step (motive := fun after => after.scopes = machine.scopes) rfl
    fun after same item _ => (quiet after item).trans same

/-- Of what a program registers, only the capability variables are variables. -/
theorem bindings_registerProgram {machine : Machine} (rooted : machine.Rooted)
    (program : Program) :
    (machine.registerProgram program).Rooted ∧
      (machine.registerProgram program).bindings = machine.bindings.extend program.defaults := by
  -- The variables are bound on a machine whose scopes are still those of the first one.
  have defaults : ∀ handled : Machine, handled.scopes = machine.scopes →
      (program.capabilityVariables.entries.foldl
        (fun machine var => machine.bind var.name var.default) handled).Rooted ∧
      (program.capabilityVariables.entries.foldl
        (fun machine var => machine.bind var.name var.default) handled).bindings =
          machine.bindings.extend program.defaults := by
    intro handled same
    have handledRooted : handled.Rooted := by
      rw [Rooted, same]
      exact rooted
    have sameBindings : handled.bindings = machine.bindings := by
      rw [bindings, same]
      rfl
    rw [← sameBindings]
    exact bindings_foldl_bind (fun var : CapabilityVariable => (var.name, var.default)) _
      handledRooted
  have handled := scopes_foldl registerCapability (fun _ _ => rfl)
    program.capabilityBlocks.entries
  have registered := scopes_foldl
    (fun machine (vector : CapabilityVector) => machine.registerVector vector.name vector.params)
    (fun _ _ => rfl) program.capabilityVectors.entries
  unfold Rooted bindings registerProgram
  simp only [registered]
  refine defaults _ ((handled _).trans ?_)
  cases program.manifest <;> rfl

/-! ## Blocks and calls -/

section

variable {fits : String → String → Prop} {machine : Machine}

theorem scopes_call (served : machine.ServedAs fits) (limit scope : Nat) (call : Call) :
    (machine.call limit scope call).2.scopes = machine.scopes := by
  obtain ⟨request, nested, called⟩ := exists_called_outer limit scope call machine
  generalize machine.call limit scope call = result at called
  cases result with
  | mk outcome after => cases called.served served <;> rfl

theorem scopes_runBlock (served : machine.ServedAs fits) (limit : Nat) (block : Block) :
    (machine.runBlock limit block).2.scopes = machine.scopes := by
  obtain ⟨trees, called⟩ := exists_nestedCalled limit (block.enter machine).1
    block.capabilities none (block.enter machine).2
  rw [runBlock_eq]
  generalize callNested limit (block.enter machine).1 block.capabilities none
    (block.enter machine).2 = inside at called
  obtain ⟨store, _, same, _⟩ := called.served served
  have back := block.leave_enter machine store inside.1
  rw [← same] at back
  rw [back]

theorem scopes_execute (served : machine.ServedAs fits) (limit : Nat) (program : Program) :
    (machine.execute limit program).2.scopes = (machine.bound program).scopes := by
  obtain ⟨trees, executed⟩ := OuterCall.exists_executed limit program machine
  generalize machine.execute limit program = result at executed
  obtain ⟨store, _, ⟨value, rfl⟩ | ⟨_, error, message, rfl⟩⟩ := executed.served served <;> rfl

end

end Machine

/-- On a machine whose handlers all pass their requests on to the library, the variables
after a run are those of the declarations and assignments of the program, made in order
over the variables before. For a source that is evaluated the capability variables come
first. This holds at any limit, so also if a block fails. No block and no call changes a
variable. -/
theorem bindings_decided {machine : Machine} (served : machine.ServedAs fun _ _ => True)
    (rooted : machine.Rooted) (limit : Nat) :
    (∀ program, ((Interpreter.mk limit (some program)).run machine).2.bindings =
      program.rebound machine.bindings) ∧
    (∀ loaded source, (parse source).errors = [] →
      ((Interpreter.mk limit loaded).eval source machine).2.bindings =
        (parse source).program.rebound
          (machine.bindings.extend (parse source).program.defaults)) ∧
    (∀ block, (machine.runBlock limit block).2.bindings = machine.bindings) ∧
    ∀ scope call, (machine.call limit scope call).2.bindings = machine.bindings := by
  refine ⟨?_, ?_, ?_, ?_⟩
  · intro program
    rw [← Machine.bindings_bound rooted]
    exact congrArg (Forest.own · Machine.root) (Machine.scopes_execute served limit program)
  · intro loaded source noErrors
    obtain ⟨registered, defaults⟩ :=
      Machine.bindings_registerProgram rooted (parse source).program
    rw [Interpreter.eval, Interpreter.checked_of_noErrors noErrors, ← defaults,
      ← Machine.bindings_bound registered]
    exact congrArg (Forest.own · Machine.root) (Machine.scopes_execute
      (served.registerProgram (fun _ => trivial) _) limit (parse source).program)
  · intro block
    exact congrArg (Forest.own · Machine.root) (Machine.scopes_runBlock served limit block)
  · intro scope call
    exact congrArg (Forest.own · Machine.root) (Machine.scopes_call served limit scope call)

/-- A machine with one variable and one handler, which echoes. -/
def Machine.echoing : Machine :=
  (Machine.empty.bind "x" (.text "old")).registerCapability ⟨"echo", none, [], [], ⟨1, 1⟩⟩

theorem Machine.echoing_served : Machine.echoing.ServedAs fun _ _ => True := by
  have served : (Machine.empty.bind "x" (.text "old")).ServedAs fun _ _ => True := nofun
  exact served.registerCapability (fun _ => trivial) _

/-- A program that declares `a`, assigns `b` and `c`, and has a block that hides `x`. -/
def hidingProgram : Program :=
  { Program.empty with
    declarations := [⟨"a", .text "@x", ⟨1, 1⟩⟩]
    assignments := [⟨"b", .text "@a", ⟨2, 1⟩⟩, ⟨"c", .text "@x", ⟨3, 1⟩⟩]
    blocks := [⟨"hide", [("x", .text "new")],
      [.capabilityBlock ⟨"echo", none, [("x", .text "@x")], [], ⟨5, 1⟩⟩], none, ⟨4, 1⟩⟩] }

/-- A source that binds `y` to what `x` is bound to. -/
def copyingSource : List Char :=
  "⟁Wo⟁ y = \"@x\"".toList

/-- At a limit of zero the block fails. Declared texts stay as they are, and what a
variable holds is not resolved again. -/
theorem bindings_decided_hidingProgram :
    ((Interpreter.mk 0 (some hidingProgram)).run Machine.echoing).1 =
        .error (.depthExceeded 0) ∧
      ((Interpreter.mk 0 (some hidingProgram)).run Machine.echoing).2.bindings =
        [("a", .text "@x"), ("b", .text "@x"), ("c", .text "old"), ("x", .text "old")] ∧
      ∀ loaded, (((Interpreter.mk 0 loaded).eval copyingSource
        Machine.echoing).2.bindings.mapEntries Value.text?) =
          [("x", some "old"), ("y", some "old")] := by
  obtain ⟨run, eval, _⟩ := bindings_decided Machine.echoing_served Nat.zero_lt_one 0
  refine ⟨rfl, (run hidingProgram).trans rfl, fun loaded => ?_⟩
  rw [eval loaded copyingSource (by decide +kernel)]
  decide +kernel

end GlyphScript
