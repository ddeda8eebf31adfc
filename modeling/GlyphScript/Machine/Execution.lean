import GlyphScript.Machine

/-!
# Registering and executing programs

Registering a program makes its capabilities, capability variables and vectors
known to the machine. Executing it binds its declarations, then its assignments,
and then runs its blocks until one fails.
-/

namespace GlyphScript

namespace Machine

/-! ## Registration -/

def setManifest (machine : Machine) (manifest : Dict) : Machine :=
  { machine with store := { machine.store with manifest := manifest } }

def registerCapability (machine : Machine) (block : CapabilityBlock) : Machine :=
  machine.register block.handlerName (.ofCapability block)

def registerProgram (machine : Machine) (program : Program) : Machine :=
  let declared := match program.manifest with
    | some manifest => machine.setManifest manifest.raw
    | none => machine
  let handled := program.capabilityBlocks.entries.foldl registerCapability declared
  let bound := program.capabilityVariables.entries.foldl
    (fun machine var => machine.bind var.name var.default) handled
  program.capabilityVectors.entries.foldl
    (fun machine vector => machine.registerVector vector.name vector.params) bound

/-! ## Execution -/

/-- A text `@name` stands for the variable `@name`, else for the variable `name`,
else for itself, as all other values do. -/
def resolve (scopes : Forest) (scope : Nat) (value : Value) : Value :=
  match value with
  | .text reference =>
      match reference.toList with
      | '@' :: first :: others =>
          ((scopes.get? scope reference).or
            (scopes.get? scope (String.ofList (first :: others)))).getD value
      | _ => value
  | _ => value

def declare (machine : Machine) (binding : Binding) : Machine :=
  machine.bind binding.name binding.value

/-- Binds a name to what a value stands for, which is the new last value. -/
def assign (state : Option Value × Machine) (binding : Binding) : Option Value × Machine :=
  let value := resolve state.2.scopes root binding.value
  (some value, state.2.bind binding.name value)

/-- Calls the capabilities inside a block in order until one fails, and passes over
those that no handler is registered for. Gives the last value, if there is one. -/
def callNested (limit scope : Nat) : List CapabilityBlock → Option Value → Machine →
    Except RunError (Option Value) × Machine
  | [], last, machine => (.ok last, machine)
  | nested :: rest, last, machine =>
      if machine.handlers.contains nested.handlerName then
        let params := nested.params.mapEntries (resolve machine.scopes scope)
        match machine.call limit scope ⟨nested.handlerName, some params, [], []⟩ with
        | (.ok value, after) => callNested limit scope rest (some value) after
        | (.error error, after) => (.error error, after)
      else callNested limit scope rest last machine

/-- Runs a block in a scope of its own that binds the block's parameters. Its value
is that of the last call, else what the block emits. -/
def runBlock (limit : Nat) (block : Block) (machine : Machine) : Outcome × Machine :=
  let params := block.params.mapEntries (resolve machine.scopes root)
  let (scope, scopes) := machine.scopes.add ⟨some root, params⟩
  let (last, after) := callNested limit scope block.capabilities none
    { machine with scopes := scopes }
  (last.map fun value => (value.or block.emit).getD .null,
    { after with scopes := after.scopes.close scope })

/-- Runs blocks until one fails; the error is logged with the name of that block. -/
def runBlocks (limit : Nat) : List Block → Option Value → Machine →
    Except RunError (Option Value) × Machine
  | [], last, machine => (.ok last, machine)
  | block :: rest, _, machine =>
      match machine.runBlock limit block with
      | (.ok value, after) => runBlocks limit rest (some value) after
      | (.error error, after) =>
          (.error error, after.logError (block.name ++ ": " ++ error.message))

/-- The last value is that of the last block, else of the last assignment. -/
def execute (limit : Nat) (program : Program) (machine : Machine) :
    Except RunError (Option Value) × Machine :=
  let declared := program.declarations.foldl declare machine
  let (last, assigned) := program.assignments.foldl assign (none, declared)
  assigned.runBlocks limit program.blocks last

end Machine

end GlyphScript
