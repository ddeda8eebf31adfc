import GlyphScript.Machine.Execution

/-!
# Interpreters

An interpreter holds a program and a limit on the depth of calls. Several of them
can work on one machine.
-/

namespace GlyphScript

structure Interpreter where
  limit : Nat
  program : Option Program

namespace Interpreter

def new (limit : Nat) : Interpreter :=
  ⟨limit, none⟩

/-- The program of a source without errors. -/
def checked (source : List Char) : Except RunError Program :=
  match parse source with
  | ⟨program, []⟩ => .ok program
  | ⟨_, errors⟩ => .error (.parse errors)

def loadProgram (interpreter : Interpreter) (program : Program) (machine : Machine) :
    Interpreter × Machine :=
  ({ interpreter with program := some program }, machine.registerProgram program)

/-- Registers the program of a source and keeps it for `run`; an error changes
nothing. -/
def load (interpreter : Interpreter) (source : List Char) (machine : Machine) :
    Except RunError (Interpreter × Machine) :=
  (checked source).map fun program => interpreter.loadProgram program machine

/-- Executes the program that is loaded, and gives an overview of the machine. -/
def run (interpreter : Interpreter) (machine : Machine) : Outcome × Machine :=
  match interpreter.program with
  | none => (.error .noProgram, machine)
  | some program =>
      let (last, after) := machine.execute interpreter.limit program
      (last.map fun _ => after.snapshot, after)

/-- Registers and executes a source without keeping it, and gives its last value. -/
def eval (interpreter : Interpreter) (source : List Char) (machine : Machine) :
    Outcome × Machine :=
  match checked source with
  | .error error => (.error error, machine)
  | .ok program =>
      let (last, after) := (machine.registerProgram program).execute interpreter.limit program
      (last.map fun value => value.getD .null, after)

def dispatch (interpreter : Interpreter) (call : Call) (machine : Machine) :
    Outcome × Machine :=
  machine.call interpreter.limit Machine.root call

end Interpreter

end GlyphScript
