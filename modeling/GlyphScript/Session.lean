import GlyphScript.Interpreter

/-!
# Sessions

A session is a machine with the interpreters that work on it, numbered in the
order of their making, and is driven by commands.
-/

namespace GlyphScript

structure Session where
  machine : Machine
  interpreters : List Interpreter

/-- What a session can be told to do. Commands to an interpreter give its number. -/
inductive Command where
  | spawn (limit : Nat)
  | load (id : Nat) (source : List Char)
  | loadProgram (id : Nat) (program : Program)
  | run (id : Nat)
  | eval (id : Nat) (source : List Char)
  | dispatch (id : Nat) (call : Call)
  | register (name : String) (handler : Handler)
  | registerVector (name : String) (params : Dict)
  | bind (name : String) (value : Value)
  | remember (key : String) (value : Value)
  | logError (message : String)

/-- What a command gives. -/
inductive Reply where
  | done
  | spawned (id : Nat)
  | outcome (outcome : Outcome)
  /-- Whether something was registered under the name before. -/
  | replaced (before : Bool)
  | noInterpreter (id : Nat)

namespace Session

/-- One interpreter on an empty machine. -/
def start (limit : Nat) : Session :=
  ⟨.empty, [.new limit]⟩

/-- Lets an interpreter work on the machine. -/
def withInterpreter (session : Session) (id : Nat)
    (work : Interpreter → Reply × Session) : Reply × Session :=
  match session.interpreters[id]? with
  | some interpreter => work interpreter
  | none => (.noInterpreter id, session)

/-- The session after an interpreter has loaded something. -/
def loaded (session : Session) (id : Nat) (state : Interpreter × Machine) : Session :=
  ⟨state.2, session.interpreters.set id state.1⟩

/-- The session after an interpreter has given an outcome. -/
def finished (session : Session) (result : Outcome × Machine) : Reply × Session :=
  (.outcome result.1, { session with machine := result.2 })

def step (session : Session) : Command → Reply × Session
  | .spawn limit =>
      (.spawned session.interpreters.length,
        { session with interpreters := session.interpreters ++ [.new limit] })
  | .load id source => session.withInterpreter id fun interpreter =>
      match interpreter.load source session.machine with
      | .ok state => (.outcome (.ok .null), session.loaded id state)
      | .error error => (.outcome (.error error), session)
  | .loadProgram id program => session.withInterpreter id fun interpreter =>
      (.done, session.loaded id (interpreter.loadProgram program session.machine))
  | .run id => session.withInterpreter id fun interpreter =>
      session.finished (interpreter.run session.machine)
  | .eval id source => session.withInterpreter id fun interpreter =>
      session.finished (interpreter.eval source session.machine)
  | .dispatch id call => session.withInterpreter id fun interpreter =>
      session.finished (interpreter.dispatch call session.machine)
  | .register name handler =>
      (.replaced (session.machine.handlers.contains name),
        { session with machine := session.machine.register name handler })
  | .registerVector name params =>
      (.replaced (session.machine.store.vectors.contains name),
        { session with machine := session.machine.registerVector name params })
  | .bind name value => (.done, { session with machine := session.machine.bind name value })
  | .remember key value =>
      (.done, { session with machine := session.machine.remember key value })
  | .logError message =>
      (.done, { session with machine := session.machine.logError message })

/-- The session after a list of commands. -/
def after (session : Session) (commands : List Command) : Session :=
  commands.foldl (fun session command => (session.step command).2) session

end Session

end GlyphScript
