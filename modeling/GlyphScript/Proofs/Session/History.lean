import GlyphScript.Proofs.Machine.Serving
import GlyphScript.Session

/-!
# Histories of sessions

The history of a session is the list of all calls that its commands make, with what each
of them found and left.

Results:
1. `exists_history`, `History.unique`: a session has exactly one history.
2. `Stepped.served`: as long as no handler is registered from outside, the library serves
   all handlers under their own names.
-/

namespace GlyphScript

/-- The command registers a handler from outside. -/
def Command.registers : Command → Bool
  | .register _ _ => true
  | _ => false

/-- The interpreter that a command is for. -/
def Command.target? : Command → Option Nat
  | .load id _ => some id
  | .loadProgram id _ => some id
  | .run id => some id
  | .eval id _ => some id
  | .dispatch id _ => some id
  | _ => none

namespace Session

/-- The calls that a command starts, and the interpreter that makes them. -/
def started? (session : Session) : Command → Option (Interpreter × OuterCall)
  | .run id => session.interpreters[id]?.map (·, .run)
  | .eval id source => session.interpreters[id]?.map (·, .eval source)
  | .dispatch id call => session.interpreters[id]?.map (·, .dispatch call)
  | _ => none

/-- The trees record the calls of a command. -/
inductive Stepped (session : Session) (command : Command) : List CallTree → Session → Prop
  | started {interpreter : Interpreter} {outer : OuterCall} {trees : List CallTree}
      {result : Outcome × Machine} (starts : session.started? command = some (interpreter, outer))
      (recorded : outer.Recorded interpreter session.machine trees result) :
      Stepped session command trees { session with machine := result.2 }
  | silent (nothing : session.started? command = none) :
      Stepped session command [] (session.step command).2

/-- The trees record the calls of commands, in order. -/
inductive History : Session → List Command → List CallTree → Session → Prop
  | done {session : Session} : History session [] [] session
  | next {session middle after : Session} {command : Command} {commands : List Command}
      {trees more : List CallTree} (stepped : session.Stepped command trees middle)
      (rest : History middle commands more after) :
      History session (command :: commands) (trees ++ more) after

/-! ## Exactly one history -/

theorem withInterpreter_of_present {session : Session} {id : Nat} {interpreter : Interpreter}
    (present : session.interpreters[id]? = some interpreter)
    (work : Interpreter → Reply × Session) : session.withInterpreter id work = work interpreter := by
  simp only [withInterpreter, present]

theorem withInterpreter_of_absent {session : Session} {id : Nat}
    (absent : session.interpreters[id]? = none) (work : Interpreter → Reply × Session) :
    session.withInterpreter id work = (.noInterpreter id, session) := by
  simp only [withInterpreter, absent]

theorem step_of_absent {session : Session} {command : Command} {id : Nat}
    (addressed : command.target? = some id) (absent : session.interpreters[id]? = none) :
    session.step command = (.noInterpreter id, session) := by
  cases command <;> cases addressed <;> exact withInterpreter_of_absent absent _

/-- The interpreter that a command is for is there or not. -/
theorem absent_or_present (session : Session) (command : Command) :
    (∃ id, command.target? = some id ∧ session.interpreters[id]? = none) ∨
      ∀ id, command.target? = some id →
        ∃ interpreter, session.interpreters[id]? = some interpreter := by
  cases command.target? with
  | none => exact .inr nofun
  | some id =>
      cases found : session.interpreters[id]? with
      | none => exact .inl ⟨id, rfl, found⟩
      | some interpreter =>
          refine .inr ?_
          rintro _ ⟨⟩
          exact ⟨interpreter, found⟩

theorem step_of_started {session : Session} {command : Command} {interpreter : Interpreter}
    {outer : OuterCall} (starts : session.started? command = some (interpreter, outer)) :
    session.step command = session.finished (outer.result interpreter session.machine) := by
  cases command with
  | run id =>
      obtain ⟨_, present, same⟩ := Option.map_eq_some_iff.mp starts
      cases same
      exact withInterpreter_of_present present _
  | eval id source =>
      obtain ⟨_, present, same⟩ := Option.map_eq_some_iff.mp starts
      cases same
      exact withInterpreter_of_present present _
  | dispatch id call =>
      obtain ⟨_, present, same⟩ := Option.map_eq_some_iff.mp starts
      cases same
      exact withInterpreter_of_present present _
  | _ => cases starts

theorem exists_stepped (session : Session) (command : Command) :
    ∃ trees, session.Stepped command trees (session.step command).2 := by
  cases starts : session.started? command with
  | none => exact ⟨[], .silent starts⟩
  | some call =>
      obtain ⟨interpreter, outer⟩ := call
      obtain ⟨trees, recorded⟩ := outer.exists_recorded interpreter session.machine
      rw [step_of_started starts]
      exact ⟨trees, .started starts recorded⟩

theorem Stepped.unique {session after other : Session} {command : Command}
    {trees others : List CallTree} (stepped : session.Stepped command trees after)
    (again : session.Stepped command others other) : others = trees ∧ other = after := by
  cases stepped with
  | started starts recorded =>
      cases again with
      | started startsAgain recordedAgain =>
          cases starts.symm.trans startsAgain
          obtain ⟨rfl, rfl⟩ := recorded.unique recordedAgain
          exact ⟨rfl, rfl⟩
      | silent nothing => cases starts.symm.trans nothing
  | silent nothing =>
      cases again with
      | started starts _ => cases starts.symm.trans nothing
      | silent _ => exact ⟨rfl, rfl⟩

theorem exists_history (session : Session) (commands : List Command) :
    ∃ trees, session.History commands trees (session.after commands) := by
  induction commands generalizing session with
  | nil => exact ⟨[], .done⟩
  | cons command commands ih =>
      obtain ⟨trees, stepped⟩ := session.exists_stepped command
      obtain ⟨more, rest⟩ := ih (session.step command).2
      exact ⟨trees ++ more, .next stepped rest⟩

theorem History.unique {session after other : Session} {commands : List Command}
    {trees others : List CallTree} (history : session.History commands trees after)
    (again : session.History commands others other) : others = trees ∧ other = after := by
  induction history generalizing others other with
  | done =>
      cases again
      exact ⟨rfl, rfl⟩
  | next stepped _ ih =>
      cases again with
      | next steppedAgain rest =>
          obtain ⟨rfl, rfl⟩ := stepped.unique steppedAgain
          obtain ⟨rfl, rfl⟩ := ih rest
          exact ⟨rfl, rfl⟩

/-! ## What commands can do -/

/-- What a command can do that makes no calls and registers nothing from outside. -/
inductive Adjusted (session : Session) : Command → Session → Prop
  | same {command : Command} : Adjusted session command session
  | spawned {limit : Nat} : Adjusted session (.spawn limit)
      { session with interpreters := session.interpreters ++ [.new limit] }
  | loaded {command : Command} {id : Nat} {interpreter : Interpreter}
      (present : session.interpreters[id]? = some interpreter) (program : Program) :
      Adjusted session command
        (session.loaded id (interpreter.loadProgram program session.machine))
  | vector {name : String} {params : Dict} : Adjusted session (.registerVector name params)
      { session with machine := session.machine.registerVector name params }
  | bound {name : String} {value : Value} : Adjusted session (.bind name value)
      { session with machine := session.machine.bind name value }
  | remembered {key : String} {value : Value} : Adjusted session (.remember key value)
      { session with machine := session.machine.remember key value }
  | logged {message : String} : Adjusted session (.logError message)
      { session with machine := session.machine.logError message }

theorem adjusted_step {session : Session} {command : Command}
    (silent : session.started? command = none) (inside : command.registers = false) :
    session.Adjusted command (session.step command).2 := by
  rcases session.absent_or_present command with ⟨id, addressed, absent⟩ | there
  · rw [step_of_absent addressed absent]
    exact .same
  cases command with
  | spawn limit => exact .spawned
  | load id source =>
      obtain ⟨interpreter, present⟩ := there id rfl
      rw [step, withInterpreter_of_present present, Interpreter.load]
      cases Interpreter.checked source with
      | ok program => exact .loaded present program
      | error error => exact .same
  | loadProgram id program =>
      obtain ⟨interpreter, present⟩ := there id rfl
      rw [step, withInterpreter_of_present present]
      exact .loaded present program
  | run id =>
      obtain ⟨interpreter, present⟩ := there id rfl
      cases (Option.map_eq_none_iff.mp silent).symm.trans present
  | eval id source =>
      obtain ⟨interpreter, present⟩ := there id rfl
      cases (Option.map_eq_none_iff.mp silent).symm.trans present
  | dispatch id call =>
      obtain ⟨interpreter, present⟩ := there id rfl
      cases (Option.map_eq_none_iff.mp silent).symm.trans present
  | register name executor => cases inside
  | registerVector name params => exact .vector
  | bind name value => exact .bound
  | remember key value => exact .remembered
  | logError message => exact .logged

theorem Adjusted.served {session after : Session} {command : Command}
    (adjusted : session.Adjusted command after) (served : session.machine.ServedAs Eq) :
    after.machine.ServedAs Eq := by
  cases adjusted with
  | loaded _ program => exact served.registerProgram (fun _ => rfl) program
  | _ => exact served

theorem Stepped.served {session after : Session} {command : Command} {trees : List CallTree}
    (stepped : session.Stepped command trees after) (served : session.machine.ServedAs Eq)
    (inside : command.registers = false) : after.machine.ServedAs Eq := by
  cases stepped with
  | silent nothing => exact (adjusted_step nothing inside).served served
  | @started _ outer _ _ _ recorded =>
      obtain ⟨_, _, handlers, _⟩ := recorded.left (fun _ => rfl) served
      exact (outer.served_registered (fun _ => rfl) served).of_handlers handlers

end Session

end GlyphScript
