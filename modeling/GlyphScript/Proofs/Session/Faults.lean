import GlyphScript.Proofs.Library.Effects
import GlyphScript.Proofs.Program.Errors
import GlyphScript.Proofs.Session.History

/-!
# When commands fail

As long as handlers come from programs only, and each interpreter may make calls, there
are four reasons for a command to fail (`Session.Fault`). They can be seen before the
command is carried out, and a command that fails changes nothing. No block ever fails, so
nothing is written to the error log.

Results:
1. `call_of_absent`, `call_of_present`, `execute_served`: calls and runs on machines that
   the library serves.
2. `Settled.step`: what every command keeps.
3. `step_fails_iff`: a command fails exactly for one of the four reasons.
-/

namespace GlyphScript

/-- Commands that bring no handlers and no errors from outside, and let each new
interpreter make calls. -/
def Command.Ordinary : Command → Prop
  | .spawn limit => 1 ≤ limit
  | .register _ _ => False
  | .logError _ => False
  | _ => True

theorem Command.Ordinary.inside {command : Command} (ordinary : command.Ordinary) :
    command.registers = false := by
  cases command with
  | register => cases ordinary
  | _ => rfl

namespace Machine

variable {fits : String → String → Prop} {machine : Machine} {limit : Nat}

theorem errors_worked {before after : Store} {trees : List CallTree}
    (worked : Worked fits before trees after) : after.errors = before.errors :=
  worked.keeps fun name request store => (Library.serve_effect name request store).framed.errors

/-- A call without a handler fails and changes nothing. -/
theorem call_of_absent (positive : 1 ≤ limit) (scope : Nat) {call : Call}
    (absent : machine.handlers.contains call.handler = false) :
    machine.call limit scope call = (.error (.handlerNotFound call.handler), machine) := by
  obtain ⟨left, rfl⟩ := Nat.exists_eq_add_of_le' positive
  have missing : machine.handlers.find? call.handler = none :=
    Option.isSome_eq_false_iff.mp absent |> Option.isNone_iff_eq_none.mp
  simp only [Machine.call, callWithin, missing]

/-- A call with a handler is answered by the library. -/
theorem call_of_present (served : machine.ServedAs fits) (positive : 1 ≤ limit) (scope : Nat)
    {call : Call} (present : machine.handlers.contains call.handler = true) :
    ∃ value store, machine.call limit scope call = (.ok value, { machine with store := store }) ∧
      store.errors = machine.store.errors := by
  obtain ⟨request, nested, called⟩ := exists_called_outer limit scope call machine
  generalize machine.call limit scope call = result at called
  obtain ⟨outcome, after⟩ := result
  cases called.served served with
  | refused exceeds => omega
  | unknown absent =>
      rw [Table.contains, absent] at present
      cases present
  | answered _ fit => exact ⟨_, _, rfl, (Library.serve_effect _ _ _).framed.errors⟩

theorem execute_served (served : machine.ServedAs fits) (positive : 1 ≤ limit)
    (program : Program) :
    ∃ value store, machine.execute limit program =
        (.ok value, { machine.bound program with store := store }) ∧
      store.errors = machine.store.errors := by
  obtain ⟨trees, executed⟩ := OuterCall.exists_executed limit program machine
  obtain ⟨store, worked, ⟨value, same⟩ | ⟨zero, _⟩⟩ := executed.served served
  · exact ⟨value, store, same, errors_worked worked⟩
  · omega

theorem errors_registerProgram (machine : Machine) (program : Program) :
    (machine.registerProgram program).store.errors = machine.store.errors := by
  obtain ⟨manifest, vectors, same⟩ := machine.redeclared_registerProgram program
  rw [same]

end Machine

namespace Session

/-- The reasons for a command to fail, with the errors that it then gives. -/
inductive Fault (session : Session) : Command → RunError → Prop
  | load {id : Nat} {source : List Char} {interpreter : Interpreter}
      (present : session.interpreters[id]? = some interpreter)
      (unreadable : (parse source).errors ≠ []) :
      Fault session (.load id source) (.parse (parse source).errors)
  | eval {id : Nat} {source : List Char} {interpreter : Interpreter}
      (present : session.interpreters[id]? = some interpreter)
      (unreadable : (parse source).errors ≠ []) :
      Fault session (.eval id source) (.parse (parse source).errors)
  | run {id : Nat} {interpreter : Interpreter}
      (present : session.interpreters[id]? = some interpreter)
      (unloaded : interpreter.program = none) : Fault session (.run id) .noProgram
  | dispatch {id : Nat} {call : Call} {interpreter : Interpreter}
      (present : session.interpreters[id]? = some interpreter)
      (unregistered : session.machine.handlers.contains call.handler = false) :
      Fault session (.dispatch id call) (.handlerNotFound call.handler)

/-- What holds between commands. -/
structure Settled (session : Session) : Prop where
  served : session.machine.ServedAs Eq
  unlogged : session.machine.store.errors = []
  limits : ∀ interpreter ∈ session.interpreters, 1 ≤ interpreter.limit

/-- The command fails for a reason and changes nothing. -/
def FailsFor (session : Session) (command : Command) (error : RunError) : Prop :=
  session.Fault command error ∧ session.step command = (.outcome (.error error), session)

/-- The command has no reason to fail, does not fail, and logs no error. -/
structure Succeeds (session : Session) (command : Command) : Prop where
  faultless : ∀ error, ¬ session.Fault command error
  noError : ∀ error, (session.step command).1 ≠ .outcome (.error error)
  unlogged : command.Ordinary → (session.step command).2.machine.store.errors = []

/-! ## Each command on its own -/

section

variable {session : Session} {id : Nat} {interpreter : Interpreter}

theorem Reply.ok_ne_error (value : Value) (error : RunError) :
    Reply.outcome (.ok value) ≠ .outcome (.error error) :=
  nofun

theorem Succeeds.of_step {command : Command} {reply : Reply} {after : Session}
    (works : session.step command = (reply, after))
    (noError : ∀ error, reply ≠ .outcome (.error error))
    (unlogged : after.machine.store.errors = [])
    (faultless : ∀ error, ¬ session.Fault command error) : session.Succeeds command := by
  refine ⟨faultless, ?_, ?_⟩
  · rw [works]
    exact noError
  · rw [works]
    exact fun _ => unlogged

/-- Only a command whose interpreter is there has a reason to fail. -/
theorem Fault.present {command : Command} {error : RunError} (fault : session.Fault command error)
    (addressed : command.target? = some id) :
    ∃ interpreter, session.interpreters[id]? = some interpreter := by
  cases fault with
  | load present _ => cases addressed; exact ⟨_, present⟩
  | eval present _ => cases addressed; exact ⟨_, present⟩
  | run present _ => cases addressed; exact ⟨_, present⟩
  | dispatch present _ => cases addressed; exact ⟨_, present⟩

/-- Without its interpreter a command has no effect, and no reason to fail. -/
theorem Settled.succeeds_of_absent (settled : session.Settled) {command : Command}
    (addressed : command.target? = some id) (absent : session.interpreters[id]? = none) :
    session.Succeeds command := by
  refine .of_step (step_of_absent addressed absent) nofun settled.unlogged ?_
  intro error fault
  obtain ⟨interpreter, present⟩ := fault.present addressed
  cases absent.symm.trans present

theorem Settled.load (settled : session.Settled)
    (present : session.interpreters[id]? = some interpreter) (source : List Char) :
    (∃ error, session.FailsFor (.load id source) error) ∨ session.Succeeds (.load id source) := by
  have works : session.step (.load id source) = _ := withInterpreter_of_present present _
  rw [Interpreter.load] at works
  by_cases readable : (parse source).errors = []
  · rw [Interpreter.checked_of_noErrors readable] at works
    have unlogged := (Machine.errors_registerProgram session.machine (parse source).program).trans
      settled.unlogged
    refine .inr (.of_step works (Reply.ok_ne_error _) unlogged ?_)
    intro error fault
    cases fault with
    | load _ unreadable => exact unreadable readable
  · rw [Interpreter.checked_of_errors readable] at works
    exact .inl ⟨_, .load present readable, works⟩

theorem Settled.eval (settled : session.Settled)
    (present : session.interpreters[id]? = some interpreter) (source : List Char) :
    (∃ error, session.FailsFor (.eval id source) error) ∨ session.Succeeds (.eval id source) := by
  have positive := settled.limits interpreter (List.mem_of_getElem? present)
  have works : session.step (.eval id source) = _ := withInterpreter_of_present present _
  rw [Interpreter.eval] at works
  by_cases readable : (parse source).errors = []
  · obtain ⟨value, store, executed, kept⟩ := Machine.execute_served
      (settled.served.registerProgram (fun _ => rfl) (parse source).program) positive
      (parse source).program
    simp only [Interpreter.checked_of_noErrors readable, executed] at works
    have unlogged := (kept.trans (Machine.errors_registerProgram _ _)).trans settled.unlogged
    refine .inr (.of_step works (Reply.ok_ne_error _) unlogged ?_)
    intro error fault
    cases fault with
    | eval _ unreadable => exact unreadable readable
  · rw [Interpreter.checked_of_errors readable] at works
    exact .inl ⟨_, .eval present readable, works⟩

theorem Settled.run (settled : session.Settled)
    (present : session.interpreters[id]? = some interpreter) :
    (∃ error, session.FailsFor (.run id) error) ∨ session.Succeeds (.run id) := by
  have positive := settled.limits interpreter (List.mem_of_getElem? present)
  have works : session.step (.run id) = _ := withInterpreter_of_present present _
  rw [Interpreter.run] at works
  cases loaded : interpreter.program with
  | none =>
      rw [loaded] at works
      exact .inl ⟨_, .run present loaded, works⟩
  | some program =>
      obtain ⟨value, store, executed, kept⟩ :=
        Machine.execute_served settled.served positive program
      simp only [loaded, executed] at works
      refine .inr (.of_step works (Reply.ok_ne_error _) (kept.trans settled.unlogged) ?_)
      intro error fault
      cases fault with
      | run found unloaded =>
          cases present.symm.trans found
          cases loaded.symm.trans unloaded

theorem Settled.dispatch (settled : session.Settled)
    (present : session.interpreters[id]? = some interpreter) (call : Call) :
    (∃ error, session.FailsFor (.dispatch id call) error) ∨
      session.Succeeds (.dispatch id call) := by
  have positive := settled.limits interpreter (List.mem_of_getElem? present)
  have works : session.step (.dispatch id call) = _ := withInterpreter_of_present present _
  rw [Interpreter.dispatch] at works
  cases known : session.machine.handlers.contains call.handler with
  | false =>
      rw [Machine.call_of_absent positive _ known] at works
      exact .inl ⟨_, .dispatch present known, works⟩
  | true =>
      obtain ⟨value, store, called, kept⟩ :=
        Machine.call_of_present settled.served positive Machine.root known
      rw [called] at works
      refine .inr (.of_step works nofun (kept.trans settled.unlogged) ?_)
      intro error fault
      cases fault with
      | dispatch _ unregistered => cases known.symm.trans unregistered

end

/-! ## All commands -/

theorem Settled.fails_or_succeeds {session : Session} (settled : session.Settled)
    (command : Command) :
    (∃ error, session.FailsFor command error) ∨ session.Succeeds command := by
  rcases session.absent_or_present command with ⟨id, addressed, absent⟩ | there
  · exact .inr (settled.succeeds_of_absent addressed absent)
  cases command with
  | load id source =>
      obtain ⟨interpreter, present⟩ := there id rfl
      exact settled.load present source
  | loadProgram id program =>
      obtain ⟨interpreter, present⟩ := there id rfl
      have unlogged := (Machine.errors_registerProgram session.machine program).trans
        settled.unlogged
      exact .inr (.of_step (withInterpreter_of_present present _) nofun unlogged nofun)
  | run id =>
      obtain ⟨interpreter, present⟩ := there id rfl
      exact settled.run present
  | eval id source =>
      obtain ⟨interpreter, present⟩ := there id rfl
      exact settled.eval present source
  | dispatch id call =>
      obtain ⟨interpreter, present⟩ := there id rfl
      exact settled.dispatch present call
  | logError message => exact .inr ⟨nofun, nofun, nofun⟩
  | _ => exact .inr ⟨nofun, nofun, fun _ => settled.unlogged⟩

theorem limits_loaded {session : Session} {id : Nat} {interpreter : Interpreter}
    (limits : ∀ interpreter ∈ session.interpreters, 1 ≤ interpreter.limit)
    (present : session.interpreters[id]? = some interpreter) (program : Program) :
    ∀ other ∈ (session.loaded id (interpreter.loadProgram program session.machine)).interpreters,
      1 ≤ other.limit := by
  intro other member
  rcases List.mem_or_eq_of_mem_set member with old | new
  · exact limits other old
  · rw [new]
    exact limits interpreter (List.mem_of_getElem? present)

/-- New interpreters can make calls, and loading keeps the limit. -/
theorem limits_step {session : Session}
    (limits : ∀ interpreter ∈ session.interpreters, 1 ≤ interpreter.limit) {command : Command}
    (ordinary : command.Ordinary) :
    ∀ interpreter ∈ (session.step command).2.interpreters, 1 ≤ interpreter.limit := by
  cases starts : session.started? command with
  | some call =>
      rw [step_of_started starts]
      exact limits
  | none =>
      generalize after : (session.step command).2 = next
      have adjusted := after ▸ adjusted_step starts ordinary.inside
      cases adjusted with
      | spawned =>
          intro interpreter member
          rcases List.mem_append.mp member with old | new
          · exact limits interpreter old
          · cases List.mem_singleton.mp new
            exact ordinary
      | loaded present program => exact limits_loaded limits present program
      | _ => exact limits

theorem Settled.step {session : Session} (settled : session.Settled) {command : Command}
    (ordinary : command.Ordinary) : (session.step command).2.Settled where
  served := by
    obtain ⟨_, stepped⟩ := session.exists_stepped command
    exact stepped.served settled.served ordinary.inside
  limits := limits_step settled.limits ordinary
  unlogged := by
    rcases settled.fails_or_succeeds command with ⟨error, _, failed⟩ | succeeds
    · rw [failed]
      exact settled.unlogged
    · exact succeeds.unlogged ordinary

theorem Settled.after {session : Session} (settled : session.Settled) {commands : List Command}
    (ordinary : ∀ command ∈ commands, command.Ordinary) : (session.after commands).Settled := by
  induction commands generalizing session with
  | nil => exact settled
  | cons first rest ih =>
      obtain ⟨firstOrdinary, restOrdinary⟩ := List.forall_mem_cons.mp ordinary
      exact ih (settled.step firstOrdinary) restOrdinary

theorem settled_start {limit : Nat} (positive : 1 ≤ limit) : (Session.start limit).Settled where
  served := nofun
  unlogged := rfl
  limits := by
    intro interpreter member
    cases List.mem_singleton.mp member
    exact positive

/-- A command has at most one reason to fail. -/
theorem Fault.unique {session : Session} {command : Command} {error other : RunError}
    (fault : session.Fault command error) (again : session.Fault command other) :
    error = other := by
  cases fault <;> cases again <;> rfl

end Session

/-- After any commands that bring no handlers and no errors from outside, on any number of
interpreters that can all make calls, the error log is empty. The next command fails
exactly for the reasons of `Session.Fault`, with the error given there, and a command that
fails leaves the whole session as it was. -/
theorem step_fails_iff {limit : Nat} (positive : 1 ≤ limit) {commands : List Command}
    (ordinary : ∀ command ∈ commands, command.Ordinary) :
    ((Session.start limit).after commands).machine.store.errors = [] ∧
    ∀ (command : Command) (error : RunError),
      ((((Session.start limit).after commands).step command).1 = .outcome (.error error) ↔
        ((Session.start limit).after commands).Fault command error) ∧
      ((((Session.start limit).after commands).step command).1 = .outcome (.error error) →
        (((Session.start limit).after commands).step command).2 =
          (Session.start limit).after commands) := by
  have settled := (Session.settled_start positive).after ordinary
  generalize (Session.start limit).after commands = session at settled
  refine ⟨settled.unlogged, fun command error => ?_⟩
  rcases settled.fails_or_succeeds command with ⟨reason, fault, failed⟩ | succeeds
  · rw [failed]
    refine ⟨⟨?_, ?_⟩, fun _ => rfl⟩
    · rintro ⟨⟩
      exact fault
    · intro other
      rw [fault.unique other]
  · refine ⟨⟨?_, ?_⟩, ?_⟩
    · exact fun failed => (succeeds.noError error failed).elim
    · exact fun fault => (succeeds.faultless error fault).elim
    · exact fun failed => (succeeds.noError error failed).elim

/-- A program whose one block calls a capability that nobody registers. -/
def unansweredProgram : Program :=
  { Program.empty with
    blocks := [⟨"ask", [], [.capabilityBlock ⟨"missing", none, [], [], ⟨2, 1⟩⟩], none,
      ⟨1, 1⟩⟩] }

/-- Two interpreters, of which the first one has run a program. -/
def sharedCommands : List Command :=
  [.spawn 1, .loadProgram 0 unansweredProgram, .run 0, .remember "key" .null]

/-- The block passes the capability over, so the program runs. Calling the capability
from outside fails, and so does running the interpreter without a program. -/
theorem step_fails_iff_sharedCommands :
    let session := (Session.start 1).after sharedCommands
    session.machine.store.errors = [] ∧
      (session.step (.run 1)).1 = .outcome (.error .noProgram) ∧
      (session.step (.run 1)).2 = session ∧
      (session.step (.dispatch 0 (.withBody "missing" []))).1 =
        .outcome (.error (.handlerNotFound "missing")) ∧
      ∀ error, (session.step (.run 0)).1 ≠ .outcome (.error error) := by
  have ordinary : ∀ command ∈ sharedCommands, command.Ordinary := by
    intro command member
    simp only [sharedCommands, List.mem_cons, List.not_mem_nil, or_false] at member
    rcases member with rfl | rfl | rfl | rfl
    · exact Nat.le_refl 1
    all_goals trivial
  obtain ⟨unlogged, fails⟩ := step_fails_iff (Nat.le_refl 1) ordinary
  have unloaded := (fails (.run 1) .noProgram).1.mpr (.run rfl rfl)
  refine ⟨unlogged, unloaded, (fails _ _).2 unloaded,
    (fails _ _).1.mpr (.dispatch rfl rfl), ?_⟩
  intro error failed
  cases (fails _ _).1.mp failed with
  | run present unloaded =>
      cases present
      cases unloaded

end GlyphScript
