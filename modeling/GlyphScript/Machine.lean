import GlyphScript.Action
import GlyphScript.Scope

/-!
# The machine

The machine holds the variables, the registered handlers and the store, and
carries out calls. A call runs an action, which may call further handlers; how
deep such a chain can get is limited, so every call ends (`Machine.callWithin`).
-/

namespace GlyphScript

structure Machine where
  scopes : Forest
  handlers : Table Handler
  store : Store
  /-- What handlers have written to the output. -/
  output : String

namespace Machine

def empty : Machine :=
  ⟨.start, [], .empty, ""⟩

/-- The scope of the program's own variables. -/
def root : Nat := 0

def valueOf? (machine : Machine) (name : String) : Option Value :=
  machine.scopes.get? root name

def bind (machine : Machine) (name : String) (value : Value) : Machine :=
  { machine with scopes := machine.scopes.set root name value }

/-- Registers a handler; the last registration under a name wins. -/
def register (machine : Machine) (name : String) (handler : Handler) : Machine :=
  { machine with handlers := machine.handlers.insert name handler }

def registerVector (machine : Machine) (name : String) (params : Dict) : Machine :=
  { machine with
    store := { machine.store with vectors := machine.store.vectors.insert name params } }

def remember (machine : Machine) (key : String) (value : Value) : Machine :=
  { machine with store := machine.store.remember key value }

def logError (machine : Machine) (message : String) : Machine :=
  { machine with store := machine.store.logError message }

/-- An overview: the boot state, the error log, and the names of handlers and
variables. -/
def snapshot (machine : Machine) : Value :=
  .record [("booted", .bool machine.store.booted),
    ("boot_steps", .ofTexts machine.store.bootSteps),
    ("errors", .ofTexts machine.store.errors),
    ("handlers", .ofTexts machine.handlers.names),
    ("variables", .ofTexts (machine.scopes.names root))]

end Machine

/-! ## Steps of handlers -/

/-- The scope that is meant in a call from a scope. -/
def Site.scope (scope : Nat) : Site → Nat
  | call => scope
  | root => Machine.root

/-- Takes a step in a call from a scope. -/
def Primitive.run (scope : Nat) (machine : Machine) :
    (primitive : Primitive) → primitive.Answer × Machine
  | lookup site name => (machine.scopes.get? (site.scope scope) name, machine)
  | bind site name value =>
      ((), { machine with scopes := machine.scopes.set (site.scope scope) name value })
  | rebind site name value =>
      let (found, scopes) := machine.scopes.update (site.scope scope) name value
      (found, { machine with scopes := scopes })
  | unbind site name =>
      let (value, scopes) := machine.scopes.delete (site.scope scope) name
      (value, { machine with scopes := scopes })
  | names site => (machine.scopes.visibleNames (site.scope scope), machine)
  | bindings site => (machine.scopes.own (site.scope scope), machine)
  | access use =>
      let (value, store) := use machine.store
      (value, { machine with store := store })
  | print text => ((), { machine with output := machine.output ++ text })
  | handlers => (machine.handlers.mapEntries Handler.registration, machine)
  | unregister name =>
      (machine.handlers.contains name, { machine with handlers := machine.handlers.erase name })

namespace Machine

/-! ## Calls -/

/-- Carries out an action in a scope, given how to carry out the calls in it. -/
def perform (call : String → Dict → Machine → Outcome × Machine) (scope : Nat) :
    Action → Machine → Outcome × Machine
  | .finish outcome, machine => (outcome, machine)
  | .call handler body next, machine =>
      let (outcome, after) := call handler body machine
      perform call scope (next outcome) after
  | .use primitive next, machine =>
      let (answer, after) := primitive.run scope machine
      perform call scope (next answer) after
  | .register name registration executor next, machine =>
      perform call scope (next (machine.handlers.contains name))
        (machine.register name (registration.handler executor))
  | .adopt source name registration next, machine =>
      match machine.handlers.find? source with
      | none => perform call scope (next none) machine
      | some handler =>
          perform call scope (next (some (machine.handlers.contains name)))
            (machine.register name (registration.handler handler.executor))

/-- Calls a handler from a scope while some levels are left below the limit. With
none left the call fails, whether or not there is such a handler. -/
def callWithin (limit : Nat) :
    (left : Nat) → (scope : Nat) → Call → Machine → Outcome × Machine
  | 0, _, _, machine => (.error (.depthExceeded limit), machine)
  | left + 1, scope, call, machine =>
      match machine.handlers.find? call.handler with
      | none => (.error (.handlerNotFound call.handler), machine)
      | some handler =>
          let request : Request :=
            ⟨call.handler, call.params.getD handler.params, call.body, call.query, limit - left⟩
          perform
            (fun name body => callWithin limit left scope (.withBody name body))
            scope (handler.executor request) machine

/-- Calls a handler from outside of any handler. -/
def call (limit scope : Nat) (call : Call) (machine : Machine) : Outcome × Machine :=
  callWithin limit limit scope call machine

end Machine

end GlyphScript
