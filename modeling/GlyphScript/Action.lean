import GlyphScript.Builtin
import GlyphScript.Library
import GlyphScript.Program.Basic
import GlyphScript.RunError

/-!
# Actions of handlers

What a handler does with a request is a finite tree: each step asks something of
the machine, and the answer selects the steps after it. So a handler may call
other handlers as often as it likes, itself included, and go on whatever they
give. It may also read and change variables, the store and the registered
handlers. Handlers run only by being called, and keep nothing of their own from
one call to the next.
-/

namespace GlyphScript

/-- The scopes within reach of a handler: the one that it was called from, and the
outermost one. -/
inductive Site where
  | call
  | root

/-- What a handler is registered with, apart from what it does. -/
structure Registration where
  /-- The capability that it was registered for, if any. -/
  block : Option CapabilityBlock
  /-- The parameters that it was declared with. -/
  params : Dict

/-- A step that calls no handler and registers none. -/
inductive Primitive where
  /-- The value of a variable. -/
  | lookup (site : Site) (name : String)
  /-- Binds a variable in the scope itself. -/
  | bind (site : Site) (name : String) (value : Value)
  /-- Binds a variable anew where it is bound; says whether it was. -/
  | rebind (site : Site) (name : String) (value : Value)
  /-- Removes a variable from the scope itself; gives the value it had. -/
  | unbind (site : Site) (name : String)
  /-- The names of the variables. -/
  | names (site : Site)
  /-- What the scope itself binds. -/
  | bindings (site : Site)
  /-- Reads and changes the store. -/
  | access (use : Store → Value × Store)
  /-- Writes a text to the output. -/
  | print (text : String)
  /-- What the handlers are registered with. -/
  | handlers
  /-- Removes a handler; says whether there was one of that name. -/
  | unregister (name : String)

def Primitive.Answer : Primitive → Type
  | lookup _ _ => Option Value
  | bind _ _ _ => Unit
  | rebind _ _ _ => Bool
  | unbind _ _ => Option Value
  | names _ => List String
  | bindings _ => Dict
  | access _ => Value
  | print _ => Unit
  | handlers => Table Registration
  | unregister _ => Bool

inductive Action where
  /-- Ends with a value or an error. -/
  | finish (outcome : Outcome)
  /-- Calls a handler by name, with a body. -/
  | call (handler : String) (body : Dict) (next : Outcome → Action)
  | use (primitive : Primitive) (next : primitive.Answer → Action)
  /-- Registers a handler; says whether there was one of that name. -/
  | register (name : String) (registration : Registration) (executor : Request → Action)
      (next : Bool → Action)
  /-- Registers a handler that does what another one does. Without that other one
  nothing is registered. -/
  | adopt (source name : String) (registration : Registration) (next : Option Bool → Action)

/-- What a handler does with each request. -/
abbrev Executor := Request → Action

namespace Action

def give (value : Value) : Action :=
  finish (.ok value)

def fail (error : RunError) : Action :=
  finish (.error error)

/-- Ends with the answer of the store. -/
def answer (use : Store → Value × Store) : Action :=
  .use (.access use) give

/-- Calls a builtin and goes on with its value, if there is a builtin of that name. -/
def builtin (name : String) (args : List Value) (next : Option Value → Action) : Action :=
  match Builtin.call? name args with
  | some result => use (.print result.printed) fun _ => next (some result.value)
  | none => next none

end Action

/-- What a registered name stands for. -/
structure Handler where
  block : Option CapabilityBlock
  params : Dict
  executor : Executor

namespace Handler

def registration (handler : Handler) : Registration :=
  ⟨handler.block, handler.params⟩

def ofExecutor (executor : Executor) : Handler :=
  ⟨none, [], executor⟩

/-- A capability is served by the library. -/
def ofCapability (block : CapabilityBlock) : Handler :=
  ⟨some block, block.params, fun request => .answer (Library.serve block.handlerName request)⟩

end Handler

def Registration.handler (registration : Registration) (executor : Executor) : Handler :=
  ⟨registration.block, registration.params, executor⟩

end GlyphScript
