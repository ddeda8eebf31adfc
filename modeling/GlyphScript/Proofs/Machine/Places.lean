import GlyphScript.Proofs.Machine.KeptParts
import GlyphScript.Proofs.Program.Document

/-!
# Places that do not matter

A machine keeps the places of the capabilities that its handlers were registered for, and a
handler can read them. Two machines are alike if they differ in nothing but these places
(`Machine.Alike`), and a machine is blind if none of its handlers lets what it does depend on
them (`Machine.Blind`).

Results:
1. `Machine.perform_alike`, `Machine.callWithin_alike`: on machines that are alike, calls give
   the same and leave machines that are alike.
2. `Interpreter.runProgram_alike`: so do programs that are the same but for places.
3. `run_of_document`: so do programs of the same value, on a blind machine;
   `run_differs_of_document`: on other machines they need not.
4. `Machine.blind_of_uses`: machines are blind whose handlers do not look at what is
   registered.
-/

namespace GlyphScript

/-! ## Lists and tables with related entries -/

/-- Steps that keep states related, taken over lists that are the same but for what is
stripped off. -/
theorem foldl_related {σ α β : Type} {related : σ → σ → Prop} {step : σ → α → σ} {strip : α → β}
    (steps : ∀ {state other : σ} {x y : α}, related state other → strip x = strip y →
      related (step state x) (step other y))
    {xs ys : List α} (same : xs.map strip = ys.map strip) {state other : σ}
    (start : related state other) : related (xs.foldl step state) (ys.foldl step other) := by
  induction xs generalizing ys state other with
  | nil =>
      cases List.map_eq_nil_iff.mp same.symm
      exact start
  | cons x rest ih =>
      obtain ⟨y, more, rfl, sameFirst, sameRest⟩ := List.map_eq_cons_iff.mp same.symm
      exact ih sameRest.symm (steps start sameFirst.symm)

namespace Table

variable {α β : Type} {related : α → β → Prop} {left : Table α} {right : Table β}

/-- The tables have the same names, and related entries under them. -/
def Matched (related : α → β → Prop) (left : Table α) (right : Table β) : Prop :=
  List.Forall₂ (fun pair other => pair.1 = other.1 ∧ related pair.2 other.2) left right

namespace Matched

/-- A name stands in both tables or in none. -/
theorem find? (matched : Matched related left right) (name : String) :
    left.find? name = none ∧ right.find? name = none ∨
      ∃ entry other, left.find? name = some entry ∧ right.find? name = some other ∧
        related entry other := by
  induction matched with
  | nil => exact .inl ⟨rfl, rfl⟩
  | @cons pair other _ _ both _ ih =>
      rw [Table.find?, Table.find?, both.1]
      split
      · exact .inr ⟨pair.2, other.2, rfl, rfl, both.2⟩
      · exact ih

theorem contains (matched : Matched related left right) (name : String) :
    left.contains name = right.contains name := by
  rw [Table.contains, Table.contains]
  rcases matched.find? name with ⟨absent, missing⟩ | ⟨entry, other, found, present, _⟩
  · rw [absent, missing]
    rfl
  · rw [found, present]
    rfl

theorem insert (matched : Matched related left right) (name : String) {entry : α} {other : β}
    (entries : related entry other) :
    Matched related (left.insert name entry) (right.insert name other) := by
  induction matched with
  | nil => exact .cons ⟨rfl, entries⟩ .nil
  | @cons pair next _ _ both rest ih =>
      rw [Table.insert, Table.insert, both.1]
      split
      · exact .cons ⟨rfl, entries⟩ (.cons ⟨rfl, both.2⟩ rest)
      · split
        · exact .cons ⟨rfl, entries⟩ rest
        · exact .cons ⟨rfl, both.2⟩ ih

theorem erase (matched : Matched related left right) (name : String) :
    Matched related (left.erase name) (right.erase name) := by
  induction matched with
  | nil => exact .nil
  | @cons pair other _ _ both _ ih =>
      rw [Table.erase, Table.erase, List.filter_cons, List.filter_cons, both.1]
      split
      · exact .cons both ih
      · exact ih

theorem mapEntries {γ : Type} {f : α → γ} {g : β → γ} (matched : Matched related left right)
    (same : ∀ {x y}, related x y → f x = g y) : left.mapEntries f = right.mapEntries g := by
  induction matched with
  | nil => rfl
  | @cons pair other _ _ both _ ih =>
      rw [Table.mapEntries, List.map_cons, both.1, same both.2]
      exact congrArg _ ih

theorem names (matched : Matched related left right) : left.names = right.names := by
  have unnamed := matched.mapEntries (f := fun _ => ()) (g := fun _ => ()) fun _ => rfl
  rw [← names_mapEntries (fun _ => ()) left, unnamed, names_mapEntries]

end Matched

theorem map_entries_of_mapEntries {f : α → β} {table other : Table α}
    (same : table.mapEntries f = other.mapEntries f) :
    table.entries.map f = other.entries.map f := by
  rw [← entries_mapEntries, same, entries_mapEntries]

end Table

/-! ## Machines that are alike -/

def Registration.bare (registration : Registration) : Registration :=
  { registration with block := registration.block.map CapabilityBlock.bare }

/-- The answers tell the same but for places. -/
def Primitive.SameAnswer : (primitive : Primitive) → primitive.Answer → primitive.Answer → Prop
  | .handlers, answer, other =>
      Table.mapEntries Registration.bare answer = Table.mapEntries Registration.bare other
  | _, answer, other => answer = other

/-- The actions take the same steps, whichever places they are told. What they register may
differ in places, and in handlers that are alike in turn. -/
inductive Action.Alike : Action → Action → Prop
  | finish (outcome : Outcome) : Alike (.finish outcome) (.finish outcome)
  | call (handler : String) (body : Dict) {left right : Outcome → Action}
      (next : ∀ outcome, Alike (left outcome) (right outcome)) :
      Alike (.call handler body left) (.call handler body right)
  | use (primitive : Primitive) {left right : primitive.Answer → Action}
      (next : ∀ answer other, primitive.SameAnswer answer other →
        Alike (left answer) (right other)) :
      Alike (.use primitive left) (.use primitive right)
  | register (name : String) {registration other : Registration}
      {leftExecutor rightExecutor : Request → Action} {left right : Bool → Action}
      (same : registration.bare = other.bare)
      (executors : ∀ request, Alike (leftExecutor request) (rightExecutor request))
      (next : ∀ known, Alike (left known) (right known)) :
      Alike (.register name registration leftExecutor left)
        (.register name other rightExecutor right)
  | adopt (source name : String) {registration other : Registration}
      {left right : Option Bool → Action} (same : registration.bare = other.bare)
      (next : ∀ known, Alike (left known) (right known)) :
      Alike (.adopt source name registration left) (.adopt source name other right)

/-- An action that does not look at what is registered is told no places. -/
theorem Action.alike_self {action : Action} (uses : action.Uses (· ≠ .handlers)) :
    action.Alike action := by
  induction action with
  | finish outcome => exact .finish outcome
  | call handler body _ ih => exact .call handler body fun outcome => ih outcome (uses outcome)
  | use primitive _ ih =>
      refine .use primitive fun answer other same => ?_
      have told : answer = other := by
        cases primitive with
        | handlers => exact absurd rfl uses.1
        | _ => exact same
      subst told
      exact ih answer (uses.2 answer)
  | register name _ _ _ executor ih =>
      exact .register name rfl (fun request => executor request (uses.1 request))
        fun known => ih known (uses.2 known)
  | adopt source name _ _ ih => exact .adopt source name rfl fun known => ih known (uses known)

structure Handler.Alike (left right : Handler) : Prop where
  registration : left.registration.bare = right.registration.bare
  executor : ∀ request, (left.executor request).Alike (right.executor request)

theorem Handler.Alike.params {left right : Handler} (alike : left.Alike right) :
    left.params = right.params :=
  congrArg Registration.params alike.registration

namespace Machine

/-- The machines differ in nothing but places. -/
structure Alike (left right : Machine) : Prop where
  scopes : left.scopes = right.scopes
  handlers : left.handlers.Matched Handler.Alike right.handlers
  store : left.store = right.store
  output : left.output = right.output

/-- No handler lets what it does depend on places, nor does a handler that one of them
registers. -/
def Blind (machine : Machine) : Prop :=
  machine.Alike machine

theorem blind_of_uses {machine : Machine} (uses : ∀ pair ∈ machine.handlers, ∀ request,
    (pair.2.executor request).Uses (· ≠ .handlers)) : machine.Blind where
  scopes := rfl
  handlers := List.forall₂_same.mpr fun pair member =>
    ⟨rfl, rfl, fun request => Action.alike_self (uses pair member request)⟩
  store := rfl
  output := rfl

/-- The same is given, and the machines that are left are alike. -/
def SameResult {α : Type} (left right : α × Machine) : Prop :=
  left.1 = right.1 ∧ left.2.Alike right.2

theorem SameResult.split {α : Type} {left right : α × Machine} (same : SameResult left right) :
    ∃ given after other, left = (given, after) ∧ right = (given, other) ∧ after.Alike other :=
  ⟨left.1, left.2, right.2, rfl, by rw [same.1], same.2⟩

end Machine

/-! ## Calls -/

theorem Primitive.run_alike (primitive : Primitive) (scope : Nat) {left right : Machine}
    (alike : left.Alike right) :
    primitive.SameAnswer (primitive.run scope left).1 (primitive.run scope right).1 ∧
      (primitive.run scope left).2.Alike (primitive.run scope right).2 := by
  obtain ⟨scopes, handlers, store, output⟩ := left
  obtain ⟨_, others, _, _⟩ := right
  obtain ⟨rfl, matched, rfl, rfl⟩ := alike
  cases primitive with
  | handlers =>
      refine ⟨?_, rfl, matched, rfl, rfl⟩
      have told := matched.mapEntries Handler.Alike.registration
      simp only [SameAnswer, run, Table.mapEntries, List.map_map]
      exact told
  | unregister name => exact ⟨matched.contains name, rfl, matched.erase name, rfl, rfl⟩
  | _ => exact ⟨rfl, rfl, matched, rfl, rfl⟩

namespace Machine

variable {left right : Machine}

theorem Alike.register (alike : left.Alike right) (name : String) {handler other : Handler}
    (handlers : handler.Alike other) :
    (left.register name handler).Alike (right.register name other) :=
  ⟨alike.scopes, alike.handlers.insert name handlers, alike.store, alike.output⟩

/-- Actions that are alike do the same on machines that are alike, if calls do. -/
theorem perform_alike {call : String → Dict → Machine → Outcome × Machine}
    (calls : ∀ handler body {left right : Machine}, left.Alike right →
      SameResult (call handler body left) (call handler body right))
    (scope : Nat) {action other : Action} (actions : action.Alike other)
    (alike : left.Alike right) :
    SameResult (perform call scope action left) (perform call scope other right) := by
  induction actions generalizing left right with
  | finish outcome => exact ⟨rfl, alike⟩
  | call handler body _ ih =>
      obtain ⟨same, after⟩ := calls handler body alike
      rw [perform, perform]
      simp only [same]
      exact ih _ after
  | use primitive _ ih =>
      obtain ⟨same, after⟩ := primitive.run_alike scope alike
      exact ih _ _ same after
  | register name same executors _ _ ih =>
      rw [perform, perform, alike.handlers.contains name]
      exact ih _ (alike.register name ⟨same, executors⟩)
  | adopt source name same _ ih =>
      rw [perform, perform]
      rcases alike.handlers.find? source with ⟨absent, missing⟩ | ⟨_, _, found, present, handlers⟩
      · rw [absent, missing]
        exact ih _ alike
      · rw [found, present]
        simp only [alike.handlers.contains name]
        exact ih _ (alike.register name ⟨same, handlers.executor⟩)

/-- By induction on the levels that are left: handlers that are found under a name are alike,
and their calls have a level less. -/
theorem callWithin_alike (limit levels scope : Nat) (call : Call) (alike : left.Alike right) :
    SameResult (callWithin limit levels scope call left)
      (callWithin limit levels scope call right) := by
  induction levels generalizing call left right with
  | zero => exact ⟨rfl, alike⟩
  | succ levels ih =>
      rw [callWithin, callWithin]
      rcases alike.handlers.find? call.handler with
        ⟨absent, missing⟩ | ⟨_, _, found, present, handlers⟩
      · rw [absent, missing]
        exact ⟨rfl, alike⟩
      · rw [found, present]
        simp only [handlers.params]
        exact perform_alike (fun name body _ _ later => ih (.withBody name body) later) scope
          (handlers.executor _) alike

theorem call_alike (limit scope : Nat) (call : Call) (alike : left.Alike right) :
    SameResult (left.call limit scope call) (right.call limit scope call) :=
  callWithin_alike limit limit scope call alike

end Machine

/-! ## Constructs without places -/

theorem CapabilityBlock.handlerName_of_bare {block other : CapabilityBlock}
    (same : block.bare = other.bare) : block.handlerName = other.handlerName := by
  have names : block.bare.handlerName = other.bare.handlerName := by rw [same]
  exact names

theorem Construct.capabilities_bares (body : List Construct) :
    (Construct.bares body).filterMap Construct.capability? =
      (body.filterMap Construct.capability?).map CapabilityBlock.bare := by
  induction body with
  | nil => rfl
  | cons construct rest ih =>
      rw [Construct.bares]
      cases construct with
      | capabilityBlock block => exact congrArg _ ih
      | _ => exact ih

namespace Block

variable (block : Block)

theorem capabilities_bare :
    block.bare.capabilities = block.capabilities.map CapabilityBlock.bare := by
  cases block
  exact Construct.capabilities_bares _

theorem name_bare : block.bare.name = block.name := by
  cases block
  rfl

theorem params_bare : block.bare.params = block.params := by
  cases block
  rfl

theorem emit_bare : block.bare.emit = some (block.emit.getD .null) := by
  cases block
  rfl

end Block

namespace Machine

variable {left right : Machine}

/-! ## Execution -/

theorem callNested_alike (limit scope : Nat) {blocks others : List CapabilityBlock}
    (same : blocks.map CapabilityBlock.bare = others.map CapabilityBlock.bare)
    (last : Option Value) (alike : left.Alike right) :
    SameResult (callNested limit scope blocks last left)
      (callNested limit scope others last right) := by
  induction blocks generalizing others last left right with
  | nil =>
      cases List.map_eq_nil_iff.mp same.symm
      exact ⟨rfl, alike⟩
  | cons block rest ih =>
      obtain ⟨other, more, rfl, sameFirst, sameRest⟩ := List.map_eq_cons_iff.mp same.symm
      obtain ⟨-, -, sameParams, -⟩ := CapabilityBlock.mk.inj sameFirst
      have called := call_alike limit scope ⟨block.handlerName,
        some (block.params.mapEntries (resolve left.scopes scope)), [], []⟩ alike
      rw [callNested, callNested, CapabilityBlock.handlerName_of_bare sameFirst, sameParams,
        ← alike.scopes, ← alike.handlers.contains]
      split
      · obtain ⟨outcome, after, later, ran, again, stillAlike⟩ := called.split
        simp only [ran, again]
        cases outcome with
        | ok value => exact ih sameRest.symm (some value) stillAlike
        | error error => exact ⟨rfl, stillAlike⟩
      · exact ih sameRest.symm last alike

theorem enter_alike {block other : Block} (same : block.bare = other.bare)
    (alike : left.Alike right) : SameResult (block.enter left) (other.enter right) := by
  have sameParams : other.params = block.params := by
    rw [← other.params_bare, ← same, block.params_bare]
  rw [Block.enter, Block.enter, sameParams, ← alike.scopes]
  exact ⟨rfl, rfl, alike.handlers, alike.store, alike.output⟩

theorem leave_alike {block other : Block} (same : block.bare = other.bare) (scope : Nat)
    {inside within : Except RunError (Option Value) × Machine}
    (results : SameResult inside within) :
    SameResult (block.leave scope inside) (other.leave scope within) := by
  have sameEmit : some (block.emit.getD .null) = some (other.emit.getD .null) := by
    rw [← block.emit_bare, same, other.emit_bare]
  obtain ⟨last, after, later, rfl, rfl, alike⟩ := results.split
  refine ⟨?_, congrArg (Forest.close · scope) alike.scopes, alike.handlers, alike.store,
    alike.output⟩
  cases last with
  | error error => rfl
  | ok value =>
      have emitted : (value.or block.emit).getD .null = (value.or other.emit).getD .null := by
        rw [Option.getD_or, Option.getD_or, Option.some.inj sameEmit]
      exact congrArg Except.ok emitted

theorem runBlock_alike (limit : Nat) {block other : Block} (same : block.bare = other.bare)
    (alike : left.Alike right) :
    SameResult (left.runBlock limit block) (right.runBlock limit other) := by
  have sameNested : block.capabilities.map CapabilityBlock.bare =
      other.capabilities.map CapabilityBlock.bare := by
    rw [← block.capabilities_bare, same, other.capabilities_bare]
  obtain ⟨sameScope, entered⟩ := enter_alike same alike
  rw [runBlock_eq, runBlock_eq, ← sameScope]
  exact leave_alike same _ (callNested_alike limit _ sameNested none entered)

theorem Alike.logError (alike : left.Alike right) (message : String) :
    (left.logError message).Alike (right.logError message) :=
  ⟨alike.scopes, alike.handlers, congrArg (·.logError message) alike.store, alike.output⟩

theorem runBlocks_alike (limit : Nat) {blocks others : List Block}
    (same : blocks.map Block.bare = others.map Block.bare) (last : Option Value)
    (alike : left.Alike right) :
    SameResult (runBlocks limit blocks last left) (runBlocks limit others last right) := by
  induction blocks generalizing others last left right with
  | nil =>
      cases List.map_eq_nil_iff.mp same.symm
      exact ⟨rfl, alike⟩
  | cons block rest ih =>
      obtain ⟨other, more, rfl, sameFirst, sameRest⟩ := List.map_eq_cons_iff.mp same.symm
      have sameName : other.name = block.name := by
        rw [← other.name_bare, sameFirst, block.name_bare]
      have ran := runBlock_alike limit sameFirst.symm alike
      obtain ⟨outcome, after, later, ran, again, stillAlike⟩ := ran.split
      rw [runBlocks, runBlocks, sameName, ran, again]
      cases outcome with
      | ok value => exact ih sameRest.symm (some value) stillAlike
      | error error => exact ⟨rfl, stillAlike.logError _⟩

theorem Alike.bind (alike : left.Alike right) (name : String) (value : Value) :
    (left.bind name value).Alike (right.bind name value) :=
  ⟨congrArg (·.set root name value) alike.scopes, alike.handlers, alike.store, alike.output⟩

theorem execute_alike (limit : Nat) {program other : Program} (same : program.bare = other.bare)
    (alike : left.Alike right) :
    SameResult (left.execute limit program) (right.execute limit other) := by
  have declared : (program.declarations.foldl declare left).Alike
      (other.declarations.foldl declare right) := by
    refine foldl_related ?_ (congrArg Program.declarations same) alike
    intro _ _ x y related sameBinding
    obtain ⟨sameName, sameValue, -⟩ := Binding.mk.inj sameBinding
    rw [declare, declare, sameName, sameValue]
    exact related.bind y.name y.value
  have assigned : SameResult
      (program.assignments.foldl assign (none, program.declarations.foldl declare left))
      (other.assignments.foldl assign (none, other.declarations.foldl declare right)) := by
    refine foldl_related ?_ (congrArg Program.assignments same) ⟨rfl, declared⟩
    intro state otherState x y related sameBinding
    obtain ⟨sameName, sameValue, -⟩ := Binding.mk.inj sameBinding
    rw [assign, assign, sameName, sameValue, related.2.scopes]
    exact ⟨rfl, related.2.bind y.name _⟩
  rw [execute, execute]
  obtain ⟨last, after, later, ran, again, stillAlike⟩ := assigned.split
  simp only [ran, again]
  exact runBlocks_alike limit (congrArg Program.blocks same) last stillAlike

/-! ## Registration -/

theorem Alike.registerCapability (alike : left.Alike right) {block other : CapabilityBlock}
    (same : block.bare = other.bare) :
    (left.registerCapability block).Alike (right.registerCapability other) := by
  obtain ⟨-, -, sameParams, -⟩ := CapabilityBlock.mk.inj same
  have sameName := CapabilityBlock.handlerName_of_bare same
  have handlers : (Handler.ofCapability block).Alike (.ofCapability other) := by
    constructor
    · simp only [Handler.ofCapability, Handler.registration, Registration.bare, Option.map_some,
        same, sameParams]
    · intro request
      simp only [Handler.ofCapability, sameName]
      exact Action.alike_self ⟨nofun, fun _ => trivial⟩
  rw [Machine.registerCapability, Machine.registerCapability, sameName]
  exact alike.register other.handlerName handlers

theorem Alike.bindVariable (alike : left.Alike right) {var other : CapabilityVariable}
    (same : var.bare = other.bare) :
    (left.bind var.name var.default).Alike (right.bind other.name other.default) := by
  obtain ⟨sameName, sameDefault, -⟩ := CapabilityVariable.mk.inj same
  rw [sameName, sameDefault]
  exact alike.bind other.name other.default

theorem Alike.registerVector (alike : left.Alike right) {vector other : CapabilityVector}
    (same : vector.bare = other.bare) :
    (left.registerVector vector.name vector.params).Alike
      (right.registerVector other.name other.params) := by
  obtain ⟨sameName, sameParams, -⟩ := CapabilityVector.mk.inj same
  rw [Machine.registerVector, Machine.registerVector, sameName, sameParams, alike.store]
  exact ⟨alike.scopes, alike.handlers, rfl, alike.output⟩

theorem registerProgram_alike {program other : Program} (same : program.bare = other.bare)
    (alike : left.Alike right) :
    (left.registerProgram program).Alike (right.registerProgram other) := by
  have sameManifest : program.bare.manifest = other.bare.manifest := by rw [same]
  rw [registerProgram, registerProgram, show program.manifest = other.manifest from sameManifest]
  refine foldl_related (fun alike same => alike.registerVector same)
    (Table.map_entries_of_mapEntries (congrArg Program.capabilityVectors same)) ?_
  refine foldl_related (fun alike same => alike.bindVariable same)
    (Table.map_entries_of_mapEntries (congrArg Program.capabilityVariables same)) ?_
  refine foldl_related (fun alike same => alike.registerCapability same)
    (Table.map_entries_of_mapEntries (congrArg Program.capabilityBlocks same)) ?_
  cases other.manifest with
  | none => exact alike
  | some manifest =>
      exact ⟨alike.scopes, alike.handlers,
        congrArg (fun store => { store with manifest := manifest.raw }) alike.store, alike.output⟩

theorem Alike.snapshot (alike : left.Alike right) : left.snapshot = right.snapshot := by
  rw [Machine.snapshot, Machine.snapshot, alike.store, alike.handlers.names, alike.scopes]

end Machine

namespace Interpreter

/-- Loads a program and runs it. -/
def runProgram (interpreter : Interpreter) (program : Program) (machine : Machine) :
    Outcome × Machine :=
  let (loaded, registered) := interpreter.loadProgram program machine
  loaded.run registered

theorem runProgram_alike (interpreter : Interpreter) {program other : Program}
    (same : program.bare = other.bare) {left right : Machine} (alike : left.Alike right) :
    Machine.SameResult (interpreter.runProgram program left)
      (interpreter.runProgram other right) := by
  have registered := Machine.registerProgram_alike same alike
  have executed := Machine.execute_alike interpreter.limit same registered
  simp only [runProgram, loadProgram, run]
  obtain ⟨last, after, later, ran, again, stillAlike⟩ := executed.split
  simp only [ran, again, stillAlike.snapshot]
  exact ⟨rfl, stillAlike⟩

end Interpreter

/-! ## Programs of the same value -/

/-- Parsed programs of the same value are the same program but for places and for
nulls that a block does not emit, if their numbers are such that JSON can hold them.
On a machine with no handler that lets what it does depend on places, loading and
running one or the other gives the same outcome, and machines that are alike. -/
theorem run_of_document {left right : List Token}
    (leftPortable : Portable (parseTokens left).program.numbers)
    (rightPortable : Portable (parseTokens right).program.numbers)
    (same : (parseTokens left).program.document = (parseTokens right).program.document) :
    (parseTokens left).program.bare = (parseTokens right).program.bare ∧
    ∀ (interpreter : Interpreter) (machine : Machine), machine.Blind →
      Machine.SameResult (interpreter.runProgram (parseTokens left).program machine)
        (interpreter.runProgram (parseTokens right).program machine) := by
  have determined := Program.bare_of_document (manifest_parseTokens left)
    (manifest_parseTokens right) leftPortable rightPortable same
  exact ⟨determined, fun interpreter _ blind => interpreter.runProgram_alike determined blind⟩

/-- A capability, and a block with a number for a parameter and another capability inside,
from some line on. -/
def waitingBlock (line : Nat) (seconds : Float) : List Token :=
  [⟨.capability .block, "C@@L BLOCK echo", some (.text "echo"), ⟨line, 1⟩⟩,
    ⟨.glyph .xul, "⟁Xul⟁", none, ⟨line + 1, 1⟩⟩, ⟨.identifier, "wait", none, ⟨line + 1, 7⟩⟩,
    ⟨.atom, "@seconds", none, ⟨line + 1, 12⟩⟩, ⟨.operator .colon, ":", none, ⟨line + 1, 20⟩⟩,
    ⟨.number, "0.5", some (.number seconds), ⟨line + 1, 22⟩⟩,
    ⟨.capability .block, "C@@L BLOCK find", some (.text "find"), ⟨line + 2, 1⟩⟩]

def nullReturn : List Token :=
  [⟨.glyph .chen, "⟁Ch'en⟁", none, ⟨10, 1⟩⟩, ⟨.keyword .nullWord, "null", none, ⟨10, 9⟩⟩]

/-- The program of a capability and a block that waits. -/
def waitingProgram (line : Nat) (seconds : Float) (emit : Option Value) : Program :=
  { Program.empty with
    blocks := [⟨"wait", [("seconds", .number seconds)],
      [.capabilityBlock ⟨"find", none, [], [], ⟨line + 2, 1⟩⟩], emit, ⟨line + 1, 1⟩⟩]
    capabilityBlocks := [("echo", ⟨"echo", none, [], [], ⟨line, 1⟩⟩)] }

theorem parseTokens_waitingBlock (seconds : Float) :
    (parseTokens (waitingBlock 1 seconds)).program = waitingProgram 1 seconds none ∧
    (parseTokens (waitingBlock 7 seconds ++ nullReturn)).program =
      waitingProgram 7 seconds (some .null) := by
  constructor <;> cbv

theorem portable_waitingProgram (line : Nat) {emit : Option Value}
    (silent : emit.getD .null = .null) : Portable (waitingProgram line 0.5 emit).numbers := by
  have only : (waitingProgram line 0.5 emit).numbers = [0.5] := by
    simp [waitingProgram, Program.numbers, Program.empty, Block.numbers, silent, Value.numbers,
      Value.numbersOfEntries, Construct.numbersOfBody, Construct.numbers, CapabilityBlock.numbers,
      Value.numbersOfItems]
  rw [only]
  intro x member
  cases List.mem_singleton.mp member
  exact ⟨by decide, by decide⟩

/-- The library serves `find`. -/
def Machine.serving : Machine :=
  Machine.empty.registerCapability ⟨"find", none, [], [], ⟨1, 1⟩⟩

theorem Machine.serving_blind : Machine.serving.Blind := by
  refine blind_of_uses fun pair member request => ?_
  cases List.mem_singleton.mp member
  exact ⟨nofun, fun _ => trivial⟩

theorem run_of_document_waitingBlock :
    (parseTokens (waitingBlock 1 0.5)).program.bare =
      (parseTokens (waitingBlock 7 0.5 ++ nullReturn)).program.bare ∧
    Machine.serving.Blind ∧
    ∀ interpreter : Interpreter, Machine.SameResult
      (interpreter.runProgram (parseTokens (waitingBlock 1 0.5)).program .serving)
      (interpreter.runProgram (parseTokens (waitingBlock 7 0.5 ++ nullReturn)).program
        .serving) := by
  obtain ⟨silent, emitting⟩ := parseTokens_waitingBlock 0.5
  have determined := @run_of_document (waitingBlock 1 0.5) (waitingBlock 7 0.5 ++ nullReturn)
    (by rw [silent]; exact portable_waitingProgram 1 rfl)
    (by rw [emitting]; exact portable_waitingProgram 7 rfl)
    (by rw [silent, emitting]; rfl)
  exact ⟨determined.1, Machine.serving_blind,
    fun interpreter => determined.2 interpreter .serving Machine.serving_blind⟩

/-- Fails unless `echo` was registered for a capability on the first line. -/
def Action.finding : Action :=
  .use .handlers fun registered : Table Registration =>
    match (registered.find? "echo").bind Registration.block with
    | some block =>
        if block.location.line = 1 then .give .null
        else .fail (.handlerFailed "find" "echo has moved")
    | none => .give .null

/-- The handler `find` reads a place. -/
def Machine.finding : Machine :=
  Machine.empty.register "find" (.ofExecutor fun _ => .finding)

/-- The place that is kept with the handler `echo`. -/
def Machine.echoPlace? (machine : Machine) : Option Location :=
  ((machine.handlers.find? "echo").bind Handler.block).map CapabilityBlock.location

/-- A source with an error in it, and nothing else. -/
def namelessSource : List Char :=
  "⟁Pop⟁".toList

set_option maxRecDepth 4000 in
theorem parse_namelessSource :
    (parse []).program = .empty ∧ (parse namelessSource).program = .empty := by
  constructor <;> cbv

/-- Two programs of the same value keep different places, and with a handler that reads them
one fails and the other does not. And of two sources whose programs have the same value, one
cannot be loaded, since there is an error in it. -/
theorem run_differs_of_document :
    ((parseTokens (waitingBlock 1 0.5)).program.document =
        (parseTokens (waitingBlock 7 0.5 ++ nullReturn)).program.document ∧
      Portable (parseTokens (waitingBlock 1 0.5)).program.numbers ∧
      Portable (parseTokens (waitingBlock 7 0.5 ++ nullReturn)).program.numbers ∧
      ((Interpreter.new 1).runProgram (parseTokens (waitingBlock 1 0.5)).program
        .empty).2.echoPlace? = some ⟨1, 1⟩ ∧
      ((Interpreter.new 1).runProgram (parseTokens (waitingBlock 7 0.5 ++ nullReturn)).program
        .empty).2.echoPlace? = some ⟨7, 1⟩ ∧
      (∃ overview, ((Interpreter.new 1).runProgram (parseTokens (waitingBlock 1 0.5)).program
        .finding).1 = .ok overview) ∧
      ((Interpreter.new 1).runProgram (parseTokens (waitingBlock 7 0.5 ++ nullReturn)).program
        .finding).1 = .error (.handlerFailed "find" "echo has moved")) ∧
    (parse []).program.document = (parse namelessSource).program.document ∧
      (parse []).program.numbers = [] ∧ (parse namelessSource).program.numbers = [] ∧
      (∃ loaded, (Interpreter.new 1).load [] .empty = .ok loaded) ∧
      ∃ errors, (Interpreter.new 1).load namelessSource .empty = .error (.parse errors) := by
  obtain ⟨silent, emitting⟩ := parseTokens_waitingBlock 0.5
  obtain ⟨nothing, nameless⟩ := parse_namelessSource
  have noErrors : (parse []).errors = [] := by decide +kernel
  have errors : (parse namelessSource).errors ≠ [] := by decide +kernel
  rw [silent, emitting, nothing, nameless]
  refine ⟨⟨rfl, portable_waitingProgram 1 rfl, portable_waitingProgram 7 rfl, rfl, rfl, ⟨_, rfl⟩,
    rfl⟩, rfl, rfl, rfl, ?_, ?_⟩
  · rw [Interpreter.load, Interpreter.checked_of_noErrors noErrors]
    exact ⟨_, rfl⟩
  · rw [Interpreter.load, Interpreter.checked_of_errors errors]
    exact ⟨_, rfl⟩

end GlyphScript
