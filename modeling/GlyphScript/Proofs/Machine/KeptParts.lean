import GlyphScript.Proofs.Library.Effects
import GlyphScript.Proofs.Machine.Registration

/-!
# What calls leave alone

Handlers may call each other and register further handlers. If the handlers of a machine and
those that they register take only steps of some kind, then what such steps leave alone is
left alone by every call.

Results:
1. `Called.onward`, `Performed.onward`, `NestedCalled.onward`: what holds between a machine
   and each later one, for calls and actions at any depth.
2. `NestedCalled.unaltered`, `BlocksRun.unaltered`: a part of the store that no handler
   changes is unaltered after a run.
3. `Machine.Keeps.registerProgram`: the handlers of a program leave the error log alone.
-/

namespace GlyphScript

variable {allowed : Primitive → Prop} {related : Machine → Machine → Prop}

/-- The action takes only allowed steps, and so do the handlers that it registers. -/
def Action.Uses (allowed : Primitive → Prop) : Action → Prop
  | .finish _ => True
  | .call _ _ next => ∀ outcome, (next outcome).Uses allowed
  | .use primitive next => allowed primitive ∧ ∀ answer, (next answer).Uses allowed
  | .register _ _ executor next =>
      (∀ request, (executor request).Uses allowed) ∧ ∀ known, (next known).Uses allowed
  | .adopt _ _ _ next => ∀ known, (next known).Uses allowed

/-- Handlers can do nothing but take steps. -/
theorem Action.uses_any (action : Action) : action.Uses fun _ => True := by
  induction action with
  | finish => trivial
  | call _ _ _ ih => exact ih
  | use _ _ ih => exact ⟨trivial, ih⟩
  | register _ _ _ _ executor ih => exact ⟨executor, ih⟩
  | adopt _ _ _ _ ih => exact ih

namespace Machine

/-- All handlers of the machine take only allowed steps. -/
def Uses (allowed : Primitive → Prop) (machine : Machine) : Prop :=
  ∀ name handler, machine.handlers.find? name = some handler →
    ∀ request, (handler.executor request).Uses allowed

theorem uses_any (machine : Machine) : machine.Uses fun _ => True :=
  fun _ handler _ request => (handler.executor request).uses_any

theorem Uses.of_handlers {machine other : Machine} (uses : machine.Uses allowed)
    (same : other.handlers = machine.handlers) : other.Uses allowed := by
  unfold Uses
  rw [same]
  exact uses

theorem Uses.register {machine : Machine} (uses : machine.Uses allowed) (name : String)
    {handler : Handler} (used : ∀ request, (handler.executor request).Uses allowed) :
    (machine.register name handler).Uses allowed := by
  intro wanted found isFound
  rw [Machine.register, Table.find?_insert] at isFound
  split at isFound
  · cases isFound
    exact used
  · exact uses wanted found isFound

/-- No step that calls nothing brings in a handler. -/
theorem Uses.run {machine : Machine} (uses : machine.Uses allowed) (scope : Nat)
    (primitive : Primitive) : (primitive.run scope machine).2.Uses allowed := by
  cases primitive with
  | unregister name =>
      intro wanted found isFound
      have kept := Table.find?_erase machine.handlers name wanted
      rw [show (Table.erase machine.handlers name).find? wanted = some found from isFound] at kept
      split at kept
      · cases kept
      · exact uses wanted found kept.symm
  | _ => exact uses

/-- One machine follows on another: they are related, and the later one still has only
handlers that take allowed steps. -/
structure Onward (allowed : Primitive → Prop) (related : Machine → Machine → Prop)
    (before after : Machine) : Prop where
  uses : after.Uses allowed
  related : related before after

end Machine

/-- A relation that each allowed step and each registration takes forward. -/
structure Lasting (allowed : Primitive → Prop) (related : Machine → Machine → Prop) : Prop where
  refl (machine : Machine) : related machine machine
  trans {first second third : Machine} :
    related first second → related second third → related first third
  run {primitive : Primitive} (use : allowed primitive) (scope : Nat) (machine : Machine) :
    related machine (primitive.run scope machine).2
  register (machine : Machine) (name : String) (handler : Handler) :
    related machine (machine.register name handler)

/-! ## Calls -/

namespace Lasting

variable (lasting : Lasting allowed related)
include lasting

theorem onward_refl {machine : Machine} (uses : machine.Uses allowed) :
    machine.Onward allowed related machine :=
  ⟨uses, lasting.refl machine⟩

theorem onward_trans {first second third : Machine} (early : first.Onward allowed related second)
    (late : second.Onward allowed related third) : first.Onward allowed related third :=
  ⟨late.uses, lasting.trans early.related late.related⟩

theorem onward_quiet {scope : Nat} {action next : Action} {machine after : Machine}
    (used : action.Uses allowed) (uses : machine.Uses allowed)
    (step : action.quiet? scope machine = some (next, after)) :
    next.Uses allowed ∧ machine.Onward allowed related after := by
  cases action with
  | finish => cases step
  | call => cases step
  | use primitive =>
      cases step
      exact ⟨used.2 _, uses.run scope primitive, lasting.run used.1 scope machine⟩
  | register name =>
      cases step
      exact ⟨used.2 _, uses.register name used.1, lasting.register machine name _⟩
  | adopt source name =>
      rw [Action.quiet?] at step
      cases found : machine.handlers.find? source with
      | none =>
          rw [found] at step
          cases step
          exact ⟨used _, lasting.onward_refl uses⟩
      | some handler =>
          rw [found] at step
          cases step
          exact ⟨used _, uses.register name (uses source handler found),
            lasting.register machine name _⟩

end Lasting

mutual

theorem Called.onward (lasting : Lasting allowed related) {limit scope : Nat} {tree : CallTree}
    (called : Called limit scope tree) (uses : tree.visit.before.Uses allowed) :
    tree.visit.before.Onward allowed related tree.visit.after := by
  match called with
  | .refused _ => exact lasting.onward_refl uses
  | .unknown _ _ => exact lasting.onward_refl uses
  | .entered _ found performed => exact performed.onward lasting (uses _ _ found _) uses
termination_by structural called

theorem Performed.onward (lasting : Lasting allowed related) {limit scope depth : Nat}
    {action : Action} {machine : Machine} {nested : List CallTree} {result : Outcome × Machine}
    (performed : Performed limit scope depth action machine nested result)
    (used : action.Uses allowed) (uses : machine.Uses allowed) :
    machine.Onward allowed related result.2 := by
  match performed with
  | .finish => exact lasting.onward_refl uses
  | .quiet step rest =>
      obtain ⟨nextUsed, first⟩ := lasting.onward_quiet used uses step
      exact lasting.onward_trans first (rest.onward lasting nextUsed first.uses)
  | .call called rest =>
      -- The call may have registered handlers, so that there are others behind it.
      have first := called.onward lasting uses
      exact lasting.onward_trans first (rest.onward lasting (used _) first.uses)
termination_by structural performed

end

theorem NestedCalled.onward (lasting : Lasting allowed related) {limit scope : Nat}
    {blocks : List CapabilityBlock} {last : Option Value} {machine : Machine}
    {trees : List CallTree} {result : Except RunError (Option Value) × Machine}
    (called : NestedCalled limit scope blocks last machine trees result)
    (uses : machine.Uses allowed) : machine.Onward allowed related result.2 := by
  induction called with
  | done => exact lasting.onward_refl uses
  | passed _ _ ih => exact ih uses
  | answered _ called _ ih =>
      have first := called.onward lasting uses
      exact lasting.onward_trans first (ih first.uses)
  | failed _ called => exact called.onward lasting uses

/-! ## Parts of the store -/

section

variable {α : Type} {part : Store → α}

/-- The step leaves a part of the store as it is. -/
def Primitive.Keeps (part : Store → α) : Primitive → Prop
  | access use => ∀ store, part (use store).2 = part store
  | _ => True

/-- No handler of the machine changes the part of the store, nor does a handler that one of
them registers. -/
def Machine.Keeps (part : Store → α) (machine : Machine) : Prop :=
  machine.Uses (Primitive.Keeps part)

theorem Lasting.keeps (part : Store → α) :
    Lasting (Primitive.Keeps part) fun before after => part after.store = part before.store where
  refl _ := rfl
  trans early late := late.trans early
  run {primitive} use scope machine := by
    cases primitive with
    | access => exact use machine.store
    | _ => rfl
  register _ _ _ := rfl

/-- The part of the store is as it was before, and there is still no handler that changes
it. -/
structure Machine.Unaltered (part : Store → α) (before after : Machine) : Prop where
  keeps : after.Keeps part
  same : part after.store = part before.store

theorem Machine.Unaltered.trans {first second third : Machine}
    (left : first.Unaltered part second) (right : second.Unaltered part third) :
    first.Unaltered part third :=
  ⟨right.keeps, right.same.trans left.same⟩

theorem NestedCalled.unaltered {limit scope : Nat} {blocks : List CapabilityBlock}
    {last : Option Value} {machine : Machine} {trees : List CallTree}
    {result : Except RunError (Option Value) × Machine}
    (called : NestedCalled limit scope blocks last machine trees result)
    (keeps : machine.Keeps part) : machine.Unaltered part result.2 := by
  obtain ⟨kept, same⟩ := called.onward (.keeps part) keeps
  exact ⟨kept, same⟩

/-- Opening and closing the scope of a block changes neither handlers nor the store. -/
theorem NestedCalled.unaltered_leave {limit : Nat} {block : Block} {machine : Machine}
    {trees : List CallTree} {inside : Except RunError (Option Value) × Machine}
    (called : NestedCalled limit (block.enter machine).1 block.capabilities none
      (block.enter machine).2 trees inside) (keeps : machine.Keeps part) :
    machine.Unaltered part (block.leave (block.enter machine).1 inside).2 := by
  have entered : (block.enter machine).2.Keeps part := keeps
  obtain ⟨kept, same⟩ := called.unaltered entered
  exact ⟨kept, same⟩

/-- All that a run writes on its own account is an error. -/
theorem BlocksRun.unaltered {limit : Nat} {blocks : List Block} {first last : Option Value}
    {machine after : Machine} {trees : List CallTree}
    (run : BlocksRun limit blocks first machine trees (.ok last, after))
    (keeps : machine.Keeps part) : machine.Unaltered part after := by
  generalize ended : (Except.ok last, after) = result at run
  induction run with
  | done =>
      cases ended
      exact ⟨keeps, rfl⟩
  | finished called left _ ih =>
      have here := called.unaltered_leave keeps
      rw [left] at here
      exact here.trans (ih here.keeps ended)
  | failed => cases ended

end

/-! ## Programs -/

theorem Handler.keeps_ofCapability (block : CapabilityBlock) (request : Request) :
    ((Handler.ofCapability block).executor request).Uses (Primitive.Keeps Store.errors) :=
  ⟨fun store => (Library.serve_effect block.handlerName request store).framed.errors,
    fun _ => trivial⟩

theorem Machine.Keeps.registerProgram {machine : Machine} (keeps : machine.Keeps Store.errors)
    (program : Program) :
    machine.Unaltered Store.errors (machine.registerProgram program) := by
  refine ⟨?_, by rw [registerProgram_eq]⟩
  intro name handler found
  rcases find?_registerProgram found with old | ⟨block, rfl⟩
  · exact keeps name handler old
  · exact Handler.keeps_ofCapability block

end GlyphScript
