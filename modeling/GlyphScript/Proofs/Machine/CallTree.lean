import GlyphScript.Interpreter

/-!
# Records of calls

A record of a call is the tree of all calls made while it is carried out. It counts
depth upward from the outermost call and knows nothing of how many levels are left,
so that a call that has a record has come to an end.

Results:
1. `Called.unique`, `Performed.unique`: a call has at most one record.
2. `exists_called`: every call has a record, and its result is that of
   `Machine.callWithin`.
3. `NestedCalled.unique`, `BlocksRun.unique`, `exists_blocksRun`: the same for the
   calls of a run, block by block.
-/

namespace GlyphScript

/-- A call, where it stood in its chain, and what it gave. -/
structure Visit where
  depth : Nat
  call : Call
  before : Machine
  outcome : Outcome
  after : Machine

/-- A call with the request that a handler was entered with, if one was, and with
the calls made by that handler, in order. -/
inductive CallTree where
  | node (visit : Visit) (request : Option Request) (nested : List CallTree)

namespace CallTree

def visit : CallTree → Visit
  | node visit _ _ => visit

def request : CallTree → Option Request
  | node _ request _ => request

def nested : CallTree → List CallTree
  | node _ _ nested => nested

end CallTree

/-- What a handler sees of a call. -/
def Call.request (call : Call) (handler : Handler) (depth : Nat) : Request :=
  ⟨call.handler, call.params.getD handler.params, call.body, call.query, depth⟩

/-- The step of an action that neither ends nor calls. -/
def Action.quiet? (scope : Nat) : Action → Machine → Option (Action × Machine)
  | .finish _, _ => none
  | .call _ _ _, _ => none
  | .use primitive next, machine =>
      let (answer, after) := primitive.run scope machine
      some (next answer, after)
  | .register name registration executor next, machine =>
      some (next (machine.handlers.contains name),
        machine.register name (registration.handler executor))
  | .adopt source name registration next, machine =>
      match machine.handlers.find? source with
      | none => some (next none, machine)
      | some handler =>
          some (next (some (machine.handlers.contains name)),
            machine.register name (registration.handler handler.executor))

mutual

/-- The tree records a call made from a scope. The depth is tested first, then the
handler is looked up and entered. -/
inductive Called (limit scope : Nat) : CallTree → Prop
  | refused {depth : Nat} {call : Call} {machine : Machine} (exceeds : limit < depth) :
      Called limit scope
        (.node ⟨depth, call, machine, .error (.depthExceeded limit), machine⟩ none [])
  | unknown {depth : Nat} {call : Call} {machine : Machine} (within : depth ≤ limit)
      (absent : machine.handlers.find? call.handler = none) :
      Called limit scope
        (.node ⟨depth, call, machine, .error (.handlerNotFound call.handler), machine⟩ none [])
  | entered {depth : Nat} {call : Call} {machine : Machine} {handler : Handler}
      {nested : List CallTree} {result : Outcome × Machine} (within : depth ≤ limit)
      (found : machine.handlers.find? call.handler = some handler)
      (performed : Performed limit scope depth (handler.executor (call.request handler depth))
        machine nested result) :
      Called limit scope (.node ⟨depth, call, machine, result.1, result.2⟩
        (some (call.request handler depth)) nested)

/-- The trees record the calls of an action, carried out by a handler that was
entered at a depth. -/
inductive Performed (limit scope : Nat) :
    Nat → Action → Machine → List CallTree → Outcome × Machine → Prop
  | finish {depth : Nat} {outcome : Outcome} {machine : Machine} :
      Performed limit scope depth (.finish outcome) machine [] (outcome, machine)
  | quiet {depth : Nat} {action next : Action} {machine after : Machine}
      {nested : List CallTree} {result : Outcome × Machine}
      (step : action.quiet? scope machine = some (next, after))
      (rest : Performed limit scope depth next after nested result) :
      Performed limit scope depth action machine nested result
  | call {depth : Nat} {handler : String} {body : Dict} {next : Outcome → Action}
      {machine after : Machine} {outcome : Outcome} {request : Option Request}
      {inner nested : List CallTree} {result : Outcome × Machine}
      (called : Called limit scope
        (.node ⟨depth + 1, .withBody handler body, machine, outcome, after⟩ request inner))
      (rest : Performed limit scope depth (next outcome) after nested result) :
      Performed limit scope depth (.call handler body next) machine
        (.node ⟨depth + 1, .withBody handler body, machine, outcome, after⟩ request inner :: nested)
        result

end

/-! ## At most one record -/

mutual

theorem Called.unique {limit scope : Nat} {tree other : CallTree}
    (called : Called limit scope tree) (again : Called limit scope other)
    (sameDepth : tree.visit.depth = other.visit.depth)
    (sameCall : tree.visit.call = other.visit.call)
    (sameMachine : tree.visit.before = other.visit.before) : tree = other := by
  match called with
  | .refused exceeds =>
      cases again <;> dsimp only [CallTree.visit] at sameDepth sameCall sameMachine
      case refused => rw [sameDepth, sameCall, sameMachine]
      case unknown within _ => omega
      case entered within _ _ => omega
  | .unknown within absent =>
      cases again <;> dsimp only [CallTree.visit] at sameDepth sameCall sameMachine
      case refused exceeds => omega
      case unknown => rw [sameDepth, sameCall, sameMachine]
      case entered found _ =>
          rw [sameCall, sameMachine, found] at absent
          cases absent
  | .entered within found performed =>
      cases again <;> dsimp only [CallTree.visit] at sameDepth sameCall sameMachine
      case refused exceeds => omega
      case unknown absent =>
          rw [sameCall, sameMachine, absent] at found
          cases found
      case entered same performedAgain =>
          -- The same handler gets the same request, so its actions are the same.
          subst sameDepth sameCall sameMachine
          rw [found] at same
          cases same
          obtain ⟨sameResult, sameNested⟩ := performed.unique performedAgain
          rw [sameResult, sameNested]
termination_by structural called

theorem Performed.unique {limit scope depth : Nat} {action : Action} {machine : Machine}
    {nested inner : List CallTree} {result other : Outcome × Machine}
    (performed : Performed limit scope depth action machine nested result)
    (again : Performed limit scope depth action machine inner other) :
    result = other ∧ nested = inner := by
  match performed with
  | .finish =>
      cases again with
      | finish => exact ⟨rfl, rfl⟩
      | quiet step _ => cases step
  | .quiet step rest =>
      cases again with
      | finish => cases step
      | quiet sameStep restAgain =>
          rw [step] at sameStep
          cases sameStep
          exact rest.unique restAgain
      | call _ _ => cases step
  | .call called rest =>
      cases again with
      | quiet step _ => cases step
      | call calledAgain restAgain =>
          cases called.unique calledAgain rfl rfl rfl
          obtain ⟨sameResult, sameNested⟩ := rest.unique restAgain
          exact ⟨sameResult, congrArg _ sameNested⟩
termination_by structural performed

end

/-! ## Every call has a record -/

namespace Machine

theorem exists_performed {limit scope depth : Nat}
    {call : String → Dict → Machine → Outcome × Machine}
    (calls : ∀ handler body machine, ∃ request inner, Called limit scope
      (.node ⟨depth + 1, .withBody handler body, machine, (call handler body machine).1,
        (call handler body machine).2⟩ request inner))
    (action : Action) (machine : Machine) :
    ∃ nested, Performed limit scope depth action machine nested
      (perform call scope action machine) := by
  induction action generalizing machine with
  | finish outcome => exact ⟨[], .finish⟩
  | call handler body next ih =>
      obtain ⟨request, inner, called⟩ := calls handler body machine
      obtain ⟨nested, rest⟩ := ih (call handler body machine).1 (call handler body machine).2
      exact ⟨_, .call called rest⟩
  | use primitive next ih =>
      obtain ⟨nested, rest⟩ := ih (primitive.run scope machine).1 (primitive.run scope machine).2
      exact ⟨nested, .quiet rfl rest⟩
  | register name registration executor next _ ih =>
      obtain ⟨nested, rest⟩ := ih (machine.handlers.contains name)
        (machine.register name (registration.handler executor))
      exact ⟨nested, .quiet rfl rest⟩
  | adopt source name registration next ih =>
      rw [perform]
      cases found : machine.handlers.find? source with
      | none =>
          obtain ⟨nested, rest⟩ := ih none machine
          exact ⟨nested, .quiet (by rw [Action.quiet?, found]) rest⟩
      | some handler =>
          obtain ⟨nested, rest⟩ := ih (some (machine.handlers.contains name))
            (machine.register name (registration.handler handler.executor))
          exact ⟨nested, .quiet (by rw [Action.quiet?, found]) rest⟩

/-- With `left` levels left a call stands at depth `limit + 1 - left`. -/
theorem exists_called {limit left : Nat} (within : left ≤ limit) (scope : Nat) (call : Call)
    (machine : Machine) :
    ∃ request nested, Called limit scope
      (.node ⟨limit + 1 - left, call, machine, (callWithin limit left scope call machine).1,
        (callWithin limit left scope call machine).2⟩ request nested) := by
  induction left generalizing call machine with
  | zero => exact ⟨none, [], .refused (by omega)⟩
  | succ left ih =>
      have depth : limit + 1 - (left + 1) = limit - left := by omega
      have below : limit - left + 1 = limit + 1 - left := by omega
      rw [depth, callWithin]
      cases found : machine.handlers.find? call.handler with
      | none => exact ⟨none, [], .unknown (Nat.sub_le _ _) found⟩
      | some handler =>
          -- The handler's own calls have one level less left, so each has a record.
          have calls : ∀ name body machine, ∃ request inner, Called limit scope
              (.node ⟨limit - left + 1, .withBody name body, machine,
                (callWithin limit left scope (.withBody name body) machine).1,
                (callWithin limit left scope (.withBody name body) machine).2⟩ request inner) := by
            intro name body machine
            rw [below]
            exact ih (Nat.le_of_succ_le within) (.withBody name body) machine
          obtain ⟨nested, performed⟩ := exists_performed calls
            (handler.executor (call.request handler (limit - left))) machine
          exact ⟨_, nested, .entered (Nat.sub_le _ _) found performed⟩

/-- A call from outside of any handler stands at depth one. -/
theorem exists_called_outer (limit scope : Nat) (call : Call) (machine : Machine) :
    ∃ request nested, Called limit scope
      (.node ⟨1, call, machine, (machine.call limit scope call).1,
        (machine.call limit scope call).2⟩ request nested) := by
  have called := exists_called (Nat.le_refl limit) scope call machine
  rw [Nat.add_sub_cancel_left] at called
  exact called

end Machine

/-! ## Records of runs -/

/-- The call of a capability inside a block. -/
def CapabilityBlock.call (block : CapabilityBlock) (machine : Machine) (scope : Nat) : Call :=
  ⟨block.handlerName, some (block.params.mapEntries (Machine.resolve machine.scopes scope)), [], []⟩

/-- The trees record the calls of the capabilities inside a block. Those without a
handler are passed over, and the first error ends the block. -/
inductive NestedCalled (limit scope : Nat) : List CapabilityBlock → Option Value → Machine →
    List CallTree → Except RunError (Option Value) × Machine → Prop
  | done {last : Option Value} {machine : Machine} :
      NestedCalled limit scope [] last machine [] (.ok last, machine)
  | passed {block : CapabilityBlock} {rest : List CapabilityBlock} {last : Option Value}
      {machine : Machine} {trees : List CallTree}
      {result : Except RunError (Option Value) × Machine}
      (absent : machine.handlers.contains block.handlerName = false)
      (others : NestedCalled limit scope rest last machine trees result) :
      NestedCalled limit scope (block :: rest) last machine trees result
  | answered {block : CapabilityBlock} {rest : List CapabilityBlock} {last : Option Value}
      {machine after : Machine} {value : Value} {request : Option Request}
      {nested trees : List CallTree} {result : Except RunError (Option Value) × Machine}
      (present : machine.handlers.contains block.handlerName = true)
      (called : Called limit scope
        (.node ⟨1, block.call machine scope, machine, .ok value, after⟩ request nested))
      (others : NestedCalled limit scope rest (some value) after trees result) :
      NestedCalled limit scope (block :: rest) last machine
        (.node ⟨1, block.call machine scope, machine, .ok value, after⟩ request nested :: trees)
        result
  | failed {block : CapabilityBlock} {rest : List CapabilityBlock} {last : Option Value}
      {machine after : Machine} {error : RunError} {request : Option Request}
      {nested : List CallTree}
      (present : machine.handlers.contains block.handlerName = true)
      (called : Called limit scope
        (.node ⟨1, block.call machine scope, machine, .error error, after⟩ request nested)) :
      NestedCalled limit scope (block :: rest) last machine
        [.node ⟨1, block.call machine scope, machine, .error error, after⟩ request nested]
        (.error error, after)

/-- The scope of a block, and the machine that has it. -/
def Block.enter (block : Block) (machine : Machine) : Nat × Machine :=
  let params := block.params.mapEntries (Machine.resolve machine.scopes Machine.root)
  let (scope, scopes) := machine.scopes.add ⟨some Machine.root, params⟩
  (scope, { machine with scopes := scopes })

/-- What a block gives once its capabilities have been called. -/
def Block.leave (block : Block) (scope : Nat)
    (inside : Except RunError (Option Value) × Machine) : Outcome × Machine :=
  (inside.1.map fun value => (value.or block.emit).getD .null,
    { inside.2 with scopes := inside.2.scopes.close scope })

/-- The trees record the calls of blocks, up to the first one that fails. -/
inductive BlocksRun (limit : Nat) : List Block → Option Value → Machine → List CallTree →
    Except RunError (Option Value) × Machine → Prop
  | done {last : Option Value} {machine : Machine} :
      BlocksRun limit [] last machine [] (.ok last, machine)
  | finished {block : Block} {rest : List Block} {last : Option Value} {machine after : Machine}
      {value : Value} {trees more : List CallTree}
      {inside result : Except RunError (Option Value) × Machine}
      (called : NestedCalled limit (block.enter machine).1 block.capabilities none
        (block.enter machine).2 trees inside)
      (left : block.leave (block.enter machine).1 inside = (.ok value, after))
      (others : BlocksRun limit rest (some value) after more result) :
      BlocksRun limit (block :: rest) last machine (trees ++ more) result
  | failed {block : Block} {rest : List Block} {last : Option Value} {machine after : Machine}
      {error : RunError} {trees : List CallTree}
      {inside : Except RunError (Option Value) × Machine}
      (called : NestedCalled limit (block.enter machine).1 block.capabilities none
        (block.enter machine).2 trees inside)
      (left : block.leave (block.enter machine).1 inside = (.error error, after)) :
      BlocksRun limit (block :: rest) last machine trees
        (.error error, after.logError (block.name ++ ": " ++ error.message))

theorem NestedCalled.unique {limit scope : Nat} {blocks : List CapabilityBlock}
    {last : Option Value} {machine : Machine} {trees others : List CallTree}
    {result other : Except RunError (Option Value) × Machine}
    (called : NestedCalled limit scope blocks last machine trees result)
    (again : NestedCalled limit scope blocks last machine others other) :
    others = trees ∧ other = result := by
  induction called generalizing others other with
  | done =>
      cases again
      exact ⟨rfl, rfl⟩
  | passed absent _ ih =>
      cases again with
      | passed _ rest => exact ih rest
      | answered present _ _ => rw [absent] at present; cases present
      | failed present _ => rw [absent] at present; cases present
  | answered present called _ ih =>
      cases again with
      | passed absent _ => rw [absent] at present; cases present
      | answered _ calledAgain rest =>
          cases called.unique calledAgain rfl rfl rfl
          obtain ⟨sameTrees, sameResult⟩ := ih rest
          exact ⟨congrArg _ sameTrees, sameResult⟩
      | failed _ calledAgain => cases called.unique calledAgain rfl rfl rfl
  | failed present called =>
      cases again with
      | passed absent _ => rw [absent] at present; cases present
      | answered _ calledAgain _ => cases called.unique calledAgain rfl rfl rfl
      | failed _ calledAgain =>
          cases called.unique calledAgain rfl rfl rfl
          exact ⟨rfl, rfl⟩

theorem BlocksRun.unique {limit : Nat} {blocks : List Block} {last : Option Value}
    {machine : Machine} {trees others : List CallTree}
    {result other : Except RunError (Option Value) × Machine}
    (run : BlocksRun limit blocks last machine trees result)
    (again : BlocksRun limit blocks last machine others other) :
    others = trees ∧ other = result := by
  induction run generalizing others other with
  | done =>
      cases again
      exact ⟨rfl, rfl⟩
  | finished called left _ ih =>
      cases again with
      | finished calledAgain leftAgain rest =>
          obtain ⟨rfl, rfl⟩ := called.unique calledAgain
          cases left.symm.trans leftAgain
          obtain ⟨sameTrees, sameResult⟩ := ih rest
          exact ⟨congrArg _ sameTrees, sameResult⟩
      | failed calledAgain leftAgain =>
          obtain ⟨rfl, rfl⟩ := called.unique calledAgain
          cases left.symm.trans leftAgain
  | failed called left =>
      cases again with
      | finished calledAgain leftAgain _ =>
          obtain ⟨rfl, rfl⟩ := called.unique calledAgain
          cases left.symm.trans leftAgain
      | failed calledAgain leftAgain =>
          obtain ⟨rfl, rfl⟩ := called.unique calledAgain
          cases left.symm.trans leftAgain
          exact ⟨rfl, rfl⟩

namespace Machine

theorem exists_nestedCalled (limit scope : Nat) (blocks : List CapabilityBlock)
    (last : Option Value) (machine : Machine) :
    ∃ trees, NestedCalled limit scope blocks last machine trees
      (callNested limit scope blocks last machine) := by
  induction blocks generalizing last machine with
  | nil => exact ⟨[], .done⟩
  | cons block rest ih =>
      rw [callNested]
      cases present : machine.handlers.contains block.handlerName with
      | false =>
          obtain ⟨trees, others⟩ := ih last machine
          exact ⟨trees, .passed present others⟩
      | true =>
          obtain ⟨request, nested, called⟩ :=
            exists_called_outer limit scope (block.call machine scope) machine
          simp only [if_true]
          split
          · next value after answer =>
              rw [CapabilityBlock.call, answer] at called
              obtain ⟨trees, others⟩ := ih (some value) after
              exact ⟨_, .answered present called others⟩
          · next error after answer =>
              rw [CapabilityBlock.call, answer] at called
              exact ⟨_, .failed present called⟩

theorem runBlock_eq (limit : Nat) (block : Block) (machine : Machine) :
    runBlock limit block machine = block.leave (block.enter machine).1
      (callNested limit (block.enter machine).1 block.capabilities none (block.enter machine).2) :=
  rfl

theorem exists_blocksRun (limit : Nat) (blocks : List Block) (last : Option Value)
    (machine : Machine) :
    ∃ trees, BlocksRun limit blocks last machine trees (runBlocks limit blocks last machine) := by
  induction blocks generalizing last machine with
  | nil => exact ⟨[], .done⟩
  | cons block rest ih =>
      obtain ⟨trees, called⟩ := exists_nestedCalled limit (block.enter machine).1
        block.capabilities none (block.enter machine).2
      rw [runBlocks, runBlock_eq]
      split
      · next value after left =>
          obtain ⟨more, others⟩ := ih (some value) after
          exact ⟨_, .finished called left others⟩
      · next error after left => exact ⟨_, .failed called left⟩

end Machine

end GlyphScript
