import GlyphScript.Proofs.Machine.CallTree

/-!
# How deep calls get

Whatever handlers do, a chain of calls never gets deeper than the limit.

Results:
1. `Called.within`, `Performed.within`: every call in a record stands one level
   below its caller, and a call below the limit is refused.
2. `outer_within_limit`: each way to start calls from outside of any handler has
   exactly one record, and all calls in it keep to the limit.
-/

namespace GlyphScript

namespace CallTree

mutual

/-- A call and all calls below it. -/
def nodes : CallTree → List CallTree
  | node visit request nested => node visit request nested :: nodesIn nested

def nodesIn : List CallTree → List CallTree
  | [] => []
  | tree :: rest => tree.nodes ++ nodesIn rest

end

theorem nodesIn_append (trees more : List CallTree) :
    nodesIn (trees ++ more) = nodesIn trees ++ nodesIn more := by
  induction trees with
  | nil => rfl
  | cons first rest ih => rw [List.cons_append, nodesIn, nodesIn, ih, List.append_assoc]

/-- A call keeps to a limit on the depth. -/
structure WithinLimit (limit : Nat) (tree : CallTree) : Prop where
  bounded : tree.visit.depth ≤ limit + 1
  /-- A handler is entered at the depth of the call, and never below the limit. -/
  entered : ∀ request ∈ tree.request,
    request.depth = tree.visit.depth ∧ 1 ≤ request.depth ∧ request.depth ≤ limit
  /-- Each call that the handler makes stands one level deeper. -/
  deeper : ∀ child ∈ tree.nested, child.visit.depth = tree.visit.depth + 1
  /-- Right below the limit a call fails, whatever its name is. No handler is entered
  and nothing changes. -/
  refused : tree.visit.depth = limit + 1 →
    tree.request = none ∧ tree.nested = [] ∧
      tree.visit.outcome = .error (.depthExceeded limit) ∧ tree.visit.after = tree.visit.before

end CallTree

mutual

theorem Called.within {limit scope : Nat} {tree : CallTree} (called : Called limit scope tree)
    (positive : 1 ≤ tree.visit.depth) (bounded : tree.visit.depth ≤ limit + 1) :
    ∀ node ∈ tree.nodes, node.WithinLimit limit := by
  match called with
  | .refused exceeds =>
      intro node member
      rw [List.mem_singleton.mp member]
      exact ⟨bounded, nofun, nofun, fun _ => ⟨rfl, rfl, rfl, rfl⟩⟩
  | .unknown within absent =>
      intro node member
      rw [List.mem_singleton.mp member]
      exact ⟨bounded, nofun, nofun, fun deepest =>
        absurd within (Nat.not_le_of_lt (Nat.le_of_eq deepest.symm))⟩
  | .entered within found performed =>
      -- The calls of the handler stand at most at `limit + 1`, as its own depth is in the limit.
      obtain ⟨deeper, below⟩ := performed.within positive within
      intro node member
      rcases List.mem_cons.mp member with root | nested
      · rw [root]
        refine ⟨bounded, ?_, deeper, fun deepest => ?_⟩
        · rintro request ⟨⟩
          exact ⟨rfl, positive, within⟩
        · exact absurd within (Nat.not_le_of_lt (Nat.le_of_eq deepest.symm))
      · exact below node nested
termination_by structural called

theorem Performed.within {limit scope depth : Nat} {action : Action} {machine : Machine}
    {nested : List CallTree} {result : Outcome × Machine}
    (performed : Performed limit scope depth action machine nested result)
    (positive : 1 ≤ depth) (bounded : depth ≤ limit) :
    (∀ child ∈ nested, child.visit.depth = depth + 1) ∧
      ∀ node ∈ CallTree.nodesIn nested, node.WithinLimit limit := by
  match performed with
  | .finish => exact ⟨nofun, nofun⟩
  | .quiet _ rest => exact rest.within positive bounded
  | .call called rest =>
      -- What a call below did makes no difference to the depth of those behind it.
      have here := called.within (Nat.le_add_left 1 _) (Nat.succ_le_succ bounded)
      obtain ⟨deeper, below⟩ := rest.within positive bounded
      constructor
      · intro child member
        rcases List.mem_cons.mp member with first | others
        · rw [first]
          rfl
        · exact deeper child others
      · intro node member
        rcases List.mem_append.mp member with first | others
        · exact here node first
        · exact below node others
termination_by structural performed

end

/-! ## Calls from outside -/

theorem NestedCalled.root_depth {limit scope : Nat} {blocks : List CapabilityBlock}
    {last : Option Value} {machine : Machine} {trees : List CallTree}
    {result : Except RunError (Option Value) × Machine}
    (called : NestedCalled limit scope blocks last machine trees result) :
    ∀ tree ∈ trees, tree.visit.depth = 1 ∧ ∃ scope, Called limit scope tree := by
  induction called with
  | done => nofun
  | passed _ _ ih => exact ih
  | answered _ called _ ih =>
      intro tree member
      rcases List.mem_cons.mp member with first | others
      · rw [first]
        exact ⟨rfl, scope, called⟩
      · exact ih tree others
  | failed _ called =>
      intro tree member
      rw [List.mem_singleton.mp member]
      exact ⟨rfl, scope, called⟩

theorem BlocksRun.root_depth {limit : Nat} {blocks : List Block} {last : Option Value}
    {machine : Machine} {trees : List CallTree}
    {result : Except RunError (Option Value) × Machine}
    (run : BlocksRun limit blocks last machine trees result) :
    ∀ tree ∈ trees, tree.visit.depth = 1 ∧ ∃ scope, Called limit scope tree := by
  induction run with
  | done => nofun
  | finished called _ _ ih =>
      intro tree member
      rcases List.mem_append.mp member with here | later
      · exact called.root_depth tree here
      · exact ih tree later
  | failed called _ => exact called.root_depth

/-- The ways to start calls from outside of any handler. -/
inductive OuterCall where
  | dispatch (call : Call)
  | run
  | eval (source : List Char)

namespace OuterCall

def result (outer : OuterCall) (interpreter : Interpreter) (machine : Machine) :
    Outcome × Machine :=
  match outer with
  | dispatch call => interpreter.dispatch call machine
  | run => interpreter.run machine
  | eval source => interpreter.eval source machine

/-- The trees record the calls of the blocks of a program, with the declarations and
assignments bound before. -/
def Executed (limit : Nat) (program : Program) (machine : Machine) (trees : List CallTree)
    (result : Except RunError (Option Value) × Machine) : Prop :=
  let (last, assigned) := program.assignments.foldl Machine.assign
    (none, program.declarations.foldl Machine.declare machine)
  BlocksRun limit program.blocks last assigned trees result

/-- The trees record the calls that are started. -/
inductive Recorded (interpreter : Interpreter) (machine : Machine) :
    OuterCall → List CallTree → Outcome × Machine → Prop
  | dispatch {call : Call} {outcome : Outcome} {after : Machine} {request : Option Request}
      {nested : List CallTree}
      (called : Called interpreter.limit Machine.root
        (.node ⟨1, call, machine, outcome, after⟩ request nested)) :
      Recorded interpreter machine (.dispatch call)
        [.node ⟨1, call, machine, outcome, after⟩ request nested] (outcome, after)
  | runNothing (absent : interpreter.program = none) :
      Recorded interpreter machine .run [] (.error .noProgram, machine)
  | run {program : Program} {trees : List CallTree} {last : Except RunError (Option Value)}
      {after : Machine} (loaded : interpreter.program = some program)
      (executed : Executed interpreter.limit program machine trees (last, after)) :
      Recorded interpreter machine .run trees (last.map fun _ => after.snapshot, after)
  | evalNothing {source : List Char} {error : RunError}
      (wrong : Interpreter.checked source = .error error) :
      Recorded interpreter machine (.eval source) [] (.error error, machine)
  | eval {source : List Char} {program : Program} {trees : List CallTree}
      {last : Except RunError (Option Value)} {after : Machine}
      (right : Interpreter.checked source = .ok program)
      (executed : Executed interpreter.limit program (machine.registerProgram program) trees
        (last, after)) :
      Recorded interpreter machine (.eval source) trees
        (last.map fun value => value.getD .null, after)

theorem exists_executed (limit : Nat) (program : Program) (machine : Machine) :
    ∃ trees, Executed limit program machine trees (machine.execute limit program) :=
  Machine.exists_blocksRun limit program.blocks _ _

theorem exists_recorded (outer : OuterCall) (interpreter : Interpreter) (machine : Machine) :
    ∃ trees, Recorded interpreter machine outer trees (outer.result interpreter machine) := by
  cases outer with
  | dispatch call =>
      obtain ⟨request, nested, called⟩ :=
        Machine.exists_called_outer interpreter.limit Machine.root call machine
      exact ⟨_, .dispatch called⟩
  | run =>
      cases loaded : interpreter.program with
      | none =>
          simp only [result, Interpreter.run, loaded]
          exact ⟨[], .runNothing loaded⟩
      | some program =>
          obtain ⟨trees, executed⟩ := exists_executed interpreter.limit program machine
          simp only [result, Interpreter.run, loaded]
          exact ⟨trees, .run loaded executed⟩
  | eval source =>
      cases read : Interpreter.checked source with
      | error error =>
          simp only [result, Interpreter.eval, read]
          exact ⟨[], .evalNothing read⟩
      | ok program =>
          obtain ⟨trees, executed⟩ := exists_executed interpreter.limit program
            (machine.registerProgram program)
          simp only [result, Interpreter.eval, read]
          exact ⟨trees, .eval read executed⟩

theorem Executed.unique {limit : Nat} {program : Program} {machine : Machine}
    {trees others : List CallTree} {result other : Except RunError (Option Value) × Machine}
    (executed : Executed limit program machine trees result)
    (again : Executed limit program machine others other) : others = trees ∧ other = result :=
  BlocksRun.unique executed again

theorem Recorded.unique {outer : OuterCall} {interpreter : Interpreter} {machine : Machine}
    {trees others : List CallTree} {result other : Outcome × Machine}
    (recorded : Recorded interpreter machine outer trees result)
    (again : Recorded interpreter machine outer others other) :
    others = trees ∧ other = result := by
  cases recorded with
  | dispatch called =>
      cases again with
      | dispatch calledAgain =>
          cases called.unique calledAgain rfl rfl rfl
          exact ⟨rfl, rfl⟩
  | runNothing absent =>
      cases again with
      | runNothing _ => exact ⟨rfl, rfl⟩
      | run loaded _ => rw [absent] at loaded; cases loaded
  | run loaded executed =>
      cases again with
      | runNothing absent => rw [absent] at loaded; cases loaded
      | run loadedAgain executedAgain =>
          cases loaded.symm.trans loadedAgain
          obtain ⟨rfl, same⟩ := executed.unique executedAgain
          cases same
          exact ⟨rfl, rfl⟩
  | evalNothing wrong =>
      cases again with
      | evalNothing wrongAgain =>
          cases wrong.symm.trans wrongAgain
          exact ⟨rfl, rfl⟩
      | eval right _ => cases wrong.symm.trans right
  | eval right executed =>
      cases again with
      | evalNothing wrong => cases wrong.symm.trans right
      | eval rightAgain executedAgain =>
          cases right.symm.trans rightAgain
          obtain ⟨rfl, same⟩ := executed.unique executedAgain
          cases same
          exact ⟨rfl, rfl⟩

theorem Recorded.root_depth {outer : OuterCall} {interpreter : Interpreter} {machine : Machine}
    {trees : List CallTree} {result : Outcome × Machine}
    (recorded : Recorded interpreter machine outer trees result) :
    ∀ tree ∈ trees, tree.visit.depth = 1 ∧ ∃ scope, Called interpreter.limit scope tree := by
  cases recorded with
  | dispatch called =>
      intro tree member
      rw [List.mem_singleton.mp member]
      exact ⟨rfl, Machine.root, called⟩
  | runNothing _ => nofun
  | run _ executed => exact BlocksRun.root_depth executed
  | evalNothing _ => nofun
  | eval _ executed => exact BlocksRun.root_depth executed

end OuterCall

/-- Whatever the handlers of a machine do, every call from outside comes to an end:
there is exactly one record of it, with the result of the call. In the record the
calls from outside stand at depth one, every nested call stands one level below its
caller, and handlers are entered only down to the limit. A call right below the
limit is refused and changes nothing. -/
theorem outer_within_limit (interpreter : Interpreter) (machine : Machine) (outer : OuterCall) :
    ∃ trees, outer.Recorded interpreter machine trees (outer.result interpreter machine) ∧
      (∀ others result, outer.Recorded interpreter machine others result →
        others = trees ∧ result = outer.result interpreter machine) ∧
      ∀ tree ∈ trees, tree.visit.depth = 1 ∧
        ∀ node ∈ tree.nodes, node.WithinLimit interpreter.limit := by
  obtain ⟨trees, recorded⟩ := outer.exists_recorded interpreter machine
  refine ⟨trees, recorded, fun others result again => recorded.unique again, ?_⟩
  intro tree member
  obtain ⟨outermost, scope, called⟩ := recorded.root_depth tree member
  exact ⟨outermost, called.within (by omega) (by omega)⟩

/-- A machine whose one handler calls itself and passes on what it gets. -/
def Machine.selfCalling : Machine :=
  Machine.empty.register "again" (.ofExecutor fun _ => .call "again" [] .finish)

/-- One level of the chain: what the next level gives is passed on. -/
theorem Called.selfCalling {limit depth : Nat} {outcome : Outcome} {after : Machine}
    {request : Option Request} {nested : List CallTree} (within : depth ≤ limit)
    (called : Called limit Machine.root (.node
      ⟨depth + 1, .withBody "again" [], Machine.selfCalling, outcome, after⟩ request nested)) :
    Called limit Machine.root (.node
      ⟨depth, .withBody "again" [], Machine.selfCalling, outcome, after⟩
      (some ⟨"again", [], [], [], depth⟩)
      [.node ⟨depth + 1, .withBody "again" [], Machine.selfCalling, outcome, after⟩
        request nested]) := by
  have performed : Performed limit Machine.root depth (.call "again" [] .finish)
      Machine.selfCalling _ (outcome, after) := .call called .finish
  exact @Called.entered limit Machine.root depth (.withBody "again" []) Machine.selfCalling
    (.ofExecutor fun _ => .call "again" [] .finish) _ (outcome, after) within rfl performed

/-- At a limit of two the handler is entered twice, and its third call is refused. -/
theorem outer_within_limit_selfCalling :
    ∃ trees : List CallTree, (∀ tree ∈ trees, ∀ node ∈ tree.nodes, node.WithinLimit 2) ∧
      (trees.flatMap CallTree.nodes).map (fun node => (node.visit.depth, node.request.isSome)) =
        [(1, true), (2, true), (3, false)] := by
  obtain ⟨trees, _, unique, within⟩ := outer_within_limit (.new 2) Machine.selfCalling
    (.dispatch (.withBody "again" []))
  have refused : Called 2 Machine.root (.node ⟨3, .withBody "again" [], Machine.selfCalling,
      .error (.depthExceeded 2), Machine.selfCalling⟩ none []) := .refused (by decide)
  have called := (refused.selfCalling (by decide)).selfCalling (by decide)
  obtain ⟨same, _⟩ := unique _ _ (.dispatch called)
  exact ⟨trees, fun tree member => (within tree member).2, same ▸ rfl⟩

end GlyphScript
