import GlyphScript.Proofs.Machine.Failures

/-!
# Parameters of blocks as variables

A block binds its parameters in a scope of its own, and the capabilities inside it refer to
them by name. A reference `@name` is looked up with the at sign first, in the block and then
outside of it, and only then without the at sign. So a parameter hides the variable of the
same name outside, but not the one that is spelled with the at sign. A handler that is called
inside the block can remove the parameter, and then the variable outside is seen again.

Results:
1. `calledInside_iff_mem`: the calls of a block are those of the capabilities inside it.
2. `Lasting.parents`, `Lasting.bound`: no call moves a scope, and names stay bound that no
   handler removes.
3. `resolve_inside`: what a reference stands for inside of a block.
4. `params_shadow`: which value a capability inside a block is called with.
-/

namespace GlyphScript

/-! ## Calls inside a block -/

/-- One of the capabilities inside a block is called, and the tree records the call: those
before it are called without an error or passed over. -/
inductive CalledInside (limit scope : Nat) (last : Option Value) (machine : Machine) :
    List CapabilityBlock → CapabilityBlock → CallTree → Prop
  | intro {earlier later : List CapabilityBlock} {nested : CapabilityBlock}
      {trees inner : List CallTree} {value : Option Value} {reached after : Machine}
      {request : Option Request} {outcome : Outcome}
      (before : NestedCalled limit scope earlier last machine trees (.ok value, reached))
      (present : reached.handlers.contains nested.handlerName = true)
      (called : Called limit scope
        (.node ⟨1, nested.call reached scope, reached, outcome, after⟩ request inner)) :
      CalledInside limit scope last machine (earlier ++ nested :: later) nested
        (.node ⟨1, nested.call reached scope, reached, outcome, after⟩ request inner)

section

variable {limit scope : Nat} {last : Option Value} {machine : Machine}

theorem CalledInside.head {nested : CapabilityBlock} {rest : List CapabilityBlock}
    {outcome : Outcome} {after : Machine} {request : Option Request} {inner : List CallTree}
    (present : machine.handlers.contains nested.handlerName = true)
    (called : Called limit scope
      (.node ⟨1, nested.call machine scope, machine, outcome, after⟩ request inner)) :
    CalledInside limit scope last machine (nested :: rest) nested
      (.node ⟨1, nested.call machine scope, machine, outcome, after⟩ request inner) := by
  rw [← List.nil_append (nested :: rest)]
  exact .intro .done present called

theorem CalledInside.cons {block nested : CapabilityBlock} {rest : List CapabilityBlock}
    {value : Option Value} {middle : Machine} {trees : List CallTree} {tree : CallTree}
    (first : NestedCalled limit scope [block] last machine trees (.ok value, middle))
    (inside : CalledInside limit scope value middle rest nested tree) :
    CalledInside limit scope last machine (block :: rest) nested tree := by
  cases inside with
  | intro before present called => exact .intro (first.append before) present called

/-- After a call the others follow, unless it fails. -/
theorem CalledInside.recorded {blocks : List CapabilityBlock} {nested : CapabilityBlock}
    {tree : CallTree} (inside : CalledInside limit scope last machine blocks nested tree) :
    ∃ trees result, NestedCalled limit scope blocks last machine trees result ∧ tree ∈ trees := by
  cases inside with
  | @intro _ later _ _ _ _ _ after _ outcome before present called =>
      cases outcome with
      | ok value =>
          obtain ⟨more, others⟩ := Machine.exists_nestedCalled limit scope later (some value) after
          exact ⟨_, _, before.append (.answered present called others), by simp⟩
      | error error => exact ⟨_, _, before.append (.failed present called), by simp⟩

/-- The calls of a block are those of the capabilities inside it. -/
theorem calledInside_iff_mem {blocks : List CapabilityBlock} {trees : List CallTree}
    {result : Except RunError (Option Value) × Machine}
    (run : NestedCalled limit scope blocks last machine trees result) {tree : CallTree} :
    (∃ nested, CalledInside limit scope last machine blocks nested tree) ↔ tree ∈ trees := by
  constructor
  · rintro ⟨nested, inside⟩
    obtain ⟨others, ended, recorded, member⟩ := inside.recorded
    obtain ⟨rfl, rfl⟩ := run.unique recorded
    exact member
  · intro member
    induction run with
    | done => cases member
    | passed absent _ ih =>
        obtain ⟨nested, inside⟩ := ih member
        exact ⟨nested, inside.cons (.passed absent .done)⟩
    | answered present called _ ih =>
        rcases List.mem_cons.mp member with rfl | later
        · exact ⟨_, .head present called⟩
        · obtain ⟨nested, inside⟩ := ih later
          exact ⟨nested, inside.cons (.answered present called .done)⟩
    | failed present called =>
        cases List.mem_singleton.mp member
        exact ⟨_, .head present called⟩

end

/-! ## What calls leave of scopes -/

namespace Forest

theorem parent?_update (forest : Forest) (id : Nat) (name : String) (value : Value) (other : Nat) :
    (forest.update id name value).2.parent? other = forest.parent? other := by
  unfold update
  split
  · exact parent?_modify forest _ _ other
  · rfl

/-- A name stays bound in all scopes if the change of one leaves it bound. -/
theorem contains_modify {forest : Forest} {id other : Nat} {name : String} {change : Dict → Dict}
    (kept : ∀ bindings : Dict, bindings.contains name = true →
      (change bindings).contains name = true)
    (bound : (forest.own other).contains name = true) :
    ((forest.modify id change).own other).contains name = true := by
  by_cases same : other = id
  · subst same
    rw [own_modify_self forest change (lt_length_of_contains bound)]
    exact kept _ bound
  · rw [own_modify_other forest change same]
    exact bound

theorem contains_set {forest : Forest} {other : Nat} {name : String}
    (bound : (forest.own other).contains name = true) (id : Nat) (key : String) (value : Value) :
    ((forest.set id key value).own other).contains name = true := by
  have kept : ∀ bindings : Dict, bindings.contains name = true →
      (bindings.insert key value).contains name = true := by
    intro bindings present
    rw [Table.contains, Table.find?_insert]
    split
    · rfl
    · exact present
  exact contains_modify kept bound

theorem contains_update {forest : Forest} {other : Nat} {name : String}
    (bound : (forest.own other).contains name = true) (id : Nat) (key : String) (value : Value) :
    ((forest.update id key value).2.own other).contains name = true := by
  unfold update
  split
  · exact contains_set bound _ key value
  · exact bound

theorem contains_delete {forest : Forest} {other : Nat} {name key : String}
    (bound : (forest.own other).contains name = true) (different : key ≠ name) (id : Nat) :
    ((forest.delete id key).2.own other).contains name = true := by
  have kept : ∀ bindings : Dict, bindings.contains name = true →
      (bindings.erase key).contains name = true := by
    intro bindings present
    rw [Table.contains, Table.find?_erase, if_neg different.symm]
    exact present
  exact contains_modify kept bound

end Forest

/-- Whatever handlers do, each scope stays inside the one that it was made in. -/
theorem Lasting.parents : Lasting (fun _ => True) fun before after =>
    ∀ id, after.scopes.parent? id = before.scopes.parent? id where
  refl _ _ := rfl
  trans early late id := (late id).trans (early id)
  run {primitive} _ scope machine id := by
    cases primitive with
    | bind site name value => exact machine.scopes.parent?_modify _ _ id
    | rebind site name value => exact machine.scopes.parent?_update _ name value id
    | unbind site name => exact machine.scopes.parent?_modify _ _ id
    | _ => rfl
  register _ _ _ _ := rfl

/-- The step does not remove a variable of that name. -/
def Primitive.Leaves (name : String) : Primitive → Prop
  | unbind _ other => other ≠ name
  | _ => True

theorem Lasting.bound (name : String) : Lasting (Primitive.Leaves name) fun before after =>
    ∀ id, (before.scopes.own id).contains name = true →
      (after.scopes.own id).contains name = true where
  refl _ _ bound := bound
  trans early late id bound := late id (early id bound)
  run {primitive} leaves scope machine id bound := by
    cases primitive with
    | bind site key value => exact Forest.contains_set bound _ key value
    | rebind site key value => exact Forest.contains_update bound _ key value
    | unbind site key => exact Forest.contains_delete bound leaves _
    | _ => exact bound
  register _ _ _ _ bound := bound

/-! ## References inside a block -/

/-- The variable that is spelled with an at sign before the name, in a block or else outside
of it. -/
def Dict.marked? (own outer : Dict) (name : String) : Option Value :=
  (own.find? ("@" ++ name)).or (outer.find? ("@" ++ name))

namespace Machine

/-- From a scope right inside the outermost one, names are looked up in the two. -/
theorem get?_inside {scopes : Forest} {scope : Nat} (inner : root < scope)
    (parent : scopes.parent? scope = some root) (name : String) :
    scopes.get? scope name =
      ((scopes.own scope).find? name).or ((scopes.own root).find? name) := by
  have chained : scopes.chain scope = [scope, root] := by
    rw [Forest.chain, parent]
    simp only [if_pos inner]
    rw [root, Forest.chain_zero]
  rw [Forest.get?, chained, List.findSome?_cons, List.findSome?_singleton]
  cases (scopes.own scope).find? name <;> rfl

theorem resolve_reference (scopes : Forest) (scope : Nat) {name : String} (named : name ≠ "") :
    resolve scopes scope (.text ("@" ++ name)) =
      ((scopes.get? scope ("@" ++ name)).or (scopes.get? scope name)).getD
        (.text ("@" ++ name)) := by
  cases spelled : name.toList with
  | nil => exact absurd (String.toList_eq_nil_iff.mp spelled) named
  | cons first others =>
      have marked : ("@" ++ name).toList = '@' :: first :: others := by
        rw [String.toList_append, spelled]
        rfl
      have same : String.ofList (first :: others) = name := by
        rw [← spelled, String.ofList_toList]
      simp only [resolve, marked, same]

/-- Inside a block, a reference stands for the variable with the at sign, else for the one
without it, and of each for that of the block before that outside of it. -/
theorem resolve_inside {scopes : Forest} {scope : Nat} (inner : root < scope)
    (parent : scopes.parent? scope = some root) {name : String} (named : name ≠ "") :
    resolve scopes scope (.text ("@" ++ name)) =
      ((Dict.marked? (scopes.own scope) (scopes.own root) name).or
        (((scopes.own scope).find? name).or ((scopes.own root).find? name))).getD
          (.text ("@" ++ name)) := by
  rw [resolve_reference scopes scope named, get?_inside inner parent, get?_inside inner parent]
  rfl

end Machine

namespace Block

variable (block : Block) (machine : Machine)

/-- What a block binds at first: its parameters, as they stand outside of it. -/
def bindings : Dict :=
  block.params.mapEntries (Dict.resolved machine.bindings)

theorem parent?_enter :
    (block.enter machine).2.scopes.parent? (block.enter machine).1 = some Machine.root :=
  (Forest.parent?_add machine.scopes _ _).trans (if_pos rfl)

theorem own_enter :
    (block.enter machine).2.scopes.own (block.enter machine).1 = block.bindings machine := by
  refine ((Forest.own_add machine.scopes _ _).trans (if_pos rfl)).trans ?_
  exact congrArg (Table.mapEntries · block.params) (funext (Machine.resolve_root machine.scopes))

variable {machine}

theorem bindings_enter (rooted : machine.Rooted) :
    (block.enter machine).2.bindings = machine.bindings :=
  (Forest.own_add machine.scopes _ _).trans (if_neg (Nat.ne_of_lt rooted))

theorem find?_bindings {name : String} {value : Value}
    (param : block.params.find? name = some value) :
    (block.bindings machine).find? name = some (Dict.resolved machine.bindings value) := by
  rw [bindings, Table.find?_mapEntries, param]
  rfl

end Block

/-! ## What capabilities are called with -/

section

variable {limit scope : Nat} {last : Option Value} {machine : Machine}
  {blocks : List CapabilityBlock} {nested : CapabilityBlock} {tree : CallTree}

theorem CalledInside.called (inside : CalledInside limit scope last machine blocks nested tree) :
    Called limit scope tree ∧ tree.visit.call = nested.call tree.visit.before scope := by
  cases inside with
  | intro _ _ called => exact ⟨called, rfl⟩

/-- The calls before it have taken the machine onward. -/
theorem CalledInside.onward (inside : CalledInside limit scope last machine blocks nested tree)
    {allowed : Primitive → Prop} {related : Machine → Machine → Prop}
    (lasting : Lasting allowed related) (uses : machine.Uses allowed) :
    machine.Onward allowed related tree.visit.before := by
  cases inside with
  | intro before _ _ => exact before.onward lasting uses

theorem CalledInside.scopes_eq (inside : CalledInside limit scope last machine blocks nested tree)
    {fits : String → String → Prop} (served : machine.ServedAs fits) :
    tree.visit.before.scopes = machine.scopes := by
  cases inside with
  | intro before _ _ =>
      obtain ⟨store, _, same, _⟩ := before.served served
      have unaltered := congrArg Machine.scopes same
      exact unaltered

/-- A handler that is entered gets the parameters of the call. -/
theorem Called.request_params (called : Called limit scope tree) {params : Dict}
    (given : tree.visit.call.params = some params) {request : Request}
    (entered : tree.request = some request) : request.params = params := by
  cases called with
  | refused => cases entered
  | unknown => cases entered
  | @entered _ call _ handler _ _ _ _ =>
      cases entered
      exact congrArg (Option.getD · handler.params) given

end

/-- While the block runs, a capability inside it is called as the tree records. -/
def Block.Calls (limit : Nat) (block : Block) (machine : Machine) :
    CapabilityBlock → CallTree → Prop :=
  CalledInside limit (block.enter machine).1 none (block.enter machine).2 block.capabilities

/-- What the block binds at the time of a call. -/
def Block.bindingsAt (block : Block) (machine : Machine) (tree : CallTree) : Dict :=
  tree.visit.before.scopes.own (block.enter machine).1

/-- A capability inside a block is called with a parameter that refers to a parameter of the
block. Then the handler gets the value of the block's own parameter, as it stands outside of
the block, and not that of a variable of the same name outside. But it gets the variable that
is spelled with the at sign, if the block or else the outermost scope binds it. And if the
parameter has been removed, it gets the variable of the same name outside, or else the text of
the reference. All this goes by the variables at the time of the call. The parameter is still
bound if no handler removes a variable of its name. All variables are still those that the
block began with if the library serves all calls. -/
theorem params_shadow {limit : Nat} {machine : Machine} (rooted : machine.Rooted) {block : Block}
    {nested : CapabilityBlock} {tree : CallTree} (calls : block.Calls limit machine nested tree)
    {key name : String} {value : Value} (named : name ≠ "")
    (param : block.params.find? name = some value)
    (reference : nested.params.find? key = some (.text ("@" ++ name))) :
    ∃ params, tree.visit.call.params = some params ∧
      (∀ request, tree.request = some request → request.params = params) ∧
      (∀ own, (block.bindingsAt machine tree).find? name = some own →
        params.find? key = some ((Dict.marked? (block.bindingsAt machine tree)
          tree.visit.before.bindings name).getD own)) ∧
      ((block.bindingsAt machine tree).find? name = none →
        params.find? key = some (((Dict.marked? (block.bindingsAt machine tree)
          tree.visit.before.bindings name).or (tree.visit.before.bindings.find? name)).getD
            (.text ("@" ++ name)))) ∧
      (machine.Uses (Primitive.Leaves name) →
        ∃ own, (block.bindingsAt machine tree).find? name = some own) ∧
      (tree.visit.before.scopes = (block.enter machine).2.scopes →
        params.find? key = some ((Dict.marked? (block.bindings machine) machine.bindings name).getD
          (Dict.resolved machine.bindings value))) ∧
      (machine.ServedAs (fun _ _ => True) →
        tree.visit.before.scopes = (block.enter machine).2.scopes) := by
  obtain ⟨called, sameCall⟩ := calls.called
  have inner : Machine.root < (block.enter machine).1 := rooted
  have parent : tree.visit.before.scopes.parent? (block.enter machine).1 = some Machine.root := by
    rw [(calls.onward .parents (Machine.uses_any _)).related, block.parent?_enter]
  have given : tree.visit.call.params = some (nested.params.mapEntries
      (Machine.resolve tree.visit.before.scopes (block.enter machine).1)) := by
    rw [sameCall]
    rfl
  have found : (nested.params.mapEntries (Machine.resolve tree.visit.before.scopes
      (block.enter machine).1)).find? key = some (((Dict.marked? (block.bindingsAt machine tree)
        tree.visit.before.bindings name).or (((block.bindingsAt machine tree).find? name).or
          (tree.visit.before.bindings.find? name))).getD (.text ("@" ++ name))) := by
    rw [Table.find?_mapEntries, reference, Option.map_some]
    exact congrArg some (Machine.resolve_inside inner parent named)
  have stillBound : ∀ own, (block.bindingsAt machine tree).find? name = some own →
      (nested.params.mapEntries (Machine.resolve tree.visit.before.scopes
        (block.enter machine).1)).find? key = some ((Dict.marked? (block.bindingsAt machine tree)
          tree.visit.before.bindings name).getD own) := by
    intro own bound
    rw [found, bound]
    cases Dict.marked? (block.bindingsAt machine tree) tree.visit.before.bindings name <;> rfl
  refine ⟨_, given, fun request => called.request_params given, stillBound, ?_, ?_, ?_,
    fun served => calls.scopes_eq served⟩
  · intro removed
    rw [found, removed]
    rfl
  · intro leaves
    refine Option.isSome_iff_exists.mp ((calls.onward (.bound name) leaves).related _ ?_)
    rw [block.own_enter, Table.contains, block.find?_bindings param]
    rfl
  · intro unchanged
    have ownSame : block.bindingsAt machine tree = block.bindings machine := by
      rw [Block.bindingsAt, unchanged, block.own_enter]
    have outerSame : tree.visit.before.bindings = machine.bindings := by
      rw [Machine.bindings, unchanged]
      exact block.bindings_enter rooted
    have bound : (block.bindingsAt machine tree).find? name =
        some (Dict.resolved machine.bindings value) := by
      rw [ownSame, block.find?_bindings param]
    rw [stillBound _ bound, ownSame, outerSame]

/-- A capability that shows what `y` stands for. -/
def showingCapability : CapabilityBlock :=
  ⟨"echo", none, [("seen", .text "@y")], [], ⟨3, 1⟩⟩

/-- A block that binds `y` to what `x` stands for outside. -/
def hidingBlock (earlier : List CapabilityBlock) : Block :=
  ⟨"hide", [("y", .text "@x")], (earlier ++ [showingCapability]).map .capabilityBlock, none,
    ⟨1, 1⟩⟩

/-- The text that the capability is called with. -/
def CallTree.shown? (tree : CallTree) : Option String :=
  (tree.visit.call.params.bind (·.find? "seen")).bind Value.text?

/-- The variable `y` outside is hidden by the parameter. -/
theorem params_shadow_hidingBlock :
    let machine := Machine.echoing.bind "y" (.text "outer")
    machine.Rooted ∧ machine.ServedAs (fun _ _ => True) ∧
      ∃ tree, (hidingBlock []).Calls 1 machine showingCapability tree ∧
        tree.shown? = some "old" := by
  intro machine
  have rooted : machine.Rooted := Nat.zero_lt_one
  have served : machine.ServedAs fun _ _ => True := Machine.echoing_served
  obtain ⟨request, inner, called⟩ := Machine.exists_called_outer 1 1
    (showingCapability.call ((hidingBlock []).enter machine).2 1) ((hidingBlock []).enter machine).2
  have calls : (hidingBlock []).Calls 1 machine showingCapability _ := .head rfl called
  obtain ⟨params, given, _, _, _, _, unchanged, kept⟩ :=
    @params_shadow 1 machine rooted (hidingBlock []) showingCapability _ calls "seen" "y"
      (.text "@x") (by decide) rfl rfl
  refine ⟨rooted, served, _, calls, ?_⟩
  rw [CallTree.shown?, given, Option.bind_some, unchanged (kept served)]
  rfl

/-- Also `y` with an at sign is bound outside. -/
def Machine.marking : Machine :=
  Machine.echoing.bind "@y" (.text "marked")

/-- With `y` bound outside, and a handler that takes a step and no more. -/
def Machine.changing (primitive : Primitive) : Machine :=
  (Machine.echoing.bind "y" (.text "outer")).register "change"
    (.ofExecutor fun _ => .use primitive fun _ => .give .null)

/-- In a block that calls that handler, the capability is called behind the step. -/
theorem calls_changing (primitive : Primitive)
    (present : (primitive.run 1 ((hidingBlock [plainCapability "change"]).enter
      (.changing primitive)).2).2.handlers.contains "echo" = true) :
    ∃ tree, (hidingBlock [plainCapability "change"]).Calls 1 (.changing primitive)
        showingCapability tree ∧
      tree.visit.call = showingCapability.call (primitive.run 1
        ((hidingBlock [plainCapability "change"]).enter (.changing primitive)).2).2 1 := by
  let entered := ((hidingBlock [plainCapability "change"]).enter (.changing primitive)).2
  let reached := (primitive.run 1 entered).2
  have performed : Performed 1 1 1 (.use primitive fun _ => .give .null) entered []
      (.ok .null, reached) := .quiet rfl .finish
  have changed : NestedCalled 1 1 [plainCapability "change"] none entered _
      (.ok (some .null), reached) :=
    .answered rfl
      (@Called.entered 1 1 1 _ entered _ [] (_, _) (Nat.le_refl 1) rfl performed) .done
  obtain ⟨request, inner, called⟩ :=
    Machine.exists_called_outer 1 1 (showingCapability.call reached 1) reached
  exact ⟨_, .intro changed present called, rfl⟩

/-- The parameter of the block stands for `old`. But the capability is called with the variable
that is spelled with the at sign, with what a handler called before has bound, or with the
variable outside, once a handler called before has removed the parameter. -/
theorem params_not_shadowing :
    Dict.resolved Machine.marking.bindings (.text "@x") = .text "old" ∧
    (∃ tree, (hidingBlock []).Calls 1 .marking showingCapability tree ∧
      tree.shown? = some "marked") ∧
    (∀ primitive, Dict.resolved (Machine.changing primitive).bindings (.text "@x") =
      .text "old") ∧
    (∃ tree, (hidingBlock [plainCapability "change"]).Calls 1
        (.changing (.bind .call "y" (.text "new"))) showingCapability tree ∧
      tree.shown? = some "new") ∧
    ∃ tree, (hidingBlock [plainCapability "change"]).Calls 1
        (.changing (.unbind .call "y")) showingCapability tree ∧
      tree.shown? = some "outer" := by
  refine ⟨rfl, ?_, fun _ => rfl, ?_, ?_⟩
  · obtain ⟨request, inner, called⟩ := Machine.exists_called_outer 1 1
      (showingCapability.call _ 1) ((hidingBlock []).enter .marking).2
    refine ⟨_, .head rfl called, ?_⟩
    simp only [CallTree.shown?, CallTree.visit]
    decide +kernel
  · obtain ⟨tree, calls, call⟩ := calls_changing (.bind .call "y" (.text "new")) rfl
    refine ⟨tree, calls, ?_⟩
    rw [CallTree.shown?, call]
    decide +kernel
  · obtain ⟨tree, calls, call⟩ := calls_changing (.unbind .call "y") rfl
    refine ⟨tree, calls, ?_⟩
    rw [CallTree.shown?, call]
    decide +kernel

end GlyphScript
