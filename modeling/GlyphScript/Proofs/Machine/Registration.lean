import GlyphScript.Proofs.Machine.Variables
import GlyphScript.Proofs.Program.Merge

/-!
# What registering a program does

The capabilities of a program are filed by their own names but registered by the names of
their handlers, so several of them can compete for one handler. They are registered in the
order of their names, and the last one wins. Capability variables and vectors are registered
in the same way. Nothing else changes but the manifest, if the program has one.

Results:
1. `overlaid_extend`: adding labelled items in the order of their names leaves, under each
   label, the item with the greatest name.
2. `registerProgram_eq`, `registered_registerProgram`: each part of the machine after
   registration.
3. `filed_parseTokens`: in a program that was read, constructs are filed under their own names.
4. `registration_exact`: all of this for loading a program and for evaluating a source.
-/

namespace GlyphScript

/-! ## Items with labels -/

namespace Table

variable {α β : Type}

/-- Of the items with a label this one is filed under the greatest name. -/
def Greatest (items : Table α) (label : α → String) (wanted : String) (item : α) : Prop :=
  ∃ name, (name, item) ∈ items ∧ label item = wanted ∧
    ∀ other ∈ items, label other.2 = wanted → other.1 ≤ name

/-- Under the label of items, `after` holds what is made of the greatest of them. Under all
other names it holds what `before` held. -/
structure Overlaid (items : Table α) (label : α → String) (make : α → β)
    (before after : Table β) : Prop where
  labelled : ∀ name item, items.Greatest label name item → after.find? name = some (make item)
  exists_greatest : ∀ item ∈ items.entries, ∃ best, items.Greatest label (label item) best
  others : ∀ name, (∀ item ∈ items.entries, label item ≠ name) →
    after.find? name = before.find? name

theorem le_getLast {items : Table α} (ordered : items.Ordered) {last pair : String × α}
    (isLast : items.getLast? = some last) (member : pair ∈ items) : pair.1 ≤ last.1 := by
  obtain ⟨earlier, rfl⟩ := List.getLast?_eq_some_iff.mp isLast
  rcases List.mem_append.mp member with before | same
  · have below := (List.pairwise_append.mp ordered).2.2 pair before last
      (List.mem_singleton_self last)
    exact String.lt_asymm below
  · cases List.mem_singleton.mp same
    exact String.le_refl _

section

variable {items : Table α} (label : α → String)

theorem mem_labelled {wanted : String} {pair : String × α} :
    pair ∈ items.filter (fun pair => label pair.2 = wanted) ↔
      pair ∈ items ∧ label pair.2 = wanted := by
  rw [List.mem_filter, decide_eq_true_iff]

/-- The greatest item is the last one with its label. -/
theorem greatest_iff (ordered : items.Ordered) {wanted : String} {item : α} :
    items.Greatest label wanted item ↔
      ∃ name, (items.filter fun pair => label pair.2 = wanted).getLast? = some (name, item) := by
  have labelledOrdered : Ordered (items.filter fun pair => label pair.2 = wanted) :=
    List.Pairwise.filter _ ordered
  constructor
  · rintro ⟨name, member, labelled, greatest⟩
    have inLabelled := (mem_labelled label).mpr ⟨member, labelled⟩
    cases isLast : (items.filter fun pair => label pair.2 = wanted).getLast? with
    | none =>
        rw [List.getLast?_eq_none_iff.mp isLast] at inLabelled
        cases inLabelled
    | some last =>
        obtain ⟨lastMember, lastLabelled⟩ := (mem_labelled label).mp (List.mem_of_getLast? isLast)
        have sameName : last.1 = name := String.le_antisymm
          (greatest last lastMember lastLabelled) (le_getLast labelledOrdered isLast inLabelled)
        have found := find?_of_mem ordered.names_nodup member
        rw [← sameName, find?_of_mem ordered.names_nodup lastMember] at found
        exact ⟨last.1, congrArg some (Prod.ext rfl (Option.some.inj found))⟩
  · rintro ⟨name, isLast⟩
    obtain ⟨member, labelled⟩ := (mem_labelled label).mp (List.mem_of_getLast? isLast)
    refine ⟨name, member, labelled, ?_⟩
    intro other otherMember otherLabelled
    exact le_getLast labelledOrdered isLast ((mem_labelled label).mpr ⟨otherMember, otherLabelled⟩)

theorem find?_extend_labelled (make : α → β) (before : Table β) (name : String) :
    (before.extend (items.entries.map fun item => (label item, make item))).find? name =
      ((items.filter fun pair => label pair.2 = name).getLast?.map fun pair => make pair.2).or
        (before.find? name) := by
  rw [find?_extend_pairs, entries, List.map_map, List.filter_map, List.getLast?_map,
    Option.map_map]
  rfl

theorem overlaid_extend (ordered : items.Ordered) (make : α → β) (before : Table β) :
    Overlaid items label make before
      (before.extend (items.entries.map fun item => (label item, make item))) where
  labelled := by
    intro name item greatest
    obtain ⟨filed, isLast⟩ := (greatest_iff label ordered).mp greatest
    rw [find?_extend_labelled, isLast]
    rfl
  exists_greatest := by
    intro item member
    obtain ⟨pair, pairMember, rfl⟩ := List.mem_map.mp member
    cases isLast : (items.filter fun other => label other.2 = label pair.2).getLast? with
    | none =>
        have inLabelled := (mem_labelled label).mpr ⟨pairMember, rfl⟩
        rw [List.getLast?_eq_none_iff.mp isLast] at inLabelled
        cases inLabelled
    | some last => exact ⟨last.2, (greatest_iff label ordered).mpr ⟨last.1, isLast⟩⟩
  others := by
    intro name unlabelled
    have nothing : (items.filter fun pair => label pair.2 = name) = [] := by
      rw [List.filter_eq_nil_iff]
      intro pair member labelled
      exact unlabelled pair.2 (List.mem_map_of_mem member) (of_decide_eq_true labelled)
    rw [find?_extend_labelled, nothing]
    rfl

/-- An item that is filed under its label is the only one with that label. -/
theorem greatest_of_filed {label : α → String} (filed : ∀ pair ∈ items, pair.1 = label pair.2)
    {item : α} (member : item ∈ items.entries) : items.Greatest label (label item) item := by
  obtain ⟨pair, pairMember, rfl⟩ := List.mem_map.mp member
  refine ⟨pair.1, pairMember, rfl, ?_⟩
  intro other otherMember labelled
  have sameName : other.1 = pair.1 := by
    rw [filed other otherMember, filed pair pairMember, labelled]
  exact sameName ▸ String.le_refl other.1

end

end Table

/-! ## The machine after registration -/

namespace Machine

theorem foldl_registerCapability (blocks : List CapabilityBlock) (machine : Machine) :
    blocks.foldl registerCapability machine =
      { machine with
        handlers := machine.handlers.extend
          (blocks.map fun block => (block.handlerName, Handler.ofCapability block)) } := by
  induction blocks generalizing machine with
  | nil => rfl
  | cons first rest ih => rw [List.foldl_cons, ih]; rfl

theorem foldl_bind (vars : List CapabilityVariable) (machine : Machine) :
    vars.foldl (fun machine var => machine.bind var.name var.default) machine =
      { machine with
        scopes :=
          vars.foldl (fun scopes var => scopes.set root var.name var.default) machine.scopes } := by
  induction vars generalizing machine with
  | nil => rfl
  | cons first rest ih => rw [List.foldl_cons, ih]; rfl

theorem foldl_registerVector (vectors : List CapabilityVector) (machine : Machine) :
    vectors.foldl (fun machine vector => machine.registerVector vector.name vector.params) machine =
      { machine with
        store := { machine.store with
          vectors := machine.store.vectors.extend
            (vectors.map fun vector => (vector.name, vector.params)) } } := by
  induction vectors generalizing machine with
  | nil => rfl
  | cons first rest ih => rw [List.foldl_cons, ih]; rfl

/-- Each part of the machine after a program has been registered. -/
theorem registerProgram_eq (machine : Machine) (program : Program) :
    machine.registerProgram program =
      { machine with
        scopes := program.capabilityVariables.entries.foldl
          (fun scopes var => scopes.set root var.name var.default) machine.scopes
        handlers := machine.handlers.extend (program.capabilityBlocks.entries.map fun block =>
          (block.handlerName, Handler.ofCapability block))
        store := { machine.store with
          manifest := (program.manifest.map Manifest.raw).getD machine.store.manifest
          vectors := machine.store.vectors.extend (program.capabilityVectors.entries.map
            fun vector => (vector.name, vector.params)) } } := by
  unfold registerProgram
  rw [foldl_registerVector, foldl_bind, foldl_registerCapability]
  cases program.manifest <;> rfl

/-- Every handler is one from before, or that of a capability. -/
theorem find?_registerProgram {machine : Machine} {program : Program} {name : String}
    {handler : Handler}
    (found : (machine.registerProgram program).handlers.find? name = some handler) :
    machine.handlers.find? name = some handler ∨ ∃ block, handler = .ofCapability block := by
  rw [registerProgram_eq, Table.find?_extend_labelled] at found
  rcases Option.or_eq_some_iff.mp found with new | ⟨_, old⟩
  · obtain ⟨pair, _, made⟩ := Option.map_eq_some_iff.mp new
    exact .inr ⟨pair.2, made.symm⟩
  · exact .inl old

/-- Scopes other than that of the program's own variables stay as they are. -/
theorem own_foldl_set {id : Nat} (other : id ≠ root) (vars : List CapabilityVariable)
    (scopes : Forest) :
    (vars.foldl (fun scopes var => scopes.set root var.name var.default) scopes).own id =
      scopes.own id :=
  List.foldlRecOn vars _ (motive := fun after : Forest => after.own id = scopes.own id) rfl
    fun after same _ _ => (after.own_modify_other _ other).trans same

theorem parent?_foldl_set (id : Nat) (vars : List CapabilityVariable) (scopes : Forest) :
    (vars.foldl (fun scopes var => scopes.set root var.name var.default) scopes).parent? id =
      scopes.parent? id :=
  List.foldlRecOn vars _ (motive := fun after : Forest => after.parent? id = scopes.parent? id) rfl
    fun after same _ _ => (after.parent?_modify root _ id).trans same

end Machine

/-- The machine after a program has been registered on it. -/
structure Registered (program : Program) (before after : Machine) : Prop where
  /-- There is a handler for each name under which a capability of the program is handled.
  It is that of the capability with the greatest name. -/
  handlers : program.capabilityBlocks.Overlaid CapabilityBlock.handlerName Handler.ofCapability
    before.handlers after.handlers
  /-- The handler is declared with the parameters of that capability. -/
  params : ∀ name block,
    program.capabilityBlocks.Greatest CapabilityBlock.handlerName name block →
      (after.handlers.find? name).map Handler.params = some block.params
  bindings : program.capabilityVariables.Overlaid CapabilityVariable.name
    CapabilityVariable.default before.bindings after.bindings
  scopes : ∀ id, (id ≠ Machine.root → after.scopes.own id = before.scopes.own id) ∧
    after.scopes.parent? id = before.scopes.parent? id
  vectors : program.capabilityVectors.Overlaid CapabilityVector.name CapabilityVector.params
    before.store.vectors after.store.vectors
  manifest : after.store.manifest = (program.manifest.map Manifest.raw).getD before.store.manifest
  /-- The boot log, the error log, the memory and all other parts of the store stay. -/
  store : after.store = { before.store with
    manifest := after.store.manifest, vectors := after.store.vectors }
  output : after.output = before.output

theorem registered_registerProgram {machine : Machine} (rooted : machine.Rooted)
    {program : Program} (ordered : program.Ordered) :
    Registered program machine (machine.registerProgram program) := by
  have handlers := Table.overlaid_extend CapabilityBlock.handlerName ordered.capabilityBlocks
    Handler.ofCapability machine.handlers
  have vectors := Table.overlaid_extend CapabilityVector.name ordered.capabilityVectors
    CapabilityVector.params machine.store.vectors
  have bindings := Table.overlaid_extend CapabilityVariable.name ordered.capabilityVariables
    CapabilityVariable.default machine.bindings
  have bound := (Machine.bindings_registerProgram rooted program).2
  rw [Machine.registerProgram_eq] at bound ⊢
  refine ⟨handlers, ?_, ?_, ?_, vectors, rfl, rfl, rfl⟩
  · intro name block greatest
    rw [handlers.labelled name block greatest]
    rfl
  · rw [bound]
    exact bindings
  · intro id
    exact ⟨fun other => Machine.own_foldl_set other _ _, Machine.parent?_foldl_set id _ _⟩

/-! ## Programs that were read -/

/-- The constructs with a name are filed under it. -/
structure Program.Filed (program : Program) : Prop where
  ordered : program.Ordered
  capabilityBlocks : ∀ pair ∈ program.capabilityBlocks, pair.1 = pair.2.name
  capabilityVectors : ∀ pair ∈ program.capabilityVectors, pair.1 = pair.2.name
  capabilityVariables : ∀ pair ∈ program.capabilityVariables, pair.1 = pair.2.name

theorem Table.filed_insert {α : Type} {table : Table α} {name : α → String}
    (filed : ∀ pair ∈ table, pair.1 = name pair.2) (entry : α) :
    ∀ pair ∈ table.insert (name entry) entry, pair.1 = name pair.2 := by
  intro pair member
  rcases Table.mem_insert member with rfl | old
  · rfl
  · exact filed pair old

theorem Program.Filed.add {program : Program} (filed : program.Filed) (construct : Construct) :
    (program.add construct).Filed := by
  have ordered := filed.ordered.add construct
  obtain ⟨_, blocks, vectors, vars⟩ := filed
  cases construct with
  | capabilityBlock block => exact ⟨ordered, Table.filed_insert blocks block, vectors, vars⟩
  | capabilityVector vector => exact ⟨ordered, blocks, Table.filed_insert vectors vector, vars⟩
  | capabilityVariable var => exact ⟨ordered, blocks, vectors, Table.filed_insert vars var⟩
  | _ => exact ⟨ordered, blocks, vectors, vars⟩

theorem filed_parseTokens (tokens : List Token) : (parseTokens tokens).program.Filed := by
  refine List.foldlRecOn _ Program.add (motive := Program.Filed) ?_ fun _ filed construct _ =>
    filed.add construct
  exact ⟨Program.ordered_empty, nofun, nofun, nofun⟩

/-- Loading a program registers it (`Registered`), and so does evaluating a source without
errors before its program is executed. Programs that were read are filed, and for every filed
program each of its capability variables is bound to its default and each of its vectors is
registered with its parameters. -/
theorem registration_exact {machine : Machine} (rooted : machine.Rooted)
    (interpreter : Interpreter) :
    (∀ program, program.Ordered →
      Registered program machine (interpreter.loadProgram program machine).2) ∧
    (∀ source, (parse source).errors = [] →
      ∃ registered, Registered (parse source).program machine registered ∧
        interpreter.eval source machine =
          ((registered.execute interpreter.limit (parse source).program).1.map (·.getD .null),
            (registered.execute interpreter.limit (parse source).program).2)) ∧
    (∀ source, (parse source).program.Filed) ∧
    ∀ program, program.Filed →
      (∀ var ∈ program.capabilityVariables.entries,
        (interpreter.loadProgram program machine).2.bindings.find? var.name = some var.default) ∧
      ∀ vector ∈ program.capabilityVectors.entries,
        (interpreter.loadProgram program machine).2.store.vectors.find? vector.name =
          some vector.params := by
  refine ⟨?_, ?_, ?_, ?_⟩
  · intro program ordered
    exact registered_registerProgram rooted ordered
  · intro source noErrors
    refine ⟨_, registered_registerProgram rooted (filed_parseTokens _).ordered, ?_⟩
    rw [Interpreter.eval, Interpreter.checked_of_noErrors noErrors]
  · intro source
    exact filed_parseTokens (tokenize source)
  · intro program filed
    have registered := registered_registerProgram rooted filed.ordered
    constructor
    · intro var member
      exact registered.bindings.labelled _ _
        (Table.greatest_of_filed filed.capabilityVariables member)
    · intro vector member
      exact registered.vectors.labelled _ _
        (Table.greatest_of_filed filed.capabilityVectors member)

/-- A program in which two capabilities are handled under one name. -/
def rivalProgram : Program :=
  { Program.empty with
    manifest := some (.ofDict [("name", .text "site")])
    capabilityBlocks :=
      [("early", ⟨"early", some "shared", [], [], ⟨2, 1⟩⟩),
        ("late", ⟨"late", none, [("handler", .text "shared")], [], ⟨1, 1⟩⟩)]
    capabilityVectors := [("@v", ⟨"@v", [("x", .null)], ⟨3, 1⟩⟩)]
    capabilityVariables := [("@flag", ⟨"@flag", .bool true, "local", ⟨4, 1⟩⟩)] }

/-- A source with a capability of another program. -/
def rivalSource : List Char :=
  "C@@L BLOCK late\n".toList

theorem rivalProgram_filed : rivalProgram.Filed where
  ordered := ⟨by decide, by decide, by decide, by decide⟩
  capabilityBlocks := by simp [rivalProgram]
  capabilityVectors := by simp [rivalProgram]
  capabilityVariables := by simp [rivalProgram]

/-- The capability with the greater name wins, although it comes first in the source. The
handler and the variable from before are kept. The same happens to a source. -/
theorem registration_exact_rivalProgram :
    let after := ((Interpreter.new 1).loadProgram rivalProgram Machine.echoing).2
    Registered rivalProgram Machine.echoing after ∧
      (after.handlers.find? "shared").map Handler.params = some [("handler", .text "shared")] ∧
      after.handlers.find? "echo" = Machine.echoing.handlers.find? "echo" ∧
      after.bindings.find? "x" = some (.text "old") ∧
      after.bindings.find? "@flag" = some (.bool true) ∧
      (parse rivalSource).errors = [] ∧
      ∃ registered, Registered (parse rivalSource).program Machine.echoing registered := by
  have rooted : Machine.echoing.Rooted := Nat.zero_lt_one
  have noErrors : (parse rivalSource).errors = [] := by decide +kernel
  obtain ⟨loads, evals, _, filed⟩ := registration_exact rooted (Interpreter.new 1)
  have registered := loads rivalProgram rivalProgram_filed.ordered
  refine ⟨registered, ?_, ?_, ?_, ?_, noErrors, ?_⟩
  · have greatest : ∀ other ∈ rivalProgram.capabilityBlocks,
        other.2.handlerName = "shared" → other.1 ≤ "late" := by decide +kernel
    exact registered.params "shared" _
      ⟨"late", List.mem_cons_of_mem _ List.mem_cons_self, rfl, greatest⟩
  · exact registered.handlers.others "echo" (by decide +kernel)
  · exact registered.bindings.others "x" (by decide +kernel)
  · exact (filed rivalProgram rivalProgram_filed).1 _ (List.mem_singleton_self _)
  · exact (evals _ noErrors).imp fun _ both => both.1

end GlyphScript
