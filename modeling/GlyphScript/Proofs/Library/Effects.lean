import GlyphScript.Machine
import GlyphScript.Proofs.Table

/-!
# What the library does to the store

A handler of the library answers, and changes the store in one of five ways or not at
all. Each way belongs to certain names and requests, and none of them comes with a
refusal.

Results:
1. `serve_effect`: all that serving a request can do (`Effect`).
2. `Effect.answer`: the answer says whether the request was met, and a refusal changes
   nothing.
3. `Effect.framed`: which parts of the store stay as they were (`Framed`).
4. `perform_library`: the same for the whole machine.
-/

namespace GlyphScript

/-! ## Answers -/

theorem Value.field?_record {fields : List (String × Value)}
    (distinct : (Table.names fields).Nodup) (key : String) :
    (Value.record fields).field? key = Table.find? fields key :=
  Table.find?_ofList distinct key

namespace Library

theorem find?_success (fields : List (String × Value)) :
    (Table.ofList (fields ++ [("ok", .bool true)])).find? "ok" = some (.bool true) := by
  rw [Table.ofList, Table.find?_extend_pairs, List.filter_append]
  simp

theorem find?_refusal (message : String) {about : List (String × Value)}
    (silent : ∀ field ∈ about, field.1 ≠ "ok") :
    (Table.ofList ([("ok", .bool false), ("error", .text message)] ++ about)).find? "ok" =
      some (.bool false) := by
  have nothing : about.filter (fun field => field.1 = "ok") = [] := by
    simpa [List.filter_eq_nil_iff] using silent
  rw [Table.ofList, Table.find?_extend_pairs, List.filter_append, nothing]
  simp

/-! ## Effects -/

/-- The words of the command in a request. -/
def requestedWords (request : Request) : List String :=
  ((request.argText? "command").map commandWords).getD []

/-- Asked under this name, the request is to make a tape the active one. -/
inductive AsksForTape (name : String) (request : Request) (id : String) : Prop
  | direct (named : name = "tape_boot") (given : request.argText? "tape_id" = some id)
  | command (named : name = "basher_run") {others : List String}
      (words : requestedWords request = "tapes.boot" :: id :: others)

/-- Asked under this name, the request is to write to a key of the memory. -/
inductive AsksToStore (name : String) (request : Request) (key : String) : Prop
  | direct (named : name = "ram_set") (given : request.argText? "key" = some key)
  | command (named : name = "basher_run") {first : String} {others : List String}
      (words : requestedWords request = "ram.set" :: key :: first :: others)

/-- All that serving a request under a name can do: the answer, and the store behind
it. -/
inductive Effect (name : String) (request : Request) (before : Store) : Value × Store → Prop
  | refused (message : String) (about : List (String × Value))
      (silent : ∀ field ∈ about, field.1 ≠ "ok") :
      Effect name request before (refusal message about, before)
  | read (fields : List (String × Value)) : Effect name request before (success fields, before)
  | booted (named : name = "kernel_boot") (fields : List (String × Value)) :
      Effect name request before (success fields, Library.booted before)
  | activated {id : String} (asked : AsksForTape name request id)
      (registered : before.tapes.contains id = true) (fields : List (String × Value)) :
      Effect name request before (success fields,
        (before.remember "os.active_tape" (.text id)).remember "tapes.active_id" (.text id))
  | stored {key : String} (asked : AsksToStore name request key) (value : Value)
      (fields : List (String × Value)) :
      Effect name request before (success fields, before.remember key value)
  | posted (named : name = "cms_rlhf_post") (record : Value) (fields : List (String × Value)) :
      Effect name request before
        (success fields, { before with traces := before.traces ++ [record] })
  | observed (named : name = "gram_observe") (grams : List String)
      (fields : List (String × Value)) :
      Effect name request before
        (success fields, { before with ngrams := grams.foldl countGram before.ngrams })

section Handlers

variable {name : String} {request : Request} {store : Store}

theorem effect_failure (message : String) :
    Effect name request store (failure message, store) :=
  .refused message [] nofun

theorem effect_bootTape {id : String} (asked : AsksForTape name request id) :
    Effect name request store (bootTape id store) := by
  unfold bootTape
  split
  · next tape found =>
      have registered : store.tapes.contains id = true := by rw [Table.contains, found]; rfl
      exact .activated asked registered _
  · exact .refused _ _ (by simp)

theorem effect_runWords (named : name = "basher_run") :
    Effect name request store (runWords (requestedWords request) store) := by
  unfold runWords
  split
  · exact effect_failure _
  · exact .read _
  · next words => exact effect_bootTape (.command named words)
  · exact effect_failure _
  · exact .read _
  · exact effect_failure _
  · next words => exact .stored (.command named words) _ _
  · exact effect_failure _
  · exact .read _
  · exact .read _
  · exact effect_failure _

theorem effect_observe (named : name = "gram_observe") (body : Dict) :
    Effect name request store (observe body store) := by
  unfold observe
  split
  · exact effect_failure _
  · exact .observed named _ _

theorem effect_suggest (body : Dict) : Effect name request store (suggest body store) := by
  unfold suggest
  split
  · exact effect_failure _
  · exact .read _

theorem effect_findTrace (id : String) : Effect name request store (findTrace id store) := by
  unfold findTrace
  split
  · exact .read _
  · exact .refused _ _ (by simp)

theorem effect_withText {key missing : String} {serve : String → Store → Value × Store}
    (served : ∀ text, request.argText? key = some text →
      Effect name request store (serve text store)) :
    Effect name request store (LibraryHandler.withText request key missing serve store) := by
  unfold LibraryHandler.withText
  split
  · next text given => exact served text given
  · exact effect_failure _

theorem effect_handler {handler : LibraryHandler} (named : name = handler.name) :
    Effect name request store (handler.serve request store) := by
  cases handler with
  | kernelBoot => exact .booted named _
  | tapeBoot => exact effect_withText fun id given => effect_bootTape (.direct named given)
  | basherRun =>
      refine effect_withText fun command given => ?_
      have words : commandWords command = requestedWords request := by
        rw [requestedWords, given]
        rfl
      rw [runCommand, words]
      exact effect_runWords named
  | ramGet => exact effect_withText fun key _ => .read _
  | ramSet => exact effect_withText fun key given => .stored (.direct named given) _ _
  | ramList => exact .read _
  | traceList => exact .read _
  | traceGet => exact effect_findTrace _
  | tracePost => exact .posted named _ _
  | gramObserve => exact effect_observe named _
  | gramAnalyze => exact .read _
  | gramSuggest => exact effect_suggest _

end Handlers

theorem serve_effect (name : String) (request : Request) (store : Store) :
    Effect name request store (Library.serve name request store) := by
  unfold Library.serve
  split
  · next handler found =>
      have named := List.find?_some found
      exact effect_handler (beq_iff_eq.mp named).symm
  · exact .read _

theorem Effect.answer {name : String} {request : Request} {before : Store}
    {result : Value × Store} (effect : Effect name request before result) :
    ∃ (fields : Dict) (met : Bool), result.1 = .dict fields ∧
      fields.find? "ok" = some (.bool met) ∧
      (met = false → result.2 = before) := by
  cases effect with
  | refused message about silent =>
      exact ⟨_, false, rfl, find?_refusal message silent, fun _ => rfl⟩
  | read fields => exact ⟨_, true, rfl, find?_success fields, nofun⟩
  | booted _ fields => exact ⟨_, true, rfl, find?_success fields, nofun⟩
  | activated _ _ fields => exact ⟨_, true, rfl, find?_success fields, nofun⟩
  | stored _ _ fields => exact ⟨_, true, rfl, find?_success fields, nofun⟩
  | posted _ _ fields => exact ⟨_, true, rfl, find?_success fields, nofun⟩
  | observed _ _ fields => exact ⟨_, true, rfl, find?_success fields, nofun⟩

/-! ## Booting, step by step -/

/-- The keys of the memory that booting the kernel writes. -/
def kernelKeys : List String :=
  ["os.boot.count", "os.state", "os.kernel"]

/-- What every step of a boot keeps. The log and the tapes only grow. -/
structure BootStep (before after : Store) : Prop where
  manifest : after.manifest = before.manifest
  errors : after.errors = before.errors
  vectors : after.vectors = before.vectors
  traces : after.traces = before.traces
  ngrams : after.ngrams = before.ngrams
  bootSteps : before.bootSteps <+: after.bootSteps
  tapes : ∀ id, before.tapes.contains id = true → after.tapes.contains id = true
  memory : ∀ key, key ∉ kernelKeys → after.memory.find? key = before.memory.find? key

theorem BootStep.refl (store : Store) : BootStep store store :=
  ⟨rfl, rfl, rfl, rfl, rfl, List.prefix_refl _, fun _ => id, fun _ _ => rfl⟩

theorem BootStep.trans {first second third : Store} (left : BootStep first second)
    (right : BootStep second third) : BootStep first third where
  manifest := right.manifest.trans left.manifest
  errors := right.errors.trans left.errors
  vectors := right.vectors.trans left.vectors
  traces := right.traces.trans left.traces
  ngrams := right.ngrams.trans left.ngrams
  bootSteps := left.bootSteps.trans right.bootSteps
  tapes := fun id present => right.tapes id (left.tapes id present)
  memory := fun key other => (right.memory key other).trans (left.memory key other)

theorem bootStep_logStep (step : String) (store : Store) : BootStep store (logStep step store) :=
  { BootStep.refl store with bootSteps := List.prefix_append _ _ }

theorem bootStep_remember {key : String} (isKernelKey : key ∈ kernelKeys) (value : Value)
    (store : Store) : BootStep store (store.remember key value) :=
  { BootStep.refl store with
    memory := fun _ notWritten =>
      Table.find?_insert_other _ value fun same => notWritten (same ▸ isKernelKey) }

theorem bootStep_countBoot (store : Store) : BootStep store (countBoot store) := by
  unfold countBoot
  split
  · exact .refl store
  · refine .trans ?_ (bootStep_logStep _ _)
    refine .trans ?_ (bootStep_remember (by decide) _ _)
    refine .trans ?_ (bootStep_remember (by decide) _ _)
    exact bootStep_remember (by decide) _ _

theorem bootStep_registerTapes (store : Store) : BootStep store (registerTapes store) := by
  unfold registerTapes
  split
  · next tapes _ =>
      refine .trans ?_ (bootStep_logStep _ _)
      exact { BootStep.refl store with
        tapes := fun id present => Table.contains_extend store.tapes tapes present }
  · exact .refl store

theorem bootStep_booted (store : Store) : BootStep store (booted store) := by
  have prepared := (bootStep_logStep "kernel_boot_start" store).trans
    ((bootStep_countBoot _).trans (bootStep_registerTapes _))
  have flagged : BootStep store
      { registerTapes (countBoot (logStep "kernel_boot_start" store)) with booted := true } :=
    { prepared with }
  exact (flagged.trans (bootStep_remember (by decide) _ _)).trans (bootStep_logStep _ _)

/-! ## What stays as it was -/

theorem find?_countGram {grams : Table Nat} {gram : String} {count : Nat}
    (found : grams.find? gram = some count) (other : String) :
    ∃ more, (countGram grams other).find? gram = some (count + more) := by
  rw [countGram, Table.find?_insert]
  by_cases same : gram = other
  · subst same
    rw [if_pos rfl, found]
    exact ⟨1, rfl⟩
  · rw [if_neg same]
    exact ⟨0, found⟩

/-- Counting grams loses none and lowers no count. -/
theorem find?_foldl_countGram {grams : Table Nat} {gram : String} {count : Nat}
    (found : grams.find? gram = some count) (observed : List String) :
    ∃ more, (observed.foldl countGram grams).find? gram = some (count + more) := by
  induction observed generalizing grams count with
  | nil => exact ⟨0, found⟩
  | cons first rest ih =>
      obtain ⟨once, counted⟩ := find?_countGram found first
      obtain ⟨more, others⟩ := ih counted
      exact ⟨once + more, by rw [List.foldl_cons, others, Nat.add_assoc]⟩

/-- Serving a request under a name may write to this key of the memory. -/
def MayWrite (name : String) (request : Request) (key : String) : Prop :=
  name = "kernel_boot" ∧ key ∈ kernelKeys ∨
    (∃ id, AsksForTape name request id) ∧ key ∈ ["os.active_tape", "tapes.active_id"] ∨
      AsksToStore name request key

/-- What serving a request under a name may change, part by part of the store. -/
structure Framed (name : String) (request : Request) (before after : Store) : Prop where
  manifest : after.manifest = before.manifest
  errors : after.errors = before.errors
  vectors : after.vectors = before.vectors
  traces : after.traces = before.traces ∨
    name = "cms_rlhf_post" ∧ ∃ record, after.traces = before.traces ++ [record]
  ngrams : after.ngrams = before.ngrams ∨
    name = "gram_observe" ∧ ∀ gram count, before.ngrams.find? gram = some count →
      ∃ more, after.ngrams.find? gram = some (count + more)
  booted : after.booted = before.booted ∨ name = "kernel_boot" ∧ after.booted = true
  bootSteps : after.bootSteps = before.bootSteps ∨
    name = "kernel_boot" ∧ before.bootSteps <+: after.bootSteps
  tapes : after.tapes = before.tapes ∨
    name = "kernel_boot" ∧
      ∀ id, before.tapes.contains id = true → after.tapes.contains id = true
  memory : ∀ key, after.memory.find? key ≠ before.memory.find? key → MayWrite name request key

theorem Framed.refl (name : String) (request : Request) (store : Store) :
    Framed name request store store :=
  ⟨rfl, rfl, rfl, .inl rfl, .inl rfl, .inl rfl, .inl rfl, .inl rfl,
    fun _ changed => absurd rfl changed⟩

/-- Writing to one key of the memory. -/
theorem Framed.remember {name : String} {request : Request} {before after : Store}
    (framed : Framed name request before after) {key : String} (may : MayWrite name request key)
    (value : Value) : Framed name request before (after.remember key value) :=
  { framed with
    memory := by
      intro other changed
      by_cases same : other = key
      · exact same ▸ may
      · refine framed.memory other ?_
        rwa [Store.remember, Table.find?_insert_other _ value same] at changed }

theorem Effect.framed {name : String} {request : Request} {before : Store}
    {result : Value × Store} (effect : Effect name request before result) :
    Framed name request before result.2 := by
  have unchanged := Framed.refl name request before
  cases effect with
  | refused => exact unchanged
  | read => exact unchanged
  | booted named =>
      have step := bootStep_booted before
      refine ⟨step.manifest, step.errors, step.vectors, .inl step.traces, .inl step.ngrams,
        .inr ⟨named, rfl⟩, .inr ⟨named, step.bootSteps⟩, .inr ⟨named, step.tapes⟩, ?_⟩
      intro key changed
      exact .inl ⟨named, Decidable.byContradiction fun other => changed (step.memory key other)⟩
  | @activated id asked =>
      exact (unchanged.remember (.inr (.inl ⟨⟨id, asked⟩, by decide⟩)) _).remember
        (.inr (.inl ⟨⟨id, asked⟩, by decide⟩)) _
  | stored asked value => exact unchanged.remember (.inr (.inr asked)) value
  | posted named record => exact { unchanged with traces := .inr ⟨named, record, rfl⟩ }
  | observed named grams =>
      exact { unchanged with
        ngrams := .inr ⟨named, fun gram count found => find?_foldl_countGram found grams⟩ }

end Library

/-- Serving a request by the library always gives a dict that says under `ok` whether it
was met. If it was not met, the machine is as it was. In any case only the store can
change, and in it only what belongs to the name and the request (`Library.Framed`). -/
theorem perform_library (name : String) (request : Request) (machine : Machine)
    (call : String → Dict → Machine → Outcome × Machine) (scope : Nat) :
    ∃ (fields : Dict) (met : Bool) (after : Machine),
      Machine.perform call scope (.answer (Library.serve name request)) machine =
        (.ok (.dict fields), after) ∧
      fields.find? "ok" = some (.bool met) ∧
      (met = false → after = machine) ∧
      after.scopes = machine.scopes ∧
      after.handlers = machine.handlers ∧
      after.output = machine.output ∧
      Library.Framed name request machine.store after.store := by
  have effect := Library.serve_effect name request machine.store
  obtain ⟨fields, met, isDict, found, atomic⟩ := effect.answer
  refine ⟨fields, met, { machine with store := (Library.serve name request machine.store).2 }, ?_,
    found, ?_, rfl, rfl, rfl, effect.framed⟩
  · rw [← isDict]
    rfl
  · intro refused
    rw [atomic refused]

end GlyphScript
