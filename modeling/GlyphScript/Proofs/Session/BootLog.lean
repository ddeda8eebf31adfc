import GlyphScript.Proofs.Library.Effects
import GlyphScript.Proofs.Session.History

/-!
# The boot log

Each boot of the kernel writes one group of steps to the boot log, and nothing else does.
What stands in a group depends on the manifest that is in force at that boot.

Results:
1. `bootSteps_booted`, `bootGroup_written`: the group that a boot writes.
2. `BootLog.serve`, `Worked.bootLog`, `Stepped.bootLog`, `History.bootLog`: the log through
   a request, the calls of a run, a command and a session.
3. `bootSteps_of_history`: the log of every session.
-/

namespace GlyphScript

/-! ## Groups of steps -/

/-- The step for the tapes of a manifest, if it lists any. -/
def tapesStep (manifest : Dict) : List String :=
  match manifest.find? "tapes" with
  | some (.dict _) => ["tapes_registered"]
  | _ => []

theorem tapesStep_of_listed {manifest tapes : Dict}
    (listed : manifest.find? "tapes" = some (.dict tapes)) :
    tapesStep manifest = ["tapes_registered"] := by
  simp only [tapesStep, listed]

theorem tapesStep_of_unlisted {manifest : Dict}
    (unlisted : ∀ tapes, manifest.find? "tapes" ≠ some (.dict tapes)) :
    tapesStep manifest = [] := by
  unfold tapesStep
  split
  · next tapes listed => exact absurd listed (unlisted tapes)
  · rfl

/-- The steps that a boot logs under a manifest. -/
def bootGroup (manifest : Dict) : List String :=
  ["kernel_boot_start"] ++
    (if manifest = [] then [] else ["manifest_loaded"] ++ tapesStep manifest) ++
      ["kernel_boot_complete"]

/-- The groups of steps that make up a log. -/
inductive IsGroup : List String → Prop
  | bare : IsGroup ["kernel_boot_start", "kernel_boot_complete"]
  | loaded : IsGroup ["kernel_boot_start", "manifest_loaded", "kernel_boot_complete"]
  | taped : IsGroup
      ["kernel_boot_start", "manifest_loaded", "tapes_registered", "kernel_boot_complete"]

/-- The group fits a manifest. -/
structure WrittenUnder (manifest : Dict) (group : List String) : Prop where
  form : IsGroup group
  loaded : "manifest_loaded" ∈ group ↔ manifest ≠ []
  taped : "tapes_registered" ∈ group ↔ ∃ tapes, manifest.find? "tapes" = some (.dict tapes)

theorem bootGroup_written (manifest : Dict) : WrittenUnder manifest (bootGroup manifest) := by
  unfold bootGroup
  by_cases empty : manifest = []
  · subst empty
    exact ⟨.bare, by decide, by simp⟩
  · rw [if_neg empty]
    by_cases listed : ∃ tapes, manifest.find? "tapes" = some (.dict tapes)
    · obtain ⟨tapes, found⟩ := listed
      rw [tapesStep_of_listed found]
      exact ⟨.taped, by simp [empty], by simp [found]⟩
    · rw [tapesStep_of_unlisted fun tapes found => listed ⟨tapes, found⟩]
      exact ⟨.loaded, by simp [empty], by simp [listed]⟩

namespace Library

theorem bootSteps_countBoot (store : Store) :
    (countBoot store).bootSteps =
      store.bootSteps ++ if store.manifest = [] then [] else ["manifest_loaded"] := by
  unfold countBoot
  split
  · rw [List.append_nil]
  · rfl

theorem bootSteps_registerTapes (store : Store) :
    (registerTapes store).bootSteps = store.bootSteps ++ tapesStep store.manifest := by
  unfold registerTapes
  split
  · next tapes listed =>
      rw [tapesStep_of_listed listed]
      rfl
  · next unlisted => rw [tapesStep_of_unlisted unlisted, List.append_nil]

/-- A boot writes one group to the log. -/
theorem bootSteps_booted (store : Store) :
    (booted store).bootSteps = store.bootSteps ++ bootGroup store.manifest := by
  have same : (countBoot (logStep "kernel_boot_start" store)).manifest = store.manifest :=
    (bootStep_countBoot _).manifest
  have prepared : (registerTapes (countBoot (logStep "kernel_boot_start" store))).bootSteps =
      store.bootSteps ++ ["kernel_boot_start"] ++
        (if store.manifest = [] then [] else ["manifest_loaded"]) ++ tapesStep store.manifest := by
    rw [bootSteps_registerTapes, bootSteps_countBoot, same]
    rfl
  show (registerTapes (countBoot (logStep "kernel_boot_start" store))).bootSteps ++
    ["kernel_boot_complete"] = _
  rw [prepared, bootGroup]
  by_cases empty : store.manifest = []
  · simp [empty, tapesStep]
  · simp [empty]

end Library

/-! ## The log -/

/-- The log consists of one group for each manifest, and the flag says if there is any. -/
structure BootLog (manifests : List Dict) (store : Store) : Prop where
  steps : store.bootSteps = manifests.flatMap bootGroup
  flag : store.booted = true ↔ store.bootSteps ≠ []

theorem BootLog.same {manifests : List Dict} {before after : Store}
    (log : BootLog manifests before) (sameSteps : after.bootSteps = before.bootSteps)
    (sameFlag : after.booted = before.booted) : BootLog manifests after := by
  refine ⟨sameSteps.trans log.steps, ?_⟩
  rw [sameFlag, sameSteps]
  exact log.flag

/-- Asked to boot, the library adds a group under the manifest in force. -/
theorem BootLog.boot {manifests : List Dict} {store : Store} (log : BootLog manifests store) :
    BootLog (manifests ++ [store.manifest]) (Library.booted store) := by
  have written := Library.bootSteps_booted store
  refine ⟨?_, ?_⟩
  · rw [written, log.steps, List.flatMap_append, List.flatMap_singleton]
  · rw [written]
    exact ⟨fun _ => by simp [bootGroup], fun _ => rfl⟩

/-- Asked for anything else, it leaves the log as it is. -/
theorem BootLog.serve {manifests : List Dict} {store : Store} (log : BootLog manifests store)
    {name : String} (other : name ≠ "kernel_boot") (request : Request) :
    BootLog manifests (Library.serve name request store).2 := by
  have framed := (Library.serve_effect name request store).framed
  refine log.same ?_ ?_
  · rcases framed.bootSteps with same | ⟨named, _⟩
    · exact same
    · exact absurd named other
  · rcases framed.booted with same | ⟨named, _⟩
    · exact same
    · exact absurd named other

/-- Programs do not write to the log when they are registered. -/
theorem BootLog.registerProgram {manifests : List Dict} {machine : Machine}
    (log : BootLog manifests machine.store) (program : Program) :
    BootLog manifests (machine.registerProgram program).store := by
  obtain ⟨manifest, vectors, same⟩ := machine.redeclared_registerProgram program
  rw [same]
  exact log.same rfl rfl

theorem BootLog.registered {manifests : List Dict} {machine : Machine}
    (log : BootLog manifests machine.store) (outer : OuterCall) :
    BootLog manifests (outer.registered machine).store := by
  rcases outer.registered_eq machine with same | ⟨program, same⟩
  · rw [same]
    exact log
  · rw [same]
    exact log.registerProgram program

/-! ## Boots in a history -/

/-- The call has entered the handler that boots the kernel. -/
def CallTree.boots (tree : CallTree) : Bool :=
  tree.request.isSome && tree.visit.call.handler == "kernel_boot"

/-- The manifests in force at the boots among calls, in order. -/
def bootManifests (trees : List CallTree) : List Dict :=
  ((CallTree.nodesIn trees).filter CallTree.boots).map fun tree =>
    tree.visit.before.store.manifest

theorem bootManifests_nil : bootManifests [] = [] := rfl

theorem bootManifests_append (trees more : List CallTree) :
    bootManifests (trees ++ more) = bootManifests trees ++ bootManifests more := by
  rw [bootManifests, CallTree.nodesIn_append, List.filter_append, List.map_append]
  rfl

/-- A call without further calls counts by itself. -/
theorem bootManifests_cons (visit : Visit) (request : Option Request) (rest : List CallTree) :
    bootManifests (.node visit request [] :: rest) =
      (if CallTree.boots (.node visit request []) then [visit.before.store.manifest] else []) ++
        bootManifests rest := by
  rw [← List.singleton_append, bootManifests_append]
  congr 1
  unfold bootManifests CallTree.nodesIn CallTree.nodes CallTree.nodesIn
  split
  · next boots => rw [List.append_nil, List.filter_cons_of_pos boots]; rfl
  · next other => rw [List.append_nil, List.filter_cons_of_neg other]; rfl

theorem Worked.bootLog {before after : Store} {trees : List CallTree}
    (worked : Worked Eq before trees after) {manifests : List Dict}
    (log : BootLog manifests before) : BootLog (manifests ++ bootManifests trees) after := by
  induction worked generalizing manifests with
  | nothing =>
      rw [bootManifests_nil, List.append_nil]
      exact log
  | failed _ ih =>
      rw [bootManifests_cons]
      exact ih log
  | @answered store _ visit request name rest found fit _ ih =>
      subst found fit
      rw [bootManifests_cons, ← List.append_assoc]
      apply ih
      by_cases booting : visit.call.handler = "kernel_boot"
      · have boots : CallTree.boots (.node visit (some request) []) = true := by
          simp [CallTree.boots, CallTree.request, CallTree.visit, booting]
        rw [if_pos boots, booting]
        exact log.boot
      · have other : ¬ CallTree.boots (.node visit (some request) []) = true := by
          simp [CallTree.boots, CallTree.request, CallTree.visit, booting]
        rw [if_neg other, List.append_nil]
        exact log.serve booting request

namespace Session

theorem Adjusted.bootLog {session after : Session} {command : Command}
    (adjusted : session.Adjusted command after) {manifests : List Dict}
    (log : BootLog manifests session.machine.store) : BootLog manifests after.machine.store := by
  cases adjusted with
  | loaded _ program => exact log.registerProgram program
  | _ => exact log.same rfl rfl

theorem Stepped.bootLog {session after : Session} {command : Command} {trees : List CallTree}
    (stepped : session.Stepped command trees after) (served : session.machine.ServedAs Eq)
    (inside : command.registers = false) {manifests : List Dict}
    (log : BootLog manifests session.machine.store) :
    BootLog (manifests ++ bootManifests trees) after.machine.store := by
  cases stepped with
  | silent nothing =>
      rw [bootManifests_nil, List.append_nil]
      exact (adjusted_step nothing inside).bootLog log
  | started starts recorded =>
      obtain ⟨store, worked, _, left⟩ := recorded.left (fun _ => rfl) served
      have logged := worked.bootLog (log.registered _)
      rcases left with same | ⟨message, same⟩
      · simp only [same]
        exact logged
      · -- The error log is apart from the boot log.
        simp only [same]
        exact logged.same rfl rfl

theorem History.bootLog {session after : Session} {commands : List Command}
    {trees : List CallTree} (history : session.History commands trees after)
    (served : session.machine.ServedAs Eq)
    (inside : ∀ command ∈ commands, command.registers = false) {manifests : List Dict}
    (log : BootLog manifests session.machine.store) :
    BootLog (manifests ++ bootManifests trees) after.machine.store := by
  induction history generalizing manifests with
  | done =>
      rw [bootManifests_nil, List.append_nil]
      exact log
  | next stepped _ ih =>
      -- The groups of the first command come before those of the others.
      obtain ⟨firstInside, restInside⟩ := List.forall_mem_cons.mp inside
      rw [bootManifests_append, ← List.append_assoc]
      exact ih (stepped.served served firstInside) restInside
        (stepped.bootLog served firstInside log)

end Session

/-- Whatever commands a session is given, if none of them registers a handler from outside:
the boot log is made up of one group for each call that boots the kernel, in the order of
these calls, and each group fits the manifest that was in force at its call. The kernel
counts as booted exactly if the log is not empty. -/
theorem bootSteps_of_history (limit : Nat) {commands : List Command}
    (inside : ∀ command ∈ commands, command.registers = false) :
    ∃ calls,
      (Session.start limit).History commands calls ((Session.start limit).after commands) ∧
      (∀ others session, (Session.start limit).History commands others session →
        others = calls ∧ session = (Session.start limit).after commands) ∧
      ((Session.start limit).after commands).machine.store.bootSteps =
        (bootManifests calls).flatMap bootGroup ∧
      (∀ manifest, WrittenUnder manifest (bootGroup manifest)) ∧
      (((Session.start limit).after commands).machine.store.booted = true ↔
        ((Session.start limit).after commands).machine.store.bootSteps ≠ []) := by
  obtain ⟨calls, history⟩ := (Session.start limit).exists_history commands
  have nothing : BootLog [] (Session.start limit).machine.store :=
    ⟨rfl, ⟨nofun, fun logged => absurd rfl logged⟩⟩
  have log := history.bootLog nofun inside nothing
  exact ⟨calls, history, fun others session again => history.unique again, log.steps,
    bootGroup_written, log.flag⟩

/-- A program whose block boots the kernel. -/
def bootingProgram : Program :=
  { Program.empty with
    blocks := [⟨"start", [], [.capabilityBlock ⟨"kernel_boot", none, [], [], ⟨2, 1⟩⟩], none,
      ⟨1, 1⟩⟩]
    capabilityBlocks := [("kernel_boot", ⟨"kernel_boot", none, [], [], ⟨3, 1⟩⟩)] }

/-- A program that only declares a manifest. -/
def declaringProgram (manifest : Dict) : Program :=
  { Program.empty with manifest := some ⟨"site", "1", "", [], [], [], [], [], manifest⟩ }

/-- Boots by a block and from outside, under manifests that change in between. -/
def rebootingCommands : List Command :=
  [.dispatch 0 (.withBody "kernel_boot" []), .loadProgram 0 bootingProgram, .run 0,
    .loadProgram 0 (declaringProgram [("tapes", .null)]),
    .dispatch 0 (.withBody "kernel_boot" []),
    .loadProgram 0 (declaringProgram [("tapes", .dict [])]),
    .dispatch 0 (.withBody "kernel_boot" [])]

/-- The first call finds no handler and logs nothing. Each of the other three adds a group. -/
theorem bootSteps_of_history_rebootingCommands :
    ∃ calls,
      (Session.start 4).History rebootingCommands calls
        ((Session.start 4).after rebootingCommands) ∧
      (bootManifests calls).flatMap bootGroup =
        ["kernel_boot_start", "kernel_boot_complete",
          "kernel_boot_start", "manifest_loaded", "kernel_boot_complete",
          "kernel_boot_start", "manifest_loaded", "tapes_registered", "kernel_boot_complete"] ∧
      ((Session.start 4).after rebootingCommands).machine.store.booted = true := by
  have inside : ∀ command ∈ rebootingCommands, command.registers = false := by
    intro command member
    simp only [rebootingCommands, List.mem_cons, List.not_mem_nil, or_false] at member
    rcases member with rfl | rfl | rfl | rfl | rfl | rfl | rfl <;> rfl
  obtain ⟨calls, history, _, steps, _, flag⟩ := bootSteps_of_history 4 inside
  have logged : ((Session.start 4).after rebootingCommands).machine.store.bootSteps =
      ["kernel_boot_start", "kernel_boot_complete",
        "kernel_boot_start", "manifest_loaded", "kernel_boot_complete",
        "kernel_boot_start", "manifest_loaded", "tapes_registered", "kernel_boot_complete"] :=
    rfl
  refine ⟨calls, history, steps.symm.trans logged, flag.mpr ?_⟩
  rw [logged]
  exact List.cons_ne_nil _ _

end GlyphScript
