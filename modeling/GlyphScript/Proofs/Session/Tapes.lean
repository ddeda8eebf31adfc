import GlyphScript.Proofs.Library.Effects
import GlyphScript.Proofs.Session.Invariants
import GlyphScript.Proofs.Session.Requests

/-!
# The active tape

Two keys of the memory name the active tape. Booting a tape writes both of them, and only
for a tape that is registered. Tapes are registered by booting the kernel, and none is ever
taken away. So the two keys name the same registered tape, unless a request writes to one
of them directly.

Results:
1. `ActiveTape.serve`, `contains_tapes_serve`: what a request does to the active tape and
   to the registered ones.
2. `tapes_of_history`: the active tape and the registered tapes of every session.
-/

namespace GlyphScript

/-! ## The keys of the active tape -/

/-- Either no tape is active, or two keys of the memory name the same tape, and that tape is
registered. -/
inductive ActiveTape (store : Store) : Prop
  | absent (noTape : store.memory.find? "os.active_tape" = none)
      (noId : store.memory.find? "tapes.active_id" = none)
  | present {id : String} (tape : store.memory.find? "os.active_tape" = some (.text id))
      (activeId : store.memory.find? "tapes.active_id" = some (.text id))
      (registered : store.tapes.contains id = true)

namespace Library

/-- The keys of the memory that name the active tape. -/
def activeKeys : List String :=
  ["os.active_tape", "tapes.active_id"]

/-- The request does not ask to write to a key of the active tape. -/
def SparesActive (name : String) (request : Request) : Prop :=
  ∀ key ∈ activeKeys, ¬ AsksToStore name request key

end Library

open Library

/-- As long as the two keys stay as they are, further tapes make no difference. -/
theorem ActiveTape.of_same {before after : Store} (active : ActiveTape before)
    (memory : ∀ key ∈ activeKeys, after.memory.find? key = before.memory.find? key)
    (tapes : ∀ id, before.tapes.contains id = true → after.tapes.contains id = true) :
    ActiveTape after := by
  have sameTape := memory "os.active_tape" (by decide)
  have sameId := memory "tapes.active_id" (by decide)
  cases active with
  | absent noTape noId => exact .absent (sameTape.trans noTape) (sameId.trans noId)
  | present tape activeId registered =>
      exact .present (sameTape.trans tape) (sameId.trans activeId) (tapes _ registered)

theorem ActiveTape.remember {key : String} {store : Store} (other : key ∉ activeKeys)
    (value : Value) (active : ActiveTape store) : ActiveTape (store.remember key value) := by
  refine active.of_same ?_ fun _ => id
  intro activeKey member
  exact Table.find?_insert_other _ value fun same => other (same ▸ member)

theorem activeTape_activated {id : String} {store : Store}
    (registered : store.tapes.contains id = true) :
    ActiveTape ((store.remember "os.active_tape" (.text id)).remember "tapes.active_id"
      (.text id)) := by
  refine .present ?_ (Table.find?_insert_self _ _ _) registered
  rw [Store.remember, Table.find?_insert_other _ _ (by decide)]
  exact Table.find?_insert_self _ _ _

theorem ActiveTape.serve {name : String} {request : Request} {store : Store}
    (spares : SparesActive name request) (active : ActiveTape store) :
    ActiveTape (Library.serve name request store).2 := by
  have effect := serve_effect name request store
  generalize Library.serve name request store = result at effect
  cases effect with
  | refused => exact active
  | read => exact active
  | booted =>
      -- The kernel writes to keys of its own.
      have step := bootStep_booted store
      have disjoint : ∀ key ∈ activeKeys, key ∉ kernelKeys := by decide
      exact active.of_same (fun key member => step.memory key (disjoint key member)) step.tapes
  | activated _ registered => exact activeTape_activated registered
  | stored asked value =>
      exact active.remember (fun member => spares _ member asked) value
  | posted => exact active.of_same (fun _ _ => rfl) fun _ => id
  | observed => exact active.of_same (fun _ _ => rfl) fun _ => id

theorem kept_activeTape : Kept SparesActive activeKeys ActiveTape where
  serve := ActiveTape.serve
  remember other value active := active.remember other value
  apart _ _ _ active := active.of_same (fun _ _ => rfl) fun _ => id

/-! ## The registered tapes -/

theorem contains_tapes_serve (name : String) (request : Request) {store : Store} {id : String}
    (registered : store.tapes.contains id = true) :
    (Library.serve name request store).2.tapes.contains id = true := by
  rcases (serve_effect name request store).framed.tapes with same | ⟨_, growing⟩
  · rw [same]
    exact registered
  · exact growing id registered

theorem kept_registeredTape (id : String) :
    Kept (fun _ _ => True) [] fun store => store.tapes.contains id = true where
  serve _ registered := contains_tapes_serve _ _ registered
  remember _ _ registered := registered
  apart _ _ _ registered := registered

theorem Command.sparesKeys_nil {command : Command} (inside : command.registers = false) :
    command.SparesKeys [] := by
  cases command with
  | register => cases inside
  | remember => exact List.not_mem_nil
  | _ => trivial

theorem Session.contains_tapes_after {session : Session} (served : session.machine.ServedAs Eq)
    {commands : List Command} (inside : ∀ command ∈ commands, command.registers = false)
    {id : String} (registered : session.machine.store.tapes.contains id = true) :
    (session.after commands).machine.store.tapes.contains id = true := by
  obtain ⟨calls, history⟩ := session.exists_history commands
  exact history.keeps_property (kept_registeredTape id) served
    (fun command member => Command.sparesKeys_nil (inside command member))
    (fun _ _ _ _ => trivial) registered

/-- Whatever commands a session is given, if none of them registers a handler from outside:
as long as neither a command nor a request writes to the keys of the active tape, these keys
are both absent or both hold the name of one and the same registered tape. A tape that is
registered at some point is still registered at the end. -/
theorem tapes_of_history (limit : Nat) {commands : List Command}
    (inside : ∀ command ∈ commands, command.registers = false) :
    (∀ calls session, (Session.start limit).History commands calls session →
      (∀ command ∈ commands, command.SparesKeys ["os.active_tape", "tapes.active_id"]) →
      (∀ tree ∈ CallTree.nodesIn calls, ∀ request ∈ tree.request,
        ∀ key ∈ ["os.active_tape", "tapes.active_id"],
          ¬ AsksToStore tree.visit.call.handler request key) →
      ActiveTape session.machine.store) ∧
    ∀ earlier later, commands = earlier ++ later → ∀ id,
      ((Session.start limit).after earlier).machine.store.tapes.contains id = true →
      ((Session.start limit).after commands).machine.store.tapes.contains id = true := by
  constructor
  · intro calls session history spares unwritten
    exact history.keeps_property kept_activeTape nofun spares unwritten (.absent rfl rfl)
  · rintro earlier later rfl id registered
    obtain ⟨earlierInside, laterInside⟩ := List.forall_mem_append.mp inside
    obtain ⟨calls, history⟩ := (Session.start limit).exists_history earlier
    rw [Session.after, List.foldl_append]
    exact Session.contains_tapes_after (history.served nofun earlierInside) laterInside registered

/-- A program with capabilities for tapes and memory, whose manifest lists two tapes. -/
def tapingProgram : Program :=
  { Program.empty with
    manifest := some (.ofDict [("tapes", .dict [("main", .text "first"), ("spare", .null)])])
    capabilityBlocks := ["basher_run", "kernel_boot", "ram_set", "tape_boot"].map fun name =>
      (name, ⟨name, none, [], [], ⟨1, 1⟩⟩) }

/-- Registers the tapes, boots one of them, writes to another key, and asks for a tape that
is not there. -/
def tapeCalls : List Call :=
  [.withBody "kernel_boot" [], .withBody "tape_boot" [("tape_id", .text "main")],
    .withBody "ram_set" [("key", .text "os.tape"), ("value", .text "none")],
    .withBody "basher_run" [("command", .text "tapes.boot gone")]]

/-- Boots the kernel under a manifest without tapes. -/
def untapingCommands : List Command :=
  [.loadProgram 0 { Program.empty with manifest := some (.ofDict [("tapes", .dict [])]) },
    .dispatch 0 (.withBody "kernel_boot" [])]

theorem tapeCalls_spare {calls : List CallTree}
    (asked : ∀ name, bodiesTo name calls =
      (tapeCalls.filter fun call => call.handler = name).map Call.body) :
    AllAllowed SparesActive calls := by
  intro tree member request entered key isKey asks
  have body : request.body ∈ bodiesTo tree.visit.call.handler calls := by
    refine List.mem_map_of_mem (List.mem_filterMap.mpr ⟨tree, member, ?_⟩)
    rw [if_pos rfl]
    exact entered
  rw [asked] at body
  cases asks with
  | direct named given =>
      rw [named] at body
      have here : request.body = [("key", .text "os.tape"), ("value", .text "none")] :=
        List.mem_singleton.mp body
      rw [Request.argText?, Request.arg?, here] at given
      have same : "os.tape" = key := Option.some.inj given
      subst same
      revert isKey
      decide
  | @command named first others words =>
      rw [named] at body
      have here : request.body = [("command", .text "tapes.boot gone")] :=
        List.mem_singleton.mp body
      rw [requestedWords, Request.argText?, Request.arg?, here] at words
      have split : commandWords "tapes.boot gone" = "ram.set" :: key :: first :: others := words
      rw [show commandWords "tapes.boot gone" = ["tapes.boot", "gone"] by decide +kernel] at split
      exact absurd (List.cons.inj split).1 (by decide)

/-- The tape that was booted stays active and registered under the other manifest. -/
theorem tapes_of_history_untaping :
    let booted := Session.callingCommands tapingProgram tapeCalls
    ActiveTape ((Session.start 4).after booted).machine.store ∧
      (((Session.start 4).after booted).machine.store.memory.find? "os.active_tape").bind
        Value.text? = some "main" ∧
      ((Session.start 4).after (booted ++ untapingCommands)).machine.store.tapes.contains "main" =
        true := by
  have bootedInside := Session.callingCommands_inside tapingProgram tapeCalls
  have laterInside : ∀ command ∈ untapingCommands, command.registers = false := by
    intro command member
    simp only [untapingCommands, List.mem_cons, List.not_mem_nil, or_false] at member
    rcases member with rfl | rfl <;> rfl
  have spares : ∀ command ∈ Session.callingCommands tapingProgram tapeCalls,
      command.SparesKeys activeKeys := by
    intro command member
    rcases List.mem_cons.mp member with rfl | later
    · trivial
    · obtain ⟨call, _, rfl⟩ := List.mem_map.mp later
      trivial
  obtain ⟨calls, session, history, asked⟩ :=
    Session.exists_history_calling 4 (by decide) tapingProgram tapeCalls (by decide +kernel)
  obtain ⟨_, recorded⟩ := (Session.start 4).exists_history
    (Session.callingCommands tapingProgram tapeCalls)
  obtain ⟨rfl, rfl⟩ := recorded.unique history
  refine ⟨?_, by decide +kernel, ?_⟩
  · exact (tapes_of_history 4 bootedInside).1 _ _ history spares (tapeCalls_spare asked)
  · exact (tapes_of_history 4 (List.forall_mem_append.mpr ⟨bootedInside, laterInside⟩)).2
      _ _ rfl "main" (by decide +kernel)

end GlyphScript
