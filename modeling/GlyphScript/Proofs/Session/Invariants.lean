import GlyphScript.Proofs.Session.History

/-!
# Properties that sessions keep

A property of the store that every request keeps holds at the end of a session if it holds
at the start. Where only some requests keep it, this is so for the sessions in which no
other request is put to a handler.

Results: `Worked.keeps_property`, `Stepped.keeps_property` and `History.keeps_property`, for
the calls of a run, a command and a session.
-/

namespace GlyphScript

/-- A property of the store is kept by allowed requests. What a session writes on its own
account keeps it too, except for some keys of the memory. -/
structure Kept (allowed : String → Request → Prop) (keys : List String) (holds : Store → Prop) :
    Prop where
  serve : ∀ {name request store}, allowed name request → holds store →
    holds (Library.serve name request store).2
  remember : ∀ {key store}, key ∉ keys → ∀ value, holds store → holds (store.remember key value)
  apart : ∀ {store} manifest errors vectors, holds store →
    holds { store with manifest := manifest, errors := errors, vectors := vectors }

/-- Every request that calls have put to a handler is allowed. -/
def AllAllowed (allowed : String → Request → Prop) (trees : List CallTree) : Prop :=
  ∀ tree ∈ CallTree.nodesIn trees, ∀ request ∈ tree.request, allowed tree.visit.call.handler request

/-- The command neither registers a handler from outside nor writes to these keys of the
memory. -/
def Command.SparesKeys (keys : List String) : Command → Prop
  | .register _ _ => False
  | .remember key _ => key ∉ keys
  | _ => True

theorem Command.SparesKeys.inside {keys : List String} {command : Command}
    (spares : command.SparesKeys keys) : command.registers = false := by
  cases command with
  | register => cases spares
  | _ => rfl

section

variable {allowed : String → Request → Prop} {keys : List String} {holds : Store → Prop}

theorem AllAllowed.append {trees more : List CallTree} (all : AllAllowed allowed (trees ++ more)) :
    AllAllowed allowed trees ∧ AllAllowed allowed more := by
  rw [AllAllowed, CallTree.nodesIn_append] at all
  exact List.forall_mem_append.mp all

theorem AllAllowed.cons {visit : Visit} {request : Option Request} {rest : List CallTree}
    (all : AllAllowed allowed (.node visit request [] :: rest)) :
    (∀ asked ∈ request, allowed visit.call.handler asked) ∧ AllAllowed allowed rest :=
  List.forall_mem_cons.mp all

theorem Worked.keeps_property (kept : Kept allowed keys holds) {before after : Store}
    {trees : List CallTree} (worked : Worked Eq before trees after)
    (all : AllAllowed allowed trees) (held : holds before) : holds after := by
  induction worked with
  | nothing => exact held
  | failed _ ih => exact ih all.cons.2 held
  | answered _ fit _ ih =>
      subst fit
      obtain ⟨first, rest⟩ := all.cons
      exact ih rest (kept.serve (first _ rfl) held)

theorem Kept.registerProgram (kept : Kept allowed keys holds) {machine : Machine}
    (held : holds machine.store) (program : Program) :
    holds (machine.registerProgram program).store := by
  obtain ⟨manifest, vectors, same⟩ := machine.redeclared_registerProgram program
  rw [same]
  exact kept.apart manifest machine.store.errors vectors held

theorem Kept.registered (kept : Kept allowed keys holds) {machine : Machine}
    (held : holds machine.store) (outer : OuterCall) : holds (outer.registered machine).store := by
  rcases outer.registered_eq machine with same | ⟨program, same⟩
  · rw [same]
    exact held
  · rw [same]
    exact kept.registerProgram held program

theorem Kept.logError (kept : Kept allowed keys holds) {store : Store} (held : holds store)
    (message : String) : holds (store.logError message) :=
  kept.apart store.manifest (store.errors ++ [message]) store.vectors held

namespace Session

theorem Adjusted.keeps_property (kept : Kept allowed keys holds) {session after : Session}
    {command : Command} (adjusted : session.Adjusted command after)
    (spares : command.SparesKeys keys) (held : holds session.machine.store) :
    holds after.machine.store := by
  cases adjusted with
  | same => exact held
  | spawned => exact held
  | bound => exact held
  | loaded _ program => exact kept.registerProgram held program
  | vector => exact kept.apart _ _ _ held
  | remembered => exact kept.remember spares _ held
  | logged => exact kept.logError held _

theorem Stepped.keeps_property (kept : Kept allowed keys holds) {session after : Session}
    {command : Command} {trees : List CallTree} (stepped : session.Stepped command trees after)
    (served : session.machine.ServedAs Eq) (spares : command.SparesKeys keys)
    (all : AllAllowed allowed trees) (held : holds session.machine.store) :
    holds after.machine.store := by
  cases stepped with
  | silent nothing => exact (adjusted_step nothing spares.inside).keeps_property kept spares held
  | started _ recorded =>
      obtain ⟨store, worked, _, left⟩ := recorded.left (fun _ => rfl) served
      have good := worked.keeps_property kept all (kept.registered held _)
      rcases left with same | ⟨message, same⟩
      · simp only [same]
        exact good
      · simp only [same]
        exact kept.logError good message

theorem History.keeps_property (kept : Kept allowed keys holds) {session after : Session}
    {commands : List Command} {trees : List CallTree}
    (history : session.History commands trees after) (served : session.machine.ServedAs Eq)
    (spares : ∀ command ∈ commands, command.SparesKeys keys) (all : AllAllowed allowed trees)
    (held : holds session.machine.store) : holds after.machine.store := by
  induction history with
  | done => exact held
  | next stepped _ ih =>
      obtain ⟨firstSpares, restSpares⟩ := List.forall_mem_cons.mp spares
      obtain ⟨firstAllowed, restAllowed⟩ := all.append
      exact ih (stepped.served served firstSpares.inside) restSpares restAllowed
        (stepped.keeps_property kept served firstSpares firstAllowed held)

end Session

end

end GlyphScript
