import GlyphScript.Proofs.Library.Effects
import GlyphScript.Proofs.Text.Words

/-!
# Commands and the handlers they stand for

A command is cut at blanks, and some commands stand for a request to another handler of
the library. Such a command is answered as that request is, and leaves the same store.
All other commands leave the store as it is.

Results:
1. `serve_command`, `requestedWords_eq`: how a request is answered depends on the words of
   its command.
2. `runWords_of_standsFor`, `runWords_of_standsForNothing`: what words stand for.
3. `command_agrees`: commands and the requests they stand for.
-/

namespace GlyphScript

/-! ## Commands -/

/-- The text of the command in a request. -/
def Request.command (request : Request) : String :=
  ((request.arg? "command").map Value.toText).getD ""

/-- The command of a request is made of these words. -/
def Request.HasWords (request : Request) (words : List String) : Prop :=
  Text.Spaced request.command.toList (words.map String.toList)

namespace Library

/-- What a command stands for: a handler, and the body of the request to it. -/
inductive StandsFor : List String → String → Dict → Prop
  | fetch {key : String} {others : List String} :
      StandsFor ("ram.get" :: key :: others) "ram_get" [("key", .text key)]
  | fetchNothing : StandsFor ["ram.get"] "ram_get" []
  | store {key first : String} {others : List String} :
      StandsFor ("ram.set" :: key :: first :: others) "ram_set"
        [("key", .text key), ("value", .text (" ".intercalate (first :: others)))]
  | list {others : List String} : StandsFor ("ram.list" :: others) "ram_list" []
  | boot {id : String} {others : List String} :
      StandsFor ("tapes.boot" :: id :: others) "tape_boot" [("tape_id", .text id)]

theorem commandWords_eq {text : String} {words : List String}
    (spaced : Text.Spaced text.toList (words.map String.toList)) : commandWords text = words := by
  rw [commandWords, spaced.words_eq, List.map_map]
  simp

theorem commandWords_empty : commandWords "" = [] :=
  commandWords_eq (.blank nofun)

/-- A request without a command has no words. -/
theorem requestedWords_eq (request : Request) :
    requestedWords request = commandWords request.command := by
  unfold requestedWords Request.argText? Request.command
  cases (request.arg? "command").map Value.toText with
  | none => exact commandWords_empty.symm
  | some text =>
      by_cases empty : text = ""
      · subst empty
        exact commandWords_empty.symm
      · rw [Option.filter_some, if_pos (decide_eq_true empty)]
        rfl

theorem serve_command (request : Request) (store : Store) :
    Library.serve "basher_run" request store = runWords (requestedWords request) store := by
  show LibraryHandler.withText request "command" "No command provided" runCommand store = _
  unfold LibraryHandler.withText requestedWords
  split
  · next text given => rw [given]; rfl
  · next missing => rw [missing]; rfl

/-! ## Requests that commands stand for -/

/-- A request with nothing but a body. -/
def bodyRequest (name : String) (body : Dict) (depth : Nat) : Request :=
  ⟨name, [], body, [], depth⟩

/-- A text in the body is what the handler is given. -/
theorem withText_of_body {name key text : String} {body : Dict}
    (given : body.find? key = some (.text text)) (nonempty : text ≠ "") (depth : Nat)
    (missing : String) (serve : String → Store → Value × Store) (store : Store) :
    LibraryHandler.withText (bodyRequest name body depth) key missing serve store =
      serve text store := by
  have found : (bodyRequest name body depth).argText? key = some text := by
    unfold Request.argText? Request.arg? bodyRequest
    rw [given]
    show Option.filter (· ≠ "") (some text) = some text
    rw [Option.filter_some, if_pos (decide_eq_true nonempty)]
  rw [LibraryHandler.withText, found]

theorem runWords_of_standsFor {words : List String} {name : String} {body : Dict}
    (stands : StandsFor words name body) (nonempty : ∀ word ∈ words, word ≠ "") (depth : Nat)
    (store : Store) :
    runWords words store = Library.serve name (bodyRequest name body depth) store := by
  cases stands with
  | fetch => exact (withText_of_body rfl (nonempty _ (by simp)) depth _ recallKey store).symm
  | fetchNothing => rfl
  | store => exact (withText_of_body rfl (nonempty _ (by simp)) depth _ (storeKey · _) store).symm
  | list => rfl
  | boot => exact (withText_of_body rfl (nonempty _ (by simp)) depth _ bootTape store).symm

/-- Commands that stand for nothing only read the store. -/
theorem runWords_of_standsForNothing {words : List String}
    (nothing : ∀ name body, ¬ StandsFor words name body) (store : Store) :
    (runWords words store).2 = store := by
  unfold runWords
  split
  · rfl
  · rfl
  · exact absurd .boot (nothing _ _)
  · rfl
  · exact absurd .fetch (nothing _ _)
  · rfl
  · exact absurd .store (nothing _ _)
  · rfl
  · rfl
  · rfl
  · rfl

theorem hasWords_commandWords (request : Request) :
    request.HasWords (commandWords request.command) := by
  have spaced := Text.spaced_words request.command.toList
  unfold Request.HasWords commandWords
  rw [List.map_map]
  simpa using spaced

/-- Every command is made of words in exactly one way. On every store, a command that stands
for a request to another handler is answered as that request is and leaves the same store,
and any other command leaves the store as it is. -/
theorem command_agrees (request : Request) :
    ∃ words, request.HasWords words ∧
      (∀ others, request.HasWords others → others = words) ∧
      (∀ name body store, StandsFor words name body →
        Library.serve "basher_run" request store =
          Library.serve name (bodyRequest name body request.depth) store) ∧
      ((∀ name body, ¬ StandsFor words name body) →
        ∀ store, (Library.serve "basher_run" request store).2 = store) := by
  have hasWords := hasWords_commandWords request
  have nonempty : ∀ word ∈ commandWords request.command, word ≠ "" := by
    intro word member empty
    subst empty
    exact Text.Spaced.nonempty hasWords _ (List.mem_map_of_mem member) rfl
  refine ⟨_, hasWords, ?_, ?_, ?_⟩
  · intro others again
    rw [← commandWords_eq again]
  · intro name body store stands
    rw [serve_command, requestedWords_eq]
    exact runWords_of_standsFor stands nonempty request.depth store
  · intro nothing store
    rw [serve_command, requestedWords_eq]
    exact runWords_of_standsForNothing nothing store

end Library

end GlyphScript
