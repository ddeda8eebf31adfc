import GlyphScript.Library.Kernel
import GlyphScript.Library.Memory
import GlyphScript.Text.Blank

/-!
# The command language

A command is a line of words. Its first word says what to do; most commands do
what another handler of the library does.
-/

namespace GlyphScript.Library

/-- A tape by its id, with its label and its role if it has them. -/
def tapeEntry (id : String) (tape : Value) : Value :=
  let described := ["label", "role"].filterMap fun key => (tape.field? key).map (key, ·)
  .record (("id", .text id) :: described)

def listTapes (store : Store) : Value × Store :=
  (success [("tapes", .list (store.tapes.map fun (id, tape) => tapeEntry id tape))], store)

def health (store : Store) : Value × Store :=
  (success [("kernel", .text kernelId), ("booted", .bool store.booted),
    ("ram_keys", .ofNat store.memory.length), ("tapes", .ofNat store.tapes.length)], store)

/-- Carries out a command that is cut into words. -/
def runWords (words : List String) (store : Store) : Value × Store :=
  match words with
  | [] => (failure "No command provided", store)
  | "tapes.list" :: _ => listTapes store
  | "tapes.boot" :: id :: _ => bootTape id store
  | ["tapes.boot"] => (failure "No tape_id provided", store)
  | "ram.get" :: key :: _ => recallKey key store
  | ["ram.get"] => (failure "No key provided", store)
  | "ram.set" :: key :: first :: others =>
      storeKey key (.text (" ".intercalate (first :: others))) store
  | "ram.set" :: _ => (failure "Key and value required", store)
  | "ram.list" :: _ => listMemory store
  | "health" :: _ => health store
  | other :: _ => (failure ("Unknown command: " ++ other), store)

def commandWords (command : String) : List String :=
  (Text.words command.toList).map String.ofList

def runCommand (command : String) (store : Store) : Value × Store :=
  runWords (commandWords command) store

end GlyphScript.Library
