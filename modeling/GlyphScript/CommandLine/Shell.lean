import GlyphScript.CommandLine.Report
import GlyphScript.Fingerprint
import GlyphScript.Interpreter
import GlyphScript.Json.Reader

/-!
# The shell

The shell reads commands from lines and carries them out with one interpreter. A
command that fails says so, and the shell goes on.
-/

namespace GlyphScript.CommandLine

def banner : String := "K'UHUL 0.1.0 (type 'help' for commands)\n"

def prompt : String := "kuhul> "

def helpText : String :=
  String.join (List.map (· ++ "\n") [
    "Commands:",
    "  help                      show this message",
    "  exit | quit               leave the session",
    "  state                     print the runtime state snapshot",
    "  load <file>               load a program file",
    "  run                       run the loaded program",
    "  dispatch <name> [json]    dispatch a handler with an optional JSON body",
    "  fp <text>                 fingerprint a JSON value (or plain text)",
    "  <source>                  evaluate K'UHUL source"])

def libraryText : String :=
  "Library handlers: " ++ ", ".intercalate (LibraryHandler.all.map LibraryHandler.name) ++ "\n"

/-! ## Commands -/

inductive ShellCommand where
  | blank
  | leave
  | help
  | state
  | load (path : String)
  | run
  | dispatch (handler : String) (body : List Char)
  | fingerprint (text : List Char)
  | eval (source : List Char)

/-- The text before the first space, and the text behind it. -/
def cutAtSpace (line : List Char) : List Char × List Char :=
  (line.takeWhile (· ≠ ' '), (line.dropWhile (· ≠ ' ')).drop 1)

/-- A line that starts with no word of the shell is a source. -/
def ShellCommand.ofLine (text : String) : ShellCommand :=
  let line := Text.trim text.toList
  if line.isEmpty then .blank
  else
    let (word, behind) := cutAtSpace line
    let rest := Text.trim behind
    match String.ofList word with
    | "exit" => .leave
    | "quit" => .leave
    | "help" => .help
    | "state" => .state
    | "load" => .load (String.ofList rest)
    | "run" => .run
    | "dispatch" =>
        let (handler, body) := cutAtSpace rest
        .dispatch (String.ofList handler) (Text.trim body)
    | "fp" => .fingerprint rest
    | _ => .eval line

/-- The body of a dispatch: a JSON object, and the empty one if there is no text. -/
def readBody (text : List Char) : Except Trouble Dict :=
  if text.isEmpty then .ok []
  else
    match Json.read text with
    | .ok (.dict body) => .ok body
    | .ok other => .error (.ofMessage ("body must be a JSON object, got " ++ other.kindName))
    | .error fault => .error ⟨"body is not valid JSON", some (fault.message text)⟩

/-! ## Turns -/

structure Shell where
  interpreter : Interpreter
  machine : Machine
  pretty : Bool

/-- What is written, and the shell that goes on, unless it was left. -/
structure Turn where
  transcript : Transcript
  next : Option Shell

namespace Shell

def showOutcome (shell : Shell) : Outcome → Transcript
  | .ok value => .ofValue shell.pretty value
  | .error error => .ofErrors (Trouble.ofMessage error.message).passing

/-- A turn that changes nothing. -/
def say (shell : Shell) (transcript : Transcript) : Turn :=
  ⟨transcript, some shell⟩

/-- A turn that gives an outcome and may change the machine. -/
def finished (shell : Shell) (result : Outcome × Machine) : Turn :=
  ⟨shell.showOutcome result.1, some { shell with machine := result.2 }⟩

/-- Loads a program from the text of a file. -/
def loadText (shell : Shell) (source : String) : Turn :=
  match shell.interpreter.load source.toList shell.machine with
  | .ok (interpreter, machine) =>
      ⟨shell.showOutcome (.ok (.text "loaded")),
        some { shell with interpreter := interpreter, machine := machine }⟩
  | .error error => shell.say (shell.showOutcome (.error error))

/-- Carries out a command, given how to read files. -/
def obey {m : Type → Type} [Monad m] (readFile : String → m (Except ReadError String))
    (shell : Shell) : ShellCommand → m Turn
  | .blank => pure (shell.say .empty)
  | .leave => pure ⟨.empty, none⟩
  | .help => pure (shell.say (.ofOutput (helpText ++ libraryText)))
  | .state => pure (shell.say (.ofValue shell.pretty shell.machine.snapshot))
  | .load path => do
      match ← readFile path with
      | .ok source => pure (shell.loadText source)
      | .error error => pure (shell.say (.ofErrors (Trouble.reading path error).passing))
  | .run => pure (shell.finished (shell.interpreter.run shell.machine))
  | .dispatch handler text =>
      pure (match readBody text with
        | .ok body =>
            shell.finished (shell.interpreter.dispatch (.withBody handler body) shell.machine)
        | .error trouble => shell.say (.ofErrors trouble.passing))
  | .fingerprint text =>
      let value := (Json.read? text).getD (.text (String.ofList text))
      pure (shell.say (.ofOutput (GlyphScript.fingerprint value ++ "\n")))
  | .eval source => pure (shell.finished (shell.interpreter.eval source shell.machine))

/-- The trouble with a line that is no text, which ends the shell. -/
def lineTrouble (error : ReadError) : Trouble :=
  ⟨"failed to read input", some error.message⟩

/-- A whole session on the lines of an input. -/
def converse (readFile : String → Except ReadError String) (shell : Shell)
    (before : Transcript) : List (Except ReadError String) → Report
  | [] => .success (before.append (.ofOutput prompt))
  | .error error :: _ =>
      ⟨1, (before.append (.ofOutput prompt)).append (.ofErrors (lineTrouble error).final)⟩
  | .ok line :: rest =>
      let turn := Id.run (shell.obey (fun path => pure (readFile path)) (.ofLine line))
      let written := (before.append (.ofOutput prompt)).append turn.transcript
      match turn.next with
      | some next => next.converse readFile written rest
      | none => .success written

end Shell

end GlyphScript.CommandLine
