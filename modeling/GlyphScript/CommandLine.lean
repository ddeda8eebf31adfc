import GlyphScript.CommandLine.Options
import GlyphScript.CommandLine.Shell
import GlyphScript.Program.Document

/-!
# The command line

A run reads its source, then lists its tokens, shows its program, or evaluates or
runs it, and at the end it may open a shell.
-/

namespace GlyphScript.CommandLine

def versionText : String := "kuhul 0.1.0\n"

def usageText : String :=
  String.join (List.map (· ++ "\n") [
    "K'UHUL interpreter",
    "",
    "Usage: kuhul [OPTIONS] [FILE]",
    "",
    "Arguments:",
    "  [FILE]  Program file to load and run",
    "",
    "Options:",
    "  -e, --eval <SRC>     Evaluate a source snippet instead of a file",
    "      --tokenize       Print the token stream and exit",
    "      --parse          Print the parsed program and exit",
    "      --json           Pretty-print results as JSON",
    "      --repl           Start an interactive session (after loading FILE, if given)",
    "      --max-depth <N>  Maximum nested dispatch depth (overrides KUHUL_MAX_CALL_DEPTH)",
    "  -h, --help           Print help",
    "  -V, --version        Print version"])

def Refusal.report : Refusal → Report
  | .help => .success (.ofOutput usageText)
  | .version => .success (.ofOutput versionText)
  | .usage error =>
      ⟨2, .ofErrors ("error: " ++ error.message ++
        "\n\nFor more information, try '--help'.\n")⟩

/-- A run is over, or goes on with a shell. -/
inductive Stage where
  | over (report : Report)
  | shell (shell : Shell) (before : Transcript)

/-! ## Steps -/

/-- A line for each token: its place, its kind and its text. -/
def tokenLines (source : String) : String :=
  String.join ((tokenize source.toList).map fun token =>
    toString token.location.line ++ ":" ++ toString token.location.column ++ "\t" ++
      token.kind.description ++ "\t" ++ token.literal ++ "\n")

def parseTrouble (errors : List ParseError) : Report :=
  ⟨1, .ofErrors (String.join (errors.map fun error => "Parse error: " ++ error.display ++ "\n"))⟩

/-- A source with errors is reported error by error. -/
def errorReport : RunError → Report
  | .parse errors => parseTrouble errors
  | error => .failure (.ofMessage error.message)

def parseReport (source : String) : Report :=
  match parse source.toList with
  | ⟨program, []⟩ => .success (.ofValue true program.document)
  | ⟨_, errors⟩ => parseTrouble errors

/-- What is left to do once the source has been dealt with. -/
def proceed (options : Options) (shell : Shell) (written : Transcript) : Stage :=
  if options.repl || options.file.isNone && options.source.isNone then
    .shell shell (written.append (.ofOutput banner))
  else .over (.success written)

/-- Evaluates a source that was given as an option. -/
def evalSource (options : Options) (shell : Shell) (source : String) : Stage :=
  match shell.interpreter.eval source.toList shell.machine with
  | (.ok value, machine) =>
      proceed options { shell with machine := machine } (.ofValue options.json value)
  | (.error error, _) => .over (errorReport error)

/-- Loads the source of a file and, without a shell, runs it. -/
def loadSource (options : Options) (shell : Shell) (source : String) : Stage :=
  match shell.interpreter.load source.toList shell.machine with
  | .error error => .over (errorReport error)
  | .ok (interpreter, machine) =>
      let loaded := { shell with interpreter := interpreter, machine := machine }
      if options.repl then proceed options loaded .empty
      else
        match interpreter.run machine with
        | (.ok value, after) =>
            proceed options { loaded with machine := after } (.ofValue options.json value)
        | (.error error, _) => .over (errorReport error)

/-- Deals with the source of a run, if it has one. -/
def begin (options : Options) (setting : Option String) (source : Option String) : Stage :=
  let limit := options.maxDepth.getD (DepthLimit.ofSetting setting)
  let shell : Shell := ⟨.new limit, .empty, options.json⟩
  match source with
  | none =>
      if options.tokenize then
        .over (.failure (.ofMessage "--tokenize needs a FILE or --eval"))
      else if options.parse then
        .over (.failure (.ofMessage "--parse needs a FILE or --eval"))
      else proceed options shell .empty
  | some source =>
      if options.tokenize then .over (.success (.ofOutput (tokenLines source)))
      else if options.parse then .over (parseReport source)
      else if options.source.isSome then evalSource options shell source
      else loadSource options shell source

/-- Reads the arguments and the source, given how to read files. A source among the
options comes before a file. -/
def start {m : Type → Type} [Monad m] (readFile : String → m (Except ReadError String))
    (setting : Option String) (arguments : List String) : m Stage :=
  match Options.read arguments with
  | .error refusal => pure (.over refusal.report)
  | .ok options =>
      match options.source, options.file with
      | some source, _ => pure (begin options setting (some source))
      | none, none => pure (begin options setting none)
      | none, some path => do
          match ← readFile path with
          | .ok source => pure (begin options setting (some source))
          | .error error => pure (.over (.failure (.reading path error)))

/-- A whole run, on files and input lines that are known beforehand. -/
def run (readFile : String → Except ReadError String) (setting : Option String)
    (lines : List (Except ReadError String)) (arguments : List String) : Report :=
  match Id.run (start (fun path => pure (readFile path)) setting arguments) with
  | .over report => report
  | .shell shell before => shell.converse readFile before lines

/-! ## Texts from bytes -/

def decode (bytes : List UInt8) : Except ReadError String :=
  match String.fromUTF8? (ByteArray.mk bytes.toArray) with
  | some text => .ok text
  | none => .error .notText

/-- The lines of an input, the last of which may lack its end. -/
def inputLines : List UInt8 → List (List UInt8)
  | [] => []
  | byte :: rest =>
      if byte = 10 then [byte] :: inputLines rest
      else
        match inputLines rest with
        | [] => [[byte]]
        | line :: others => (byte :: line) :: others

end GlyphScript.CommandLine
