import GlyphScript.CommandLine.DepthLimit

/-!
# Options of the command line

Arguments are read from left to right. An argument with a dash in front is a flag,
unless it is a single dash or stands behind `--`; any other is the value of the flag
before it, if that one still needs a value, and else the file. The value of a flag
may also be written in the same argument.
-/

namespace GlyphScript.CommandLine

inductive Flag where
  | eval
  | maxDepth
  | tokenize
  | parse
  | json
  | repl
  | help
  | version
deriving DecidableEq, Repr

namespace Flag

def all : List Flag :=
  [eval, maxDepth, tokenize, parse, json, repl, help, version]

def name : Flag → String
  | eval => "eval"
  | maxDepth => "max-depth"
  | tokenize => "tokenize"
  | parse => "parse"
  | json => "json"
  | repl => "repl"
  | help => "help"
  | version => "version"

def ofName? (name : String) : Option Flag :=
  all.find? fun flag => flag.name == name

/-- Some flags have a letter too. -/
def ofLetter? : Char → Option Flag
  | 'e' => some eval
  | 'h' => some help
  | 'V' => some version
  | _ => none

def takesValue : Flag → Bool
  | eval => true
  | maxDepth => true
  | _ => false

end Flag

structure Options where
  file : Option String
  /-- A source to evaluate instead of a file. -/
  source : Option String
  maxDepth : Option Nat
  tokenize : Bool
  parse : Bool
  json : Bool
  repl : Bool

def Options.none : Options :=
  ⟨.none, .none, .none, false, false, false, false⟩

inductive UsageError where
  | unexpected (argument : String)
  | missingValue (flag : Flag)
  | unneededValue (flag : Flag) (value : String)
  | invalidValue (value : String)
  | repeated (flag : Flag)

namespace UsageError

def message : UsageError → String
  | unexpected argument => "unexpected argument '" ++ argument ++ "' found"
  | missingValue flag => "a value is required for '--" ++ flag.name ++ "' but none was supplied"
  | unneededValue flag value =>
      "unexpected value '" ++ value ++ "' for '--" ++ flag.name ++ "' found; no more were expected"
  | invalidValue value => "invalid value '" ++ value ++ "'"
  | repeated flag => "the argument '--" ++ flag.name ++ "' cannot be used multiple times"

end UsageError

/-- Why arguments give no options. -/
inductive Refusal where
  | help
  | version
  | usage (error : UsageError)

/-! ## Single arguments -/

inductive Argument where
  /-- Behind it stand no more flags. -/
  | divider
  | long (name : String) (value : Option String)
  | short (letter : Char) (others : List Char)
  | plain (text : String)

def Argument.ofText (text : String) : Argument :=
  match text.toList with
  | ['-', '-'] => .divider
  | '-' :: '-' :: rest =>
      match rest.dropWhile (· ≠ '=') with
      | [] => .long (String.ofList rest) .none
      | _ :: value => .long (String.ofList (rest.takeWhile (· ≠ '='))) (some (String.ofList value))
  | '-' :: letter :: others => .short letter others
  | _ => .plain text

/-! ## All arguments -/

/-- The options so far, the flag that needs a value, and whether the divider was
read. -/
structure Reading where
  options : Options
  pending : Option Flag
  divided : Bool

namespace Reading

def start : Reading :=
  ⟨.none, none, false⟩

/-- Gives a flag that takes a value its value. -/
def setValue (reading : Reading) (flag : Flag) (value : String) : Except Refusal Reading :=
  let options := reading.options
  match flag with
  | .eval =>
      if options.source.isSome then .error (.usage (.repeated flag))
      else .ok { reading with options := { options with source := some value }, pending := none }
  | .maxDepth =>
      if options.maxDepth.isSome then .error (.usage (.repeated flag))
      else
        match DepthLimit.readCount? value.toList with
        | some depth =>
            .ok { reading with options := { options with maxDepth := some depth }, pending := none }
        | none => .error (.usage (.invalidValue value))
  | _ => .error (.usage (.unneededValue flag value))

/-- Sets a flag that takes no value. -/
def setFlag (reading : Reading) (flag : Flag) : Except Refusal Reading :=
  let options := reading.options
  let once (given : Bool) (changed : Options) : Except Refusal Reading :=
    if given then .error (.usage (.repeated flag)) else .ok { reading with options := changed }
  match flag with
  | .tokenize => once options.tokenize { options with tokenize := true }
  | .parse => once options.parse { options with parse := true }
  | .json => once options.json { options with json := true }
  | .repl => once options.repl { options with repl := true }
  | .help => .error .help
  | .version => .error .version
  | .eval => .ok { reading with pending := some flag }
  | .maxDepth => .ok { reading with pending := some flag }

/-- A flag with the value that is written beside it, if any. -/
def addFlag (reading : Reading) (flag : Flag) (value : Option String) : Except Refusal Reading :=
  match value with
  | some value => reading.setValue flag value
  | none => reading.setFlag flag

def setFile (reading : Reading) (file : String) : Except Refusal Reading :=
  if reading.options.file.isSome then .error (.usage (.unexpected file))
  else if file == "" then .error (.usage (.invalidValue file))
  else .ok { reading with options := { reading.options with file := some file } }

/-- The value written behind a letter, with or without an equals sign. -/
def attached? : List Char → Option String
  | [] => none
  | '=' :: value => some (String.ofList value)
  | value => some (String.ofList value)

def add (reading : Reading) (text : String) : Except Refusal Reading :=
  if reading.divided then reading.setFile text
  else
    match Argument.ofText text, reading.pending with
    | .plain value, some flag => reading.setValue flag value
    | .plain file, none => reading.setFile file
    | _, some flag => .error (.usage (.missingValue flag))
    | .divider, none => .ok { reading with divided := true }
    | .long name value, none =>
        match Flag.ofName? name with
        | some flag => reading.addFlag flag value
        | none => .error (.usage (.unexpected text))
    | .short letter others, none =>
        match Flag.ofLetter? letter with
        | some flag =>
            if flag.takesValue then reading.addFlag flag (attached? others)
            else reading.setFlag flag
        | none => .error (.usage (.unexpected text))

def finish (reading : Reading) : Except Refusal Options :=
  match reading.pending with
  | some flag => .error (.usage (.missingValue flag))
  | none => .ok reading.options

end Reading

def Options.read (arguments : List String) : Except Refusal Options :=
  match arguments.foldlM Reading.add Reading.start with
  | .ok reading => reading.finish
  | .error refusal => .error refusal

end GlyphScript.CommandLine
