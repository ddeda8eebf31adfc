import GlyphScript.Json.Writer

/-!
# What the command line writes
-/

namespace GlyphScript.CommandLine

/-- Why a text cannot be read. -/
inductive ReadError where
  | missing
  | denied
  | directory
  | notText
  | other (cause : String)

def ReadError.message : ReadError → String
  | missing => "No such file or directory (os error 2)"
  | denied => "Permission denied (os error 13)"
  | directory => "Is a directory (os error 21)"
  | notText => "stream did not contain valid UTF-8"
  | other cause => cause

/-- What is wrong, and what it comes from. -/
structure Trouble where
  message : String
  cause : Option String

namespace Trouble

def ofMessage (message : String) : Trouble :=
  ⟨message, none⟩

def reading (path : String) (error : ReadError) : Trouble :=
  ⟨"failed to read " ++ path, some error.message⟩

/-- The text of a trouble that ends the program. -/
def final (trouble : Trouble) : String :=
  let cause := match trouble.cause with
    | some cause => "\nCaused by:\n    " ++ cause ++ "\n"
    | none => ""
  "Error: " ++ trouble.message ++ "\n" ++ cause

/-- The text of a trouble that only ends a turn of the shell. -/
def passing (trouble : Trouble) : String :=
  let cause := match trouble.cause with
    | some cause => ": " ++ cause
    | none => ""
  "Error: " ++ trouble.message ++ cause ++ "\n"

end Trouble

/-- What goes to the two outputs. -/
structure Transcript where
  output : String
  errors : String

namespace Transcript

def empty : Transcript :=
  ⟨"", ""⟩

def ofOutput (text : String) : Transcript :=
  ⟨text, ""⟩

def ofErrors (text : String) : Transcript :=
  ⟨"", text⟩

def append (first second : Transcript) : Transcript :=
  ⟨first.output ++ second.output, first.errors ++ second.errors⟩

/-- A value on lines of its own. -/
def ofValue (pretty : Bool) (value : Value) : Transcript :=
  ofOutput ((if pretty then String.ofList (Json.pretty value) else value.display) ++ "\n")

end Transcript

/-- The end of a run: its exit code and all that it wrote. -/
structure Report where
  exitCode : Nat
  transcript : Transcript

def Report.success (transcript : Transcript) : Report :=
  ⟨0, transcript⟩

def Report.failure (trouble : Trouble) : Report :=
  ⟨1, .ofErrors trouble.final⟩

end GlyphScript.CommandLine
