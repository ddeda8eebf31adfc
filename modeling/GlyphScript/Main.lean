import GlyphScript.CommandLine

/-!
# The program

Carries out runs of the command line on the files, the environment and the
standard streams of the process.
-/

namespace GlyphScript.CommandLine

def loadFile (path : String) : IO (Except ReadError String) := do
  try
    let bytes ← IO.FS.readBinFile path
    return decode bytes.toList
  catch error =>
    match error with
    | .noFileOrDirectory .. => return .error .missing
    | .permissionDenied .. => return .error .denied
    | .inappropriateType .. => return .error .directory
    | other => return .error (.other (toString other))

/-- Reads up to the next end of line, or to the end of the input. -/
partial def loadLine (input : IO.FS.Stream) (line : List UInt8) : IO (List UInt8) := do
  let bytes ← input.read 1
  match bytes.toList with
  | [] => return line.reverse
  | byte :: _ => if byte = 10 then return (byte :: line).reverse else loadLine input (byte :: line)

def write (transcript : Transcript) : IO Unit := do
  let output ← IO.getStdout
  output.putStr transcript.output
  output.flush
  (← IO.getStderr).putStr transcript.errors

def close (report : Report) : IO UInt32 := do
  write report.transcript
  return report.exitCode.toUInt32

partial def interact (shell : Shell) : IO UInt32 := do
  write (.ofOutput prompt)
  let bytes ← loadLine (← IO.getStdin) []
  if bytes.isEmpty then return 0
  match decode bytes with
  | .error error => close (.failure (Shell.lineTrouble error))
  | .ok line =>
      let turn ← shell.obey loadFile (.ofLine line)
      write turn.transcript
      match turn.next with
      | some next => interact next
      | none => return 0

end GlyphScript.CommandLine

open GlyphScript.CommandLine in
def main (arguments : List String) : IO UInt32 := do
  let setting ← IO.getEnv "KUHUL_MAX_CALL_DEPTH"
  match ← start loadFile setting arguments with
  | .over report => close report
  | .shell shell before =>
      write before
      interact shell
