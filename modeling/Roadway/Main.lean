import Roadway.CommandLine.Run

/-!
# The program

Reads the files that the options name and answers command lines one by one, each
before the next is read.
-/
namespace Roadway.CommandLine

/-- The text of a file, unless it cannot be read. -/
def readText (path : String) : IO (Option String) := do
  try
    return some (← IO.FS.readFile path)
  catch _ =>
    return none

/-- Writes the response to a line before the next line is taken. -/
def writeLines (run : ScriptRun) : List String → IO ScriptRun
  | [] => return run
  | line :: rest => do
    let (response, next) := run.answerLine line
    if let some response := response then
      let out ← IO.getStdout
      out.putStrLn response.encode
      out.flush
    writeLines next rest

/-- Reads and answers lines until the input ends. -/
partial def writeInput (run : ScriptRun) : IO ScriptRun := do
  let line ← (← IO.getStdin).getLine
  if line.isEmpty then return run
  writeInput (← writeLines run (Text.lines line))

end Roadway.CommandLine

open Roadway CommandLine in
def main (arguments : List String) : IO UInt32 := do
  match parse? arguments with
  | none =>
    IO.eprintln StartFault.badArguments.message
    return 2
  | some o =>
    let network ← readText o.networkPath
    let session ← readText o.sessionPath
    let script ← match o.script with
      | some path => readText path
      | none => pure none
    let readFile (path : String) : Option String :=
      if path = o.networkPath then network
      else if path = o.sessionPath then session
      else script
    let entropy ← IO.monoNanosNow
    match start readFile entropy o with
    | .error fault =>
      IO.eprintln fault.message
      return fault.exitCode.toUInt32
    | .ok (opened, source) =>
      let run : ScriptRun := ⟨opened, ⟨0, 0⟩⟩
      match source with
      | .script text => discard (writeLines run (Text.lines text))
      | .standardInput => discard (writeInput run)
      return 0
