import Roadway.Text.Line
import Roadway.Wire.Response

/-!
# Command scripts

A script is run in lock-step: each command line is answered by one response line
before the next is read, and counted. Blank lines and lines that start with a hash mark
are passed over, and a line that is no command is answered by an error.

## Main definitions

* `ScriptSummary` — the numbers of commands and errors.
* `Session.respondLine` — the response to a command line.
* `ScriptRun.answerLine` — one line of a script.
* `Session.runScript` — the responses to a script, and what it leaves.
-/
namespace Roadway

/-- How many commands a script held and how many of them failed. -/
@[ext] structure ScriptSummary where
  commands : Nat
  errors : Nat
  deriving DecidableEq, Repr

namespace ScriptSummary

/-- Counts one more response. -/
def count (summary : ScriptSummary) (response : Response) : ScriptSummary where
  commands := summary.commands + 1
  errors := if response.isError then summary.errors + 1 else summary.errors

/-- The summary of responses that are all at hand. -/
def ofResponses (responses : List Response) : ScriptSummary :=
  ⟨responses.length, responses.countP (·.isError)⟩

instance : Add ScriptSummary := ⟨fun a b => ⟨a.commands + b.commands, a.errors + b.errors⟩⟩

end ScriptSummary

namespace Script

/-- The command in a line of a script, unless it is blank or a comment. -/
def commandLine? (line : String) : Option String :=
  match Text.trim line.toList with
  | [] => none
  | '#' :: _ => none
  | cs => some (String.ofList cs)

end Script

/-- Answers one command line; a line that is no command leaves the session alone. -/
def Session.respondLine (s : Session Float) (line : String) : Response × Session Float :=
  match Command.decode line with
  | .ok c => s.respond c
  | .error fault => (.ofReply (.error fault), s)

/-- A session between two lines of a script, with the counts so far. -/
structure ScriptRun extends Session Float where
  summary : ScriptSummary

namespace ScriptRun

/-- Takes one line of a script: a command line is answered and counted. -/
def answerLine (run : ScriptRun) (line : String) : Option Response × ScriptRun :=
  match Script.commandLine? line with
  | none => (none, run)
  | some command =>
    let (response, next) := run.respondLine command
    (some response, ⟨next, run.summary.count response⟩)

/-- Takes lines one after the other. -/
def answerLines (run : ScriptRun) : List String → List Response × ScriptRun
  | [] => ([], run)
  | line :: rest =>
    let (response, next) := run.answerLine line
    let (responses, last) := next.answerLines rest
    (response.toList ++ responses, last)

end ScriptRun

/-- Answers the command lines among the lines of a script and counts them from zero. -/
def Session.runScript (s : Session Float) (lines : List String) : List Response × ScriptRun :=
  ScriptRun.answerLines ⟨s, ⟨0, 0⟩⟩ lines

end Roadway
