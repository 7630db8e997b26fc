import Roadway.CommandLine.Options
import Roadway.Document.Configuration
import Roadway.Wire.Script

/-!
# Runs from the command line

A run reads its configuration from two files, opens a session and answers the
commands of a script. Refused arguments end it with code 2, and files that cannot be
read or are not accepted end it with code 1, both before any output.

## Main definitions

* `start` — the session and the source of commands of a run.
* `run` — the exit code and the output of a run.
-/
namespace Roadway.CommandLine

/-- Where the commands of a run come from. -/
inductive Source
  | script (text : String)
  | standardInput
  deriving DecidableEq, Repr

/-- Why a run ends before it starts. -/
inductive StartFault
  | badArguments
  | configuration (fault : ConfigurationFault)
  | unreadableScript (path : String)
  deriving DecidableEq, Repr

def StartFault.exitCode : StartFault → Nat
  | badArguments => 2
  | configuration _ => 1
  | unreadableScript _ => 1

def StartFault.message : StartFault → String
  | badArguments => "bad arguments"
  | configuration fault => fault.message
  | unreadableScript path => "opening command script " ++ path

/-- The configuration with what the options replace. -/
def Options.override (o : Options) (c : Configuration) : Configuration :=
  { c with session :=
    { c.session with
      seed := o.seed <|> c.session.seed
      backend := o.backend.getD c.session.backend } }

/-- The session and the source of a run. Without a seed the deviates are those of
`entropy`. -/
def start (readFile : String → Option String) (entropy : Nat) (o : Options) :
    Except StartFault (Session Float × Source) :=
  match Configuration.load readFile o.networkPath o.sessionPath with
  | .error fault => .error (.configuration fault)
  | .ok c =>
    let c := o.override c
    let session := c.openSession (Deviates.ofSeed (c.session.seed.getD entropy))
    match o.script with
    | none => .ok (session, .standardInput)
    | some path =>
      match readFile path with
      | some text => .ok (session, .script text)
      | none => .error (.unreadableScript path)

/-- The exit code of a run and the lines that it prints. -/
def run (readFile : String → Option String) (entropy : Nat) (input : String)
    (arguments : List String) : Nat × List String :=
  match parse? arguments with
  | none => (StartFault.badArguments.exitCode, [])
  | some o =>
    match start readFile entropy o with
    | .error fault => (fault.exitCode, [])
    | .ok (session, source) =>
      let text := match source with
        | .script text => text
        | .standardInput => input
      (0, (session.runScript (Text.lines text)).1.map Response.encode)

end Roadway.CommandLine
