import Roadway.Number.Binary64
import Roadway.Session.Settings
import Roadway.Text.Scan

/-!
# Command line options

Options have a long name and a letter and are given at most once. A long option
takes its value behind an equals sign or from the next argument, a letter from the
rest of its argument or from the next one; letters may be clustered behind one
hyphen. An argument that starts with a hyphen is never the value of the option before
it, except for a lone hyphen. There are no positional arguments.

## Main definitions

* `Options` — what the arguments give.
* `parse?` — the options of arguments.
-/
namespace Roadway.CommandLine

structure Options where
  network : Option String
  session : Option String
  script : Option String
  seed : Option Nat
  backend : Option Backend
  verbose : Bool
  deriving DecidableEq, Repr

namespace Options

def none : Options := ⟨.none, .none, .none, .none, .none, false⟩

def networkPath (o : Options) : String := o.network.getD "network.toml"

def sessionPath (o : Options) : String := o.session.getD "session.toml"

end Options

/-- The options that take a value, and the flag. -/
inductive Switch
  | network
  | session
  | script
  | seed
  | backend
  | verbose
  deriving DecidableEq, Repr

namespace Switch

def ofLong? : String → Option Switch
  | "network" => some network
  | "session" => some session
  | "script" => some script
  | "seed" => some seed
  | "backend" => some backend
  | "verbose" => some verbose
  | _ => none

def ofLetter? : Char → Option Switch
  | 'n' => some network
  | 'c' => some session
  | 'f' => some script
  | 's' => some seed
  | 'b' => some backend
  | 'v' => some verbose
  | _ => none

/-- A natural number below two to the power 64, perhaps with a plus sign. -/
def seed? (cs : List Char) : Option Nat :=
  let digits := match cs with
    | '+' :: rest => rest
    | _ => cs
  if digits ≠ [] ∧ digits.all Scan.isDigit ∧ Scan.natOf digits < twoPow 64 then
    some (Scan.natOf digits)
  else none

/-- Sets an option that has not been set before. -/
def setOnce {β : Type} (old : Option β) (value : Option β) : Option (Option β) :=
  match old, value with
  | none, some v => some (some v)
  | _, _ => none

/-- The options with a value added. -/
def assign? (o : Options) (value : List Char) : Switch → Option Options
  | network => (setOnce o.network (String.ofList value)).map fun v => { o with network := v }
  | session => (setOnce o.session (String.ofList value)).map fun v => { o with session := v }
  | script => (setOnce o.script (String.ofList value)).map fun v => { o with script := v }
  | seed => (setOnce o.seed (seed? value)).map fun v => { o with seed := v }
  | backend =>
    (setOnce o.backend (Backend.ofName? (String.ofList value))).map fun v =>
      { o with backend := v }
  | verbose => none

/-- The options with the flag raised. -/
def raise? (o : Options) : Option Options :=
  if o.verbose then none else some { o with verbose := true }

end Switch

/-- What a cluster of letters amounts to: the options so far, and the option that
takes the next argument as its value, if there is one. -/
def readLetters? (o : Options) : List Char → Option (Options × Option Switch)
  | [] => some (o, none)
  | letter :: rest =>
    match Switch.ofLetter? letter with
    | none => none
    | some .verbose => (Switch.raise? o).bind fun o => readLetters? o rest
    | some switch =>
      match rest with
      | [] => some (o, some switch)
      | '=' :: value => (switch.assign? o value).map (·, none)
      | value => (switch.assign? o value).map (·, none)

/-- What a long option amounts to. -/
def readLong? (o : Options) (text : List Char) : Option (Options × Option Switch) :=
  let name := text.takeWhile (· != '=')
  match Switch.ofLong? (String.ofList name), text.drop name.length with
  | none, _ => none
  | some .verbose, [] => (Switch.raise? o).map (·, none)
  | some .verbose, _ => none
  | some switch, [] => some (o, some switch)
  | some switch, _ :: value => (switch.assign? o value).map (·, none)

/-- Whether an argument starts an option, so that it cannot be a value. -/
def isSwitch : List Char → Bool
  | '-' :: _ :: _ => true
  | _ => false

/-- The options of the remaining arguments, of which the first may be the value of
an option that waits for one. -/
def readArguments? (o : Options) (waiting : Option Switch) : List (List Char) → Option Options
  | [] => if waiting.isSome then none else some o
  | argument :: rest =>
    match waiting with
    | some switch =>
      if isSwitch argument then none
      else (switch.assign? o argument).bind fun o => readArguments? o none rest
    | none =>
      match argument with
      | ['-', '-'] => if rest.isEmpty then some o else none
      | '-' :: '-' :: text =>
        (readLong? o text).bind fun (o, waiting) => readArguments? o waiting rest
      | '-' :: letter :: letters =>
        (readLetters? o (letter :: letters)).bind fun (o, waiting) =>
          readArguments? o waiting rest
      | _ => none

/-- The options that arguments give, unless they are refused. -/
def parse? (arguments : List String) : Option Options :=
  readArguments? Options.none none (arguments.map (·.toList))

end Roadway.CommandLine
