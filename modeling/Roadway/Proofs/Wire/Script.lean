import Mathlib
import Roadway.Proofs.Json.Reading
import Roadway.Proofs.Network.Layout
import Roadway.Wire.Script

/-!
# Scripts in lock-step

A script is a loop over lines with three branches: lines that ask for nothing are passed
over, commands are applied, and lines that cannot be read are answered without touching the
session. What the loop leaves behind after any first part of the script is the session after
the commands in that part, and so the response to a line depends on nothing that follows it.
The counts that the loop carries add up what it answers, and nothing depends on them.
Responses are written as lines, and no line is broken, because JSON text has no controls.

## Main definitions

* `Script.Asks`, `Script.command?` — lines that are answered, and the commands among them.
* `Script.output` — the text that a script writes.
* `Session.LockStep` — what the responses to a script are.
* `Session.lockStep_runScript` — every script is run in lock-step, also in parts.
-/
namespace Roadway

namespace Script

/-- A line that is neither blank nor a comment, white space at its ends aside. -/
def Asks (line : String) : Prop :=
  Text.trim line.toList ≠ [] ∧ (Text.trim line.toList).head? ≠ some '#'

instance : DecidablePred Asks := fun _ => inferInstanceAs (Decidable (_ ∧ _))

/-- What a line says, without the white space at its ends. -/
def trimmed (line : String) : String := String.ofList (Text.trim line.toList)

/-- The command that a line asks for, if it is one. -/
def command? (line : String) : Option (Command Float) :=
  if Asks line then Command.decode? (String.ofList (Text.trim line.toList)) else none

/-- The text that a script writes, with a line feed behind every response. -/
def output (responses : List Response) : String :=
  String.ofList (responses.flatMap fun r => r.encode.toList ++ ['\n'])

theorem commandLine?_eq (line : String) : commandLine? line =
    if Asks line then some (trimmed line) else none := by
  rw [commandLine?]
  split
  · next blank => rw [if_neg fun asks => asks.1 blank]
  · next rest comment => rw [if_neg fun asks => asks.2 (by rw [comment]; rfl)]
  · next nonblank plain =>
    refine (if_pos ⟨nonblank, fun hash => ?_⟩).symm
    obtain ⟨rest, comment⟩ := List.head?_eq_some_iff.1 hash
    exact plain rest comment

theorem output_append (as bs : List Response) : output (as ++ bs) = output as ++ output bs := by
  simp [output]

/-- Characters that are no line feeds join the line that is being read. -/
theorem linesFrom_append {cs : List Char} (unbroken : '\n' ∉ cs) (current rest : List Char) :
    Text.linesFrom current (cs ++ '\n' :: rest) =
      (current.reverse ++ cs) :: Text.linesFrom [] rest := by
  induction cs generalizing current with
  | nil => simp [Text.linesFrom]
  | cons c cs ih =>
    have hc : c ≠ '\n' := fun h => unbroken (by simp [h])
    have hcs : '\n' ∉ cs := fun h => unbroken (List.mem_cons_of_mem c h)
    rw [List.cons_append, Text.linesFrom, if_neg hc, ih hcs]
    simp

/-- A response is written without controls. -/
theorem printable_encode (r : Response) : Json.Printable r.encode.toList := by
  rw [Response.encode, Json.compact, String.toList_ofList]
  exact Json.printable_render r.toJson

/-- The lines of the output are the responses. -/
theorem lines_output (responses : List Response) :
    Text.lines (output responses) = responses.map Response.encode := by
  rw [Text.lines, output, String.toList_ofList]
  induction responses with
  | nil => rfl
  | cons r responses ih =>
    have unbroken : '\n' ∉ r.encode.toList := by
      intro h
      have := printable_encode r _ h
      simp at this
    rw [List.flatMap_cons, List.append_assoc, List.singleton_append, linesFrom_append unbroken]
    simp [ih]

end Script

namespace Session
open Script
variable {s : Session Float} {line : String}

/-- The session after the commands among some lines. -/
def after (s : Session Float) (lines : List String) : Session Float :=
  (s.run (lines.filterMap command?)).2

theorem respondLine_of_command {c : Command Float} (h : command? line = some c) :
    s.respondLine (trimmed line) = (.ofReply (s.dispatch c).1, (s.dispatch c).2) := by
  have decoded : Command.decode? (trimmed line) = some c := by
    rw [command?] at h
    split at h
    · exact h
    · cases h
  rw [respondLine, Command.decode, decoded]
  rfl

theorem respondLine_of_malformed (asks : Asks line) (h : command? line = none) :
    s.respondLine (trimmed line) =
      (.ofReply (.error (.invalidArgument .malformedCommand)), s) := by
  have refused : Command.decode? (trimmed line) = none := by
    rwa [command?, if_pos asks] at h
  rw [respondLine, Command.decode, refused]

end Session

namespace ScriptSummary

theorem zero_add (a : ScriptSummary) : ⟨0, 0⟩ + a = a :=
  ScriptSummary.ext (Nat.zero_add a.commands) (Nat.zero_add a.errors)

/-- Counting a response adds what it comes to by itself. -/
theorem count_add_ofResponses (a : ScriptSummary) (r : Response) (rest : List Response) :
    a.count r + ofResponses rest = a + ofResponses (r :: rest) := by
  refine ScriptSummary.ext ?_ ?_
  · change a.commands + 1 + rest.length = a.commands + (r :: rest).length
    rw [List.length_cons]
    omega
  · change (if r.isError then a.errors + 1 else a.errors) + rest.countP (·.isError) =
      a.errors + (r :: rest).countP (·.isError)
    rw [List.countP_cons]
    split <;> omega

theorem ofResponses_append (as bs : List Response) :
    ofResponses (as ++ bs) = ofResponses as + ofResponses bs :=
  ScriptSummary.ext List.length_append List.countP_append

end ScriptSummary

namespace ScriptRun
open Script
variable {run : ScriptRun} {line : String}

/-- A line that asks is answered and counted. -/
theorem answerLine_of_asks (asks : Asks line) : run.answerLine line =
    (some (run.respondLine (trimmed line)).1, ⟨(run.respondLine (trimmed line)).2,
      run.summary.count (run.respondLine (trimmed line)).1⟩) := by
  rw [answerLine, commandLine?_eq, if_pos asks]

/-- Any other line is passed over. -/
theorem answerLine_of_silent (silent : ¬Asks line) : run.answerLine line = (none, run) := by
  rw [answerLine, commandLine?_eq, if_neg silent]

/-- A script in two parts. -/
theorem answerLines_append (run : ScriptRun) (lines lines' : List String) :
    run.answerLines (lines ++ lines') =
      ((run.answerLines lines).1 ++ ((run.answerLines lines).2.answerLines lines').1,
        ((run.answerLines lines).2.answerLines lines').2) := by
  induction lines generalizing run with
  | nil => simp [answerLines]
  | cons line lines ih =>
    rw [List.cons_append, answerLines, answerLines]
    simp [ih]

/-- As many lines are answered as ask for something. -/
theorem length_answerLines (run : ScriptRun) (lines : List String) :
    (run.answerLines lines).1.length = lines.countP Asks := by
  induction lines generalizing run with
  | nil => rfl
  | cons line lines ih =>
    rw [answerLines, List.countP_cons]
    by_cases asks : Asks line
    · simp [answerLine_of_asks asks, ih, asks]
    · simp [answerLine_of_silent asks, ih, asks]

/-- A script leaves the session after its commands. -/
theorem toSession_answerLines (run : ScriptRun) (lines : List String) :
    (run.answerLines lines).2.toSession = run.toSession.after lines := by
  induction lines generalizing run with
  | nil => rfl
  | cons line lines ih =>
    rw [answerLines]
    by_cases asks : Asks line
    · cases h : command? line with
      | none =>
        simp [answerLine_of_asks asks, Session.respondLine_of_malformed asks h, ih,
          Session.after, h]
      | some c =>
        simp [answerLine_of_asks asks, Session.respondLine_of_command h, ih, Session.after, h,
          Session.run]
    · have none : command? line = none := by rw [command?, if_neg asks]
      simp [answerLine_of_silent asks, ih, Session.after, none]

/-- The counts add up the responses. -/
theorem summary_answerLines (run : ScriptRun) (lines : List String) :
    (run.answerLines lines).2.summary =
      run.summary + ScriptSummary.ofResponses (run.answerLines lines).1 := by
  induction lines generalizing run with
  | nil => rfl
  | cons line lines ih =>
    rw [answerLines]
    by_cases asks : Asks line
    · simp [answerLine_of_asks asks, ih, ScriptSummary.count_add_ofResponses]
    · simp [answerLine_of_silent asks, ih]

/-- No response depends on the counts. -/
theorem answerLines_withSummary (s : Session Float) (a b : ScriptSummary)
    (lines : List String) : (answerLines ⟨s, a⟩ lines).1 = (answerLines ⟨s, b⟩ lines).1 := by
  induction lines generalizing s a b with
  | nil => rfl
  | cons line lines ih =>
    rw [answerLines, answerLines]
    by_cases asks : Asks line
    · simpa [answerLine_of_asks asks] using ih (s.respondLine (trimmed line)).2 _ _
    · simp [answerLine_of_silent asks, ih s a b]

/-- The response to a line stands behind the responses to the lines before it. -/
theorem getElem?_answerLines (asks : Asks line) (before rest : List String) :
    (run.answerLines (before ++ line :: rest)).1[before.countP Asks]? =
      some ((run.toSession.after before).respondLine (trimmed line)).1 := by
  rw [answerLines_append, ← length_answerLines run before, List.getElem?_append_right le_rfl,
    answerLines, answerLine_of_asks asks, toSession_answerLines]
  simp

end ScriptRun

namespace Session
open Script
variable {s : Session Float}

/-- What is known of the responses to a script, and of the session that it leaves. -/
structure LockStep (s : Session Float) (lines : List String) (responses : List Response)
    (last : Session Float) : Prop where
  /-- One response for each line that asks, and none for any other. -/
  count : responses.length = lines.countP Asks
  /-- The output is one line for each response. -/
  written : Text.lines (output responses) = responses.map Response.encode
  /-- No response holds a line break or any other control character. -/
  unbroken : ∀ r ∈ responses, ∀ c ∈ r.encode.toList, 32 ≤ c.toNat
  /-- A command is answered in the session after the commands before it. -/
  answered : ∀ before line rest c, lines = before ++ line :: rest → command? line = some c →
    responses[before.countP Asks]? = some (.ofReply ((s.after before).dispatch c).1)
  /-- A line that is no command is answered by an error, and it leaves the session alone. -/
  malformed : ∀ before line rest, lines = before ++ line :: rest → Asks line →
    command? line = none →
      (∃ message, responses[before.countP Asks]? = some (.error "invalid_argument" message)) ∧
        s.after (before ++ [line]) = s.after before
  /-- Nothing but the commands changes the session. -/
  left : last = s.after lines

theorem lockStep (s : Session Float) (lines : List String) :
    s.LockStep lines (s.runScript lines).1 (s.runScript lines).2.toSession where
  count := ScriptRun.length_answerLines _ lines
  written := lines_output _
  unbroken := fun r _ => printable_encode r
  answered := by
    rintro before line rest c rfl h
    have asks : Asks line := by
      by_contra silent
      rw [command?, if_neg silent] at h
      cases h
    rw [runScript, ScriptRun.getElem?_answerLines asks, respondLine_of_command h]
  malformed := by
    rintro before line rest rfl asks h
    rw [runScript, ScriptRun.getElem?_answerLines asks, respondLine_of_malformed asks h]
    exact ⟨⟨_, rfl⟩, by simp [after, h]⟩
  left := ScriptRun.toSession_answerLines _ lines

/-- The summary that a script ends with. -/
theorem summary_runScript (s : Session Float) (lines : List String) :
    (s.runScript lines).2.summary = ScriptSummary.ofResponses (s.runScript lines).1 :=
  (ScriptRun.summary_answerLines _ lines).trans (ScriptSummary.zero_add _)

/-- A script in two parts: the second one is run on the session that the first one leaves. -/
theorem runScript_append (s : Session Float) (lines lines' : List String) :
    let ran := s.runScript lines
    let next := ran.2.toSession.runScript lines'
    (s.runScript (lines ++ lines')).1 = ran.1 ++ next.1 ∧
      (s.runScript (lines ++ lines')).2.toSession = next.2.toSession := by
  intro ran next
  have parts : s.runScript (lines ++ lines') =
      (ran.1 ++ (ran.2.answerLines lines').1, (ran.2.answerLines lines').2) :=
    ScriptRun.answerLines_append ⟨s, ⟨0, 0⟩⟩ lines lines'
  rw [parts]
  refine ⟨congrArg _ (ScriptRun.answerLines_withSummary ran.2.toSession _ _ lines'), ?_⟩
  rw [ScriptRun.toSession_answerLines]
  exact (ScriptRun.toSession_answerLines ⟨ran.2.toSession, ⟨0, 0⟩⟩ lines').symm

/-- Every script is run in lock-step. The summary counts the lines that are written and the
errors among them. A script in two parts is its first part and then its second part, on the
session that the first part leaves. -/
theorem lockStep_runScript (s : Session Float) (lines lines' : List String) :
    let ran := s.runScript lines
    let next := ran.2.toSession.runScript lines'
    let both := s.runScript (lines ++ lines')
    s.LockStep lines ran.1 ran.2.toSession ∧
      ran.2.summary.commands = (Text.lines (output ran.1)).length ∧
      ran.2.summary.errors = (ran.1.filter (·.isError)).length ∧
      both.2.toSession = next.2.toSession ∧ output both.1 = output ran.1 ++ output next.1 ∧
      both.2.summary = ran.2.summary + next.2.summary := by
  intro ran next both
  have summary : ran.2.summary = ScriptSummary.ofResponses ran.1 := summary_runScript s lines
  have commands : ran.2.summary.commands = (Text.lines (output ran.1)).length := by
    rw [summary, lines_output, List.length_map]
    rfl
  have errors : ran.2.summary.errors = (ran.1.filter (·.isError)).length := by
    rw [summary]
    exact List.countP_eq_length_filter
  obtain ⟨responses, session⟩ := runScript_append s lines lines'
  refine ⟨lockStep s lines, commands, errors, session, ?_, ?_⟩
  · exact (congrArg output responses).trans (output_append _ _)
  · rw [summary, summary_runScript, summary_runScript, ← ScriptSummary.ofResponses_append]
    exact congrArg _ responses

/-- A comment, a blank line, a command that is refused, and one that is not. -/
example :
    let s := fresh (.ofNetwork (.lay .road) 50.0) .default (.ofDraws fun _ => 0.0)
    let ran := s.runScript ["# note", " ", "\x7b\"cmd\":\"remove\",\"id\":\"car\"\x7d",
      " \x7b\"cmd\":\"time\"\x7d\r"]
    output ran.1 =
        "\x7b\"result\":\"error\",\"code\":\"unknown_entity\"," ++
          "\"message\":\"unknown entity 'car'\"\x7d\n" ++
          "\x7b\"result\":\"time\",\"tick\":0,\"time\":0.0\x7d\n" ∧
      ran.2.summary = ⟨2, 1⟩ := by
  decide +kernel

end Session
end Roadway
