import Mathlib
import Roadway.Proofs.Wire.Command
import Roadway.Wire.Response

/-!
# Responses read back

A response whose doubles are finite is read back from its line, whatever its texts are and
however long its lists. The record of a step report leaves out its empty lists, which is an
edit of the full record, and a missing list is read as an empty one.

## Main definitions

* `Response.Portable` — responses that JSON can hold.
* `Response.decode?_encode` — such a response is read back from its line.
-/
namespace Roadway
open Json Record

/-- Counts are words of 64 bits, and doubles are finite. -/
def Placement.Portable : Placement Float → Prop
  | onLane _ lane offset lateral =>
    lane < 2 ^ 64 ∧ offset.isFinite = true ∧ lateral.isFinite = true
  | free position heading =>
    position.x.isFinite = true ∧ position.y.isFinite = true ∧ heading.isFinite = true
  | undetermined => True

def BoundaryEvent.Portable (e : BoundaryEvent) : Prop := e.lane < 2 ^ 64

structure StepReport.Portable (r : StepReport Float) : Prop where
  tick : r.tick < 2 ^ 64
  time : r.time.isFinite = true
  boundaryEvents : ∀ e ∈ r.boundaryEvents, e.Portable

structure EntityView.Portable (e : EntityView Float) : Prop where
  placement : e.placement.Portable
  x : e.position.x.isFinite = true
  y : e.position.y.isFinite = true
  heading : e.heading.isFinite = true
  speed : e.speed.isFinite = true

structure LaneView.Portable (l : LaneView Float) : Prop where
  occupancy : l.occupancy < 2 ^ 64
  meanSpeed : l.meanSpeed.isFinite = true

structure Snapshot.Portable (s : Snapshot Float) : Prop where
  tick : s.tick < 2 ^ 64
  time : s.time.isFinite = true
  entities : ∀ e ∈ s.entities, e.Portable
  lanes : ∀ l ∈ s.lanes, l.Portable

/-- What JSON can hold: finite doubles, and counts of 64 bits. -/
def Response.Portable : Response → Prop
  | answer (.step report) => report.Portable
  | answer (.time tick time) => tick < 2 ^ 64 ∧ time.isFinite = true
  | answer (.placement p) => p.Portable
  | answer (.position p) => p.x.isFinite = true ∧ p.y.isFinite = true
  | answer .ok => True
  | answer (.snapshot s) => s.Portable
  | error _ _ => True

section Fits
variable {depth : ℕ}

theorem Placement.fits_toMembers {p : Placement Float} (portable : p.Portable) :
    ∀ m ∈ p.toMembers, Fits depth m.2 := by
  cases p with
  | onLane edge lane offset lateral =>
    obtain ⟨hlane, hoffset, hlateral⟩ := portable
    simp [toMembers, Fits.string, Fits.real, fits_ofNat hlane, hoffset, hlateral]
  | free position heading =>
    obtain ⟨hx, hy, hheading⟩ := portable
    simp [toMembers, Fits.string, Fits.real, hx, hy, hheading]
  | undetermined => simp [toMembers, Fits.string]

theorem Collision.fits_toJson (c : Collision) : Fits (depth + 1) c.toJson :=
  .object (by simp [Fits.string])

theorem BoundaryEvent.fits_toJson {e : BoundaryEvent} (portable : e.Portable) :
    Fits (depth + 1) e.toJson :=
  .object (by simp [Fits.string, fits_ofNat portable])

theorem EntityView.fits_toJson {e : EntityView Float} (portable : e.Portable) :
    Fits (depth + 2) e.toJson := by
  have placement : Fits (depth + 1) e.placement.toJson :=
    .object (Placement.fits_toMembers portable.placement)
  exact .object (by simp [Kind.toJson, Fits.string, Fits.real, placement, portable.x, portable.y,
    portable.heading, portable.speed])

theorem LaneView.fits_toJson {l : LaneView Float} (portable : l.Portable) :
    Fits (depth + 1) l.toJson :=
  .object (by simp [Fits.string, Fits.real, fits_ofNat portable.occupancy, portable.meanSpeed])

end Fits

namespace StepReport

/-- The members of a report with all its lists. -/
def allMembers (r : StepReport Float) : List (String × Json) :=
  [("tick", ofNat r.tick), ("time", .real r.time),
    ("collisions", .array (r.collisions.map Collision.toJson)),
    ("boundary_events", .array (r.boundaryEvents.map BoundaryEvent.toJson)),
    ("arrived", .array (r.arrived.map .string)), ("exited", .array (r.exited.map .string)),
    ("removed", .array (r.removed.map .string))]

/-- The lists are empty by default. -/
def defaults : List (String × Json) :=
  [("collisions", .array []), ("boundary_events", .array []), ("arrived", .array []),
    ("exited", .array []), ("removed", .array [])]

/-- A list that is left out when it is empty. -/
theorem edited_listMember {β : Type} {full : List (String × Json)} {name : String}
    {write : β → Json} {items : List β} (default : (name, .array []) ∈ defaults)
    {before after : List (String × Json)}
    (edited : Edited full defaults (before ++ (name, .array (items.map write)) :: after)) :
    Edited full defaults (before ++ listMember name write items ++ after) := by
  cases items with
  | nil =>
    have dropped : Edited full defaults (before ++ after) := .dropped default edited
    simpa [listMember] using dropped
  | cons x items => simpa [listMember] using edited

/-- What is written of a report is all of it but for empty lists. -/
theorem edited_toMembers (r : StepReport Float) (tag : String × Json) :
    Edited (tag :: r.allMembers) defaults (tag :: r.toMembers) := by
  -- The lists are dropped one after the other, each behind those that are left.
  have collisions : Edited (tag :: r.allMembers) defaults
      ([tag, ("tick", ofNat r.tick), ("time", .real r.time)] ++
        listMember "collisions" Collision.toJson r.collisions ++ _) :=
    edited_listMember (by simp [defaults]) .whole
  have boundaryEvents : Edited (tag :: r.allMembers) defaults
      (_ ++ listMember "boundary_events" BoundaryEvent.toJson r.boundaryEvents ++ _) :=
    edited_listMember (by simp [defaults]) collisions
  have arrived : Edited (tag :: r.allMembers) defaults
      (_ ++ listMember "arrived" .string r.arrived ++ _) :=
    edited_listMember (by simp [defaults]) boundaryEvents
  have exited : Edited (tag :: r.allMembers) defaults
      (_ ++ listMember "exited" .string r.exited ++ _) :=
    edited_listMember (by simp [defaults]) arrived
  have removed : Edited (tag :: r.allMembers) defaults
      (_ ++ listMember "removed" .string r.removed ++ []) :=
    edited_listMember (by simp [defaults]) exited
  simpa [toMembers] using removed

end StepReport

section Reading

theorem Placement.ofJson?_toJson (p : Placement Float) : ofJson? p.toJson = some p := by
  cases p <;>
    simp [ofJson?, toJson, toMembers, ofRecord?, tagged?, fields?, List.lookup, required, text?,
      word?, double?, ofNat, noFields?]

theorem Collision.ofJson?_toJson (c : Collision) : ofJson? c.toJson = some c := by
  simp [ofJson?, toJson, fields?, List.lookup, required, text?]

theorem BoundaryEvent.ofJson?_toJson (e : BoundaryEvent) : ofJson? e.toJson = some e := by
  simp [ofJson?, toJson, fields?, List.lookup, required, text?, word?, ofNat]

theorem EntityView.ofJson?_toJson (e : EntityView Float) : ofJson? e.toJson = some e := by
  simp [ofJson?, toJson, fields?, List.lookup, required, text?, double?, Kind.ofJson?_toJson,
    Placement.ofJson?_toJson]

theorem LaneView.ofJson?_toJson (l : LaneView Float) : ofJson? l.toJson = some l := by
  simp [ofJson?, toJson, fields?, List.lookup, required, text?, word?, double?, ofNat]

/-- A report reads back from any list of members that keeps what it tells. -/
theorem StepReport.ofRecord?_of_keeps {r : StepReport Float} {ms : List (String × Json)}
    (keeps : ∀ name v, (name, v) ∈ r.allMembers → Keeps defaults ms name v) :
    ofRecord? (.object (ms.filter (·.1 != "result"))) = some r := by
  have untagged : "result" ∉ r.allMembers.map (·.1) := by simp [allMembers]
  have fields := fields?_of_keeps untagged keeps
  simp only [allMembers, List.mem_cons, Prod.mk.injEq] at keeps
  have tick : required word? (valuesOf "tick" ms).head? = some r.tick :=
    required_of_keeps (keeps "tick" (ofNat r.tick) (by simp)) (by simp [defaults])
      (by simp [word?, ofNat])
  have time : required double? (valuesOf "time" ms).head? = some r.time :=
    required_of_keeps (keeps "time" (.real r.time) (by simp)) (by simp [defaults]) rfl
  have collisions : orElse (list? Collision.ofJson?) [] (valuesOf "collisions" ms).head? =
      some r.collisions :=
    orElse_of_keeps (keeps "collisions" (.array (r.collisions.map Collision.toJson)) (by simp))
      (by simp [defaults, list?]) (list?_array fun c _ => c.ofJson?_toJson)
  have events : orElse (list? BoundaryEvent.ofJson?) [] (valuesOf "boundary_events" ms).head? =
      some r.boundaryEvents :=
    orElse_of_keeps
      (keeps "boundary_events" (.array (r.boundaryEvents.map BoundaryEvent.toJson)) (by simp))
      (by simp [defaults, list?]) (list?_array fun e _ => e.ofJson?_toJson)
  have arrived : orElse (list? text?) [] (valuesOf "arrived" ms).head? = some r.arrived :=
    orElse_of_keeps (keeps "arrived" (.array (r.arrived.map .string)) (by simp))
      (by simp [defaults, list?]) (list?_array fun _ _ => rfl)
  have exited : orElse (list? text?) [] (valuesOf "exited" ms).head? = some r.exited :=
    orElse_of_keeps (keeps "exited" (.array (r.exited.map .string)) (by simp))
      (by simp [defaults, list?]) (list?_array fun _ _ => rfl)
  have removed : orElse (list? text?) [] (valuesOf "removed" ms).head? = some r.removed :=
    orElse_of_keeps (keeps "removed" (.array (r.removed.map .string)) (by simp))
      (by simp [defaults, list?]) (list?_array fun _ _ => rfl)
  have names : fieldNames = r.allMembers.map (·.1) := rfl
  rw [ofRecord?, names, fields]
  simp [allMembers, tick, time, collisions, events, arrived, exited, removed]

theorem Snapshot.ofRecord?_toMembers (s : Snapshot Float) :
    ofRecord? (.object s.toMembers) = some s := by
  have entities : list? EntityView.ofJson? (.array (s.entities.map EntityView.toJson)) =
      some s.entities := list?_array fun e _ => e.ofJson?_toJson
  have lanes : list? LaneView.ofJson? (.array (s.lanes.map LaneView.toJson)) = some s.lanes :=
    list?_array fun l _ => l.ofJson?_toJson
  simp [ofRecord?, toMembers, fields?, List.lookup, required, text?, word?, double?, ofNat,
    entities, lanes]

end Reading

namespace Response

theorem fits_toJson {r : Response} (portable : r.Portable) : Fits maxDepth r.toJson := by
  have text (s : String) : Fits 126 (.string s) := .string s
  match r with
  | answer (.step report) =>
    have collisions : Fits 126 (.array (report.collisions.map Collision.toJson)) :=
      fits_list fun c _ => c.fits_toJson
    have events : Fits 126 (.array (report.boundaryEvents.map BoundaryEvent.toJson)) :=
      fits_list fun e he => BoundaryEvent.fits_toJson (portable.boundaryEvents e he)
    have texts (xs : List String) : Fits 126 (.array (xs.map .string)) :=
      fits_list fun _ _ => .string _
    have whole : ∀ m ∈ ("result", .string "step") :: report.allMembers, Fits 126 m.2 := by
      simp [StepReport.allMembers, text, Fits.real, fits_ofNat portable.tick, portable.time,
        collisions, events, texts]
    exact .object ((report.edited_toMembers _).forall_mem whole text)
  | answer (.time tick time) =>
    exact .object (by simp [text, Fits.real, fits_ofNat portable.1, portable.2])
  | answer (.placement p) =>
    exact .object (List.forall_mem_cons.2 ⟨text _, Placement.fits_toMembers portable⟩)
  | answer (.position p) =>
    exact .object (by simp [text, Fits.real, portable.1, portable.2])
  | answer .ok => exact .object (by simp [text])
  | answer (.snapshot s) =>
    have entities : Fits 126 (.array (s.entities.map EntityView.toJson)) :=
      fits_list fun e he => EntityView.fits_toJson (portable.entities e he)
    have lanes : Fits 126 (.array (s.lanes.map LaneView.toJson)) :=
      fits_list fun l hl => LaneView.fits_toJson (portable.lanes l hl)
    exact .object (by simp [Snapshot.toMembers, text, Fits.real, fits_ofNat portable.tick,
      portable.time, entities, lanes])
  | error code message => exact .object (by simp [text])

/-- A response reads back from its record. -/
theorem ofJson?_toJson (r : Response) : ofJson? r.toJson = some r := by
  match r with
  | answer (.step report) =>
    have nodup : ((("result", Json.string "step") :: report.allMembers).map (·.1)).Nodup := by
      simp [StepReport.allMembers]
    have edited := report.edited_toMembers ("result", .string "step")
    have htag := tagged?_of_keeps (edited.keeps nodup (List.mem_cons_self ..))
      (by simp [StepReport.defaults])
    have hreport := StepReport.ofRecord?_of_keeps fun name v h =>
      edited.keeps nodup (List.mem_cons_of_mem _ h)
    rw [ofJson?, toJson, htag]
    simp only [ofRecord?, hreport, Option.map_some]
  | answer (.time tick time) =>
    simp [ofJson?, toJson, ofRecord?, tagged?, fields?, List.lookup, required, word?, double?,
      ofNat]
  | answer (.placement p) =>
    have fresh : ∀ m ∈ p.toMembers, m.1 ≠ "result" := by cases p <;> simp [Placement.toMembers]
    have hp : Placement.ofJson? (.object p.toMembers) = some p := p.ofJson?_toJson
    rw [ofJson?, toJson, tagged?_cons fresh]
    simp only [ofRecord?, hp, Option.map_some]
  | answer (.position p) =>
    simp [ofJson?, toJson, ofRecord?, tagged?, fields?, List.lookup, required, double?]
  | answer .ok => simp [ofJson?, toJson, ofRecord?, tagged?, noFields?, fields?]
  | answer (.snapshot s) =>
    have fresh : ∀ m ∈ s.toMembers, m.1 ≠ "result" := by simp [Snapshot.toMembers]
    rw [ofJson?, toJson, tagged?_cons fresh]
    simp only [ofRecord?, s.ofRecord?_toMembers, Option.map_some]
  | error code message =>
    simp [ofJson?, toJson, ofRecord?, tagged?, fields?, List.lookup, required, text?]

/-- A response that JSON can hold is read back from its line. -/
theorem decode?_encode {r : Response} (portable : r.Portable) : decode? r.encode = some r := by
  rw [decode?, encode, read?_compact (fits_toJson portable)]
  exact ofJson?_toJson r

/-- A snapshot with a placement of each sort, texts beyond ASCII and with control characters,
the greatest count and a negative zero. -/
theorem decode?_snapshot :
    let s : Snapshot Float :=
      { network := "Zürich \t\"→\"", tick := 2 ^ 64 - 1, time := 0.1
        entities :=
          [⟨"a\nb", .person, .undetermined, ⟨-0.0, 1e22⟩, 1e-9, 0.0⟩,
            ⟨"", .vehicle, .onLane "e\\" 3 1.5 (-0.25), ⟨1.0, 2.0⟩, 0.0, 13.9⟩,
            ⟨"c", .vehicle, .free ⟨1e-7, 3.0⟩ 90.0, ⟨1.0, 2.0⟩, 0.0, 13.9⟩]
        lanes := [⟨"e_0", 0, 0.0⟩] }
    (Response.answer (.snapshot s)).Portable ∧
      decode? (Response.answer (.snapshot s)).encode = some (.answer (.snapshot s)) := by
  intro s
  have portable : (Response.answer (.snapshot s)).Portable := by
    refine ⟨by decide, by decide, ?_, ?_⟩
    · simp only [s, List.forall_mem_cons]
      exact ⟨⟨trivial, by decide, by decide, by decide, by decide⟩,
        ⟨⟨by decide, by decide, by decide⟩, by decide, by decide, by decide, by decide⟩,
        ⟨⟨by decide, by decide, by decide⟩, by decide, by decide, by decide, by decide⟩,
        List.forall_mem_nil _⟩
    · simp only [s, List.forall_mem_cons]
      exact ⟨⟨by decide, by decide⟩, List.forall_mem_nil _⟩
  exact ⟨portable, decode?_encode portable⟩

end Response

end Roadway
