import Roadway.Proofs.Json.Written
import Roadway.Proofs.Session.Finiteness
import Roadway.Proofs.Wire.Response
import Roadway.Proofs.Wire.Script

/-!
# Lines that are read back

A response is written whatever its numbers are, but its line is read back only if they are
finite: where `null` stands for a number there is no response. Over exact numbers sessions that
are restrained give no other answers. Accepted documents need not restrain a session: on a
lane of infinite width a car has no point in the plane, and the line that answers its position
is no response.

## Main definitions

* `Response.Finite`, `Response.Counted` — responses of finite numbers and of 64-bit counts.
* `Response.decode?_encode_eq` — what is read from the line of a response.
* `Session.readable_of_restrained` — which answers of a session are read back.
* `Session.unreadable_boundless` — a session of accepted documents with one that is not.
-/
namespace Roadway
open Json Record

/-- All numbers in a response are finite; an error has none. -/
def Response.Finite : Response → Prop
  | answer a => a.Finite
  | error _ _ => True

instance (r : Response) : Decidable r.Finite :=
  match r with
  | .answer a => inferInstanceAs (Decidable a.Finite)
  | .error .. => .isTrue trivial

/-! Counts are words of 64 bits. -/
section Counted

def Placement.Counted : Placement Float → Prop
  | onLane _ lane _ _ => lane < 2 ^ 64
  | free _ _ => True
  | undetermined => True

structure StepReport.Counted (r : StepReport Float) : Prop where
  tick : r.tick < 2 ^ 64
  lanes : ∀ e ∈ r.boundaryEvents, e.lane < 2 ^ 64

structure Snapshot.Counted (s : Snapshot Float) : Prop where
  tick : s.tick < 2 ^ 64
  lanes : ∀ e ∈ s.entities, e.placement.Counted
  occupancies : ∀ l ∈ s.lanes, l.occupancy < 2 ^ 64

def Response.Counted : Response → Prop
  | answer (.step report) => report.Counted
  | answer (.time tick _) => tick < 2 ^ 64
  | answer (.placement p) => p.Counted
  | answer (.position _) => True
  | answer .ok => True
  | answer (.snapshot s) => s.Counted
  | error _ _ => True

end Counted

section Fits
variable {depth : ℕ}

theorem Placement.fits_written {p : Placement Float} (counted : p.Counted) :
    ∀ m ∈ p.toMembers, Fits depth m.2.written := by
  cases p with
  | onLane edge lane offset lateral =>
    have lane : Fits depth (ofNat lane) := fits_ofNat counted
    simp [toMembers, Fits.string, lane]
  | free => simp [toMembers, Fits.string]
  | undetermined => simp [toMembers, Fits.string]

theorem Collision.fits_written (c : Collision) : Fits (depth + 1) c.toJson.written :=
  fits_written_object (by simp [Fits.string])

theorem BoundaryEvent.fits_written {e : BoundaryEvent} (counted : e.lane < 2 ^ 64) :
    Fits (depth + 1) e.toJson.written :=
  fits_written_object (by simp [Fits.string, fits_ofNat counted])

theorem EntityView.fits_written {e : EntityView Float} (counted : e.placement.Counted) :
    Fits (depth + 2) e.toJson.written := by
  have placement : Fits (depth + 1) e.placement.toJson.written :=
    fits_written_object (Placement.fits_written counted)
  exact fits_written_object (by simp [Kind.toJson, Fits.string, placement])

theorem LaneView.fits_written {l : LaneView Float} (counted : l.occupancy < 2 ^ 64) :
    Fits (depth + 1) l.toJson.written :=
  fits_written_object (by simp [Fits.string, fits_ofNat counted])

theorem Response.fits_written {r : Response} (counted : r.Counted) :
    Fits maxDepth r.toJson.written := by
  match r with
  | answer (.step report) =>
    have collisions : Fits 126 (.array (report.collisions.map fun c => c.toJson.written)) :=
      fits_list fun c _ => c.fits_written
    have events : Fits 126 (.array (report.boundaryEvents.map fun e => e.toJson.written)) :=
      fits_list fun e he => BoundaryEvent.fits_written (counted.lanes e he)
    have texts (xs : List String) : Fits 126 (.array (xs.map .string)) :=
      fits_list fun _ _ => .string _
    have whole : ∀ m ∈ ("result", .string "step") :: report.allMembers,
        Fits 126 m.2.written := by
      simp [StepReport.allMembers, Fits.string, fits_ofNat counted.tick, collisions, events,
        texts]
    have members := @Edited.forall_mem _ _ _ (fun j => Fits 126 j.written)
      (report.edited_toMembers _) whole Fits.string
    exact fits_written_object members
  | answer (.time tick time) =>
    have tick : Fits 126 (ofNat tick) := fits_ofNat counted
    exact fits_written_object (by simp [Fits.string, tick])
  | answer (.placement p) =>
    exact fits_written_object
      (List.forall_mem_cons.2 ⟨.string _, Placement.fits_written counted⟩)
  | answer (.position p) => exact fits_written_object (by simp [Fits.string])
  | answer .ok => exact fits_written_object (by simp [Fits.string])
  | answer (.snapshot s) =>
    have entities : Fits 126 (.array (s.entities.map fun e => e.toJson.written)) :=
      fits_list fun e he => EntityView.fits_written (counted.lanes e he)
    have lanes : Fits 126 (.array (s.lanes.map fun l => l.toJson.written)) :=
      fits_list fun l hl => LaneView.fits_written (counted.occupancies l hl)
    exact fits_written_object (by
      simp [Snapshot.toMembers, Fits.string, fits_ofNat counted.tick, entities, lanes])
  | error code message => exact fits_written_object (by simp [Fits.string])

end Fits

section Reading

@[simp] theorem word?_ofNat (n : ℕ) : word? (ofNat n) = some n := by simp [word?, ofNat]

/-- A reader goes on if what it has read so far is right. -/
theorem ite_bind {β γ : Type} {p : Prop} [Decidable p] (x : β) (f : β → Option γ) :
    (if p then some x else none).bind f = if p then f x else none := by
  split <;> rfl

theorem Placement.ofJson?_written (p : Placement Float) :
    ofJson? p.toJson.written = if p.Finite then some p else none := by
  cases p with
  | onLane edge lane offset lateral =>
    have finite : (onLane edge lane offset lateral).Finite ↔
        offset.isFinite = true ∧ lateral.isFinite = true := Iff.rfl
    simp [ofJson?, toJson, toMembers, ofRecord?, tagged?, fields?, List.lookup, required, text?,
      double?_written, ite_bind, finite, ite_and]
  | free position heading =>
    have finite : (free position heading).Finite ↔ (position.x.isFinite = true ∧
        position.y.isFinite = true) ∧ heading.isFinite = true :=
      and_congr_left' Bool.and_eq_true_iff
    simp [ofJson?, toJson, toMembers, ofRecord?, tagged?, fields?, List.lookup, required,
      double?_written, ite_bind, finite, ite_and]
  | undetermined => rfl

theorem EntityView.ofJson?_written (e : EntityView Float) :
    ofJson? e.toJson.written = if e.Finite then some e else none := by
  have finite : e.Finite ↔ e.placement.Finite ∧ e.position.x.isFinite = true ∧
      e.position.y.isFinite = true ∧ e.heading.isFinite = true ∧ e.speed.isFinite = true := by
    constructor
    · intro numbers
      obtain ⟨x, y⟩ := Bool.and_eq_true_iff.1 numbers.position
      exact ⟨numbers.placement, x, y, numbers.heading, numbers.speed⟩
    · rintro ⟨placement, x, y, heading, speed⟩
      exact ⟨placement, Bool.and_eq_true_iff.2 ⟨x, y⟩, heading, speed⟩
  have kind : e.kind.toJson.written = e.kind.toJson := rfl
  simp [ofJson?, toJson, fields?, List.lookup, required, text?, kind, Kind.ofJson?_toJson,
    Placement.ofJson?_written, double?_written, ite_bind, finite, ite_and]

theorem LaneView.ofJson?_written (l : LaneView Float) :
    ofJson? l.toJson.written = if Scalar.isFinite l.meanSpeed = true then some l else none := by
  change _ = if l.meanSpeed.isFinite = true then some l else none
  simp [ofJson?, toJson, fields?, List.lookup, required, text?, double?_written, ite_bind]

theorem Snapshot.ofRecord?_written (s : Snapshot Float) :
    ofRecord? (Json.object s.toMembers).written = if s.Finite then some s else none := by
  have finite : s.Finite ↔ s.time.isFinite = true ∧ (∀ e ∈ s.entities, e.Finite) ∧
      ∀ l ∈ s.lanes, Scalar.isFinite l.meanSpeed = true :=
    ⟨fun ⟨time, entities, lanes⟩ => ⟨time, entities, lanes⟩,
      fun ⟨time, entities, lanes⟩ => ⟨time, entities, lanes⟩⟩
  have entities := list?_written EntityView.ofJson?_written s.entities
  have lanes := list?_written LaneView.ofJson?_written s.lanes
  rw [written_list] at entities lanes
  simp [ofRecord?, toMembers, fields?, List.lookup, required, text?, double?_written, entities,
    lanes, ite_bind, finite, ite_and]

namespace StepReport

/-- A report is not read without its time. -/
theorem ofRecord?_of_lost {ms : List (String × Json)} (lost : ms.lookup "time" = some .null) :
    ofRecord? (.object ms) = none := by
  rw [ofRecord?, fields?]
  split_ifs
  · simp [fieldNames, lost, required, double?]
  · rfl

theorem name_of_mem_listMember {β : Type} {name : String} {write : β → Json} {items : List β}
    {m : String × Json} (hm : m ∈ listMember name write items) : m.1 = name := by
  rw [listMember] at hm
  split at hm
  · cases hm
  · rw [List.mem_singleton.1 hm]

theorem name_mem_of_mem_toMembers {r : StepReport Float} {m : String × Json}
    (hm : m ∈ r.toMembers) : m.1 ∈ fieldNames := by
  simp only [toMembers, List.mem_append, List.mem_cons, List.not_mem_nil, or_false] at hm
  rcases hm with (((((rfl | rfl) | hm) | hm) | hm) | hm) | hm
  · simp [fieldNames]
  · simp [fieldNames]
  all_goals
    rw [name_of_mem_listMember hm]
    simp [fieldNames]

/-- A report is written as it is if its time is finite. -/
theorem written_toMembers {r : StepReport Float} (finite : r.time.isFinite = true) :
    (Json.object r.toMembers).written = .object r.toMembers := by
  have collision (c : Collision) : c.toJson.written = c.toJson := by simp [Collision.toJson]
  have event (e : BoundaryEvent) : e.toJson.written = e.toJson := by simp [BoundaryEvent.toJson]
  have time : (real r.time).written = real r.time := by rw [written, if_pos finite]
  have whole : ∀ m ∈ ("result", .string "step") :: r.allMembers, m.2.written = m.2 := by
    simp [allMembers, collision, event, time]
  have members := @Edited.forall_mem _ _ _ (fun j => j.written = j)
    (r.edited_toMembers _) whole written_string
  rw [written_object, List.map_congr_left (g := id) fun m hm => ?_, List.map_id]
  exact Prod.ext rfl (members m (List.mem_cons_of_mem _ hm))

end StepReport

namespace Response

/-- The tag of a response is found as it was written. -/
theorem ofJson?_written_tagged {tag : String} {ms : List (String × Json)}
    (fresh : ∀ m ∈ ms, m.1 ≠ "result") :
    ofJson? (Json.object (("result", .string tag) :: ms)).written =
      ofRecord? tag (Json.object ms).written := by
  have fresh' : ∀ m ∈ ms.map fun m => (m.1, m.2.written), m.1 ≠ "result" := by
    intro m hm
    obtain ⟨k, hk, rfl⟩ := List.mem_map.1 hm
    exact fresh k hk
  rw [written_object, written_object, List.map_cons, written_string, ofJson?, tagged?_cons fresh']

/-- A response reads back from what is written of its record, if its numbers are finite. -/
theorem ofJson?_written (r : Response) :
    ofJson? r.toJson.written = if r.Finite then some r else none := by
  match r with
  | answer (.step report) =>
    have fresh : ∀ m ∈ report.toMembers, m.1 ≠ "result" := by
      intro m hm tag
      have declared := StepReport.name_mem_of_mem_toMembers hm
      rw [tag] at declared
      simp [StepReport.fieldNames] at declared
    by_cases finite : report.time.isFinite = true
    · have whole : (answer (.step report)).Finite := finite
      have read := ofJson?_toJson (answer (.step report))
      rw [toJson, ofJson?, tagged?_cons fresh] at read
      rw [if_pos whole, toJson, ofJson?_written_tagged fresh, StepReport.written_toMembers finite]
      exact read
    · have part : ¬ (answer (.step report)).Finite := finite
      have lost : (report.toMembers.map fun m => (m.1, m.2.written)).lookup "time" =
          some .null := by
        simp [StepReport.toMembers, List.lookup, written, finite]
      rw [if_neg part, toJson, ofJson?_written_tagged fresh, written_object]
      simp only [ofRecord?, StepReport.ofRecord?_of_lost lost, Option.map_none]
  | answer (.time tick time) =>
    have finite : (answer (.time tick time)).Finite ↔ time.isFinite = true := Iff.rfl
    simp [ofJson?, toJson, ofRecord?, tagged?, fields?, List.lookup, required, double?_written,
      ite_bind, finite]
  | answer (.placement p) =>
    have fresh : ∀ m ∈ p.toMembers, m.1 ≠ "result" := by cases p <;> simp [Placement.toMembers]
    have finite : (answer (.placement p)).Finite ↔ p.Finite := Iff.rfl
    have read : Placement.ofJson? (Json.object p.toMembers).written = _ := p.ofJson?_written
    rw [toJson, ofJson?_written_tagged fresh]
    simp only [ofRecord?, read, finite]
    split <;> rfl
  | answer (.position p) =>
    have finite : (answer (.position p)).Finite ↔ p.x.isFinite = true ∧ p.y.isFinite = true :=
      Bool.and_eq_true_iff
    simp [ofJson?, toJson, ofRecord?, tagged?, fields?, List.lookup, required, double?_written,
      ite_bind, finite, ite_and]
  | answer .ok => rfl
  | answer (.snapshot s) =>
    have fresh : ∀ m ∈ s.toMembers, m.1 ≠ "result" := by simp [Snapshot.toMembers]
    have finite : (answer (.snapshot s)).Finite ↔ s.Finite := Iff.rfl
    rw [toJson, ofJson?_written_tagged fresh]
    simp only [ofRecord?, s.ofRecord?_written, finite]
    split <;> rfl
  | error code message => rfl

/-- A response is read from its line if its numbers are finite, and nothing is otherwise. -/
theorem decode?_encode_eq {r : Response} (counted : r.Counted) :
    decode? r.encode = if r.Finite then some r else none := by
  rw [decode?, encode, read?_compact_written (fits_written counted)]
  exact r.ofJson?_written

end Response
end Reading

namespace Session

/-- Over exact numbers sessions of accepted settings on accepted networks give finite answers
to all commands, if widths are finite and every kind is held back on every lane. A script
writes lines of which those with finite numbers are read back as the responses that they were
written for, and all others as none. -/
theorem readable_of_restrained {d : NetworkDescription Exact} (accepted : d.Accepted)
    {settings : SessionSettings Exact} (configured : settings.Accepted)
    (restrained : d.Restrained settings.motion) {deviates : DeviateStream Exact}
    (numbers : ∀ n, deviates.draw n ≠ .notANumber) (cellSize : Exact) :
    (∀ cs answer, .ok answer ∈
        ((fresh (.ofNetwork (.lay d) cellSize) settings deviates).run cs).1 → answer.Finite) ∧
      ∀ (s : Session Float) (lines : List String), (∀ r ∈ (s.runScript lines).1, r.Counted) →
        (Text.lines (Script.output (s.runScript lines).1)).map Response.decode? =
          (s.runScript lines).1.map fun r => if r.Finite then some r else none := by
  constructor
  · exact finite_run (finite_fresh accepted configured restrained numbers cellSize)
  · intro s lines counted
    rw [Script.lines_output, List.map_map]
    exact List.map_congr_left fun r hr => Response.decode?_encode_eq (counted r hr)

/-- A car is put on the ring, and all of it is looked at. -/
noncomputable def survey : List (Command Exact) := [.insert ⟨"car", halfway⟩, .snapshot]

theorem restrained_ring : NetworkDescription.ring.Restrained
    (SessionSettings.default (α := Exact)).motion := by
  constructor
  · simp [NetworkDescription.ring, EdgeDescription.ring, Scalar.isFinite, Exact.isFinite]
  · intro e he lane hlane kind
    cases kind <;> exact .inl rfl

/-- Puts a car at the start of the road and asks where it is. -/
def whereabouts : List String :=
  ["\x7b\"cmd\":\"insert\",\"id\":\"car\",\"edge\":\"AB\",\"lane\":0,\"offset\":0.0\x7d",
    "\x7b\"cmd\":\"position\",\"id\":\"car\"\x7d"]

theorem readable_whereabouts :
    (∃ shot, ((fresh (.ofNetwork (.lay .ring) (.real 50)) .default
        (.ofDraws fun _ => .real 0)).run survey).1 =
          [.ok (.placement (.onLane "ring" 0 5.0 0.0)), .ok (.snapshot shot)] ∧ shot.Finite) ∧
      ∃ responses, ((fresh (.ofNetwork (.lay .road) 50.0) .default
          (.ofDraws fun _ => (0.0 : Float))).runScript whereabouts).1 = responses ∧
        responses.length = 2 ∧
        (Text.lines (Script.output responses)).map Response.decode? = responses.map some := by
  have numbers (n : ℕ) : (DeviateStream.ofDraws fun _ => Exact.real 0).draw n ≠ .notANumber :=
    Exact.ne_of_isFinite rfl
  obtain ⟨answers, lines⟩ := readable_of_restrained NetworkDescription.accepted_ring
    accepted_default restrained_ring numbers (.real 50)
  constructor
  · obtain ⟨r, known⟩ := insertLane_halfway
    have start : startPosition (.lay .ring) halfway = .ok 0 := rfl
    have made := insert_eq (s := fresh (.ofNetwork (.lay .ring) (.real 50)) .default
      (.ofDraws fun _ => .real 0)) rfl (by decide : "car" ≠ "") rfl known
      (insertFault?_halfway r) start
    have ran : ∃ shot, ((fresh (.ofNetwork (.lay .ring) (.real 50)) .default
        (.ofDraws fun _ => .real 0)).run survey).1 =
          [.ok (.placement (.onLane "ring" 0 5.0 0.0)), .ok (.snapshot shot)] := by
      rw [survey, run, dispatch, made]
      exact ⟨_, rfl⟩
    obtain ⟨shot, ran⟩ := ran
    exact ⟨shot, ran, answers survey (.snapshot shot) (by simp [ran])⟩
  · have ran : ((fresh (.ofNetwork (.lay .road) 50.0) .default
        (.ofDraws fun _ => (0.0 : Float))).runScript whereabouts).1 =
          [.answer (.placement (.onLane "AB" 0 0.0 0.0)), .answer (.position ⟨0.0, -1.6⟩)] := by
      decide +kernel
    have counted : ∀ r ∈ ((fresh (.ofNetwork (.lay .road) 50.0) .default
        (.ofDraws fun _ => (0.0 : Float))).runScript whereabouts).1, r.Counted := by
      rw [ran]
      simp [Response.Counted, Placement.Counted]
    have finite : (Response.answer (.placement (.onLane "AB" 0 0.0 0.0))).Finite ∧
        (Response.answer (.position ⟨0.0, -1.6⟩)).Finite := by decide +kernel
    refine ⟨_, ran, rfl, ?_⟩
    rw [← ran, lines _ _ counted, ran]
    simp only [List.map_cons, List.map_nil, if_pos finite.1, if_pos finite.2]

end Session

/-- A road with a lane of infinite width. -/
def NetworkDescription.boundless : NetworkDescription Float where
  name := "road"
  description := ""
  junctions := [⟨"A", ⟨0.0, 0.0⟩, 10.0⟩, ⟨"B", ⟨100.0, 0.0⟩, 10.0⟩]
  edges := [⟨"AB", "A", "B", [⟨0.0, 0.0⟩, ⟨100.0, 0.0⟩], 13.89, [⟨Scalar.infinity, [], none⟩]⟩]

namespace Session

/-- The position of the car is answered, but what is written of it is no response. -/
theorem unreadable_boundless :
    let s : Session Float :=
      fresh (.ofNetwork (.lay .boundless) 50.0) .default (.ofDraws fun _ => 0.0)
    NetworkDescription.boundless.Accepted ∧ (SessionSettings.default (α := Float)).Accepted ∧
      ∃ p, (s.runScript whereabouts).1 =
          [.answer (.placement (.onLane "AB" 0 0.0 0.0)), .answer (.position p)] ∧
        p.isFinite = false ∧
        (Text.lines (Script.output (s.runScript whereabouts).1)).map Response.decode? =
          [some (.answer (.placement (.onLane "AB" 0 0.0 0.0))), none] := by
  intro s
  have accepted : NetworkDescription.boundless.Accepted := by decide +kernel
  have configured : (SessionSettings.default (α := Float)).fault? = none := by decide +kernel
  have ran : (s.runScript whereabouts).1 = [.answer (.placement (.onLane "AB" 0 0.0 0.0)),
      .answer (.position ⟨0.0 / 0.0, 0.0 / 0.0⟩)] := by decide +kernel
  have counted : (Response.answer (.placement (.onLane "AB" 0 0.0 0.0))).Counted :=
    (by decide : 0 < 2 ^ 64)
  have placed := (Response.decode?_encode_eq counted).trans (if_pos (by decide +kernel))
  have lost := (@Response.decode?_encode_eq (.answer (.position ⟨0.0 / 0.0, 0.0 / 0.0⟩))
    trivial).trans (if_neg (by decide +kernel))
  refine ⟨accepted, configured, _, ran, by decide +kernel, ?_⟩
  rw [Script.lines_output, ran]
  simp only [List.map_cons, List.map_nil, placed, lost]

end Session
end Roadway
