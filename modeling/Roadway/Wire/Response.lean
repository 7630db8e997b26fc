import Roadway.Wire.Command

/-!
# Response lines

A response is the answer to a command or an error with a code and a message, written
as a JSON record tagged by `result`. `Response.encode` writes a line with the fields
in declared order, leaving out the empty lists of a step report, and
`Response.decode?` reads it back.

## Main definitions

* `Response` — what a command line is answered with.
* `Response.encode` — the line of a response.
* `Response.decode?` — the response of a line.
* `Session.respond` — the response to a command.
-/
namespace Roadway
open Json Record

/-- What a command line is answered with. -/
inductive Response
  | answer (answer : Answer Float)
  | error (code message : String)
  deriving DecidableEq, Repr

namespace Placement

/-- The fields of a placement behind its tag `state`. -/
def toMembers : Placement Float → List (String × Json)
  | onLane edge lane offset lateral =>
    [("state", .string "on_lane"), ("edge_id", .string edge), ("lane_index", ofNat lane),
      ("offset", .real offset), ("lateral_offset", .real lateral)]
  | free position heading =>
    [("state", .string "free"), ("x", .real position.x), ("y", .real position.y),
      ("heading", .real heading)]
  | undetermined => [("state", .string "undetermined")]

def toJson (p : Placement Float) : Json := .object p.toMembers

/-- The placement of a record with a given tag. -/
def ofRecord? (tag : String) (record : Json) : Option (Placement Float) :=
  match tag with
  | "on_lane" =>
    match record.fields? ["edge_id", "lane_index", "offset", "lateral_offset"] with
    | some [edge, lane, offset, lateral] => do
      some (.onLane (← required text? edge) (← required word? lane)
        (← required double? offset) (← required double? lateral))
    | _ => none
  | "free" =>
    match record.fields? ["x", "y", "heading"] with
    | some [x, y, heading] => do
      some (.free ⟨← required double? x, ← required double? y⟩ (← required double? heading))
    | _ => none
  | "undetermined" => record.noFields?.map fun _ => .undetermined
  | _ => none

/-- Inside a response the tag may also be the number of the variant. -/
def ofJson? (j : Json) : Option (Placement Float) :=
  match j.tagged? "state" with
  | some (.string tag, record) => ofRecord? tag record
  | some (.integer n, record) =>
    if n < 0 then none
    else (["on_lane", "free", "undetermined"][n.toNat]?).bind (ofRecord? · record)
  | _ => none

end Placement

namespace Collision

def toJson (c : Collision) : Json := .object
  [("entity_a", .string c.entityA), ("entity_b", .string c.entityB),
    ("junction_id", .string c.junction)]

def ofJson? (j : Json) : Option Collision :=
  match j.fields? ["entity_a", "entity_b", "junction_id"] with
  | some [a, b, junction] => do
    some ⟨← required text? a, ← required text? b, ← required text? junction⟩
  | _ => none

end Collision

namespace BoundaryEvent

def toJson (e : BoundaryEvent) : Json := .object
  [("entity_id", .string e.entity), ("edge_id", .string e.edge), ("lane_index", ofNat e.lane)]

def ofJson? (j : Json) : Option BoundaryEvent :=
  match j.fields? ["entity_id", "edge_id", "lane_index"] with
  | some [entity, edge, lane] => do
    some ⟨← required text? entity, ← required text? edge, ← required word? lane⟩
  | _ => none

end BoundaryEvent

namespace StepReport

def fieldNames : List String :=
  ["tick", "time", "collisions", "boundary_events", "arrived", "exited", "removed"]

/-- A list as a member, unless it is empty. -/
def listMember {β : Type} (name : String) (write : β → Json) (items : List β) :
    List (String × Json) :=
  if items.isEmpty then [] else [(name, .array (items.map write))]

def toMembers (r : StepReport Float) : List (String × Json) :=
  [("tick", ofNat r.tick), ("time", .real r.time)] ++
  listMember "collisions" Collision.toJson r.collisions ++
  listMember "boundary_events" BoundaryEvent.toJson r.boundaryEvents ++
  listMember "arrived" .string r.arrived ++
  listMember "exited" .string r.exited ++
  listMember "removed" .string r.removed

def ofRecord? (record : Json) : Option (StepReport Float) :=
  match record.fields? fieldNames with
  | some [tick, time, collisions, boundaryEvents, arrived, exited, removed] => do
    some
      { tick := ← required word? tick
        time := ← required double? time
        collisions := ← orElse (list? Collision.ofJson?) [] collisions
        boundaryEvents := ← orElse (list? BoundaryEvent.ofJson?) [] boundaryEvents
        arrived := ← orElse (list? text?) [] arrived
        exited := ← orElse (list? text?) [] exited
        removed := ← orElse (list? text?) [] removed }
  | _ => none

end StepReport

namespace EntityView

def toJson (e : EntityView Float) : Json := .object
  [("id", .string e.id), ("kind", e.kind.toJson), ("placement", e.placement.toJson),
    ("x", .real e.position.x), ("y", .real e.position.y), ("heading", .real e.heading),
    ("speed", .real e.speed)]

def ofJson? (j : Json) : Option (EntityView Float) :=
  match j.fields? ["id", "kind", "placement", "x", "y", "heading", "speed"] with
  | some [id, kind, placement, x, y, heading, speed] => do
    some
      { id := ← required text? id
        kind := ← required Kind.ofJson? kind
        placement := ← required Placement.ofJson? placement
        position := ⟨← required double? x, ← required double? y⟩
        heading := ← required double? heading
        speed := ← required double? speed }
  | _ => none

end EntityView

namespace LaneView

def toJson (l : LaneView Float) : Json := .object
  [("id", .string l.id), ("occupancy", ofNat l.occupancy), ("mean_speed", .real l.meanSpeed)]

def ofJson? (j : Json) : Option (LaneView Float) :=
  match j.fields? ["id", "occupancy", "mean_speed"] with
  | some [id, occupancy, meanSpeed] => do
    some ⟨← required text? id, ← required word? occupancy, ← required double? meanSpeed⟩
  | _ => none

end LaneView

namespace Snapshot

def toMembers (s : Snapshot Float) : List (String × Json) :=
  [("network", .string s.network), ("tick", ofNat s.tick), ("time", .real s.time),
    ("entities", .array (s.entities.map EntityView.toJson)),
    ("lanes", .array (s.lanes.map LaneView.toJson))]

def ofRecord? (record : Json) : Option (Snapshot Float) :=
  match record.fields? ["network", "tick", "time", "entities", "lanes"] with
  | some [network, tick, time, entities, lanes] => do
    some
      { network := ← required text? network
        tick := ← required word? tick
        time := ← required double? time
        entities := ← required (list? EntityView.ofJson?) entities
        lanes := ← required (list? LaneView.ofJson?) lanes }
  | _ => none

end Snapshot

namespace Response

/-- The response to a command. -/
def ofReply : Except (ControlFault Float) (Answer Float) → Response
  | .ok a => answer a
  | .error fault => error fault.code fault.message

def isError : Response → Bool
  | error _ _ => true
  | answer _ => false

/-- The record of a response. -/
def toJson : Response → Json
  | answer (.step report) => .object (("result", .string "step") :: report.toMembers)
  | answer (.time tick time) =>
    .object [("result", .string "time"), ("tick", ofNat tick), ("time", .real time)]
  | answer (.placement p) => .object (("result", .string "placement") :: p.toMembers)
  | answer (.position p) =>
    .object [("result", .string "position"), ("x", .real p.x), ("y", .real p.y)]
  | answer .ok => .object [("result", .string "ok")]
  | answer (.snapshot s) => .object (("result", .string "snapshot") :: s.toMembers)
  | error code message =>
    .object [("result", .string "error"), ("code", .string code), ("message", .string message)]

/-- The response of a record with a given tag. -/
def ofRecord? (tag : String) (record : Json) : Option Response :=
  match tag with
  | "step" => (StepReport.ofRecord? record).map fun r => answer (.step r)
  | "time" =>
    match record.fields? ["tick", "time"] with
    | some [tick, time] => do
      some (answer (.time (← required word? tick) (← required double? time)))
    | _ => none
  | "placement" => (Placement.ofJson? record).map fun p => answer (.placement p)
  | "position" =>
    match record.fields? ["x", "y"] with
    | some [x, y] => do
      some (answer (.position ⟨← required double? x, ← required double? y⟩))
    | _ => none
  | "ok" => record.noFields?.map fun _ => answer .ok
  | "snapshot" => (Snapshot.ofRecord? record).map fun s => answer (.snapshot s)
  | "error" =>
    match record.fields? ["code", "message"] with
    | some [code, message] => do
      some (error (← required text? code) (← required text? message))
    | _ => none
  | _ => none

def ofJson? (j : Json) : Option Response :=
  match j.tagged? "result" with
  | some (.string tag, record) => ofRecord? tag record
  | _ => none

/-- The line of a response. -/
def encode (r : Response) : String := r.toJson.compact

/-- The response of a line, if it is one. -/
def decode? (line : String) : Option Response := (Json.read? line).bind ofJson?

end Response

namespace Session

/-- Answers one command with a response. -/
def respond (s : Session Float) (c : Command Float) : Response × Session Float :=
  (s.dispatch c).map Response.ofReply id

end Session
end Roadway
