import Roadway.Json.Record
import Roadway.Session.Command

/-!
# Command lines

A command line is a JSON record tagged by `cmd`. Members that hold their default may
be left out. `Command.decode` reads a line, and `Command.encode` writes all members
in declared order.

## Main definitions

* `Command.encode` — the line of a command.
* `Command.decode?` — the command of a line.
-/
namespace Roadway
open Json Record

namespace Kind

def toJson (k : Kind) : Json := .string k.name

def ofJson? : Json → Option Kind := choice? ofName?

end Kind

namespace PlaceCommand

def fieldNames : List String :=
  ["id", "kind", "x", "y", "edge", "lane", "heading", "radius", "keep_route"]

def toMembers (c : PlaceCommand Float) : List (String × Json) :=
  [("id", .string c.id), ("kind", c.kind.toJson), ("x", .real c.point.x), ("y", .real c.point.y),
    ("edge", .string c.edge), ("lane", .integer c.lane), ("heading", .real c.heading),
    ("radius", ofOption .real c.radius), ("keep_route", .bool c.keepRoute)]

def ofFields? : List (Option Json) → Option (PlaceCommand Float)
  | [id, kind, x, y, edge, lane, heading, radius, keepRoute] => do
    some
      { id := ← required text? id
        kind := ← orElse Kind.ofJson? .vehicle kind
        point := ⟨← required double? x, ← required double? y⟩
        edge := ← orElse text? "" edge
        lane := ← orElse signedWord? Command.unspecifiedLane lane
        heading := ← orElse double? Command.unspecifiedHeading heading
        radius := ← orElse (optional? double?) none radius
        keepRoute := ← orElse flag? false keepRoute }
  | _ => none

end PlaceCommand

namespace InsertCommand

def fieldNames : List String :=
  ["id", "kind", "edge", "lane", "offset", "speed", "route", "exit_time"]

def toMembers (c : InsertCommand Float) : List (String × Json) :=
  [("id", .string c.id), ("kind", c.args.kind.toJson), ("edge", .string c.args.edge),
    ("lane", ofNat c.args.lane), ("offset", .real c.args.offset), ("speed", .real c.args.speed),
    ("route", .array (c.args.route.map .string)), ("exit_time", ofOption .real c.args.exitTime)]

def ofFields? : List (Option Json) → Option (InsertCommand Float)
  | [id, kind, edge, lane, offset, speed, route, exitTime] => do
    some
      { id := ← required text? id
        args :=
          { kind := ← orElse Kind.ofJson? .vehicle kind
            edge := ← required text? edge
            lane := ← orElse word? 0 lane
            offset := ← orElse double? 0.0 offset
            speed := ← orElse double? 0.0 speed
            route := ← orElse (list? text?) [] route
            exitTime := ← orElse (optional? double?) none exitTime } }
  | _ => none

end InsertCommand

namespace Command

/-- The record of a command with all its members. -/
def toJson : Command Float → Json
  | step => .object [("cmd", .string "step")]
  | place c => .object (("cmd", .string "place") :: c.toMembers)
  | position id => .object [("cmd", .string "position"), ("id", .string id)]
  | remove id => .object [("cmd", .string "remove"), ("id", .string id)]
  | insert c => .object (("cmd", .string "insert") :: c.toMembers)
  | time => .object [("cmd", .string "time")]
  | snapshot => .object [("cmd", .string "export")]
  | close => .object [("cmd", .string "close")]

/-- The id in a record that has no other field. -/
def idOf? (record : Json) : Option String :=
  match record.fields? ["id"] with
  | some [id] => required text? id
  | _ => none

/-- The command of a record with a given tag. -/
def ofRecord? (tag : String) (record : Json) : Option (Command Float) :=
  match tag with
  | "step" => record.noFields?.map fun _ => step
  | "place" => (record.fields? PlaceCommand.fieldNames).bind PlaceCommand.ofFields? |>.map place
  | "position" => (idOf? record).map position
  | "remove" => (idOf? record).map remove
  | "insert" =>
    (record.fields? InsertCommand.fieldNames).bind InsertCommand.ofFields? |>.map insert
  | "time" => record.noFields?.map fun _ => time
  | "export" => record.noFields?.map fun _ => snapshot
  | "close" => record.noFields?.map fun _ => close
  | _ => none

def ofJson? (j : Json) : Option (Command Float) :=
  match j.tagged? "cmd" with
  | some (.string tag, record) => ofRecord? tag record
  | _ => none

/-- The line of a command. -/
def encode (c : Command Float) : String := c.toJson.compact

/-- The command of a line, if it is one. -/
def decode? (line : String) : Option (Command Float) := (Json.read? line).bind ofJson?

/-- The command of a line, or the fault with which any other line is answered, whatever its
reader complains about. -/
def decode (line : String) : Except (ControlFault Float) (Command Float) :=
  match decode? line with
  | some c => .ok c
  | none => .error (.invalidArgument .malformedCommand)

end Command
end Roadway
