import Roadway.Network.Description
import Roadway.Toml.Record

/-!
# Network documents

A network description as a TOML document: a table `network` with a name, and the
lists `junctions` and `edges`.
-/
namespace Roadway
open Toml Record

/-- The abscissa and ordinate that a list of numbers begins with. -/
def Vec2.ofToml? (t : Toml) : Option (Vec2 Float) :=
  match t.items? with
  | some (x :: y :: _) => do some ⟨← double? x, ← double? y⟩
  | _ => none

def Kind.ofToml? : Toml → Option Kind := choice? Kind.ofName?

def Junction.ofToml? (t : Toml) : Option (Junction Float) :=
  match t.fields? ["id", "x", "y", "radius"] with
  | some [id, x, y, radius] => do
    some
      { id := ← required text? id
        center := ⟨← required double? x, ← required double? y⟩
        radius := ← orElse double? Junction.defaultRadius radius }
  | _ => none

def LaneDescription.ofToml? (t : Toml) : Option (LaneDescription Float) :=
  match t.fields? ["width", "allow", "speed_limit"] with
  | some [width, allow, speedLimit] => do
    let default : LaneDescription Float := LaneDescription.default
    some
      { width := ← orElse double? default.width width
        allow := ← orElse (list? Kind.ofToml?) default.allow allow
        speedLimit := ← orElse (fun t => (double? t).map some) default.speedLimit speedLimit }
  | _ => none

def EdgeDescription.ofToml? (t : Toml) : Option (EdgeDescription Float) :=
  match t.fields? ["id", "from", "to", "shape", "speed_limit", "lanes"] with
  | some [id, start, finish, shape, speedLimit, lanes] => do
    some
      { id := ← required text? id
        fromJunction := ← required text? start
        toJunction := ← required text? finish
        shape := ← required (list? Vec2.ofToml?) shape
        speedLimit := ← orElse double? EdgeDescription.defaultSpeedLimit speedLimit
        lanes := ← required (list? LaneDescription.ofToml?) lanes }
  | _ => none

namespace NetworkDescription

/-- The name and the description of a network. -/
def title? (t : Toml) : Option (String × String) :=
  match t.fields? ["name", "description"] with
  | some [name, description] => do some (← required text? name, ← orElse text? "" description)
  | _ => none

def ofToml? (t : Toml) : Option (NetworkDescription Float) :=
  match t.fields? ["network", "junctions", "edges"] with
  | some [network, junctions, edges] => do
    let (name, description) ← required title? network
    some
      { name := name
        description := description
        junctions := ← orElse (list? Junction.ofToml?) [] junctions
        edges := ← required (list? EdgeDescription.ofToml?) edges }
  | _ => none

/-- The description in a document, accepted or not. -/
def read? (document : String) : Option (NetworkDescription Float) :=
  (Toml.read? document).bind ofToml?

end NetworkDescription
end Roadway
