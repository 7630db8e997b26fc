import Mathlib
import Roadway.Proofs.Json.Reading
import Roadway.Proofs.Json.Record
import Roadway.Wire.Command

/-!
# Commands read back

A command whose doubles are finite is read back from its line, and it is also read from
every line that differs by edits of the record: members that hold their default may be
missing, the members may come in any order, the tag among them, and there may be texts of
names that the command does not declare.

## Main definitions

* `Command.members`, `Command.defaults` — the members of a command and their defaults.
* `Command.Portable` — commands that JSON can hold.
* `Command.decode?_edited` — such a command is read from every edit of its record.
-/
namespace Roadway
open Json Record

theorem Kind.ofJson?_toJson (k : Kind) : ofJson? k.toJson = some k := by
  simp [ofJson?, toJson, choice?]

namespace Command

/-- The members of the record of a command, its tag first. -/
def members : Command Float → List (String × Json)
  | step => [("cmd", .string "step")]
  | place c => ("cmd", .string "place") :: c.toMembers
  | position id => [("cmd", .string "position"), ("id", .string id)]
  | remove id => [("cmd", .string "remove"), ("id", .string id)]
  | insert c => ("cmd", .string "insert") :: c.toMembers
  | time => [("cmd", .string "time")]
  | snapshot => [("cmd", .string "export")]
  | close => [("cmd", .string "close")]

theorem toJson_eq (c : Command Float) : c.toJson = .object c.members := by cases c <;> rfl

/-- The members that need not be written, with the values that they have then. -/
def defaults : Command Float → List (String × Json)
  | place _ =>
    [("kind", Kind.vehicle.toJson), ("edge", .string ""), ("lane", .integer unspecifiedLane),
      ("heading", .real unspecifiedHeading), ("radius", .null), ("keep_route", .bool false)]
  | insert _ =>
    [("kind", Kind.vehicle.toJson), ("lane", ofNat 0), ("offset", .real 0.0),
      ("speed", .real 0.0), ("route", .array []), ("exit_time", .null)]
  | _ => []

/-- What JSON can hold: finite doubles, and lanes of 64 bits, signed where a negative one
stands for none. -/
def Portable : Command Float → Prop
  | place c =>
    c.point.x.isFinite = true ∧ c.point.y.isFinite = true ∧ -2 ^ 63 ≤ c.lane ∧ c.lane < 2 ^ 63 ∧
      c.heading.isFinite = true ∧ ∀ r ∈ c.radius, r.isFinite = true
  | insert c =>
    c.args.lane < 2 ^ 64 ∧ c.args.offset.isFinite = true ∧ c.args.speed.isFinite = true ∧
      ∀ t ∈ c.args.exitTime, t.isFinite = true
  | _ => True

theorem nodup_members (c : Command Float) : (c.members.map (·.1)).Nodup := by
  cases c <;> simp [members, PlaceCommand.toMembers, InsertCommand.toMembers]

theorem optional?_ofOption (x : Option Float) :
    optional? double? (ofOption .real x) = some x := by
  cases x <;> rfl

theorem fits_ofOption {depth : ℕ} {x : Option Float} (finite : ∀ y ∈ x, y.isFinite = true) :
    Fits depth (ofOption .real x) := by
  cases x with
  | none => exact .null
  | some x => exact .real (finite x rfl)

/-- The members of a command can be held as far as the command can. -/
theorem fits_members {c : Command Float} (portable : c.Portable) :
    ∀ m ∈ c.members, Fits 126 m.2 := by
  have text (s : String) : Fits 126 (.string s) := .string s
  cases c with
  | place c =>
    obtain ⟨hx, hy, least, greatest, hheading, hradius⟩ := portable
    have lane : Fits 126 (.integer c.lane) := .integer least (by omega)
    simp [members, PlaceCommand.toMembers, Kind.toJson, text, Fits.real, Fits.bool, lane, hx, hy,
      hheading, fits_ofOption hradius]
  | insert c =>
    obtain ⟨hlane, hoffset, hspeed, hexit⟩ := portable
    have route : Fits 126 (.array (c.args.route.map .string)) := fits_list fun _ _ => .string _
    simp [members, InsertCommand.toMembers, Kind.toJson, text, Fits.real, fits_ofNat hlane,
      hoffset, hspeed, route, fits_ofOption hexit]
  | step | position _ | remove _ | time | snapshot | close => simp [members, text]

section Fields
variable {ms : List (String × Json)}

/-- A placing command is read from any members that keep what it tells. -/
theorem ofFields?_place {c : PlaceCommand Float} (small : c.lane < 2 ^ 63)
    (keeps : ∀ name v, (name, v) ∈ c.toMembers → Keeps (defaults (place c)) ms name v) :
    ((Json.object (ms.filter (·.1 != "cmd"))).fields? PlaceCommand.fieldNames).bind
      PlaceCommand.ofFields? = some c := by
  have untagged : "cmd" ∉ c.toMembers.map (·.1) := by simp [PlaceCommand.toMembers]
  have fields := fields?_of_keeps untagged keeps
  simp only [PlaceCommand.toMembers, List.mem_cons, Prod.mk.injEq] at keeps
  have id : required text? (valuesOf "id" ms).head? = some c.id :=
    required_of_keeps (keeps "id" (.string c.id) (by simp)) (by simp [defaults]) rfl
  have kind : orElse Kind.ofJson? .vehicle (valuesOf "kind" ms).head? = some c.kind :=
    orElse_of_keeps (keeps "kind" c.kind.toJson (by simp))
      (by simp [defaults, Kind.ofJson?_toJson]) c.kind.ofJson?_toJson
  have x : required double? (valuesOf "x" ms).head? = some c.point.x :=
    required_of_keeps (keeps "x" (.real c.point.x) (by simp)) (by simp [defaults]) rfl
  have y : required double? (valuesOf "y" ms).head? = some c.point.y :=
    required_of_keeps (keeps "y" (.real c.point.y) (by simp)) (by simp [defaults]) rfl
  have edge : orElse text? "" (valuesOf "edge" ms).head? = some c.edge :=
    orElse_of_keeps (keeps "edge" (.string c.edge) (by simp)) (by simp [defaults, text?]) rfl
  have lane : orElse signedWord? unspecifiedLane (valuesOf "lane" ms).head? = some c.lane := by
    have bound : c.lane < twoPow 63 := by
      rw [twoPow_eq]
      exact_mod_cast small
    have default : signedWord? (.integer unspecifiedLane) = some unspecifiedLane := by decide
    exact orElse_of_keeps (keeps "lane" (.integer c.lane) (by simp)) (by simp [defaults, default])
      (by rw [signedWord?, if_pos bound])
  have heading : orElse double? unspecifiedHeading (valuesOf "heading" ms).head? =
      some c.heading :=
    orElse_of_keeps (keeps "heading" (.real c.heading) (by simp)) (by simp [defaults, double?]) rfl
  have radius : orElse (optional? double?) none (valuesOf "radius" ms).head? = some c.radius :=
    orElse_of_keeps (keeps "radius" (ofOption .real c.radius) (by simp))
      (by simp [defaults, optional?]) (optional?_ofOption c.radius)
  have keepRoute : orElse flag? false (valuesOf "keep_route" ms).head? = some c.keepRoute :=
    orElse_of_keeps (keeps "keep_route" (.bool c.keepRoute) (by simp)) (by simp [defaults, flag?])
      rfl
  have names : PlaceCommand.fieldNames = c.toMembers.map (·.1) := rfl
  rw [names, fields]
  simp [PlaceCommand.toMembers, PlaceCommand.ofFields?, id, kind, x, y, edge, lane, heading,
    radius, keepRoute]

/-- An inserting command is read from any members that keep what it tells. -/
theorem ofFields?_insert {c : InsertCommand Float}
    (keeps : ∀ name v, (name, v) ∈ c.toMembers → Keeps (defaults (insert c)) ms name v) :
    ((Json.object (ms.filter (·.1 != "cmd"))).fields? InsertCommand.fieldNames).bind
      InsertCommand.ofFields? = some c := by
  have untagged : "cmd" ∉ c.toMembers.map (·.1) := by simp [InsertCommand.toMembers]
  have fields := fields?_of_keeps untagged keeps
  simp only [InsertCommand.toMembers, List.mem_cons, Prod.mk.injEq] at keeps
  have id : required text? (valuesOf "id" ms).head? = some c.id :=
    required_of_keeps (keeps "id" (.string c.id) (by simp)) (by simp [defaults]) rfl
  have kind : orElse Kind.ofJson? .vehicle (valuesOf "kind" ms).head? = some c.args.kind :=
    orElse_of_keeps (keeps "kind" c.args.kind.toJson (by simp))
      (by simp [defaults, Kind.ofJson?_toJson]) c.args.kind.ofJson?_toJson
  have edge : required text? (valuesOf "edge" ms).head? = some c.args.edge :=
    required_of_keeps (keeps "edge" (.string c.args.edge) (by simp)) (by simp [defaults]) rfl
  have lane : orElse word? 0 (valuesOf "lane" ms).head? = some c.args.lane :=
    orElse_of_keeps (keeps "lane" (ofNat c.args.lane) (by simp)) (by simp [defaults, word?, ofNat])
      (by simp [word?, ofNat])
  have offset : orElse double? 0.0 (valuesOf "offset" ms).head? = some c.args.offset :=
    orElse_of_keeps (keeps "offset" (.real c.args.offset) (by simp)) (by simp [defaults, double?])
      rfl
  have speed : orElse double? 0.0 (valuesOf "speed" ms).head? = some c.args.speed :=
    orElse_of_keeps (keeps "speed" (.real c.args.speed) (by simp)) (by simp [defaults, double?])
      rfl
  have route : orElse (list? text?) [] (valuesOf "route" ms).head? = some c.args.route :=
    orElse_of_keeps (keeps "route" (.array (c.args.route.map .string)) (by simp))
      (by simp [defaults, list?]) (list?_array fun _ _ => rfl)
  have exitTime : orElse (optional? double?) none (valuesOf "exit_time" ms).head? =
      some c.args.exitTime :=
    orElse_of_keeps (keeps "exit_time" (ofOption .real c.args.exitTime) (by simp))
      (by simp [defaults, optional?]) (optional?_ofOption c.args.exitTime)
  have names : InsertCommand.fieldNames = c.toMembers.map (·.1) := rfl
  rw [names, fields]
  simp [InsertCommand.toMembers, InsertCommand.ofFields?, id, kind, edge, lane, offset, speed,
    route, exitTime]

/-- An id is read from any members that keep it. -/
theorem idOf?_of_keeps {id : String} (keeps : Keeps [] ms "id" (.string id)) :
    idOf? (.object (ms.filter (·.1 != "cmd"))) = some id := by
  have untagged : "cmd" ∉ [("id", Json.string id)].map (·.1) := by simp
  have fields : fields? ["id"] (.object (ms.filter (·.1 != "cmd"))) =
      some [(valuesOf "id" ms).head?] :=
    fields?_of_keeps untagged fun name v h => by
      obtain ⟨rfl, rfl⟩ := Prod.mk.inj (List.mem_singleton.1 h)
      exact keeps
  rw [idOf?, fields]
  exact required_of_keeps keeps (by simp) rfl

end Fields

/-- A command is read from every edit of its record. -/
theorem ofJson?_edited {c : Command Float} (portable : c.Portable) {ms : List (String × Json)}
    (edited : Edited c.members c.defaults ms) : ofJson? (.object ms) = some c := by
  have keeps : ∀ name v, (name, v) ∈ c.members → Keeps c.defaults ms name v :=
    fun name v h => edited.keeps (nodup_members c) h
  cases c with
  | step | time | snapshot | close =>
    have htag := tagged?_of_keeps (keeps _ _ (List.mem_singleton_self _)) (by simp [defaults])
    rw [ofJson?, htag]
    rfl
  | position id | remove id =>
    have htag := tagged?_of_keeps (keeps _ _ (List.mem_cons_self ..)) (by simp [defaults])
    have hid := idOf?_of_keeps (keeps "id" (.string id) (by simp [members]))
    rw [ofJson?, htag]
    simp only [ofRecord?, hid, Option.map_some]
  | place c =>
    have htag := tagged?_of_keeps (keeps _ _ (List.mem_cons_self ..)) (by simp [defaults])
    have hplace := ofFields?_place portable.2.2.2.1
      fun name v h => keeps name v (List.mem_cons_of_mem _ h)
    rw [ofJson?, htag]
    simp only [ofRecord?, hplace, Option.map_some]
  | insert c =>
    have htag := tagged?_of_keeps (keeps _ _ (List.mem_cons_self ..)) (by simp [defaults])
    have hinsert := ofFields?_insert fun name v h => keeps name v (List.mem_cons_of_mem _ h)
    rw [ofJson?, htag]
    simp only [ofRecord?, hinsert, Option.map_some]

/-- A command that JSON can hold is read from the line of every edit of its record: of the
record as it is written, with members left out that hold their default, with the members in
another order, and with texts put in under names that the command does not declare. -/
theorem decode?_edited {c : Command Float} (portable : c.Portable) :
    decode? c.encode = some c ∧
      ∀ ms, Edited c.members c.defaults ms → decode? (Json.object ms).compact = some c := by
  have decoded : ∀ ms, Edited c.members c.defaults ms →
      decode? (Json.object ms).compact = some c := by
    intro ms edited
    have fits : Fits maxDepth (.object ms) :=
      .object (edited.forall_mem (fits_members portable) fun s => .string s)
    rw [decode?, read?_compact fits]
    exact ofJson?_edited portable edited
  refine ⟨?_, decoded⟩
  rw [encode, toJson_eq]
  exact decoded _ .whole

/-- A placing command with its tag last, a text of another name first, and neither lane nor
heading nor radius. -/
theorem decode?_sparse :
    let c : Command Float := .place
      { id := "ë\n\"", kind := .person, point := ⟨0.1, -0.0⟩, edge := "e→", lane := -1,
        heading := -1073741824.0, radius := none, keepRoute := true }
    let ms := [("note", .string "\x7d, \x7b"), ("keep_route", .bool true), ("edge", .string "e→"),
      ("y", .real (-0.0)), ("x", .real 0.1), ("kind", .string "person"),
      ("id", .string "ë\n\""), ("cmd", .string "place")]
    c.Portable ∧ Edited c.members c.defaults ms ∧ decode? c.encode = some c ∧
      decode? (Json.object ms).compact = some c := by
  intro c ms
  have portable : c.Portable := ⟨by decide, by decide, by decide, by decide, by decide, by simp⟩
  have lane : Edited c.members c.defaults
      ([_, _, _, _, _, _] ++ [("heading", .real unspecifiedHeading), ("radius", .null), _]) :=
    .dropped (m := ("lane", .integer unspecifiedLane)) (by simp [c, defaults]) .whole
  have heading : Edited c.members c.defaults ([_, _, _, _, _, _] ++ [("radius", .null), _]) :=
    .dropped (by simp [c, defaults]) lane
  have radius : Edited c.members c.defaults ([_, _, _, _, _, _] ++ [_]) :=
    .dropped (by simp [c, defaults]) heading
  have reversed : Edited c.members c.defaults ([] ++ [_, _, _, _, _, _, _]) :=
    .reordered (List.reverse_perm _).symm radius
  have edited : Edited c.members c.defaults ms :=
    .added "\x7d, \x7b" (by simp [c, members, PlaceCommand.toMembers]) reversed
  obtain ⟨whole, decoded⟩ := decode?_edited portable
  exact ⟨portable, edited, whole, decoded ms edited⟩

end Command
end Roadway
