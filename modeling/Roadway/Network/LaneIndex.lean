import Roadway.Network.Basic
import Std.Data.HashMap

/-!
# Lane index

A uniform grid over the lanes of a network. Every cell lists, in ascending order,
the lanes of which some segment has a bounding box that reaches the cell. A query
ranks the lanes within a radius of a point; the grid only narrows down which lanes
are measured, and a radius that covers more cells than the grid has skips it.

## Main definitions

* `Candidate` — a lane measured against a point.
* `Candidate.rank` — candidates from best to worst.
* `Grid.build` — the lanes that reach each cell.
* `LaneIndex.nearest` — the lanes within a radius, best first.
-/
namespace Roadway

/-- A lane measured against a point and perhaps a heading. -/
structure Candidate {α : Type} (net : Network α) where
  lane : LaneRef net
  projection : Projection α
  /-- The angle between the heading asked for and the lane's at the projection, or
  zero if none was asked for. -/
  headingDelta : α

namespace Candidate
variable {α : Type} [Scalar α] {net : Network α}

/-- By lateral distance, then angle, then lane. -/
protected def compare (a b : Candidate net) : Ordering :=
  ((Scalar.compareTotal a.projection.lateral b.projection.lateral).then
    (Scalar.compareTotal a.headingDelta b.headingDelta)).then (compare a.lane b.lane)

/-- Candidates from best to worst. -/
def rank (candidates : List (Candidate net)) : List (Candidate net) :=
  candidates.mergeSort fun a b => (a.compare b).isLE

end Candidate

/-- Projects a point onto a lane and compares headings there. -/
def Network.candidate {α : Type} [Scalar α] (net : Network α) (p : Vec2 α)
    (heading : Option α) (lane : LaneRef net) : Candidate net :=
  let projection := (net.lane lane).shape.project p
  { lane := lane
    projection := projection
    headingDelta := match heading with
      | some h => Heading.delta h ((net.lane lane).headingAt projection.offset)
      | none => 0.0 }

namespace Grid

/-- A square of the grid by column and row. -/
abbrev Cell := Int × Int

/-- The integers from `low` to `high`. -/
def range (low high : Int) : List Int :=
  (List.range (high + 1 - low).toNat).map fun (n : Nat) => low + n

/-- The cells of the rectangle between two corner cells. -/
def rectangle (low high : Cell) : List Cell :=
  (range low.1 high.1).flatMap fun column => (range low.2 high.2).map fun row => (column, row)

variable {α : Type} [Scalar α]

def cellOf (cellSize : α) (p : Vec2 α) : Cell :=
  (Scalar.floor (p.x / cellSize), Scalar.floor (p.y / cellSize))

/-- The cells that the bounding box of a segment reaches. -/
def cellsOf (cellSize : α) (s : Segment α) : List Cell :=
  rectangle
    (cellOf cellSize ⟨Scalar.smaller s.a.x s.b.x, Scalar.smaller s.a.y s.b.y⟩)
    (cellOf cellSize ⟨Scalar.larger s.a.x s.b.x, Scalar.larger s.a.y s.b.y⟩)

variable {net : Network α}

/-- Lists a lane in a cell unless it was the last to be listed there. -/
def note (cells : Std.HashMap Cell (Array (LaneRef net))) (lane : LaneRef net) (cell : Cell) :
    Std.HashMap Cell (Array (LaneRef net)) :=
  let listed := cells.getD cell #[]
  if listed.back? = some lane then cells else cells.insert cell (listed.push lane)

/-- The cells that one lane reaches, segment by segment. -/
def reach (cellSize : α) (net : Network α) (lane : LaneRef net) : List Cell :=
  (net.lane lane).shape.segments.flatMap (cellsOf cellSize)

/-- The grid over all lanes, in ascending order. -/
def build (cellSize : α) (net : Network α) : Std.HashMap Cell (Array (LaneRef net)) :=
  net.laneRefs.foldl
    (fun cells lane => (reach cellSize net lane).foldl (note · lane) cells) ∅

end Grid

/-- A network with a grid over its lanes. -/
structure LaneIndex (α : Type) where
  network : Network α
  cellSize : α
  cells : Std.HashMap Grid.Cell (Array (LaneRef network))

namespace LaneIndex
variable {α : Type} [Scalar α]

def ofNetwork (net : Network α) (cellSize : α) : LaneIndex α :=
  ⟨net, cellSize, Grid.build cellSize net⟩

/-- The lanes that the grid lists around a point, in ascending order; all lanes if
the square around it has more cells than the grid. -/
def lanesNear (index : LaneIndex α) (p : Vec2 α) (radius : α) : List (LaneRef index.network) :=
  let span := Scalar.ceil (2.0 * radius / index.cellSize) + 1.0
  if !Scalar.isFinite radius || decide (Scalar.ofNat index.cells.size < span * span) then
    index.network.laneRefs
  else
    let low := Grid.cellOf index.cellSize ⟨p.x - radius, p.y - radius⟩
    let high := Grid.cellOf index.cellSize ⟨p.x + radius, p.y + radius⟩
    let listed := (Grid.rectangle low high).flatMap fun cell =>
      (index.cells.getD cell #[]).toList
    index.network.laneRefs.filter listed.contains

/-- The lanes that pass a test and lie within a radius of a point, best first. -/
def nearest (index : LaneIndex α) (p : Vec2 α) (radius : α) (heading : Option α)
    (keep : Lane α → Bool) : List (Candidate index.network) :=
  if (0.0 : α) ≤ radius then
    Candidate.rank <|
      (((index.lanesNear p radius).filter fun lane => keep (index.network.lane lane)).map
        (index.network.candidate p heading)).filter
        fun c => decide (c.projection.lateral ≤ radius)
  else []

end LaneIndex
end Roadway
