import Roadway.Proofs.Geometry.Projection
import Roadway.Proofs.Network.Cells
import Roadway.Proofs.Network.Ranking

/-!
# The grid is only an optimisation

A cell lists the lanes that reach it, and no others. Over exact numbers a lane within a
finite radius of a point has a segment whose box shares a cell with the square around the
point, whatever the size of the cells. So a query misses no lane: it answers as a scan of
all lanes does, which knows nothing of the grid.

## Main definitions

* `Network.scan` — the lanes within a radius, from a scan of all lanes.
* `Candidate.Listing` — what it means to list the lanes within a radius.
* `Grid.cellOf_mem_cellsOf` — a segment reaches the cells of the points in its box.
* `LaneIndex.nearest_ofNetwork` — a query is a scan, and lists the lanes within the radius.
-/
namespace Roadway

namespace Grid

section Cover
open Exact
variable {cellSize : Exact} (positive : 0.0 < cellSize)
include positive

/-- The cell of a point lies between those of the corners around it. -/
theorem cellOf_mem_rectangle {x y left right bottom top : ℝ} (column : left ≤ x ∧ x ≤ right)
    (row : bottom ≤ y ∧ y ≤ top) :
    cellOf cellSize (.point x y) ∈
      rectangle (cellOf cellSize (.point left bottom)) (cellOf cellSize (.point right top)) :=
  mem_rectangle.2 ⟨⟨floor_div_mono positive column.1, floor_div_mono positive column.2⟩,
    floor_div_mono positive row.1, floor_div_mono positive row.2⟩

/-- A segment reaches the cells of all points in its box. -/
theorem cellOf_mem_cellsOf {s : Segment Exact} {x y : ℝ} (h : s.InBox x y) :
    cellOf cellSize (.point x y) ∈ cellsOf cellSize s := by
  cases h with
  | of start stop column row =>
    rw [cellsOf, start, stop]
    simp only [Vec2.point_x, Vec2.point_y, smaller_real, larger_real]
    exact cellOf_mem_rectangle positive column row

end Cover
end Grid

/-- The lanes that pass a test and lie within a radius of a point, best first, from a scan
of all lanes. -/
def Network.scan {α : Type} [Scalar α] (net : Network α) (p : Vec2 α) (radius : α)
    (heading : Option α) (keep : Lane α → Bool) : List (Candidate net) :=
  Candidate.rank <|
    ((net.laneRefs.filter fun lane => keep (net.lane lane)).map
      (net.candidate p heading)).filter fun c => decide (c.projection.lateral ≤ radius)

/-- The candidates of all lanes that pass a test and lie within a radius of a point, each
lane once, in strictly ascending order. -/
structure Candidate.Listing {α : Type} [Scalar α] {net : Network α} (p : Vec2 α) (radius : α)
    (heading : Option α) (keep : Lane α → Bool) (found : List (Candidate net)) : Prop where
  mem : ∀ c, c ∈ found ↔ c = net.candidate p heading c.lane ∧
    keep (net.lane c.lane) = true ∧ c.projection.lateral ≤ radius
  once : (found.map (·.lane)).Nodup
  ascending : found.Pairwise fun a b => a.compare b = .lt

section Scan
variable {α : Type} [Scalar α] {net : Network α}

theorem Network.mem_scan {p : Vec2 α} {radius : α} {heading : Option α} {keep : Lane α → Bool}
    {c : Candidate net} :
    c ∈ net.scan p radius heading keep ↔ c = net.candidate p heading c.lane ∧
      keep (net.lane c.lane) = true ∧ c.projection.lateral ≤ radius := by
  simp only [scan, Candidate.mem_rank, List.mem_filter, List.mem_map, decide_eq_true_eq,
    mem_laneRefs, true_and]
  constructor
  · rintro ⟨⟨r, hkeep, rfl⟩, hreach⟩
    exact ⟨rfl, hkeep, hreach⟩
  · intro h
    obtain ⟨heq, hkeep, hreach⟩ := h
    exact ⟨⟨c.lane, hkeep, heq.symm⟩, hreach⟩

theorem Network.nodup_lanes_scan (net : Network α) (p : Vec2 α) (radius : α)
    (heading : Option α) (keep : Lane α → Bool) :
    ((net.scan p radius heading keep).map (·.lane)).Nodup := by
  have hperm := (List.mergeSort_perm
    (((net.laneRefs.filter fun lane => keep (net.lane lane)).map
      (net.candidate p heading)).filter fun c => decide (c.projection.lateral ≤ radius))
    fun a b => (a.compare b).isLE).map (·.lane)
  refine hperm.nodup_iff.2 ?_
  refine List.Nodup.sublist (List.filter_sublist.map _) ?_
  rw [List.map_map]
  -- Measuring a lane keeps it, so the lanes of the candidates are lanes of the network.
  have hlanes : (fun c : Candidate net => c.lane) ∘ net.candidate p heading = id := rfl
  rw [hlanes, List.map_id]
  exact net.nodup_laneRefs.filter _

/-- A scan lists the lanes within the radius. -/
theorem Network.listing_scan [Std.TransCmp (Scalar.compareTotal (α := α))] (net : Network α)
    (p : Vec2 α) (radius : α) (heading : Option α) (keep : Lane α → Bool) :
    Candidate.Listing p radius heading keep (net.scan p radius heading keep) := by
  have once := net.nodup_lanes_scan p radius heading keep
  refine ⟨fun c => mem_scan, once, ?_⟩
  have ranked : (net.scan p radius heading keep).Pairwise fun a b => (a.compare b).isLE = true :=
    Candidate.ranked_rank _
  refine (ranked.and (List.pairwise_map.1 once)).imp ?_
  intro a b h
  obtain ⟨hle, hne⟩ := h
  rcases Ordering.isLE_iff_eq_lt_or_eq_eq.1 hle with hlt | heq
  · exact hlt
  · exact absurd (Candidate.lane_eq_of_compare heq) hne

end Scan

namespace LaneIndex

section Near
variable {α : Type} [Scalar α]

/-- The grid leaves lanes out, and keeps the order of the others. -/
theorem lanesNear_eq_filter (index : LaneIndex α) (p : Vec2 α) (radius : α) :
    ∃ listed : LaneRef index.network → Bool,
      index.lanesNear p radius = index.network.laneRefs.filter listed := by
  rw [lanesNear]
  split
  · exact ⟨fun _ => true, by simp⟩
  · exact ⟨_, rfl⟩

/-- A lane that a cell around the point lists is not left out. -/
theorem mem_lanesNear_of_listed {index : LaneIndex α} {p : Vec2 α} {radius : α}
    {r : LaneRef index.network} {cell : Grid.Cell}
    (around : cell ∈ Grid.rectangle (Grid.cellOf index.cellSize ⟨p.x - radius, p.y - radius⟩)
      (Grid.cellOf index.cellSize ⟨p.x + radius, p.y + radius⟩))
    (listed : r ∈ index.cells.getD cell #[]) : r ∈ index.lanesNear p radius := by
  rw [lanesNear]
  split
  · exact Network.mem_laneRefs r
  · refine List.mem_filter.2 ⟨Network.mem_laneRefs r, ?_⟩
    rw [List.contains_iff_mem, List.mem_flatMap]
    exact ⟨cell, around, Array.mem_toList_iff.2 listed⟩

/-- A lane that is not left out is listed by a cell around the point, unless the square around
it has more cells than the grid. -/
theorem exists_listed_of_mem_lanesNear {index : LaneIndex α} {p : Vec2 α} {radius span : α}
    {r : LaneRef index.network} (finite : Scalar.isFinite radius = true)
    (spans : Scalar.ceil (2.0 * radius / index.cellSize) + 1.0 = span)
    (few : ¬ Scalar.ofNat index.cells.size < span * span) (near : r ∈ index.lanesNear p radius) :
    ∃ cell ∈ Grid.rectangle (Grid.cellOf index.cellSize ⟨p.x - radius, p.y - radius⟩)
        (Grid.cellOf index.cellSize ⟨p.x + radius, p.y + radius⟩),
      r ∈ index.cells.getD cell #[] := by
  rw [lanesNear, spans, if_neg (by simp [finite, few])] at near
  have listed := (List.mem_filter.1 near).2
  rw [List.contains_iff_mem, List.mem_flatMap] at listed
  obtain ⟨cell, around, listed⟩ := listed
  exact ⟨cell, around, Array.mem_toList_iff.1 listed⟩

/-- A query from which the grid leaves out no lane within the radius is a scan. -/
theorem nearest_eq_scan {index : LaneIndex α} {p : Vec2 α} {radius : α}
    (nonneg : (0.0 : α) ≤ radius)
    (complete : ∀ r, ((index.network.lane r).shape.project p).lateral ≤ radius →
      r ∈ index.lanesNear p radius) (heading : Option α) (keep : Lane α → Bool) :
    index.nearest p radius heading keep = index.network.scan p radius heading keep := by
  obtain ⟨listed, hlisted⟩ := index.lanesNear_eq_filter p radius
  rw [nearest, if_pos nonneg, Network.scan, hlisted]
  congr 1
  simp only [List.filter_map, List.filter_filter]
  congr 1
  refine List.filter_congr ?_
  intro r hr
  by_cases inReach : ((index.network.lane r).shape.project p).lateral ≤ radius
  · have hmem := complete r inReach
    rw [hlisted, List.mem_filter] at hmem
    simp [hmem.2]
  · simp [Network.candidate, inReach]

end Near

section Exact
open Exact
variable {net : Network Exact} {cellSize : Exact} (positive : 0.0 < cellSize)
include positive

/-- The grid leaves out no lane within a finite radius of a point. -/
theorem mem_lanesNear {r : LaneRef net} {px py reach : ℝ}
    (near : ((net.lane r).shape.project (.point px py)).lateral ≤ real reach) :
    r ∈ (ofNetwork net cellSize).lanesNear (.point px py) (real reach) := by
  obtain ⟨s, hs, x, y, inBox, hx, hy⟩ := Polyline.exists_foot near
  have reaches : Grid.cellOf cellSize (.point x y) ∈ Grid.reach cellSize net r :=
    List.mem_flatMap.2 ⟨s, hs, Grid.cellOf_mem_cellsOf positive inBox⟩
  have around : Grid.cellOf cellSize (.point x y) ∈
      Grid.rectangle (Grid.cellOf cellSize (.point (px - reach) (py - reach)))
        (Grid.cellOf cellSize (.point (px + reach) (py + reach))) := by
    rw [abs_le] at hx hy
    apply Grid.cellOf_mem_rectangle positive <;> constructor <;> linarith
  refine @mem_lanesNear_of_listed _ _ (ofNetwork net cellSize) _ _ _ _ ?_ (Grid.mem_build.2 reaches)
  change _ ∈ Grid.rectangle (Grid.cellOf cellSize _) (Grid.cellOf cellSize _)
  simpa [Vec2.point] using around

/-- A lane within the radius is a candidate. -/
theorem candidate_mem_nearest {r : LaneRef net} {px py reach : ℝ} (nonneg : 0 ≤ reach)
    (near : ((net.lane r).shape.project (.point px py)).lateral ≤ real reach)
    (heading : Option Exact) : net.candidate (.point px py) heading r ∈
      (ofNetwork net cellSize).nearest (.point px py) (real reach) heading fun _ => true :=
  mem_nearest.2 ⟨by rwa [zero_eq, real_le], mem_lanesNear positive near, rfl,
    Candidate.measured_candidate _ _ _, near⟩

/-- A query around a real point is a scan of all lanes, whatever the size of the cells, and
lists the lanes that pass the test and lie within the radius. -/
theorem nearest_ofNetwork {p : Vec2 Exact} (finite : p.isFinite = true) {radius : Exact}
    (nonneg : 0.0 ≤ radius) (heading : Option Exact) (keep : Lane Exact → Bool) :
    (ofNetwork net cellSize).nearest p radius heading keep = net.scan p radius heading keep ∧
      Candidate.Listing p radius heading keep (net.scan p radius heading keep) := by
  refine ⟨nearest_eq_scan nonneg ?_ heading keep, net.listing_scan p radius heading keep⟩
  intro r near
  obtain ⟨px, py, rfl⟩ := Vec2.exists_point finite
  cases radius with
  | real reach => exact mem_lanesNear positive near
  | infinite | notANumber =>
    exact Network.mem_laneRefs r

end Exact
end LaneIndex

section Straight
open Exact

/-- A straight road with one lane from west to east. -/
noncomputable def Edge.eastward (id start stop : String) (y : ℝ) : Edge Exact :=
  let shape : Polyline Exact := ⟨[.point (-40) y, .point 60 y]⟩
  ⟨id, start, stop, real 10, shape, #[⟨id, 0, real 3, real 10, [], shape⟩]⟩

/-- Two straight roads, a hundred metres apart. -/
noncomputable def Network.straight : Network Exact where
  name := "straight"
  edges := #[.eastward "AB" "A" "B" 0, .eastward "CD" "C" "D" 100]
  junctions := []

/-- The lane of the road through the origin. -/
def LaneRef.southern : LaneRef .straight := ⟨⟨0, by decide⟩, ⟨0, by decide⟩⟩

/-- The lane of the other road. -/
def LaneRef.northern : LaneRef .straight := ⟨⟨1, by decide⟩, ⟨0, by decide⟩⟩

theorem Segment.lateral_straight (start stop : Exact) :
    (project ⟨.point (-40) 0, .point 60 0, start, stop⟩ (.point 0 3)).lateral = real 3 := by
  have hshare : share ⟨.point (-40) 0, .point 60 0, start, stop⟩ (.point 0 3) = real 0.4 := by
    norm_num [share, along, real_div, clamp_real]
  have hroot : Real.sqrt 9 = 3 := by
    rw [show (9 : ℝ) = 3 * 3 by norm_num, Real.sqrt_mul_self (by norm_num)]
  rw [lateral_project, hshare]
  norm_num [along, hroot]

/-- In cells of ten metres a road reaches eleven, all in one row. -/
theorem Grid.mem_reach_eastward {net : Network Exact} {r : LaneRef net} {y : ℝ}
    (shape : (net.lane r).shape = ⟨[.point (-40) y, .point 60 y]⟩) {cell : Cell} :
    cell ∈ reach (real 10) net r ↔ (-4 ≤ cell.1 ∧ cell.1 ≤ 6) ∧ cell.2 = ⌊y / 10⌋ := by
  have column (x : ℝ) : Scalar.floor (real x / real 10) = ⌊x / 10⌋ := by
    rw [real_div _ (by norm_num), floor_real]
  have west : ⌊(-40 : ℝ) / 10⌋ = -4 := by norm_num
  have east : ⌊(60 : ℝ) / 10⌋ = 6 := by norm_num
  rw [reach, shape]
  change cell ∈ cellsOf (real 10) ⟨.point (-40) y, .point 60 y, _, _⟩ ++ [] ↔ _
  rw [List.append_nil, cellsOf, mem_rectangle, Between]
  simp only [cellOf, Vec2.point_x, Vec2.point_y, smaller_real, larger_real, min_self, max_self,
    column]
  rw [min_eq_left (by norm_num), max_eq_right (by norm_num), west, east]
  exact and_congr_right fun _ => and_comm.trans le_antisymm_iff.symm

/-- The grid leaves out the lane that is far away. -/
theorem LaneIndex.northern_not_mem_lanesNear : LaneRef.northern ∉
    (ofNetwork Network.straight (real 10)).lanesNear (.point 0 3) (real 5) := by
  have once : [((0, 0) : Grid.Cell), (1, 0), (2, 0), (3, 0)].Nodup := by decide
  have size : 4 ≤ (ofNetwork Network.straight (real 10)).cells.size := by
    refine Grid.length_le_size_build once fun cell hcell => ⟨.southern, ?_⟩
    rw [Grid.mem_reach_eastward rfl, zero_div, Int.floor_zero]
    fin_cases hcell <;> decide
  -- the square around the point spans two cells by two
  have span : Scalar.ceil (2.0 * real 5 / real 10) + 1.0 = real 2 := by
    rw [two_eq, real_mul, real_div _ (by norm_num)]
    norm_num
  have few : ¬ Scalar.ofNat (ofNetwork Network.straight (real 10)).cells.size <
      real 2 * real 2 := by
    refine mt real_lt.1 (not_lt.2 ?_)
    calc (2 : ℝ) * 2 = (4 : ℕ) := by norm_num
      _ ≤ ((ofNetwork Network.straight (real 10)).cells.size : ℝ) := Nat.cast_le.2 size
  intro near
  obtain ⟨cell, around, listed⟩ := exists_listed_of_mem_lanesNear rfl span few near
  have far : cell.2 = ⌊(100 : ℝ) / 10⌋ :=
    ((Grid.mem_reach_eastward rfl).1 (Grid.mem_build.1 listed)).2
  have close : cell.2 ≤ Scalar.floor (real (3 + 5) / real 10) :=
    (Grid.mem_rectangle.1 around).2.2
  rw [real_div _ (by norm_num), floor_real] at close
  norm_num at far close
  omega

/-- The lane within the radius is found, without a scan of all lanes. -/
theorem LaneIndex.nearest_straight :
    LaneRef.northern ∉ (ofNetwork Network.straight (real 10)).lanesNear (.point 0 3) (real 5) ∧
    ∃ c ∈ (ofNetwork Network.straight (real 10)).nearest (.point 0 3) (real 5) none fun _ => true,
      c.projection.lateral = real 3 := by
  refine ⟨northern_not_mem_lanesNear, ?_⟩
  have positive : (0.0 : Exact) < real 10 := by norm_num
  have nonneg : (0.0 : Exact) ≤ real 5 := by norm_num
  obtain ⟨scanned, listing⟩ := @nearest_ofNetwork Network.straight (real 10) positive
    (.point 0 3) rfl (real 5) nonneg none fun _ => true
  have lateral : ((Network.straight.lane .southern).shape.project (.point 0 3)).lateral =
      real 3 := by
    change (Polyline.nearer Polyline.outOfReach (Segment.project _ _)).lateral = _
    rw [Polyline.nearer, Segment.lateral_straight]
    exact (congrArg _ (if_pos rfl)).trans (Segment.lateral_straight _ _)
  refine ⟨Network.straight.candidate (.point 0 3) none .southern, ?_, lateral⟩
  rw [scanned]
  refine (listing.mem _).2 ⟨rfl, rfl, ?_⟩
  rw [Network.candidate, lateral]
  norm_num

end Straight
end Roadway
