import Mathlib.Data.List.Perm.Subperm
import Roadway.Network.LaneIndex
import Roadway.Proofs.Network.Layout

/-!
# What the cells list

The grid is filled lane by lane. A lane is noted in every cell that one of its segments
reaches, and several of its segments may reach one cell. Since nothing else is noted in
between, a cell that has the lane already lists it last, so that it is not listed again. Hence
a cell lists what is left of the list of all lanes without those that do not reach it.

## Main definitions

* `Grid.Between` — the range of cells between two corners.
* `Grid.toList_build` — the list of a cell.
* `Grid.Represents` — cells that list the lanes whose segments reach them, in order.
* `LaneIndex.represents_ofNetwork` — those of an index do.
-/
namespace Roadway
variable {α : Type} [Scalar α]

namespace Segment

/-- The lower corner of the bounding box. -/
def lower (s : Segment α) : Vec2 α := ⟨Scalar.smaller s.a.x s.b.x, Scalar.smaller s.a.y s.b.y⟩

/-- The upper corner of the bounding box. -/
def upper (s : Segment α) : Vec2 α := ⟨Scalar.larger s.a.x s.b.x, Scalar.larger s.a.y s.b.y⟩

end Segment

namespace Grid

/-- Whether a cell lies in the rectangle between two corner cells, corners included. -/
def Between (low high cell : Cell) : Prop :=
  (low.1 ≤ cell.1 ∧ cell.1 ≤ high.1) ∧ low.2 ≤ cell.2 ∧ cell.2 ≤ high.2

omit [Scalar α] in
theorem mem_range {low high n : Int} : n ∈ range low high ↔ low ≤ n ∧ n ≤ high := by
  simp only [range, List.mem_map, List.mem_range]
  constructor
  · rintro ⟨k, hk, rfl⟩
    omega
  · intro h
    exact ⟨(n - low).toNat, by omega, by omega⟩

theorem mem_rectangle {low high cell : Cell} :
    cell ∈ rectangle low high ↔ Between low high cell := by
  simp only [rectangle, Between, List.mem_flatMap, List.mem_map, mem_range]
  constructor
  · rintro ⟨column, hcolumn, row, hrow, rfl⟩
    exact ⟨hcolumn, hrow⟩
  · intro h
    exact ⟨cell.1, h.1, cell.2, h.2, rfl⟩

theorem mem_cellsOf {cellSize : α} {s : Segment α} {cell : Cell} : cell ∈ cellsOf cellSize s ↔
    Between (cellOf cellSize s.lower) (cellOf cellSize s.upper) cell :=
  mem_rectangle

section Note
variable {net : Network α} {lane : LaneRef net} {cell : Cell}
  {cells : Std.HashMap Cell (Array (LaneRef net))}

omit [Scalar α]

/-- A lane that a cell lists last is not listed there again. -/
theorem note_of_back? (last : (cells.getD cell #[]).back? = some lane) :
    note cells lane cell = cells :=
  if_pos last

/-- A lane that a cell does not list last is added to its list. -/
theorem toList_note_self (other : (cells.getD cell #[]).back? ≠ some lane) :
    ((note cells lane cell).getD cell #[]).toList = (cells.getD cell #[]).toList ++ [lane] := by
  rw [note, if_neg other, Std.HashMap.getD_insert_self, Array.toList_push]

/-- The lists of the other cells stay as they are. -/
theorem getD_note_of_ne {noted : Cell} (ne : noted ≠ cell) :
    (note cells lane noted).getD cell #[] = cells.getD cell #[] := by
  rw [note]
  split
  · rfl
  · rw [Std.HashMap.getD_insert, if_neg (by simpa using ne)]

/-- Nothing changes in a cell that lists the lane last. -/
theorem getD_foldl_note_of_back? (last : (cells.getD cell #[]).back? = some lane)
    (reached : List Cell) :
    (reached.foldl (note · lane) cells).getD cell #[] = cells.getD cell #[] := by
  induction reached generalizing cells with
  | nil => rfl
  | cons noted rest ih =>
    have kept : (note cells lane noted).getD cell #[] = cells.getD cell #[] := by
      by_cases same : noted = cell
      · rw [same, note_of_back? last]
      · exact getD_note_of_ne same
    rw [List.foldl_cons, ih (by rw [kept, last]), kept]

/-- A lane that is not yet listed is listed once by the cells that it reaches. -/
theorem toList_foldl_note (fresh : lane ∉ cells.getD cell #[]) (reached : List Cell) :
    ((reached.foldl (note · lane) cells).getD cell #[]).toList =
      (cells.getD cell #[]).toList ++ if reached.contains cell then [lane] else [] := by
  induction reached generalizing cells with
  | nil => simp
  | cons noted rest ih =>
    rw [List.foldl_cons]
    by_cases same : noted = cell
    · subst same
      have other : (cells.getD noted #[]).back? ≠ some lane :=
        fun last => fresh (Array.mem_of_back? last)
      have listed := toList_note_self other
      -- the lane is the last one from here on, so the rest changes nothing
      have last : ((note cells lane noted).getD noted #[]).back? = some lane := by
        rw [← Array.getLast?_toList, listed, List.getLast?_concat]
      rw [getD_foldl_note_of_back? last, listed, List.contains_cons, BEq.rfl, Bool.true_or,
        if_pos rfl]
    · have kept : (note cells lane noted).getD cell #[] = cells.getD cell #[] :=
        getD_note_of_ne same
      rw [ih (by rwa [kept]), kept, List.contains_cons, beq_false_of_ne (Ne.symm same),
        Bool.false_or]

end Note

section Build
variable {net : Network α} {cellSize : α} {cell : Cell} {r : LaneRef net}

/-- Lanes that are not yet listed are listed in their order by the cells that they reach. -/
theorem toList_foldl_reach {lanes : List (LaneRef net)} (once : lanes.Nodup)
    {cells : Std.HashMap Cell (Array (LaneRef net))}
    (fresh : ∀ lane ∈ lanes, lane ∉ cells.getD cell #[]) :
    ((lanes.foldl (fun cells lane => (reach cellSize net lane).foldl (note · lane) cells)
        cells).getD cell #[]).toList =
      (cells.getD cell #[]).toList ++
        lanes.filter fun lane => (reach cellSize net lane).contains cell := by
  induction lanes generalizing cells with
  | nil => simp
  | cons lane rest ih =>
    obtain ⟨unlike, once⟩ := List.nodup_cons.1 once
    have listed := toList_foldl_note (fresh lane List.mem_cons_self) (reach cellSize net lane)
    have fresh' : ∀ next ∈ rest,
        next ∉ ((reach cellSize net lane).foldl (note · lane) cells).getD cell #[] := by
      intro next later
      rw [← Array.mem_toList_iff, listed, List.mem_append, Array.mem_toList_iff, not_or]
      refine ⟨fresh next (List.mem_cons_of_mem _ later), ?_⟩
      split
      · rw [List.mem_singleton]
        rintro rfl
        exact unlike later
      · exact List.not_mem_nil
    rw [List.foldl_cons, ih once fresh', listed, List.append_assoc, List.filter_cons]
    congr 1
    split <;> rfl

/-- A cell lists the lanes that reach it, in the order of all lanes. -/
theorem toList_build : ((build cellSize net).getD cell #[]).toList =
    net.laneRefs.filter fun lane => (reach cellSize net lane).contains cell := by
  rw [build, toList_foldl_reach net.nodup_laneRefs (by simp)]
  simp

/-- A cell lists the lanes that reach it. -/
theorem mem_build : r ∈ (build cellSize net).getD cell #[] ↔ cell ∈ reach cellSize net r := by
  rw [← Array.mem_toList_iff, toList_build, List.mem_filter, List.contains_iff_mem]
  exact and_iff_right (Network.mem_laneRefs r)

/-- There are at least as many cells as lanes reach. -/
theorem length_le_size_build {reached : List Cell} (once : reached.Nodup)
    (reaches : ∀ cell ∈ reached, ∃ r, cell ∈ reach cellSize net r) :
    reached.length ≤ (build cellSize net).size := by
  have present : reached ⊆ (build cellSize net).keys := by
    intro cell hcell
    rw [Std.HashMap.mem_keys]
    by_contra missing
    -- a cell that is not there would list nothing
    obtain ⟨r, hr⟩ := reaches cell hcell
    have listed := mem_build.2 hr
    rw [Std.HashMap.getD_eq_fallback missing] at listed
    exact Array.not_mem_empty r listed
  rw [← Std.HashMap.length_keys]
  exact (List.subperm_of_subset once present).length_le

end Build

/-- Cells that list the lanes whose segments reach them, each lane once and in ascending
order. -/
structure Represents (cellSize : α) (net : Network α)
    (cells : Std.HashMap Cell (Array (LaneRef net))) : Prop where
  ascending : ∀ cell, (cells.getD cell #[]).toList.Pairwise fun a b => compare a b = .lt
  once : ∀ cell, (cells.getD cell #[]).toList.Nodup
  /-- A segment reaches the cells between the corners of its bounding box. -/
  mem : ∀ cell r, r ∈ cells.getD cell #[] ↔ ∃ s ∈ (net.lane r).shape.segments,
    Between (cellOf cellSize s.lower) (cellOf cellSize s.upper) cell

end Grid

/-- The grid of an index represents the network, whatever the size of the cells. -/
theorem LaneIndex.represents_ofNetwork (net : Network α) (cellSize : α) :
    Grid.Represents cellSize net (ofNetwork net cellSize).cells := by
  change Grid.Represents cellSize net (Grid.build cellSize net)
  refine ⟨fun cell => ?_, fun cell => ?_, fun cell r => ?_⟩
  · rw [Grid.toList_build]
    exact net.ascending_laneRefs.filter _
  · rw [Grid.toList_build]
    exact net.nodup_laneRefs.filter _
  · simp only [Grid.mem_build, Grid.reach, List.mem_flatMap, Grid.mem_cellsOf]

end Roadway
