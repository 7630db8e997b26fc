import Mathlib.Algebra.BigOperators.Group.List.Basic
import Mathlib.Data.List.Chain
import Mathlib.Tactic.Linarith
import Mathlib.Tactic.Ring
import Roadway.Proofs.Network.Layout
import Roadway.Proofs.Number.Exact

/-!
# Lanes side by side

The lanes of an edge are laid from right to left, each beside the one before it. What the lanes
before a lane take up is a running sum; the total, half of which lies on the right of the centre
line, is summed up on its own. Both are sums of the same widths. So the strips that the lanes
take up fill the width of the edge: they begin half of it to the right of the centre line and end
half of it to the left, without a gap or an overlap.

## Main definitions

* `Strip` — what a lane takes up across its edge.
* `Strip.Fills`, `Strip.fills_stack` — strips laid one after another, by recursion.
* `Strip.Tiling` — strips that tile an interval from right to left.
* `Network.tiled_layEdge` — the lanes of an edge do.
-/
namespace Roadway
open Exact

/-- A strip along an edge. Its place is counted from the centre line of the edge to the left. -/
structure Strip where
  center : ℝ
  width : ℝ

namespace Strip
noncomputable section

/-- The right side. -/
def right (s : Strip) : ℝ := s.center - s.width / 2

/-- The left side. -/
def left (s : Strip) : ℝ := s.center + s.width / 2

theorem left_eq (s : Strip) : s.left = s.right + s.width := by
  rw [left, right]
  ring

/-- Strips of given widths, the first one with its right side at `start`. -/
def stack (start : ℝ) : List ℝ → List Strip
  | [] => []
  | width :: rest => ⟨start + width / 2, width⟩ :: stack (start + width) rest

end

/-- Strips that fill what is between a start on the right and a stop on the left. -/
inductive Fills : ℝ → ℝ → List Strip → Prop
  | nil (start : ℝ) : Fills start start []
  | cons {start stop : ℝ} {s : Strip} {rest : List Strip} (here : s.right = start)
      (wide : 0 < s.width) (next : Fills s.left stop rest) : Fills start stop (s :: rest)

/-- Strips that tile what is between a start on the right and a stop on the left. -/
structure Tiling (start stop : ℝ) (strips : List Strip) : Prop where
  first : ∀ s ∈ strips.head?, s.right = start
  /-- Each strip starts where the previous one ends. -/
  adjacent : strips.IsChain fun s t => s.left = t.right
  last : ∀ s ∈ strips.getLast?, s.left = stop
  /-- No two strips overlap. -/
  apart : strips.Pairwise fun s t => s.left ≤ t.right
  /-- Strips are listed from right to left. -/
  ascending : strips.Pairwise fun s t => s.center < t.center
  /-- Nothing is left uncovered. -/
  covers : strips ≠ [] → ∀ x, start ≤ x → x ≤ stop → ∃ s ∈ strips, s.right ≤ x ∧ x ≤ s.left

namespace Fills
variable {start stop : ℝ} {strips : List Strip} (fills : Fills start stop strips)
include fills

theorem wide {s : Strip} (hs : s ∈ strips) : 0 < s.width := by
  induction fills with
  | nil => cases hs
  | cons _ wide _ ih =>
    rcases List.mem_cons.1 hs with rfl | later
    · exact wide
    · exact ih later

theorem start_le_stop : start ≤ stop := by
  induction fills with
  | nil => exact le_rfl
  | cons here wide _ ih =>
    rw [left_eq, here] at ih
    linarith

theorem within {s : Strip} (hs : s ∈ strips) : start ≤ s.right ∧ s.left ≤ stop := by
  induction fills with
  | nil => cases hs
  | @cons start _ t _ here wide next ih =>
    have forward : start ≤ t.left := by
      rw [left_eq, here]
      linarith
    rcases List.mem_cons.1 hs with rfl | later
    · exact ⟨here.ge, next.start_le_stop⟩
    · exact ⟨forward.trans (ih later).1, (ih later).2⟩

theorem first : ∀ s ∈ strips.head?, s.right = start := by
  cases fills with
  | nil => exact nofun
  | cons here =>
    intro s head
    rw [← Option.some.inj head, here]

theorem adjacent : strips.IsChain fun s t => s.left = t.right := by
  induction fills with
  | nil => exact .nil
  | cons _ _ next ih => exact List.isChain_cons.2 ⟨fun t head => (next.first t head).symm, ih⟩

theorem last : ∀ s ∈ strips.getLast?, s.left = stop := by
  induction fills with
  | nil => exact nofun
  | cons _ _ next ih =>
    cases next with
    | nil =>
      intro s only
      rw [← Option.some.inj only]
      rfl
    | cons => rwa [List.getLast?_cons_cons]

theorem apart : strips.Pairwise fun s t => s.left ≤ t.right := by
  induction fills with
  | nil => exact .nil
  | cons _ _ next ih => exact List.pairwise_cons.2 ⟨fun t later => (next.within later).1, ih⟩

theorem ascending : strips.Pairwise fun s t => s.center < t.center := by
  refine fills.apart.imp_of_mem fun {s t} hs ht beside => ?_
  have hs := fills.wide hs
  have ht := fills.wide ht
  rw [left, right] at beside
  linarith

theorem covers (nonempty : strips ≠ []) {x : ℝ} (low : start ≤ x) (high : x ≤ stop) :
    ∃ s ∈ strips, s.right ≤ x ∧ x ≤ s.left := by
  induction fills with
  | nil => exact absurd rfl nonempty
  | @cons _ _ s _ here _ next ih =>
    rcases le_total x s.left with inside | beyond
    · exact ⟨s, List.mem_cons_self, here ▸ low, inside⟩
    · cases next with
      | nil => exact ⟨s, List.mem_cons_self, here ▸ low, high⟩
      | cons =>
        obtain ⟨t, ht, covered⟩ := ih (List.cons_ne_nil _ _) beyond high
        exact ⟨t, List.mem_cons_of_mem _ ht, covered⟩

/-- Strips laid one after another tile what they fill. -/
theorem tiling : Tiling start stop strips :=
  ⟨fills.first, fills.adjacent, fills.last, fills.apart, fills.ascending,
    fun nonempty _ low high => fills.covers nonempty low high⟩

end Fills

@[simp] theorem map_width_stack (start : ℝ) (widths : List ℝ) :
    (stack start widths).map (·.width) = widths := by
  induction widths generalizing start with
  | nil => rfl
  | cons width rest ih => rw [stack, List.map_cons, ih]

/-- Strips take up the sum of their widths. -/
theorem fills_stack {widths : List ℝ} (positive : ∀ w ∈ widths, 0 < w) (start : ℝ) :
    Fills start (start + widths.sum) (stack start widths) := by
  induction widths generalizing start with
  | nil =>
    rw [List.sum_nil, add_zero]
    exact .nil start
  | cons width rest ih =>
    obtain ⟨wide, positive⟩ := List.forall_mem_cons.1 positive
    have stop : left ⟨start + width / 2, width⟩ = start + width := by
      rw [left, add_assoc, add_halves]
    have next := ih positive (start + width)
    rw [add_assoc, ← List.sum_cons] at next
    exact .cons (add_sub_cancel_right _ _) wide (stop ▸ next)

end Strip

namespace Network
open Strip

/-- The total of the widths, summed up from the first. -/
theorem foldl_real (widths : List ℝ) (consumed : ℝ) :
    (widths.map real).foldl (· + ·) (real consumed) = real (consumed + widths.sum) := by
  induction widths generalizing consumed with
  | nil => rw [List.sum_nil, add_zero]; rfl
  | cons width rest ih =>
    rw [List.map_cons, List.foldl_cons, real_add, ih, List.sum_cons, add_assoc]

/-- Lanes are centred on strips that begin beyond what is consumed. -/
theorem laneShifts_real (total consumed : ℝ) (widths : List ℝ) :
    laneShifts (real total) (real consumed) (widths.map real) =
      (stack (-(total / 2) + consumed) widths).map fun s => real s.center := by
  induction widths generalizing consumed with
  | nil => rfl
  | cons width rest ih =>
    rw [List.map_cons, laneShifts, real_add, ih, stack, List.map_cons, two_eq, real_neg,
      real_div _ two_ne_zero, real_div _ two_ne_zero, real_add, real_add, neg_div,
      add_assoc _ _ width]

/-- Lanes are centred on strips that begin half of the total to the right. -/
theorem laneCenters_real (widths : List ℝ) : laneCenters (widths.map real) =
    (stack (-(widths.sum / 2)) widths).map fun s => real s.center := by
  rw [laneCenters, zero_eq, foldl_real, laneShifts_real, zero_add, add_zero]

/-- A single lane runs along the centre line. -/
theorem laneCenters_singleton (width : ℝ) : laneCenters [real width] = [real 0] := by
  refine (laneCenters_real [width]).trans ?_
  rw [stack, stack, List.sum_singleton, List.map_singleton, neg_add_cancel]

end Network

/-- Lanes that run along strips: the lane with an index is as wide as the strip at this place and
runs along its centre. -/
structure Edge.RunsAlong (edge : Edge Exact) (strips : List Strip) : Prop where
  size : edge.lanes.size = strips.length
  index : ∀ i (h : i < edge.lanes.size), edge.lanes[i].index = i
  width : ∀ i (h : i < edge.lanes.size), ∀ s ∈ strips[i]?, edge.lanes[i].width = real s.width
  shape : ∀ i (h : i < edge.lanes.size), ∀ s ∈ strips[i]?,
    edge.lanes[i].shape = edge.shape.shift (real s.center)

namespace Network
open Strip

/-- Lanes of real widths tile the width of their edge, half of which is on either side of its
centre line. -/
theorem tiled_layEdge {e : EdgeDescription Exact} {widths : List ℝ}
    (given : e.lanes.map (·.width) = widths.map real) (positive : ∀ w ∈ widths, 0 < w) :
    ∃ strips : List Strip, strips.map (·.width) = widths ∧
      laneCenters (e.lanes.map (·.width)) = strips.map (fun s => real s.center) ∧
      Tiling (-(widths.sum / 2)) (widths.sum / 2) strips ∧ (layEdge e).RunsAlong strips := by
  have fills := fills_stack positive (-(widths.sum / 2))
  have stop : -(widths.sum / 2) + widths.sum = widths.sum / 2 := by ring
  rw [stop] at fills
  have centers := laneCenters_real widths
  have widthsOf := map_width_stack (-(widths.sum / 2)) widths
  generalize stack (-(widths.sum / 2)) widths = strips at fills centers widthsOf
  rw [← given] at centers
  refine ⟨strips, widthsOf, centers, fills.tiling, ?_, index_layEdge e, ?_, ?_⟩
  · rw [size_layEdge, ← List.length_map (·.width), given, List.length_map, ← widthsOf,
      List.length_map]
  · intro i h s at_i
    have width := width_layEdge e i h
    rw [given, ← widthsOf, List.map_map, List.getElem?_map, Option.mem_def.1 at_i] at width
    exact (Option.some.inj width).symm
  · intro i h s at_i
    obtain ⟨center, found, shape⟩ := shape_layEdge e i h
    rw [centers, List.getElem?_map, Option.mem_def.1 at_i] at found
    rw [shape, ← Option.some.inj found]
    rfl

end Network

/-- A road with a footway, a lane for cars and a narrower one beside it. -/
def EdgeDescription.avenue : EdgeDescription Exact :=
  ⟨"avenue", "A", "B", [.mk (real 0) (real 0), .mk (real 99.5) (real 0)], real 13.89,
    [⟨real 1.5, [.person], none⟩, ⟨real 4.5, [], none⟩, ⟨real 3.5, [], none⟩]⟩

theorem Network.tiled_avenue : ∃ strips : List Strip,
    Strip.Tiling (-4.75) 4.75 strips ∧ (layEdge .avenue).RunsAlong strips ∧
      strips.map (fun s => (s.right, s.left)) =
        [(-4.75, -3.25), (-3.25, 1.25), (1.25, 4.75)] := by
  have given : EdgeDescription.avenue.lanes.map (·.width) = [1.5, 4.5, 3.5].map real := rfl
  have positive : ∀ w ∈ ([1.5, 4.5, 3.5] : List ℝ), 0 < w := by norm_num
  obtain ⟨strips, widths, -, tiling, along⟩ := tiled_layEdge given positive
  have half : ([1.5, 4.5, 3.5] : List ℝ).sum / 2 = 4.75 := by norm_num
  rw [half] at tiling
  refine ⟨strips, tiling, along, ?_⟩
  obtain ⟨footway, _, rfl, hfootway, widths⟩ := List.map_eq_cons_iff.1 widths
  obtain ⟨road, _, rfl, hroad, widths⟩ := List.map_eq_cons_iff.1 widths
  obtain ⟨beside, _, rfl, hbeside, widths⟩ := List.map_eq_cons_iff.1 widths
  obtain rfl := List.map_eq_nil_iff.1 widths
  have first := tiling.first footway rfl
  obtain ⟨second, third⟩ := List.isChain_cons_cons.1 tiling.adjacent
  have third := List.isChain_pair.1 third
  rw [Strip.left_eq, hfootway, first] at second
  rw [Strip.left_eq, hroad, ← second] at third
  simp only [List.map_cons, List.map_nil, Strip.left_eq, hfootway, hroad, hbeside, first,
    ← second, ← third]
  norm_num

end Roadway
