import Roadway.Proofs.Network.Layout
import Roadway.Proofs.Number.Exact

/-!
# Lengths of lanes

The vertices of a laid out line are spaced: each one lies apart from the one before it.
Over exact numbers this makes arc lengths distances, whatever coordinates, widths and
shifts a description gives; what is not a number lies apart from nothing.

## Main definitions

* `Polyline.Spaced` — lines without consecutive duplicates.
* `Polyline.Spaced.stop_le_length` — the segments lie along the line.
* `Network.spaced_lane` — lanes are such lines.
* `Network.length_nonneg` — the length of a lane is a distance.
-/
namespace Roadway

namespace Polyline
section Spaced
variable {α : Type} [Scalar α]

/-- Neighbouring vertices lie apart. -/
def Apart (vertices : List (Vec2 α)) : Prop :=
  vertices.IsChain fun a b => 1e-9 < (b - a).norm

/-- A line without consecutive duplicates. -/
def Spaced (line : Polyline α) : Prop := Apart line.vertices

theorem apart_apartFrom (last : Vec2 α) (points : List (Vec2 α)) :
    Apart (last :: apartFrom last points) := by
  induction points generalizing last with
  | nil => exact List.isChain_singleton last
  | cons p rest ih =>
    rw [apartFrom]
    split
    · next apart => exact List.IsChain.cons_cons apart (ih p)
    · exact ih last

theorem spaced_ofPoints (points : List (Vec2 α)) : (ofPoints points).Spaced := by
  cases points with
  | nil => exact List.isChain_nil
  | cons p rest => exact apart_apartFrom p rest

theorem Spaced.shift {line : Polyline α} (h : line.Spaced) (distance : α) :
    (line.shift distance).Spaced := by
  rw [Polyline.shift]
  split
  · exact h
  · exact spaced_ofPoints _

end Spaced

section Exact
open Exact

/-- Vertices that lie apart are at a distance from each other. -/
theorem Apart.of_cons {a b : Vec2 Exact} {rest : List (Vec2 Exact)}
    (apart : Apart (a :: b :: rest)) : 0.0 ≤ (b - a).norm ∧ Apart (b :: rest) := by
  obtain ⟨gap, apart⟩ := List.isChain_cons_cons.1 apart
  exact ⟨nonneg_of_lt (literal_nonneg 1 9) gap, apart⟩

/-- The segments of vertices that lie apart begin at distances and end where their lengths,
which are distances, are added. -/
theorem start_stop {vertices : List (Vec2 Exact)} (apart : Apart vertices) {start : Exact}
    (hstart : 0.0 ≤ start) {s : Segment Exact} (hs : s ∈ segmentsFrom start vertices) :
    start ≤ s.start ∧ 0.0 ≤ s.along.norm ∧ s.stop = s.start + s.along.norm := by
  induction vertices generalizing start with
  | nil => cases hs
  | cons a rest ih =>
    cases rest with
    | nil => cases hs
    | cons b rest =>
      obtain ⟨gap, apart⟩ := apart.of_cons
      rcases List.mem_cons.1 hs with rfl | hs
      · exact ⟨le_self hstart, gap, rfl⟩
      · obtain ⟨later, length⟩ := ih apart (Exact.add_nonneg hstart gap) hs
        exact ⟨Exact.le_trans (le_add hstart gap) later, length⟩

/-- No segment starts before one in front of it ends. -/
theorem pairwise_segmentsFrom {vertices : List (Vec2 Exact)} (apart : Apart vertices)
    {start : Exact} (hstart : 0.0 ≤ start) :
    (segmentsFrom start vertices).Pairwise fun s t => s.stop ≤ t.start := by
  induction vertices generalizing start with
  | nil => exact .nil
  | cons a rest ih =>
    cases rest with
    | nil => exact .nil
    | cons b rest =>
      obtain ⟨gap, apart⟩ := apart.of_cons
      have hstop := Exact.add_nonneg hstart gap
      exact .cons (fun t ht => (start_stop apart hstop ht).1) (ih apart hstop)

namespace Spaced
variable {line : Polyline Exact} (spaced : line.Spaced)
include spaced

theorem start_le_stop {s : Segment Exact} (hs : s ∈ line.segments) : s.start ≤ s.stop := by
  obtain ⟨start, along, stop⟩ := start_stop spaced (by simp) hs
  rw [stop]
  exact le_add start along

theorem stop_nonneg {s : Segment Exact} (hs : s ∈ line.segments) : 0.0 ≤ s.stop :=
  Exact.le_trans (start_stop spaced (by simp) hs).1 (spaced.start_le_stop hs)

theorem length_nonneg : 0.0 ≤ line.length := by
  rw [Polyline.length]
  split
  · next s last => exact spaced.stop_nonneg (List.mem_of_getLast? last)
  · exact by simp

theorem pairwise_segments : line.segments.Pairwise fun s t => s.stop ≤ t.start :=
  pairwise_segmentsFrom spaced (by simp)

/-- No segment ends beyond the last one. -/
theorem stop_le_length {s : Segment Exact} (hs : s ∈ line.segments) : s.stop ≤ line.length := by
  rw [Polyline.length]
  cases hlast : line.segments.getLast? with
  | none =>
    rw [List.getLast?_eq_none_iff.1 hlast] at hs
    cases hs
  | some last =>
    obtain ⟨before, split⟩ := List.getLast?_eq_some_iff.1 hlast
    have ordered := spaced.pairwise_segments
    rw [split] at hs ordered
    rcases List.mem_append.1 hs with inFront | same
    · have next := (List.pairwise_append.1 ordered).2.2 s inFront last List.mem_cons_self
      exact Exact.le_trans next (spaced.start_le_stop (List.mem_of_getLast? hlast))
    · obtain rfl := List.mem_singleton.1 same
      exact le_self (spaced.stop_nonneg (List.mem_of_getLast? hlast))

end Spaced

end Exact
end Polyline

namespace Network

/-- Lanes run without consecutive duplicates. -/
theorem spaced_lane {α : Type} [Scalar α] (d : NetworkDescription α) (r : LaneRef (lay d)) :
    ((lay d).lane r).shape.Spaced := by
  obtain ⟨e, -, -, center, -, shape⟩ := shape_lane d r
  rw [shape]
  exact (Polyline.spaced_ofPoints _).shift _

/-- The length of a lane is a distance. -/
theorem length_nonneg (d : NetworkDescription Exact) (r : LaneRef (lay d)) :
    0.0 ≤ ((lay d).lane r).length :=
  (spaced_lane d r).length_nonneg

end Network
end Roadway
