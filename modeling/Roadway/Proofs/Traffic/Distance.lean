import Roadway.Proofs.Geometry.Length
import Roadway.Proofs.Geometry.Projection
import Roadway.Proofs.Network.Tiling
import Roadway.Proofs.Traffic.Walk

/-!
# How far a walk comes

Over exact numbers every crossing takes the length of the lane left from the distance that
is still to go. So the lanes left and the offset reached add up to where the walk was to
end, unless it is held. A walk is held after the greatest number of crossings at the end of
its lane, whether it had to go on or was to end on that lane. In the second case it comes
farther than it was to.

## Main definitions

* `Network.wayAlong` — the way along some lanes and on to an offset.
* `Walker.Covers` — how far a walk comes of the way it was to go.
* `Network.covers_of_advance` — every move that ends on a lane comes that far.
* `Network.advance_ring_exceeds` — a move that comes too far.
-/
namespace Roadway
open Exact

/-- The way along some lanes and on to an offset on the next one. -/
def Network.wayAlong {α : Type} [Scalar α] (net : Network α) (lanes : List (LaneRef net))
    (offset : α) : α :=
  lanes.foldr (fun r rest => (net.lane r).length + rest) offset

namespace Walker
section Trail
variable {d : NetworkDescription Exact} {e : Entity Exact} {w w' : Walker (.lay d)}
  {left : List (LaneRef (.lay d))}

/-- Crossings keep the way to go in sum. -/
theorem Trail.wayAlong_offset (trail : Trail e left w w') (hw : 0.0 ≤ w.offset) :
    0.0 ≤ w'.offset ∧ (Network.lay d).wayAlong left w'.offset = w.offset := by
  -- On the lanes left: what lies beyond the first one is what the others take.
  induction trail with
  | refl w => exact ⟨hw, rfl⟩
  | @cross left w w' w'' first rest ih =>
    cases first with
    | enter past =>
      obtain ⟨beyond, sum⟩ := excess_of_not_le hw (Network.length_nonneg d w.lane) past
      obtain ⟨reached, taken⟩ := ih beyond
      refine ⟨reached, ?_⟩
      calc (Network.lay d).wayAlong (w.lane :: left) w''.offset
        _ = ((Network.lay d).lane w.lane).length + (Network.lay d).wayAlong left w''.offset := rfl
        _ = w.offset := by rw [taken, sum]

end Trail

/-- How far a walk with a way to go comes that leaves some lanes behind and ends at an
offset on a lane. -/
structure Covers {net : Network Exact} (goal : Exact) (left : List (LaneRef net))
    (r : LaneRef net) (stop : Exact) : Prop where
  bounded : left.length ≤ Network.maxCrossings
  /-- A walk that is not held covers the whole way, and no more. -/
  covered : left.length < Network.maxCrossings → net.wayAlong left stop = goal
  /-- A walk that is held stands at the end of the lane. -/
  held : left.length = Network.maxCrossings → stop = (net.lane r).length
  /-- A walk comes too far just where it is held although it was to end before the end of
  the lane. -/
  exceeds_iff : goal < net.wayAlong left stop ↔
    left.length = Network.maxCrossings ∧ goal < net.wayAlong left (net.lane r).length

end Walker

/-! A road that leads back to where it begins is left again and again. -/
section Ring

/-- A road of ten metres out to a turning place and back. -/
def EdgeDescription.ring : EdgeDescription Exact :=
  ⟨"ring", "A", "A", [.point 0 0, .point 5 0, .point 0 0], real 14, [⟨real 4, [], none⟩]⟩

def NetworkDescription.ring : NetworkDescription Exact where
  name := "ring"
  description := ""
  junctions := [⟨"A", .point 0 0, real 1⟩]
  edges := [.ring]

theorem NetworkDescription.accepted_ring : ring.Accepted := by
  simp [Accepted, fault?, ring, Junction.firstFault?, Junction.fault?,
    EdgeDescription.firstFault?, EdgeDescription.fault?, EdgeDescription.ring,
    LaneDescription.firstFault?, LaneDescription.fault?, chainLength]

namespace Network
variable {e : Entity Exact}

theorem edgeAt_ring (i : Fin (lay .ring).edges.size) : (lay .ring).edgeAt i = layEdge .ring := by
  obtain ⟨e, he, heq⟩ := edgeAt_lay .ring i
  rw [List.mem_singleton.1 he] at heq
  exact heq

theorem lanes_ring : (layEdge .ring).lanes =
    #[⟨"ring", 0, real 4, real 14, [], ⟨[.point 0 0, .point 5 0, .point 0 0]⟩⟩] := by
  have apart : (1e-9 : Exact) < real 5 := by
    rw [ofScientific_eq]
    norm_num
  have vertices : Polyline.ofPoints [.point 0 0, .point 5 0, .point 0 0] =
      ⟨[.point 0 0, .point 5 0, .point 0 0]⟩ := by
    simp [Polyline.ofPoints, Polyline.apartFrom, apart]
  simp [layEdge, EdgeDescription.ring, vertices, laneCenters_singleton, Polyline.shift]

/-- There is one lane. -/
theorem lane_eq_ring (r : LaneRef (lay .ring)) : (lay .ring).lane r =
    ⟨"ring", 0, real 4, real 14, [], ⟨[.point 0 0, .point 5 0, .point 0 0]⟩⟩ := by
  have mem : (lay .ring).lane r ∈ ((lay .ring).edgeAt r.edge).lanes := Array.getElem_mem _
  rw [edgeAt_ring, lanes_ring, Array.mem_singleton] at mem
  exact mem

theorem nonempty_ring : Nonempty (LaneRef (lay .ring)) := by
  have hedge : 0 < (lay .ring).edges.size := by simp [lay, NetworkDescription.ring]
  have hlane : 0 < ((lay .ring).edgeAt ⟨0, hedge⟩).lanes.size := by
    rw [edgeAt_ring, lanes_ring]
    exact Nat.one_pos
  exact ⟨⟨⟨0, hedge⟩, ⟨0, hlane⟩⟩⟩

/-- It is ten metres long. -/
theorem lane_ring (r : LaneRef (lay .ring)) :
    ((lay .ring).lane r).length = real 10 ∧ ∀ kind, ((lay .ring).lane r).allows kind = true := by
  rw [lane_eq_ring]
  refine ⟨?_, fun kind => rfl⟩
  have sum : (5 + 5 : ℝ) = 10 := by norm_num
  simp [Lane.length, Polyline.length, Polyline.segments, Polyline.segmentsFrom, sum]

/-- The road is entered again at its end. -/
theorem exists_crosses_ring (wanders : e.route = []) {w : Walker (lay .ring)}
    (past : ¬ w.offset ≤ real 10) :
    ∃ w', Walker.Crosses e w w' ∧ w'.offset = w.offset - real 10 := by
  have admits : ∀ i, ((lay .ring).edgeAt i).admits e.kind = true := by
    intro i
    rw [edgeAt_ring, Edge.admits, lanes_ring]
    simp [Lane.allows]
  have again : w.lane.edge ∈ (lay .ring).successors w.lane.edge := by
    rw [successors, List.mem_filter, edgeAt_ring]
    exact ⟨List.mem_finRange _, rfl⟩
  have found : ((lay .ring).freeSuccessor? w.lane.edge e.kind).isSome = true := by
    rw [isSome_freeSuccessor?, List.any_eq_true]
    exact ⟨_, again, admits _⟩
  obtain ⟨next, found⟩ := Option.isSome_iff_exists.1 found
  have onward : (lay .ring).onward e w.lane.edge w.routePosition = .enter next w.routePosition := by
    simp [onward, Entity.routeIndexFrom?, wanders, found]
  obtain ⟨entry, entered⟩ := Option.isSome_iff_exists.1
    ((isSome_entryLane? next w.lane.lane e.kind).trans (admits next))
  rw [← (lane_ring w.lane).1] at past ⊢
  exact ⟨_, .enter past onward entered, rfl⟩

/-- Ten metres are taken off the way at each turn. -/
theorem exists_trail_ring (wanders : e.route = []) {x : ℝ} (hx : 0 < x) (n : ℕ)
    {w : Walker (lay .ring)} (hw : w.offset = real (10 * n + x)) :
    ∃ left w', Walker.Trail e left w w' ∧ left.length = n ∧ w'.offset = real x := by
  induction n generalizing w with
  | zero => exact ⟨[], w, .refl w, rfl, by simpa using hw⟩
  | succ n ih =>
    have past : ¬ w.offset ≤ real 10 := by
      rw [hw, real_le, not_le]
      push_cast
      nlinarith [n.cast_nonneg (α := ℝ)]
    obtain ⟨w', crosses, offset⟩ := exists_crosses_ring wanders past
    have offset : w'.offset = real (10 * n + x) := by
      rw [offset, hw, real_sub]
      push_cast
      ring_nf
    obtain ⟨left, w'', trail, length, rest⟩ := ih offset
    exact ⟨_, w'', .cross crosses trail, by simp [length], rest⟩

theorem wayAlong_ring (lanes : List (LaneRef (lay .ring))) (x : ℝ) :
    (lay .ring).wayAlong lanes (real x) = real (10 * lanes.length + x) := by
  induction lanes with
  | nil => simp [wayAlong]
  | cons r rest ih =>
    calc (lay .ring).wayAlong (r :: rest) (real x)
      _ = ((lay .ring).lane r).length + (lay .ring).wayAlong rest (real x) := rfl
      _ = real 10 + real (10 * rest.length + x) := by rw [(lane_ring r).1, ih]
      _ = real (10 * (r :: rest).length + x) := by
        rw [real_add, List.length_cons]
        push_cast
        ring_nf

/-- A trip of six hundred and forty-five metres makes sixty-four turns, and is held. -/
theorem exists_advance_ring :
    ∃ (e : Entity Exact) (lane r : LaneRef (lay .ring)) (position : Nat) (junctions : List String),
      (lay .ring).advance e lane (real 0) (real 645) = .onLane r (real 10) position junctions ∧
      (Walker.lanesLeft e maxCrossings (setOut e lane (real 0) (real 645))).length = 64 := by
  obtain ⟨lane⟩ := nonempty_ring
  let e : Entity Exact := .create "a" .vehicle (real 1)
  have goal : (setOut e lane (real 0) (real 645)).offset = real (10 * (64 : ℕ) + 5) := by
    rw [setOut, zero_eq, larger_real, real_add]
    norm_num
  obtain ⟨left, w, trail, length, -⟩ := exists_trail_ring (e := e) rfl (by norm_num) 64 goal
  have walk := trail.walk_eq 0
  have lanes := trail.lanesLeft_eq 0
  rw [length] at walk lanes
  refine ⟨e, lane, w.lane, w.routePosition, w.junctions, ?_, ?_⟩
  · rw [advance_eq, maxCrossings, walk, Walker.walk, (lane_ring w.lane).1]
  · rw [maxCrossings, lanes, Walker.lanesLeft, List.append_nil, length]

end Network
end Ring

namespace Network
section Advance
variable {d : NetworkDescription Exact} {e : Entity Exact} {lane r : LaneRef (lay d)}
  {offset distance stop : Exact} {position : Nat} {junctions : List String}

/-- A move that ends on a lane covers its distance from where it began, unless it is held, and
crosses the junctions at the ends of the lanes left behind. -/
theorem covers_of_advance (start : 0.0 ≤ offset)
    (h : (lay d).advance e lane offset distance = .onLane r stop position junctions) :
    let left := Walker.lanesLeft e maxCrossings (setOut e lane offset distance)
    junctions = left.map (fun last => ((lay d).edgeAt last.edge).toJunction) ∧
      Walker.Covers (offset + Scalar.larger distance 0.0) left r stop := by
  have goal : 0.0 ≤ offset + Scalar.larger distance 0.0 :=
    Exact.add_nonneg start (larger_zero_nonneg distance)
  obtain ⟨w, trail, ended⟩ := Walker.walk_trail e maxCrossings (setOut e lane offset distance)
  generalize Walker.lanesLeft e maxCrossings (setOut e lane offset distance) = left at *
  have sum : (lay d).wayAlong left w.offset = offset + Scalar.larger distance 0.0 :=
    (trail.wayAlong_offset goal).2
  have crossed := trail.junctions
  rw [← advance_eq, h] at ended
  rcases ended with ⟨few, halts⟩ | ⟨all, held⟩
  · cases halts with
    | within =>
      refine ⟨crossed, few.le, fun _ => sum, fun all => absurd all few.ne, ?_⟩
      have notBeyond : ¬ offset + Scalar.larger distance 0.0 < (lay d).wayAlong left w.offset := by
        rw [sum, Exact.not_lt goal goal]
        exact le_self goal
      exact ⟨fun beyond => absurd beyond notBeyond, fun held => absurd held.1 few.ne⟩
  · cases held
    refine ⟨crossed, all.le, fun few => absurd all few.ne, fun _ => rfl, ?_⟩
    exact ⟨fun beyond => ⟨all, beyond⟩, fun held => held.2⟩

end Advance

theorem covers_ring :
    ∃ (e : Entity Exact) (lane r : LaneRef (lay .ring)) (position : Nat) (junctions : List String),
      (lay .ring).advance e lane (real 0) (real 645) = .onLane r (real 10) position junctions ∧
      Walker.Covers (real 0 + Scalar.larger (real 645) 0.0)
        (Walker.lanesLeft e maxCrossings (setOut e lane (real 0) (real 645))) r (real 10) := by
  obtain ⟨e, lane, r, position, junctions, advance, -⟩ := exists_advance_ring
  have start : (0.0 : Exact) ≤ real 0 := by simp
  exact ⟨e, lane, r, position, junctions, advance, (covers_of_advance start advance).2⟩

/-- The trip of six hundred and forty-five metres comes six hundred and fifty. -/
theorem advance_ring_exceeds : NetworkDescription.ring.Accepted ∧
    ∃ (e : Entity Exact) (lane r : LaneRef (lay .ring)) (position : Nat) (junctions : List String),
      (lay .ring).advance e lane (real 0) (real 645) = .onLane r (real 10) position junctions ∧
      real 0 + Scalar.larger (real 645) 0.0 <
        (lay .ring).wayAlong (Walker.lanesLeft e maxCrossings (setOut e lane (real 0) (real 645)))
          (real 10) := by
  refine ⟨NetworkDescription.accepted_ring, ?_⟩
  obtain ⟨e, lane, r, position, junctions, advance, turns⟩ := exists_advance_ring
  refine ⟨e, lane, r, position, junctions, advance, ?_⟩
  rw [wayAlong_ring, turns, zero_eq, larger_real, real_add, real_lt]
  norm_num

end Network
end Roadway
