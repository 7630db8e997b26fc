import Mathlib.Data.List.TakeWhile
import Roadway.Proofs.Geometry.Along

/-!
# Nearest points

A projection is the nearest one of those onto the segments, and on a segment no point is nearer
than the foot. Every offset of a line leads to a point of one of its segments, the offset of
the foot to the foot. So a point is projected to the nearest one of the whole line, however
often the line turns back or crosses itself.

## Main definitions

* `Segment.norm_sub_footOf_le` — the foot is the nearest point of its segment.
* `Polyline.Planar.lateral_project_le` — no segment is nearer than the line.
* `Polyline.Planar.exists_between` — every offset leads to a point of a segment.
* `Polyline.NearestTo` — the foot of a point at the nearest place of a line.
* `Polyline.Planar.nearest_project` — a projection finds the nearest place.
-/
namespace Roadway
open Exact

namespace Segment
variable {a b z : ℂ}

/-- Clamping a share brings it as near to the share of the perpendicular as it can get. -/
theorem sq_sub_shareOf_le {t : ℝ} (low : 0 ≤ t) (high : t ≤ 1) :
    (shareOf a b z - inner ℝ (z - a) (b - a) / ‖b - a‖ ^ 2) ^ 2 ≤
      (t - inner ℝ (z - a) (b - a) / ‖b - a‖ ^ 2) ^ 2 := by
  rw [shareOf]
  generalize inner ℝ (z - a) (b - a) / ‖b - a‖ ^ 2 = q
  rcases le_total q 0 with before | after
  · rw [max_eq_right before, min_eq_left zero_le_one]
    nlinarith
  · rw [max_eq_left after]
    rcases le_total q 1 with within | beyond
    · rw [min_eq_left within, sub_self, zero_pow two_ne_zero]
      exact sq_nonneg _
    · rw [min_eq_right beyond]
      nlinarith

/-- No share of the way leads nearer to a point than its foot. -/
theorem norm_sub_footOf_le (apart : a ≠ b) {t : ℝ} (low : 0 ≤ t) (high : t ≤ 1) :
    ‖z - footOf a b z‖ ≤ ‖z - (a + t • (b - a))‖ := by
  have length : ‖b - a‖ ≠ 0 := norm_ne_zero_iff.2 (sub_ne_zero.2 apart.symm)
  -- The squared distance is a parabola in the share, with its vertex at the perpendicular.
  have parabola (t : ℝ) : ‖z - (a + t • (b - a))‖ ^ 2 = ‖z - a‖ ^ 2 +
      ((t - inner ℝ (z - a) (b - a) / ‖b - a‖ ^ 2) ^ 2 -
        (inner ℝ (z - a) (b - a) / ‖b - a‖ ^ 2) ^ 2) * ‖b - a‖ ^ 2 := by
    rw [sub_add_eq_sub_sub, norm_sub_sq_real, real_inner_smul_right, norm_smul, mul_pow,
      Real.norm_eq_abs, sq_abs]
    generalize inner ℝ (z - a) (b - a) = product
    field_simp
    ring
  rw [← sq_le_sq₀ (norm_nonneg _) (norm_nonneg _), footOf, parabola, parabola]
  have nearer := sq_sub_shareOf_le (a := a) (b := b) (z := z) low high
  gcongr

end Segment

namespace Polyline

/-- A scan for the nearest segment ends at a distance that none of them undercuts. -/
theorem lateral_foldl_le {segments : List (Segment Exact)} {p : Vec2 Exact}
    (numbers : ∀ s ∈ segments, (s.project p).lateral ≠ notANumber) :
    (segments.foldl (fun best s => nearer best (s.project p)) outOfReach).lateral ≠ notANumber ∧
      ∀ s ∈ segments,
        (segments.foldl (fun best s => nearer best (s.project p)) outOfReach).lateral ≤
          (s.project p).lateral := by
  induction segments using List.reverseRecOn with
  | nil =>
    refine ⟨nofun, ?_⟩
    intro s hs
    cases hs
  | append_singleton rest s ih =>
    obtain ⟨number, least⟩ := ih fun t ht => numbers t (List.mem_append_left _ ht)
    have hs : (s.project p).lateral ≠ notANumber := numbers s (by simp)
    rw [List.foldl_append, List.foldl_cons, List.foldl_nil, nearer]
    split
    · next closer =>
      refine ⟨hs, ?_⟩
      intro t ht
      rcases List.mem_append.1 ht with earlier | same
      · exact Exact.le_trans (Exact.le_of_lt closer) (least t earlier)
      · obtain rfl := List.mem_singleton.1 same
        exact le_self_iff.2 hs
    · next farther =>
      refine ⟨number, ?_⟩
      intro t ht
      rcases List.mem_append.1 ht with earlier | same
      · exact least t earlier
      · obtain rfl := List.mem_singleton.1 same
        exact (not_lt_iff hs number).1 farther

section Lookup
variable {α : Type} [Scalar α] {line : Polyline α} {s : Segment α} {offset : α}

theorem start_of_head? (head : line.segments.head? = some s) : s.start = 0.0 := by
  obtain ⟨vertices⟩ := line
  cases vertices with
  | nil => cases head
  | cons a rest =>
    cases rest with
    | nil => cases head
    | cons b rest =>
      cases head
      rfl

/-- The segment found for an offset starts at or before it, and is the last one or followed
by one that starts behind the offset. -/
theorem starts_of_segmentAt? (first : ∀ s, line.segments.head? = some s → s.start ≤ offset)
    (found : line.segmentAt? offset = some s) : s.start ≤ offset ∧
      (line.segments.getLast? = some s ∨
        ∃ t ∈ line.segments, t.start = s.stop ∧ ¬ t.start ≤ offset) := by
  have split := List.takeWhile_append_dropWhile (p := fun t => decide (t.start ≤ offset))
    (l := line.segments)
  have last : (line.segments.takeWhile fun t => decide (t.start ≤ offset)).getLast? = some s := by
    rw [segmentAt?, Option.or_eq_some_iff] at found
    rcases found with last | ⟨none, head⟩
    · exact last
    · -- Nothing was taken, although the first segment starts in time.
      cases segments : line.segments with
      | nil =>
        rw [segments] at head
        cases head
      | cons t rest =>
        have starts : t.start ≤ offset := first t (by rw [segments]; rfl)
        rw [segments] at none
        simp [starts] at none
  obtain ⟨before, taken⟩ := List.getLast?_eq_some_iff.1 last
  refine ⟨?_, ?_⟩
  · have listed : s ∈ line.segments.takeWhile fun t => decide (t.start ≤ offset) := by
      simp [taken]
    simpa using List.mem_takeWhile_imp listed
  · cases rest : line.segments.dropWhile fun t => decide (t.start ≤ offset) with
    | nil =>
      rw [rest, List.append_nil] at split
      exact .inl (split ▸ last)
    | cons t after =>
      have late := List.head?_dropWhile_not (fun t => decide (t.start ≤ offset)) line.segments
      rw [rest, List.head?_cons] at late
      rw [taken, rest] at split
      have chain := isChain_segmentsFrom 0.0 line.vertices
      change line.segments.IsChain _ at chain
      rw [← split, List.append_assoc] at chain
      have next := (List.isChain_cons_cons.1 (List.isChain_append.1 chain).2.1).1
      refine .inr ⟨t, ?_, next.2, by simpa using late⟩
      rw [← split]
      simp

end Lookup

/-- The foot of a point at the nearest place of a line: it lies along the line, at the lateral
distance, and no offset leads nearer to the point. -/
structure NearestTo (line : Polyline Exact) (p : Vec2 Exact) (foot : Projection Exact) : Prop where
  start : 0.0 ≤ foot.offset
  stop : foot.offset ≤ line.length
  lateral : (p - line.positionAt foot.offset).norm = foot.lateral
  least : ∀ d : ℝ, foot.lateral ≤ (p - line.positionAt (real d)).norm
  signed : ∃ m, foot.signed = real m ∧ foot.lateral = real |m|

namespace Planar
variable {line : Polyline Exact} (planar : line.Planar)
include planar

/-- No segment is nearer than the line. -/
theorem lateral_project_le {s : Segment Exact} (hs : s ∈ line.segments) (z : ℂ) :
    (line.project (.ofComplex z)).lateral ≤ (s.project (.ofComplex z)).lateral := by
  refine (lateral_foldl_le ?_).2 s hs
  intro t ht
  obtain ⟨a, b, start, apart, rfl⟩ := planar.exists_ends ht
  rw [Segment.project_ofEnds apart]
  exact nofun

/-- A line with a segment is at a real distance from real points. -/
theorem isFinite_lateral (segments : line.segments ≠ []) (z : ℂ) :
    Scalar.isFinite (line.project (.ofComplex z)).lateral = true := by
  obtain ⟨s, hs⟩ := List.exists_mem_of_ne_nil _ segments
  have near := planar.lateral_project_le hs z
  obtain ⟨a, b, start, apart, rfl⟩ := planar.exists_ends hs
  rw [Segment.project_ofEnds apart] at near
  have distance := line.lateral_nonneg (.ofComplex z)
  rw [zero_eq] at distance
  exact isFinite_of_mem distance near

/-- Every offset leads to a point of a segment. -/
theorem exists_between (segments : line.segments ≠ []) (d : ℝ) :
    ∃ (a b : ℂ) (start t : ℝ), a ≠ b ∧ .ofEnds a b start ∈ line.segments ∧ 0 ≤ t ∧ t ≤ 1 ∧
      line.positionAt (real d) = .ofComplex (a + t • (b - a)) := by
  obtain ⟨length, hlength⟩ := planar.exists_length
  have nonneg := planar.spaced.length_nonneg
  rw [hlength, zero_eq, real_le] at nonneg
  have clamped : line.clampOffset (real d) = real (min (max d 0) length) := by
    rw [clampOffset, hlength, zero_eq, clamp_real]
  have low : 0 ≤ min (max d 0) length := le_min (le_max_right d 0) nonneg
  have high : min (max d 0) length ≤ length := min_le_right _ _
  generalize min (max d 0) length = y at clamped low high
  have first : ∀ s, line.segments.head? = some s → s.start ≤ real y := by
    intro s head
    rw [start_of_head? head, zero_eq, real_le]
    exact low
  obtain ⟨s, found⟩ := exists_segmentAt? segments (real y)
  have hs := mem_of_segmentAt? found
  obtain ⟨starts, stops⟩ := starts_of_segmentAt? first found
  obtain ⟨a, b, start, apart, rfl⟩ := planar.exists_ends hs
  have way : 0 < ‖b - a‖ := norm_pos_iff.2 (sub_ne_zero.2 apart.symm)
  have starts : start ≤ y := real_le.1 starts
  have stops : y ≤ start + ‖b - a‖ := by
    rcases stops with last | ⟨t, -, begins, late⟩
    · have stop : line.length = real (start + ‖b - a‖) := by
        rw [Polyline.length, last]
        rfl
      rw [stop] at hlength
      linarith [Exact.real.inj hlength]
    · rw [begins] at late
      exact (not_le.1 (mt real_le.2 late)).le
  refine ⟨a, b, start, (y - start) / ‖b - a‖, apart, hs, ?_, ?_, ?_⟩
  · exact div_nonneg (sub_nonneg.2 starts) way.le
  · rw [div_le_one way]
    linarith
  · have share : y = start + (y - start) / ‖b - a‖ * ‖b - a‖ := by
      rw [div_mul_cancel₀ _ way.ne', add_sub_cancel]
    rw [positionAt, clamped, found]
    dsimp only
    conv_lhs => rw [share]
    exact Segment.positionAt_ofEnds apart _

/-- No offset leads nearer to a point than its projection. -/
theorem lateral_le (segments : line.segments ≠ []) (z : ℂ) (d : ℝ) :
    (line.project (.ofComplex z)).lateral ≤
      (Vec2.ofComplex z - line.positionAt (real d)).norm := by
  obtain ⟨a, b, start, t, apart, hs, low, high, position⟩ := planar.exists_between segments d
  have segment := planar.lateral_project_le hs z
  rw [Segment.project_ofEnds apart] at segment
  rw [position, Vec2.ofComplex_sub, Vec2.norm_ofComplex]
  exact Exact.le_trans segment (real_le.2 (Segment.norm_sub_footOf_le apart low high))

theorem nearestTo_project (segments : line.segments ≠ []) (z : ℂ) :
    line.NearestTo (.ofComplex z) (line.project (.ofComplex z)) := by
  obtain ⟨f, u, signed, foot⟩ := planar.exists_foot (planar.isFinite_lateral segments z)
  obtain ⟨start, stop, -⟩ := planar.spaced.project_mem (.ofComplex z)
  refine ⟨start, stop, ?_, planar.lateral_le segments z, signed, foot.signed_eq, ?_⟩
  · rw [foot.position, foot.lateral, Vec2.ofComplex_sub, Vec2.norm_ofComplex]
  · rw [foot.lateral, foot.abs_signed]

/-- A line of two vertices or more projects every real point to its nearest place, and its own
points to themselves. -/
theorem nearest_project (vertices : 2 ≤ line.vertices.length) :
    (∀ p, p.isFinite = true → line.NearestTo p (line.project p)) ∧
      ∀ d : ℝ, (line.project (line.positionAt (real d))).lateral = 0.0 ∧
        line.positionAt (line.project (line.positionAt (real d))).offset =
          line.positionAt (real d) := by
  have segments : line.segments ≠ [] := by
    intro none
    have count := length_segmentsFrom 0.0 line.vertices
    change line.segments.length = _ at count
    rw [none, List.length_nil] at count
    omega
  refine ⟨?_, ?_⟩
  · intro p real
    obtain ⟨z, rfl⟩ := Vec2.exists_ofComplex real
    exact planar.nearestTo_project segments z
  · intro d
    obtain ⟨z, position⟩ := planar.exists_positionAt d
    obtain ⟨f, u, signed, foot⟩ := planar.exists_foot (planar.isFinite_lateral segments z)
    -- The point itself is one of the places that its foot is compared with.
    have least := planar.lateral_le segments z d
    rw [position, foot.lateral, Vec2.ofComplex_sub, Vec2.norm_ofComplex, real_le, sub_self,
      norm_zero] at least
    obtain rfl : z = f := sub_eq_zero.1 (norm_le_zero_iff.1 least)
    rw [position, foot.lateral, foot.position, sub_self, norm_zero, zero_eq]
    exact ⟨rfl, rfl⟩

end Planar

/-- Below the bend of a road, at the same distance from both of its legs. -/
theorem nearest_corner :
    let line := ofPoints EdgeDescription.corner.shape
    line.Planar ∧ 2 ≤ line.vertices.length ∧
      line.NearestTo (.point 3 0) (line.project (.point 3 0)) ∧
      (line.project (line.positionAt (real 7))).lateral = 0.0 := by
  intro line
  have planar : line.Planar :=
    Network.planar_edge NetworkDescription.accepted_cramped List.mem_cons_self
  have vertices : 2 ≤ line.vertices.length := by
    simp [line, Network.vertices_corner]
  obtain ⟨nearest, own⟩ := planar.nearest_project vertices
  exact ⟨planar, vertices, nearest _ rfl, (own 7).1⟩

end Polyline
end Roadway
