import Roadway.Proofs.Geometry.Extent
import Roadway.Proofs.Geometry.Plane

/-!
# Feet of points on a line

A projection keeps the foot of a point as an arc length, and a segment is looked up again
for it. The segments of a spaced line follow each other, so the one that is found is the one
that the point was projected at, or the next one if the foot is where that begins. Either
way it leads to the foot again. Inside a segment the direction is that of the segment too,
and the point lies above the foot along the left normal.

## Main definitions

* `Polyline.Spaced.segmentAt?_of_lt` — which segment is found.
* `Polyline.Planar` — spaced lines with real vertices.
* `Polyline.Foot` — what a projection keeps of a foot.
* `Polyline.Planar.exists_foot` — a point at a real distance has a foot.
-/
namespace Roadway
open Exact

namespace Polyline

section Lookup
variable {α : Type} [Scalar α] {line : Polyline α} {s : Segment α} {offset : α}

/-- The segment found is the last one in front of which all segments start at or before the
offset. -/
theorem segmentAt?_eq {before after : List (Segment α)}
    (split : line.segments = before ++ s :: after) (started : ∀ t ∈ before, t.start ≤ offset)
    (starts : s.start ≤ offset) (ahead : ∀ t, after.head? = some t → ¬ t.start ≤ offset) :
    line.segmentAt? offset = some s := by
  have rest : after.takeWhile (fun t => decide (t.start ≤ offset)) = [] := by
    cases after with
    | nil => rfl
    | cons t after => exact List.takeWhile_cons_of_neg (by simpa using ahead t rfl)
  have taken : (before ++ s :: after).takeWhile (fun t => decide (t.start ≤ offset)) =
      before ++ [s] := by
    rw [List.takeWhile_append_of_pos fun t ht => decide_eq_true (started t ht), List.takeWhile_cons,
      rest]
    simp [starts]
  rw [segmentAt?, split, taken, List.getLast?_append]
  rfl

/-- Each segment begins where the one before it ends. -/
theorem isChain_segmentsFrom (start : α) (vertices : List (Vec2 α)) :
    (segmentsFrom start vertices).IsChain fun s t => t.a = s.b ∧ t.start = s.stop := by
  induction vertices generalizing start with
  | nil => exact .nil
  | cons a rest ih =>
    cases rest with
    | nil => exact .nil
    | cons b rest =>
      have tail := ih (start + (b - a).norm)
      cases rest with
      | nil => exact .singleton _
      | cons c rest => exact .cons_cons ⟨rfl, rfl⟩ tail

/-- A segment is the last one, or followed by one that begins where it ends. -/
theorem last_or_next (hs : s ∈ line.segments) :
    line.segments.getLast? = some s ∨
      ∃ t ∈ line.segments, t.a = s.b ∧ t.start = s.stop := by
  obtain ⟨before, after, split⟩ := List.append_of_mem hs
  cases after with
  | nil => exact .inl (by rw [split, List.getLast?_append]; rfl)
  | cons t after =>
    have chain := isChain_segmentsFrom 0.0 line.vertices
    change line.segments.IsChain _ at chain
    rw [split] at chain
    have next := (List.isChain_cons_cons.1 (List.isChain_append.1 chain).2.1).1
    exact .inr ⟨t, by simp [split], next⟩

/-- A segment begins at a vertex. -/
theorem mem_vertices {start : α} {vertices : List (Vec2 α)} (hs : s ∈ segmentsFrom start vertices) :
    s.a ∈ vertices ∧ s.b ∈ vertices := by
  induction vertices generalizing start with
  | nil => cases hs
  | cons a rest ih =>
    cases rest with
    | nil => cases hs
    | cons b rest =>
      rcases List.mem_cons.1 hs with rfl | hs
      · exact ⟨by simp, by simp⟩
      · obtain ⟨first, last⟩ := ih hs
        exact ⟨List.mem_cons_of_mem a first, List.mem_cons_of_mem a last⟩

end Lookup

section Order
variable {line : Polyline Exact} {s : Segment Exact} {offset : Exact}

namespace Spaced
variable (spaced : line.Spaced)
include spaced

/-- Segments in front of one that starts at or before an offset do so too. -/
theorem started {before after : List (Segment Exact)}
    (split : line.segments = before ++ s :: after) (starts : s.start ≤ offset) :
    ∀ t ∈ before, t.start ≤ offset := by
  intro t ht
  have ordered := spaced.pairwise_segments
  rw [split, List.pairwise_append] at ordered
  have inFront := ordered.2.2 t ht s List.mem_cons_self
  have listed : t ∈ line.segments := by simp [split, ht]
  exact Exact.le_trans (spaced.start_le_stop listed) (Exact.le_trans inFront starts)

/-- Between the ends of a segment that segment is found. -/
theorem segmentAt?_of_lt (hs : s ∈ line.segments) (starts : s.start ≤ offset)
    (stops : offset < s.stop) : line.segmentAt? offset = some s := by
  obtain ⟨before, after, split⟩ := List.append_of_mem hs
  refine segmentAt?_eq split (spaced.started split starts) starts ?_
  intro t ht startsToo
  have ordered := spaced.pairwise_segments
  rw [split, List.pairwise_append, List.pairwise_cons] at ordered
  have behind := ordered.2.1.1 t (List.mem_of_head? ht)
  have below := Exact.lt_of_lt_of_le stops (Exact.le_trans behind startsToo)
  obtain ⟨-, -, below⟩ := lt_iff_key.1 below
  exact lt_irrefl _ below

/-- From the start of the last segment on that segment is found. -/
theorem segmentAt?_last (last : line.segments.getLast? = some s) (starts : s.start ≤ offset) :
    line.segmentAt? offset = some s := by
  obtain ⟨before, split⟩ := List.getLast?_eq_some_iff.1 last
  exact segmentAt?_eq split (spaced.started split starts) starts fun t none => by cases none

end Spaced
end Order

/-- The first segment of real vertices, and those after it. -/
theorem segmentsFrom_ofComplex (a b : ℂ) (start : ℝ) (rest : List (Vec2 Exact)) :
    segmentsFrom (real start) (.ofComplex a :: .ofComplex b :: rest) =
      .ofEnds a b start :: segmentsFrom (real (start + ‖b - a‖)) (.ofComplex b :: rest) := by
  rw [segmentsFrom, Vec2.ofComplex_sub, Vec2.norm_ofComplex, real_add]
  rfl

/-- A spaced line with real vertices. -/
structure Planar (line : Polyline Exact) : Prop where
  spaced : line.Spaced
  finite : ∀ v ∈ line.vertices, v.isFinite = true

/-- What the projection of `z` keeps of its foot `f` on a line with the direction `u` there. -/
structure Foot (line : Polyline Exact) (z f u : ℂ) (signed : ℝ) : Prop where
  unit : ‖u‖ = 1
  position : line.positionAt (line.project (.ofComplex z)).offset = .ofComplex f
  direction : line.directionAt (line.project (.ofComplex z)).offset = .ofComplex u
  lateral : (line.project (.ofComplex z)).lateral = real ‖z - f‖
  signed_eq : (line.project (.ofComplex z)).signed = real signed
  abs_signed : |signed| = ‖z - f‖
  /-- Inside a segment the point lies above the foot. -/
  above : ∀ s ∈ line.segments, s.start < (line.project (.ofComplex z)).offset →
    (line.project (.ofComplex z)).offset < s.stop → z - f = signed • (u * Complex.I)

namespace Planar
variable {line : Polyline Exact} (planar : line.Planar)

theorem exists_ofEnds {vertices : List (Vec2 Exact)} (apart : Apart vertices)
    (finite : ∀ v ∈ vertices, v.isFinite = true) {start : ℝ} {s : Segment Exact}
    (hs : s ∈ segmentsFrom (real start) vertices) :
    ∃ a b first, a ≠ b ∧ s = .ofEnds a b first := by
  induction vertices generalizing start with
  | nil => cases hs
  | cons p rest ih =>
    cases rest with
    | nil => cases hs
    | cons q rest =>
      obtain ⟨gap, tail⟩ := List.isChain_cons_cons.1 apart
      obtain ⟨a, rfl⟩ := Vec2.exists_ofComplex (finite p (by simp))
      obtain ⟨b, rfl⟩ := Vec2.exists_ofComplex (finite q (by simp))
      rw [segmentsFrom_ofComplex] at hs
      rcases List.mem_cons.1 hs with rfl | hs
      · refine ⟨a, b, start, ?_, rfl⟩
        rintro rfl
        rw [Vec2.ofComplex_sub, Vec2.norm_ofComplex, sub_self, norm_zero, ofScientific_eq,
          real_lt] at gap
        norm_num at gap
      · exact ih tail (fun v hv => finite v (List.mem_cons_of_mem _ hv)) hs

include planar

/-- The segments are those between real points. -/
theorem exists_ends {s : Segment Exact} (hs : s ∈ line.segments) :
    ∃ a b start, a ≠ b ∧ s = .ofEnds a b start := by
  rw [segments, zero_eq] at hs
  exact exists_ofEnds planar.spaced planar.finite hs

/-- The segment found at a place of a segment leads to that place. -/
theorem exists_found {a b : ℂ} {start t : ℝ} (hs : .ofEnds a b start ∈ line.segments)
    (apart : a ≠ b) (low : 0 ≤ t) (high : t ≤ 1) : ∃ c d first u, c ≠ d ∧
      line.segmentAt? (real (start + t * ‖b - a‖)) = some (.ofEnds c d first) ∧
      start + t * ‖b - a‖ = first + u * ‖d - c‖ ∧ a + t • (b - a) = c + u • (d - c) ∧
      (0 < u → u < 1 → c = a ∧ d = b ∧ u = t) := by
  have length := norm_pos_iff.2 (sub_ne_zero.2 apart.symm)
  have starts : real start ≤ real (start + t * ‖b - a‖) := by
    rw [real_le]
    have way := mul_nonneg low length.le
    linarith
  rcases lt_or_eq_of_le high with inside | rfl
  · refine ⟨a, b, start, t, apart, ?_, rfl, rfl, fun _ _ => ⟨rfl, rfl, rfl⟩⟩
    refine planar.spaced.segmentAt?_of_lt hs starts ?_
    change real _ < real (start + ‖b - a‖)
    rw [real_lt]
    nlinarith
  · rcases last_or_next hs with last | ⟨next, hnext, begins, follows⟩
    · exact ⟨a, b, start, 1, apart, planar.spaced.segmentAt?_last last starts, rfl, rfl,
        fun _ _ => ⟨rfl, rfl, rfl⟩⟩
    · obtain ⟨c, d, first, apart', rfl⟩ := planar.exists_ends hnext
      obtain rfl : c = b := Vec2.ofComplex_injective begins
      obtain rfl : first = start + ‖c - a‖ := Exact.real.inj follows
      refine ⟨c, d, start + ‖c - a‖, 0, apart', ?_, ?_, ?_, fun h => absurd h (lt_irrefl 0)⟩
      · rw [one_mul]
        refine planar.spaced.segmentAt?_of_lt hnext ?_ ?_
        · exact real_le.2 le_rfl
        · have length' := norm_pos_iff.2 (sub_ne_zero.2 apart'.symm)
          change real _ < real (start + ‖c - a‖ + ‖d - c‖)
          rw [real_lt]
          linarith
      · ring
      · rw [one_smul, zero_smul]
        ring

/-- Offsets along a segment lie along the line. -/
theorem clampOffset_of_mem {a b : ℂ} {start t : ℝ} (hs : .ofEnds a b start ∈ line.segments)
    (low : 0 ≤ t) (high : t ≤ 1) :
    line.clampOffset (real (start + t * ‖b - a‖)) = real (start + t * ‖b - a‖) := by
  obtain ⟨begins, -⟩ := start_stop planar.spaced (by simp) hs
  have ends := planar.spaced.stop_le_length hs
  refine clamp_of_mem (Exact.le_trans begins ?_) (Exact.le_trans ?_ ends)
  · change real start ≤ _
    rw [real_le]
    linarith [mul_nonneg low (norm_nonneg (b - a))]
  · change _ ≤ real (start + ‖b - a‖)
    rw [real_le]
    linarith [mul_le_of_le_one_left (norm_nonneg (b - a)) high]

/-- The line runs along its segments. -/
theorem positionAt_of_mem {a b : ℂ} {start t : ℝ} (hs : .ofEnds a b start ∈ line.segments)
    (apart : a ≠ b) (low : 0 ≤ t) (high : t ≤ 1) :
    line.positionAt (real (start + t * ‖b - a‖)) = .ofComplex (a + t • (b - a)) := by
  obtain ⟨c, d, first, u, apart', found, way, place, -⟩ := planar.exists_found hs apart low high
  rw [positionAt, planar.clampOffset_of_mem hs low high, found]
  dsimp only
  rw [way, Segment.positionAt_ofEnds apart', place]

/-- A point at a real distance from the line has a foot there. -/
theorem exists_foot {z : ℂ}
    (near : Scalar.isFinite (line.project (.ofComplex z)).lateral = true) :
    ∃ f u signed, line.Foot z f u signed := by
  rcases line.project_cases (.ofComplex z) with none | ⟨s, hs, projected⟩
  · rw [none] at near
    cases near
  · obtain ⟨a, b, start, apart, rfl⟩ := planar.exists_ends hs
    have low := Segment.shareOf_nonneg (a := a) (b := b) (z := z)
    have high := Segment.shareOf_le_one (a := a) (b := b) (z := z)
    obtain ⟨c, d, first, t, apart', found, way, -, same⟩ := planar.exists_found hs apart low high
    have clamped := planar.clampOffset_of_mem hs low high
    rw [Segment.project_ofEnds apart] at projected
    have offset := congrArg Projection.offset projected
    refine ⟨Segment.footOf a b z, Segment.directionOf c d, Segment.signedOf a b z,
      Segment.norm_directionOf apart', ?_, ?_, congrArg Projection.lateral projected,
      congrArg Projection.signed projected, Segment.abs_signedOf, ?_⟩
    · rw [offset]
      exact planar.positionAt_of_mem hs apart low high
    · rw [directionAt, offset, clamped, found]
      exact Segment.direction_ofEnds apart'
    · intro s' hs' starts stops
      rw [offset] at starts stops
      have found' := planar.spaced.segmentAt?_of_lt hs' (Exact.le_of_lt starts) stops
      obtain rfl := Option.some.inj (found'.symm.trans found)
      have length := norm_pos_iff.2 (sub_ne_zero.2 apart'.symm)
      change real first < real _ at starts
      change real _ < real (first + ‖d - c‖) at stops
      rw [way, real_lt] at starts stops
      obtain ⟨rfl, rfl, rfl⟩ := same (by nlinarith) (by nlinarith)
      exact Segment.sub_footOf apart (by nlinarith) (by nlinarith)

end Planar
end Polyline
end Roadway
