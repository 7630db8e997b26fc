import Roadway.Proofs.Geometry.Along

/-!
# Lines by arc length

The arc lengths of the vertices of a line add up the lengths of its segments. An offset selects
the last segment that starts at or before it, which is found by counting the arc lengths up to
the offset. Over real vertices that segment always exists and has a length, every vertex lies at
its arc length, and the way between two places of the line is no shorter than their distance.

## Main definitions

* `Polyline.arcLengths`, `Polyline.segmentIndex` — where the vertices lie, and the number of the
  segment at an offset.
* `Polyline.segmentAt?_eq_getElem?` — segments are found by number.
* `Polyline.NoFarther` — functions that lead no farther than their argument moves.
* `Polyline.ByArcLength` — lines that are parametrised by arc length.
* `Polyline.byArcLength_ofPoints` — lines through real points are.
-/
namespace Roadway
open Exact

namespace Polyline

section Scalar
variable {α : Type} [Scalar α]

/-- The arc lengths of vertices, the first one at `start`. -/
def arcLengthsFrom (start : α) : List (Vec2 α) → List α
  | [] => []
  | [_] => [start]
  | a :: b :: rest => start :: arcLengthsFrom (start + (b - a).norm) (b :: rest)

/-- The arc lengths of the vertices of a line. -/
def arcLengths (line : Polyline α) : List α := arcLengthsFrom 0.0 line.vertices

/-- The number of the segment at an offset: one less than the number of arc lengths up to it,
but that of a segment. -/
def segmentIndex (line : Polyline α) (offset : α) : ℕ :=
  min ((line.arcLengths.takeWhile fun c => decide (c ≤ offset)).length - 1)
    (line.vertices.length - 2)

theorem length_arcLengthsFrom (start : α) (vertices : List (Vec2 α)) :
    (arcLengthsFrom start vertices).length = vertices.length := by
  induction vertices generalizing start with
  | nil => rfl
  | cons a rest ih =>
    cases rest with
    | nil => rfl
    | cons b rest => exact congrArg Nat.succ (ih _)

/-- A segment lies between the vertices of its number and the next one, from the arc length of
the one to that of the other. -/
theorem getElem?_segmentsFrom {start : α} {vertices : List (Vec2 α)} {i : ℕ} {s : Segment α}
    (at_i : (segmentsFrom start vertices)[i]? = some s) :
    vertices[i]? = some s.a ∧ vertices[i + 1]? = some s.b ∧
      (arcLengthsFrom start vertices)[i]? = some s.start ∧
      (arcLengthsFrom start vertices)[i + 1]? = some s.stop := by
  induction vertices generalizing start i with
  | nil => cases at_i
  | cons a rest ih =>
    cases rest with
    | nil => cases at_i
    | cons b rest =>
      cases i with
      | zero =>
        cases at_i
        cases rest with
        | nil => exact ⟨rfl, rfl, rfl, rfl⟩
        | cons c rest => exact ⟨rfl, rfl, rfl, rfl⟩
      | succ i => exact ih at_i

/-- The arc lengths are those of the starts of segments, and the length. -/
theorem arcLengthsFrom_cons (start : α) (a : Vec2 α) (rest : List (Vec2 α)) :
    arcLengthsFrom start (a :: rest) = (segmentsFrom start (a :: rest)).map (·.start) ++
      [((segmentsFrom start (a :: rest)).getLast?.map (·.stop)).getD start] := by
  induction rest generalizing start a with
  | nil => rfl
  | cons b rest ih =>
    rw [arcLengthsFrom, segmentsFrom, ih, List.map_cons, List.cons_append, List.getLast?_cons]
    cases (segmentsFrom (start + (b - a).norm) (b :: rest)).getLast? with
    | none => rfl
    | some s => rfl

variable {line : Polyline α}

theorem getLast?_arcLengths (nonempty : line.vertices ≠ []) :
    line.arcLengths.getLast? = some line.length := by
  obtain ⟨a, rest, vertices⟩ := List.exists_cons_of_ne_nil nonempty
  rw [arcLengths, Polyline.length, segments, vertices, arcLengthsFrom_cons, List.getLast?_concat]
  cases (segmentsFrom 0.0 (a :: rest)).getLast? with
  | none => rfl
  | some s => rfl

theorem head?_arcLengths (nonempty : line.vertices ≠ []) : line.arcLengths.head? = some 0.0 := by
  obtain ⟨a, rest, vertices⟩ := List.exists_cons_of_ne_nil nonempty
  rw [arcLengths, vertices]
  cases rest with
  | nil => rfl
  | cons b rest => rfl

/-- What is appended to a list is only passed over behind all of it. -/
theorem min_length_takeWhile_concat {β : Type} (p : β → Bool) (xs : List β) (x : β) :
    min (((xs ++ [x]).takeWhile p).length - 1) (xs.length - 1) = (xs.takeWhile p).length - 1 := by
  have most : (xs.takeWhile p).length ≤ xs.length := (List.takeWhile_sublist p).length_le
  rw [List.takeWhile_append]
  split
  · next all =>
    rw [List.length_append]
    omega
  · omega

/-- The number of a segment counts the segments in front of it. -/
theorem segmentIndex_eq (line : Polyline α) (offset : α) : line.segmentIndex offset =
    (line.segments.takeWhile fun s => decide (s.start ≤ offset)).length - 1 := by
  have count := line.length_segments
  have most : (line.segments.takeWhile fun s => decide (s.start ≤ offset)).length ≤
      line.segments.length := (List.takeWhile_sublist _).length_le
  rw [segmentIndex, arcLengths]
  cases vertices : line.vertices with
  | nil =>
    rw [vertices, List.length_nil] at count
    rw [List.length_nil]
    omega
  | cons a rest =>
    have segmented : segmentsFrom 0.0 (a :: rest) = line.segments := by rw [segments, vertices]
    have starts : line.vertices.length - 2 = (line.segments.map (·.start)).length - 1 := by
      rw [List.length_map]
      omega
    rw [arcLengthsFrom_cons, segmented, ← vertices, starts, min_length_takeWhile_concat,
      List.takeWhile_map, List.length_map]
    rfl

/-- The segment of an offset is found by its number. -/
theorem segmentAt?_eq_getElem? (line : Polyline α) (offset : α) :
    line.segmentAt? offset = line.segments[line.segmentIndex offset]? := by
  have front := List.takeWhile_prefix (l := line.segments) fun s => decide (s.start ≤ offset)
  rw [segmentIndex_eq, segmentAt?]
  generalize line.segments.takeWhile (fun s => decide (s.start ≤ offset)) = taken at front ⊢
  obtain ⟨rest, split⟩ := front
  rw [← split, List.getLast?_eq_getElem?]
  cases taken with
  | nil => rw [List.nil_append, List.head?_eq_getElem?]; rfl
  | cons s before =>
    have within : (s :: before).length - 1 < (s :: before).length := Nat.sub_one_lt (by simp)
    rw [List.getElem?_append_left within, List.getElem?_eq_getElem within]
    rfl

end Scalar

/-- From `x` to `y` a function leads no farther than its argument moves. -/
def NoFarther (f : ℝ → ℂ) (x y : ℝ) : Prop :=
  ∀ u v, x ≤ u → u ≤ v → v ≤ y → ‖f v - f u‖ ≤ v - u

theorem NoFarther.trans {f : ℝ → ℂ} {x y z : ℝ} (front : NoFarther f x y)
    (back : NoFarther f y z) : NoFarther f x z := by
  intro u v low order high
  rcases le_total v y with before | crosses
  · exact front u v low order before
  · rcases le_total y u with after | crosses'
    · exact back u v after order high
    · calc ‖f v - f u‖ ≤ ‖f v - f y‖ + ‖f y - f u‖ := norm_sub_le_norm_sub_add_norm_sub _ _ _
        _ ≤ (v - y) + (y - u) :=
          add_le_add (back y v le_rfl crosses high) (front u y low crosses' le_rfl)
        _ = v - u := sub_add_sub_cancel v y u

section Exact

theorem arcLengthsFrom_ofComplex (a b : ℂ) (start : ℝ) (rest : List (Vec2 Exact)) :
    arcLengthsFrom (real start) (.ofComplex a :: .ofComplex b :: rest) =
      real start :: arcLengthsFrom (real (start + ‖b - a‖)) (.ofComplex b :: rest) := by
  rw [arcLengthsFrom, Vec2.ofComplex_sub, Vec2.norm_ofComplex, real_add]

/-- What leads no farther along each segment leads no farther along all of them. -/
theorem noFarther_segmentsFrom {f : ℝ → ℂ} {vertices : List (Vec2 Exact)}
    (finite : ∀ v ∈ vertices, v.isFinite = true) {start stop : ℝ}
    (each : ∀ a b first, .ofEnds a b first ∈ segmentsFrom (real start) vertices →
      NoFarther f first (first + ‖b - a‖))
    (last : (arcLengthsFrom (real start) vertices).getLast? = some (real stop)) :
    NoFarther f start stop := by
  induction vertices generalizing start with
  | nil => cases last
  | cons p rest ih =>
    cases rest with
    | nil =>
      obtain rfl : start = stop := Exact.real.inj (Option.some.inj last)
      intro u v low order high
      obtain rfl : u = v := le_antisymm order (high.trans low)
      rw [sub_self, sub_self, norm_zero]
    | cons q rest =>
      obtain ⟨a, rfl⟩ := Vec2.exists_ofComplex (finite p (by simp))
      obtain ⟨b, rfl⟩ := Vec2.exists_ofComplex (finite q (by simp))
      rw [segmentsFrom_ofComplex] at each
      rw [arcLengthsFrom_ofComplex] at last
      have tail : (arcLengthsFrom (real (start + ‖b - a‖)) (.ofComplex b :: rest)).getLast? =
          some (real stop) := by
        rw [arcLengthsFrom_cons] at last ⊢
        rwa [← List.cons_append, List.getLast?_concat, ← List.getLast?_concat] at last
      refine (each a b start List.mem_cons_self).trans (ih ?_ ?_ tail)
      · exact fun v hv => finite v (List.mem_cons_of_mem _ hv)
      · exact fun a' b' first hs => each a' b' first (List.mem_cons_of_mem _ hs)

/-- A line that is parametrised by arc length. -/
structure ByArcLength (line : Polyline Exact) : Prop where
  /-- Neighbouring vertices lie apart. -/
  spaced : line.Spaced
  count : line.arcLengths.length = line.vertices.length
  start : line.arcLengths.head? = some 0.0
  stop : line.arcLengths.getLast? = some line.length
  /-- Arc lengths grow by the distance of neighbouring vertices. -/
  grows (i : ℕ) (p q : Vec2 Exact) : line.vertices[i]? = some p → line.vertices[i + 1]? = some q →
    ∃ c d, line.arcLengths[i]? = some c ∧ line.arcLengths[i + 1]? = some d ∧
      d = c + (q - p).norm ∧ c < d
  /-- Vertices lie at their arc lengths. -/
  vertex (i : ℕ) (p : Vec2 Exact) (c : Exact) : line.vertices[i]? = some p →
    line.arcLengths[i]? = some c → line.positionAt c = p
  before (x : Exact) : x ≤ 0.0 → line.vertices.head? = some (line.positionAt x)
  behind (x : Exact) : line.length ≤ x → line.vertices.getLast? = some (line.positionAt x)
  /-- The way along the line is no shorter than the straight one. -/
  distance (x y : ℝ) :
    (line.positionAt (real x) - line.positionAt (real y)).norm ≤ real |x - y|
  direction (x : Exact) : (line.directionAt x).norm = 1.0
  /-- Every offset selects a segment by its number, and that has a length. -/
  selected (x : Exact) : ∃ s, line.segments[line.segmentIndex x]? = some s ∧
    line.segmentAt? x = some s ∧ 1e-9 < s.along.norm ∧ s.stop - s.start = s.along.norm

variable {line : Polyline Exact}

/-- Segments of spaced lines have a length. -/
theorem Spaced.apart_of_mem (spaced : line.Spaced) {s : Segment Exact} (hs : s ∈ line.segments) :
    1e-9 < s.along.norm := by
  obtain ⟨i, hi, rfl⟩ := List.mem_iff_getElem.1 hs
  obtain ⟨first, second, -⟩ := getElem?_segmentsFrom (List.getElem?_eq_getElem hi)
  obtain ⟨hi, first⟩ := List.getElem?_eq_some_iff.1 first
  obtain ⟨hi', second⟩ := List.getElem?_eq_some_iff.1 second
  have apart := List.isChain_iff_getElem.1 spaced i hi'
  rwa [first, second] at apart

/-- Places at the same offset of the line are the same. -/
theorem positionAt_congr {x y : Exact} (same : line.clampOffset x = line.clampOffset y) :
    line.positionAt x = line.positionAt y := by
  rw [positionAt, positionAt, same]

namespace Planar
variable (planar : line.Planar)
include planar

theorem length_pos_of_mem {a b : ℂ} {start : ℝ} (hs : .ofEnds a b start ∈ line.segments) :
    0 < ‖b - a‖ := by
  have apart := planar.spaced.apart_of_mem hs
  rw [Segment.along_ofEnds, Vec2.norm_ofComplex, ofScientific_eq, real_lt] at apart
  exact lt_trans (by norm_num) apart

/-- Vertices lie at their arc lengths. -/
theorem positionAt_arcLength (vertices : 2 ≤ line.vertices.length) {i : ℕ} {p : Vec2 Exact}
    {c : Exact} (hp : line.vertices[i]? = some p) (hc : line.arcLengths[i]? = some c) :
    line.positionAt c = p := by
  have count := line.length_segments
  obtain ⟨hi, -⟩ := List.getElem?_eq_some_iff.1 hp
  -- A vertex is the start of a segment, or the end of the last one.
  by_cases more : i < line.segments.length
  · have at_i := List.getElem?_eq_getElem more
    obtain ⟨a, b, start, apart, ends⟩ := planar.exists_ends (List.getElem_mem more)
    rw [ends] at at_i
    obtain ⟨first, -, begins, -⟩ := getElem?_segmentsFrom at_i
    cases hp.symm.trans first
    cases hc.symm.trans begins
    have place := planar.positionAt_of_mem (List.mem_of_getElem? at_i) apart le_rfl zero_le_one
    rwa [zero_mul, add_zero, zero_smul, add_zero] at place
  · obtain ⟨j, rfl⟩ : ∃ j, i = j + 1 := ⟨i - 1, by omega⟩
    have last : j < line.segments.length := by omega
    have at_j := List.getElem?_eq_getElem last
    obtain ⟨a, b, start, apart, ends⟩ := planar.exists_ends (List.getElem_mem last)
    rw [ends] at at_j
    obtain ⟨-, second, -, stops⟩ := getElem?_segmentsFrom at_j
    cases hp.symm.trans second
    cases hc.symm.trans stops
    have place := planar.positionAt_of_mem (List.mem_of_getElem? at_j) apart zero_le_one le_rfl
    rwa [one_mul, one_smul, add_sub_cancel] at place

/-- Between the ends of the line the place moves no farther than the offset. -/
theorem noFarther_positionAt {f : ℝ → ℂ} (hf : ∀ x, line.positionAt (real x) = .ofComplex (f x))
    (nonempty : line.vertices ≠ []) {length : ℝ} (hlength : line.length = real length) :
    NoFarther f 0 length := by
  have last := getLast?_arcLengths nonempty
  rw [arcLengths, zero_eq, hlength] at last
  refine noFarther_segmentsFrom planar.finite ?_ last
  intro a b first hs
  rw [← zero_eq] at hs
  have positive := planar.length_pos_of_mem hs
  have apart : a ≠ b := by
    rintro rfl
    simp at positive
  have place {w : ℝ} (low : first ≤ w) (high : w ≤ first + ‖b - a‖) :
      f w = a + ((w - first) / ‖b - a‖) • (b - a) := by
    have shared := planar.positionAt_of_mem hs apart
      (div_nonneg (sub_nonneg.2 low) positive.le) ((div_le_one positive).2 (by linarith))
    rw [div_mul_cancel₀ _ positive.ne', add_sub_cancel, hf] at shared
    exact Vec2.ofComplex_injective shared
  intro u v low order high
  rw [place low (order.trans high), place (low.trans order) high, add_sub_add_left_eq_sub,
    ← sub_smul, ← sub_div, sub_sub_sub_cancel_right, norm_smul, norm_div, norm_norm,
    div_mul_cancel₀ _ positive.ne', Real.norm_of_nonneg (sub_nonneg.2 order)]

/-- The way along the line is no shorter than the straight one. -/
theorem distance_positionAt_le (nonempty : line.vertices ≠ []) (x y : ℝ) :
    (line.positionAt (real x) - line.positionAt (real y)).norm ≤ real |x - y| := by
  choose f hf using planar.exists_positionAt
  obtain ⟨length, hlength⟩ := planar.exists_length
  have nonneg := planar.spaced.length_nonneg
  rw [hlength, zero_eq, real_le] at nonneg
  have within (x : ℝ) : f x = f (min (max x 0) length) := by
    have clamped : line.clampOffset (real x) =
        line.clampOffset (real (min (max x 0) length)) := by
      rw [clampOffset, clampOffset, hlength, zero_eq, clamp_real, clamp_real,
        max_eq_left (le_min (le_max_right x 0) nonneg), min_eq_left (min_le_right _ _)]
    exact Vec2.ofComplex_injective ((hf x).symm.trans ((positionAt_congr clamped).trans (hf _)))
  have ordered {x y : ℝ} (order : x ≤ y) : ‖f y - f x‖ ≤ y - x := by
    have inside := planar.noFarther_positionAt hf nonempty hlength (min (max x 0) length)
      (min (max y 0) length) (le_min (le_max_right x 0) nonneg)
      (min_le_min_right length (max_le_max_right 0 order)) (min_le_right _ _)
    rw [within x, within y]
    refine inside.trans ?_
    have moved := (abs_min_sub_min_le_max (max y 0) length (max x 0) length).trans_eq
      (by rw [sub_self, abs_zero, max_eq_left (abs_nonneg _)])
    have raised := abs_max_sub_max_le_abs y x 0
    rw [abs_of_nonneg (sub_nonneg.2 order)] at raised
    exact (le_abs_self _).trans (moved.trans raised)
  rw [hf, hf, Vec2.ofComplex_sub, Vec2.norm_ofComplex, real_le]
  rcases le_total x y with order | order
  · rw [norm_sub_rev, abs_sub_comm, abs_of_nonneg (sub_nonneg.2 order)]
    exact ordered order
  · rw [abs_of_nonneg (sub_nonneg.2 order)]
    exact ordered order

/-- Directions are of length one. -/
theorem norm_directionAt (vertices : 2 ≤ line.vertices.length) (x : Exact) :
    (line.directionAt x).norm = 1.0 := by
  obtain ⟨s, found⟩ := exists_segmentAt? (segments_ne_nil vertices) (line.clampOffset x)
  obtain ⟨a, b, start, apart, rfl⟩ := planar.exists_ends (mem_of_segmentAt? found)
  rw [directionAt, found]
  dsimp only
  rw [Segment.direction_ofEnds apart, Vec2.norm_ofComplex, Segment.norm_directionOf apart, one_eq]

/-- In front of its start a line stays at its first vertex. -/
theorem head?_vertices (vertices : 2 ≤ line.vertices.length) {x : Exact} (before : x ≤ 0.0) :
    line.vertices.head? = some (line.positionAt x) := by
  have nonempty : line.vertices ≠ [] := List.ne_nil_of_length_pos (by omega)
  have nonneg := planar.spaced.length_nonneg
  have start := head?_arcLengths nonempty
  have zero : (0.0 : Exact) ≤ 0.0 := by simp
  have clamped : line.clampOffset x = line.clampOffset 0.0 :=
    (clamp_of_le before nonneg).trans (clamp_of_le zero nonneg).symm
  obtain ⟨p, first⟩ := Option.isSome_iff_exists.1 (List.isSome_head?.2 nonempty)
  rw [List.head?_eq_getElem?] at start
  rw [first, positionAt_congr clamped]
  rw [List.head?_eq_getElem?] at first
  rw [planar.positionAt_arcLength vertices first start]

/-- Beyond its length a line stays at its last vertex. -/
theorem getLast?_vertices (vertices : 2 ≤ line.vertices.length) {x : Exact}
    (behind : line.length ≤ x) : line.vertices.getLast? = some (line.positionAt x) := by
  have nonempty : line.vertices ≠ [] := List.ne_nil_of_length_pos (by omega)
  have nonneg := planar.spaced.length_nonneg
  have stop := getLast?_arcLengths nonempty
  have clamped : line.clampOffset x = line.clampOffset line.length :=
    (clamp_of_ge behind nonneg).trans (clamp_of_ge (le_self nonneg) nonneg).symm
  obtain ⟨p, last⟩ := Option.isSome_iff_exists.1 (List.getLast?_isSome.2 nonempty)
  rw [List.getLast?_eq_getElem?, arcLengths, length_arcLengthsFrom, ← arcLengths] at stop
  rw [last, positionAt_congr clamped]
  rw [List.getLast?_eq_getElem?] at last
  rw [planar.positionAt_arcLength vertices last stop]

/-- A real line of two vertices or more is parametrised by arc length. -/
theorem byArcLength (vertices : 2 ≤ line.vertices.length) : line.ByArcLength where
  spaced := planar.spaced
  count := length_arcLengthsFrom _ _
  start := head?_arcLengths (List.ne_nil_of_length_pos (by omega))
  stop := getLast?_arcLengths (List.ne_nil_of_length_pos (by omega))
  grows := by
    intro i p q hp hq
    obtain ⟨hi, -⟩ := List.getElem?_eq_some_iff.1 hq
    have listed : i < line.segments.length := by
      rw [length_segments]
      omega
    have at_i := List.getElem?_eq_getElem listed
    obtain ⟨a, b, start, apart, ends⟩ := planar.exists_ends (List.getElem_mem listed)
    rw [ends] at at_i
    obtain ⟨first, second, begins, stops⟩ := getElem?_segmentsFrom at_i
    cases hp.symm.trans first
    cases hq.symm.trans second
    refine ⟨_, _, begins, stops, ?_, ?_⟩
    · rw [Segment.ofEnds, Vec2.ofComplex_sub, Vec2.norm_ofComplex, real_add]
    · change real start < real (start + ‖b - a‖)
      rw [real_lt]
      linarith [planar.length_pos_of_mem (List.mem_of_getElem? at_i)]
  vertex _ _ _ := planar.positionAt_arcLength vertices
  before _ := planar.head?_vertices vertices
  behind _ := planar.getLast?_vertices vertices
  distance := planar.distance_positionAt_le (List.ne_nil_of_length_pos (by omega))
  direction := planar.norm_directionAt vertices
  selected := by
    intro x
    obtain ⟨s, found⟩ := exists_segmentAt? (segments_ne_nil vertices) x
    have hs := mem_of_segmentAt? found
    refine ⟨s, (line.segmentAt?_eq_getElem? x).symm.trans found, found,
      planar.spaced.apart_of_mem hs, ?_⟩
    obtain ⟨a, b, start, -, rfl⟩ := planar.exists_ends hs
    rw [Segment.along_ofEnds, Vec2.norm_ofComplex, Segment.ofEnds, real_sub, add_sub_cancel_left]

end Planar

/-- The line through real points is parametrised by arc length if it keeps at least two of
them. -/
theorem byArcLength_ofPoints {points : List (Vec2 Exact)}
    (finite : ∀ p ∈ points, p.isFinite = true)
    (kept : 2 ≤ (ofPoints points).vertices.length) :
    (ofPoints points).vertices.Sublist points ∧ (ofPoints points).ByArcLength :=
  ⟨sublist_ofPoints points, (Planar.ofPoints finite).byArcLength kept⟩

/-- A bent line, of which one point is given twice. -/
theorem byArcLength_bend :
    let points : List (Vec2 Exact) := [.point 0 0, .point 0 0, .point 3 4, .point 6 0]
    (∀ p ∈ points, p.isFinite = true) ∧ (ofPoints points).vertices.length = 3 ∧
      (ofPoints points).ByArcLength ∧ (ofPoints points).positionAt (real 5) = .point 3 4 := by
  intro points
  have finite : ∀ p ∈ points, p.isFinite = true := by simp [points]
  have vertices : (ofPoints points).vertices = [.point 0 0, .point 3 4, .point 6 0] := by
    norm_num [points, ofPoints, apartFrom, ofScientific_eq]
  have arcs : (ofPoints points).arcLengths = [real 0, real 5, real 10] := by
    norm_num [arcLengths, vertices, arcLengthsFrom]
  have kept : (ofPoints points).vertices.length = 3 := by rw [vertices]; rfl
  obtain ⟨-, byArc⟩ := byArcLength_ofPoints finite (by omega)
  exact ⟨finite, kept, byArc, byArc.vertex 1 _ _ (by rw [vertices]; rfl) (by rw [arcs]; rfl)⟩

end Exact
end Polyline
end Roadway
