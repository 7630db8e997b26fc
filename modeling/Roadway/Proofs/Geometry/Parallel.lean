import Roadway.Proofs.Geometry.ArcLength

/-!
# Parallel lines

A shifted vertex lies on the parallels of the segments that meet at it. At a corner these
cross on the bisector of the two normals, so far out that the displacement is one along either
normal. Where a corner turns so sharply that the crossing would be more than four times as far
away, or the line turns back, the vertex is moved four times the distance of the shift at most.

## Main definitions

* `Segment.leftward` — the signed distance of a point from the line through a segment.
* `Polyline.MeetsAt`, `Polyline.SharpAt` — the segments at a vertex, and its sharp corners.
* `Polyline.sharp_iff` — which corners are sharp.
* `Polyline.Parallel` — shifted vertices that are parallel to a line.
* `Polyline.Planar.parallel_shift` — shifting moves the vertices of a line in parallel.
-/
namespace Roadway
open Exact

namespace Segment

/-- The distance of a point from the line through a segment, positive on the left. -/
def leftward {α : Type} [Scalar α] (s : Segment α) (p : Vec2 α) : α :=
  s.along.cross (p - s.a) / s.along.norm

/-- A displacement of an end leads to the left as far as it leads along the left normal. -/
theorem leftward_ofEnds {a b p w : ℂ} {start : ℝ} (apart : a ≠ b) (d : ℝ) (hp : p = a ∨ p = b) :
    (ofEnds a b start).leftward (.ofComplex (p + d • w)) =
      real (d * inner ℝ (directionOf a b * Complex.I) w) := by
  have length : ‖b - a‖ ≠ 0 := norm_ne_zero_iff.2 (sub_ne_zero.2 apart.symm)
  have begins : (ofEnds a b start).a = .ofComplex a := rfl
  have onLine : inner ℝ ((b - a) * Complex.I) (p - a) = 0 := by
    rcases hp with rfl | rfl
    · rw [sub_self, inner_zero_right]
    · exact inner_turned _
  rw [leftward, along_ofEnds, begins, Vec2.ofComplex_sub, Vec2.cross_ofComplex,
    Vec2.norm_ofComplex, real_div _ length, add_sub_right_comm, inner_add_right, onLine, zero_add,
    real_inner_smul_right, directionOf, smul_mul_assoc, real_inner_smul_left]
  field_simp

end Segment

namespace Polyline

section Scalar
variable {α : Type} [Scalar α]

/-- The segments that meet at the vertex of a number. -/
inductive MeetsAt (line : Polyline α) : ℕ → Segment α → Prop
  | begins {i : ℕ} {s : Segment α} : line.segments[i]? = some s → MeetsAt line i s
  | ends {i : ℕ} {s : Segment α} : line.segments[i]? = some s → MeetsAt line (i + 1) s

/-- Normals that cancel, or whose miter is capped. -/
def Sharp (a b : Vec2 α) : Prop := (a + b).norm < 1e-9 ∨ (a + b).unit.dot b < 0.25

/-- An interior vertex at a sharp corner. -/
inductive SharpAt (line : Polyline α) : ℕ → Prop
  | of {i : ℕ} {m n : Vec2 α} (front : line.normals[i]? = some m)
      (back : line.normals[i + 1]? = some n) (sharp : Sharp m n) : SharpAt line (i + 1)

/-- The displacement of a vertex: a normal at the ends of the line, else a miter. -/
inductive Displaced (normals : List (Vec2 α)) : ℕ → Vec2 α → Prop
  | first {n : Vec2 α} : normals[0]? = some n → Displaced normals 0 n
  | last {i : ℕ} {n : Vec2 α} : normals[i]? = some n → normals[i + 1]? = none →
      Displaced normals (i + 1) n
  | corner {i : ℕ} {m n : Vec2 α} : normals[i]? = some m → normals[i + 1]? = some n →
      Displaced normals (i + 1) (miter m n)

theorem displaced_mitersAfter {n m : Vec2 α} {normals : List (Vec2 α)} {i : ℕ}
    (at_i : (mitersAfter n normals)[i]? = some m) : Displaced (n :: normals) (i + 1) m := by
  induction normals generalizing n i with
  | nil =>
    cases i with
    | zero =>
      cases at_i
      exact .last rfl rfl
    | succ i => cases at_i
  | cons n' rest ih =>
    cases i with
    | zero =>
      cases at_i
      exact .corner rfl rfl
    | succ i =>
      cases ih at_i with
      | last front behind => exact .last front behind
      | corner front back => exact .corner front back

theorem displaced_miters {m : Vec2 α} {normals : List (Vec2 α)} {i : ℕ}
    (at_i : (miters normals)[i]? = some m) : Displaced normals i m := by
  cases normals with
  | nil => cases at_i
  | cons n rest =>
    cases i with
    | zero =>
      cases at_i
      exact .first rfl
    | succ i => exact displaced_mitersAfter at_i

variable {line : Polyline α} {s : Segment α} {i : ℕ}

theorem MeetsAt.mem (meets : line.MeetsAt i s) : s ∈ line.segments := by
  cases meets with
  | begins at_i => exact List.mem_of_getElem? at_i
  | ends at_i => exact List.mem_of_getElem? at_i

/-- Segments meet at the vertex. -/
theorem MeetsAt.vertex (meets : line.MeetsAt i s) {p : Vec2 α} (hp : line.vertices[i]? = some p) :
    p = s.a ∨ p = s.b := by
  cases meets with
  | begins at_i =>
    obtain ⟨first, -⟩ := getElem?_segmentsFrom at_i
    exact .inl (Option.some.inj (hp.symm.trans first))
  | ends at_i =>
    obtain ⟨-, second, -⟩ := getElem?_segmentsFrom at_i
    exact .inr (Option.some.inj (hp.symm.trans second))

theorem getElem?_normals (at_i : line.segments[i]? = some s) :
    line.normals[i]? = some s.direction.leftNormal := by
  rw [normals, List.getElem?_map, at_i]
  rfl

/-- Every vertex is displaced. -/
theorem length_shiftedVertices (vertices : 2 ≤ line.vertices.length) (distance : α) :
    (line.shiftedVertices distance).length = line.vertices.length := by
  have count := line.length_normals
  rw [shiftedVertices, List.length_zipWith]
  cases hnormals : line.normals with
  | nil =>
    rw [hnormals, List.length_nil] at count
    omega
  | cons n rest =>
    rw [hnormals, List.length_cons] at count
    rw [miters, List.length_cons, length_mitersAfter]
    omega

/-- Vertices that lie apart are all kept. -/
theorem ofPoints_vertices (spaced : line.Spaced) : ofPoints line.vertices = line := by
  have kept {last : Vec2 α} {rest : List (Vec2 α)} (apart : Apart (last :: rest)) :
      apartFrom last rest = rest := by
    induction rest generalizing last with
    | nil => rfl
    | cons p rest ih =>
      obtain ⟨gap, apart⟩ := List.isChain_cons_cons.1 apart
      rw [apartFrom, if_pos gap, ih apart]
  obtain ⟨vertices⟩ := line
  cases vertices with
  | nil => rfl
  | cons p rest => exact congrArg (fun rest => Polyline.mk (p :: rest)) (kept spaced)

end Scalar

section Unit
variable {a b : ℂ} (ha : ‖a‖ = 1) (hb : ‖b‖ = 1)
include ha hb

/-- Half of a sum of unit vectors reaches as far along either of them. -/
theorem inner_add_unit : inner ℝ (a + b) a = ‖a + b‖ ^ 2 / 2 ∧
    inner ℝ (a + b) b = ‖a + b‖ ^ 2 / 2 := by
  have square := norm_add_sq_real a b
  rw [ha, hb] at square
  constructor
  · rw [inner_add_left, real_inner_self_eq_norm_sq, ha, real_inner_comm, square]
    ring
  · rw [inner_add_left, real_inner_self_eq_norm_sq, hb, square]
    ring

/-- The bisector reaches half as far along a normal as the normals reach together. -/
theorem inner_bisector (nonzero : a + b ≠ 0) :
    inner ℝ (‖a + b‖⁻¹ • (a + b)) b = ‖a + b‖ / 2 := by
  have length := norm_ne_zero_iff.2 nonzero
  rw [real_inner_smul_left, (inner_add_unit ha hb).2]
  field_simp

/-- A corner is sharp if its normals together reach less than half as far as one of them. -/
theorem sharp_iff : Sharp (.ofComplex a) (.ofComplex b) ↔ ‖a + b‖ < 1 / 2 := by
  have quarter : (0.25 : Exact) = real (1 / 4) := by
    rw [ofScientific_eq]
    norm_num
  have tiny : (1e-9 : Exact) = real 1e-9 := ofScientific_eq _ _ _
  rw [Sharp, Vec2.ofComplex_add, Vec2.norm_ofComplex, tiny, real_lt, quarter]
  by_cases cancels : a + b = 0
  · rw [cancels, norm_zero]
    norm_num
  · rw [Vec2.unit_ofComplex cancels, Vec2.dot_ofComplex, inner_bisector ha hb cancels, real_lt]
    constructor
    · rintro (near | capped)
      · exact near.trans (by norm_num)
      · linarith
    · intro short
      exact .inr (by linarith)

/-- A corner that is not sharp is displaced by one along both normals. -/
theorem miter_of_blunt (blunt : ¬ Sharp (.ofComplex a) (.ofComplex b)) :
    ∃ w, miter (.ofComplex a) (.ofComplex b) = .ofComplex w ∧
      inner ℝ a w = 1 ∧ inner ℝ b w = 1 := by
  rw [sharp_iff ha hb, not_lt] at blunt
  have length : 0 < ‖a + b‖ := lt_of_lt_of_le (by norm_num) blunt
  have apart : ¬ ‖a + b‖ < 1e-9 := not_lt.2 (le_trans (by norm_num) blunt)
  have uncapped : max (‖a + b‖ / 2) (1 / 4) = ‖a + b‖ / 2 := max_eq_left (by linarith)
  obtain ⟨first, second⟩ := inner_add_unit ha hb
  refine ⟨_, miter_ofComplex apart, ?_, ?_⟩
  · rw [inner_bisector ha hb (norm_pos_iff.1 length), uncapped, real_inner_smul_right,
      real_inner_smul_right, real_inner_comm, first]
    field_simp
  · rw [inner_bisector ha hb (norm_pos_iff.1 length), uncapped, real_inner_smul_right,
      real_inner_smul_right, real_inner_comm, second]
    field_simp

end Unit

/-- Vertices that are parallel to those of a line, at a distance to the left. -/
structure Parallel (line : Polyline Exact) (d : ℝ) (shifted : List (Vec2 Exact)) : Prop where
  count : shifted.length = line.vertices.length
  /-- The vertex lies on the parallels of the segments that met at it. -/
  blunt (i : ℕ) (v : Vec2 Exact) : shifted[i]? = some v → ¬ line.SharpAt i →
    ∀ s, line.MeetsAt i s → s.leftward v = real d
  sharp (i : ℕ) (p v : Vec2 Exact) : line.vertices[i]? = some p → shifted[i]? = some v →
    line.SharpAt i → (v - p).norm ≤ real (4 * |d|)

namespace Planar
variable {line : Polyline Exact} (planar : line.Planar)
include planar

theorem exists_normal {s : Segment Exact} (hs : s ∈ line.segments) :
    ∃ n : ℂ, ‖n‖ = 1 ∧ s.direction.leftNormal = .ofComplex n := by
  have unit := planar.unit_normals s.direction.leftNormal (List.mem_map.2 ⟨s, hs, rfl⟩)
  generalize s.direction.leftNormal = normal at unit ⊢
  obtain @⟨n, length⟩ := unit
  exact ⟨n, length, rfl⟩

/-- Away from sharp corners a vertex is displaced by one along the normals of the segments that
meet there. -/
theorem inner_of_displaced {i : ℕ} {m : Vec2 Exact} {s : Segment Exact}
    (displaced : Displaced line.normals i m) (blunt : ¬ line.SharpAt i)
    (meets : line.MeetsAt i s) :
    ∃ n w : ℂ, s.direction.leftNormal = .ofComplex n ∧ m = .ofComplex w ∧ inner ℝ n w = 1 := by
  have own : ∃ n w : ℂ, s.direction.leftNormal = .ofComplex n ∧
      s.direction.leftNormal = .ofComplex w ∧ inner ℝ n w = 1 := by
    obtain ⟨n, length, normal⟩ := planar.exists_normal meets.mem
    exact ⟨n, n, normal, normal, by rw [real_inner_self_eq_norm_sq, length, one_pow]⟩
  cases displaced with
  | first front =>
    cases meets with
    | begins at_i =>
      obtain rfl := Option.some.inj ((getElem?_normals at_i).symm.trans front)
      exact own
  | last front behind =>
    cases meets with
    | begins at_i => cases (getElem?_normals at_i).symm.trans behind
    | ends at_i =>
      obtain rfl := Option.some.inj ((getElem?_normals at_i).symm.trans front)
      exact own
  | corner front back =>
    have notSharp : ¬ Sharp _ _ := fun sharp => blunt (.of front back sharp)
    obtain @⟨a, ha⟩ := planar.unit_normals _ (List.mem_of_getElem? front)
    obtain @⟨b, hb⟩ := planar.unit_normals _ (List.mem_of_getElem? back)
    obtain ⟨w, miter, along_a, along_b⟩ := miter_of_blunt ha hb notSharp
    cases meets with
    | begins at_i => exact ⟨b, w, Option.some.inj ((getElem?_normals at_i).symm.trans back), miter,
        along_b⟩
    | ends at_i => exact ⟨a, w, Option.some.inj ((getElem?_normals at_i).symm.trans front), miter,
        along_a⟩

/-- A shifted vertex is displaced by four times the distance at most. -/
theorem exists_displaced {d : ℝ} {i : ℕ} {v : Vec2 Exact}
    (at_i : (line.shiftedVertices (real d))[i]? = some v) : ∃ z w : ℂ,
      line.vertices[i]? = some (.ofComplex z) ∧ Displaced line.normals i (.ofComplex w) ∧
      ‖w‖ ≤ 4 ∧ v = .ofComplex (z + d • w) := by
  obtain ⟨p, m, hp, hm, rfl⟩ := List.getElem?_zipWith_eq_some.1 at_i
  obtain @⟨w, short⟩ := bounded_miters planar.unit_normals m (List.mem_of_getElem? hm)
  obtain ⟨z, rfl⟩ := Vec2.exists_ofComplex (planar.finite p (List.mem_of_getElem? hp))
  refine ⟨z, w, hp, displaced_miters hm, short, ?_⟩
  rw [Vec2.scale_ofComplex, Vec2.ofComplex_add]

/-- A shifted line runs through the shifted vertices. -/
theorem shift_eq (vertices : 2 ≤ line.vertices.length) (d : ℝ) :
    line.shift (real d) = Polyline.ofPoints (line.shiftedVertices (real d)) := by
  have long : line.segments.isEmpty = false :=
    List.isEmpty_eq_false_iff.2 (segments_ne_nil vertices)
  rw [Polyline.shift, long, Bool.or_false, zero_eq, real_beq]
  split
  · next still =>
    obtain rfl : d = 0 := of_decide_eq_true still
    have unmoved : line.shiftedVertices (real 0) = line.vertices := by
      refine List.ext_getElem (length_shiftedVertices vertices _) fun i hi _ => ?_
      obtain ⟨z, w, hp, -, -, moved⟩ := planar.exists_displaced (List.getElem?_eq_getElem hi)
      rw [moved, zero_smul, add_zero]
      exact (List.getElem?_eq_some_iff.1 hp).2.symm
    rw [unmoved, ofPoints_vertices planar.spaced]
  · rfl

/-- Shifting a line moves its vertices in parallel, before duplicates are left out. -/
theorem parallel_shift (vertices : 2 ≤ line.vertices.length) (d : ℝ) :
    line.shift (real d) = Polyline.ofPoints (line.shiftedVertices (real d)) ∧
      line.Parallel d (line.shiftedVertices (real d)) := by
  refine ⟨planar.shift_eq vertices d, length_shiftedVertices vertices _, ?_, ?_⟩
  · intro i v at_i blunt s meets
    obtain ⟨z, w, hp, displaced, -, rfl⟩ := planar.exists_displaced at_i
    obtain ⟨n, w', normal, same, one⟩ := planar.inner_of_displaced displaced blunt meets
    obtain rfl := Vec2.ofComplex_injective same
    have ends := meets.vertex hp
    obtain ⟨a, b, start, apart, rfl⟩ := planar.exists_ends meets.mem
    rw [Segment.direction_ofEnds apart, Vec2.leftNormal_ofComplex] at normal
    obtain rfl := Vec2.ofComplex_injective normal
    have vertex : z = a ∨ z = b :=
      ends.imp (fun h => Vec2.ofComplex_injective h) fun h => Vec2.ofComplex_injective h
    rw [Segment.leftward_ofEnds apart d vertex, one, mul_one]
  · intro i p v hp at_i _
    obtain ⟨z, w, hz, -, short, rfl⟩ := planar.exists_displaced at_i
    obtain rfl := Option.some.inj (hp.symm.trans hz)
    rw [Vec2.ofComplex_sub, add_sub_cancel_left, Vec2.norm_ofComplex, real_le, norm_smul,
      Real.norm_eq_abs, mul_comm]
    exact mul_le_mul_of_nonneg_right short (abs_nonneg d)

end Planar

/-- A bent line that turns back at its third vertex. -/
def hairpin : Polyline Exact := ⟨[.point 0 0, .point 3.0 4.0, .point 6.0 0, .point 3.0 4.0]⟩

theorem planar_hairpin : hairpin.Planar := by
  refine ⟨?_, by simp [hairpin]⟩
  norm_num [Spaced, Apart, hairpin, ofScientific_eq]

theorem normals_hairpin : hairpin.normals =
    [.point (-4 / 5) (3 / 5), .point (4 / 5) (3 / 5), .point (-4 / 5) (-3 / 5)] := by
  norm_num [hairpin, normals, segments, segmentsFrom, Segment.direction, Segment.along, Vec2.unit,
    Vec2.divide, Vec2.leftNormal, real_div]
  exact ⟨rfl, rfl, rfl⟩

theorem not_sharpAt_hairpin : ¬ hairpin.SharpAt 1 := by
  rintro ⟨front, back, sharp⟩
  rw [normals_hairpin] at front back
  cases front
  cases back
  norm_num [Sharp, Vec2.unit, Vec2.divide, Vec2.dot, real_div, ofScientific_eq] at sharp

theorem sharpAt_hairpin : hairpin.SharpAt 2 := by
  refine .of (by rw [normals_hairpin]; rfl) (by rw [normals_hairpin]; rfl) (.inl ?_)
  norm_num [ofScientific_eq]

/-- Two metres to the left of a line with a bend and a sharp corner. -/
theorem parallel_hairpin : hairpin.Planar ∧ 2 ≤ hairpin.vertices.length ∧
    ¬ hairpin.SharpAt 1 ∧ hairpin.SharpAt 2 ∧
    hairpin.shift (real 2) = ofPoints (hairpin.shiftedVertices (real 2)) ∧
    hairpin.Parallel 2 (hairpin.shiftedVertices (real 2)) :=
  have vertices : 2 ≤ hairpin.vertices.length := by decide
  ⟨planar_hairpin, vertices, not_sharpAt_hairpin, sharpAt_hairpin,
    planar_hairpin.parallel_shift vertices 2⟩

end Polyline
end Roadway
