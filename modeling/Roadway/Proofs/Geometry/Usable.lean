import Roadway.Proofs.Geometry.Shift

/-!
# Usable lines

A line is used with two vertices and a length. Points make such a line if one of them lies
apart from the first; a length of their chain is not enough, since points too close to the
last one kept are left out. A shift can bring the vertices of a line together at its bends.
It does not as long as one of them is far enough from the first one, compared with the
distance of the shift.

## Main definitions

* `Polyline.Usable` — lines with two vertices and a length.
* `Polyline.Spread` — points of which one is away from the first.
* `Polyline.usable_ofPoints_iff`, `Polyline.Spaced.usable_shift_iff` — which lines are usable.
* `Polyline.Planar.usable_shift` — lines that are long enough for a shift.
-/
namespace Roadway
open Exact

namespace Polyline

section Scalar
variable {α : Type} [Scalar α]

/-- A line with two vertices and a length. -/
structure Usable (line : Polyline α) : Prop where
  vertices : 2 ≤ line.vertices.length
  length : (0.0 : α) < line.length

/-- Points of which one lies farther than a gap from the first one. -/
inductive Spread (gap : α) : List (Vec2 α) → Prop
  | of {first p : Vec2 α} {rest : List (Vec2 α)} (listed : p ∈ rest)
      (apart : gap < (p - first).norm) : Spread gap (first :: rest)

theorem Spread.two_le_length {gap : α} {points : List (Vec2 α)}
    (spread : Spread gap points) : 2 ≤ points.length := by
  cases spread with
  | of listed => exact Nat.succ_le_succ (List.length_pos_of_mem listed)

theorem apartFrom_eq_nil_iff {last : Vec2 α} {points : List (Vec2 α)} :
    apartFrom last points = [] ↔ ∀ p ∈ points, ¬ 1e-9 < (p - last).norm := by
  induction points with
  | nil => simp [apartFrom]
  | cons p rest ih =>
    rw [apartFrom, List.forall_mem_cons, ← ih]
    split
    · next apart => simp [apart]
    · next close => simp [close]

/-- A point that is left out is close to a vertex. -/
theorem mem_apartFrom_or (last : Vec2 α) {p : Vec2 α} {points : List (Vec2 α)}
    (listed : p ∈ points) :
    p ∈ apartFrom last points ∨
      ∃ v ∈ last :: apartFrom last points, ¬ 1e-9 < (p - v).norm := by
  induction points generalizing last with
  | nil => cases listed
  | cons q rest ih =>
    rw [apartFrom]
    split
    · rcases List.mem_cons.1 listed with rfl | listed
      · exact .inl List.mem_cons_self
      · rcases ih q listed with kept | ⟨v, hv, close⟩
        · exact .inl (List.mem_cons_of_mem q kept)
        · exact .inr ⟨v, List.mem_cons_of_mem last hv, close⟩
    · next close =>
      rcases List.mem_cons.1 listed with rfl | listed
      · exact .inr ⟨last, List.mem_cons_self, close⟩
      · exact ih last listed

/-- A line gets a second vertex from a point that lies apart from the first. -/
theorem two_le_vertices_iff {points : List (Vec2 α)} :
    2 ≤ (ofPoints points).vertices.length ↔ Spread 1e-9 points := by
  cases points with
  | nil => exact ⟨fun h => absurd h (by simp [ofPoints]), nofun⟩
  | cons first rest =>
    have more : 2 ≤ (ofPoints (first :: rest)).vertices.length ↔ apartFrom first rest ≠ [] := by
      rw [ofPoints, List.length_cons, ← List.length_pos_iff]
      omega
    rw [more, ne_eq, apartFrom_eq_nil_iff]
    constructor
    · intro h
      simp only [not_forall, not_not] at h
      obtain ⟨p, listed, apart⟩ := h
      exact .of listed apart
    · rintro ⟨listed, apart⟩ close
      exact close _ listed apart

theorem length_segmentsFrom (start : α) (vertices : List (Vec2 α)) :
    (segmentsFrom start vertices).length = vertices.length - 1 := by
  induction vertices generalizing start with
  | nil => rfl
  | cons a rest ih =>
    cases rest with
    | nil => rfl
    | cons b rest => simp [segmentsFrom, ih]

theorem length_segments (line : Polyline α) : line.segments.length = line.vertices.length - 1 :=
  length_segmentsFrom 0.0 line.vertices

theorem segments_ne_nil {line : Polyline α} (vertices : 2 ≤ line.vertices.length) :
    line.segments ≠ [] := by
  rw [← List.length_pos_iff, length_segments]
  omega

theorem length_normals (line : Polyline α) : line.normals.length = line.vertices.length - 1 := by
  rw [normals, List.length_map, length_segments]

theorem length_mitersAfter (n : Vec2 α) (normals : List (Vec2 α)) :
    (mitersAfter n normals).length = normals.length + 1 := by
  induction normals generalizing n with
  | nil => rfl
  | cons n' rest ih => simp [mitersAfter, ih]

end Scalar

section Exact
variable {line : Polyline Exact}

theorem Spaced.length_pos (spaced : line.Spaced) (vertices : 2 ≤ line.vertices.length) :
    0.0 < line.length := by
  obtain ⟨vertices'⟩ := line
  match vertices', vertices with
  | a :: b :: rest, _ =>
    have gap := (List.isChain_cons_cons.1 spaced).1
    have positive : 0.0 < (b - a).norm := by
      refine Exact.lt_of_lt_of_le ?_ (Exact.le_of_lt gap)
      rw [zero_eq, ofScientific_eq, real_lt]
      norm_num
    have first := spaced.stop_le_length (s := ⟨a, b, 0.0, 0.0 + (b - a).norm⟩) List.mem_cons_self
    rw [Exact.zero_add] at first
    exact Exact.lt_of_lt_of_le positive first

theorem Spread.mono {gap less : Exact} {points : List (Vec2 Exact)} (h : less ≤ gap)
    (spread : Spread gap points) : Spread less points := by
  cases spread with
  | of listed apart => exact .of listed (Exact.lt_of_le_of_lt h apart)

/-- The length of a spaced line follows from its vertices. -/
theorem Spaced.usable_iff (spaced : line.Spaced) :
    line.Usable ↔ 2 ≤ line.vertices.length :=
  ⟨Usable.vertices, fun vertices => ⟨vertices, spaced.length_pos vertices⟩⟩

/-- Points make a usable line if one of them lies apart from the first. -/
theorem usable_ofPoints_iff {points : List (Vec2 Exact)} :
    (ofPoints points).Usable ↔ Spread 1e-9 points :=
  (spaced_ofPoints points).usable_iff.trans two_le_vertices_iff

/-- The vertices of a line are as far from each other as its points, less the gap between
neighbours. -/
theorem spread_ofPoints {points : List (Vec2 Exact)} (finite : ∀ p ∈ points, p.isFinite = true)
    {gap : ℝ} (nonneg : 0 ≤ gap) (spread : Spread (real (gap + 1e-9)) points) :
    Spread (real gap) (ofPoints points).vertices := by
  cases spread with
  | @of first p rest listed apart =>
    rw [ofPoints]
    rcases mem_apartFrom_or first listed with kept | ⟨v, hv, close⟩
    · refine .of kept (Exact.lt_of_lt_of_le (real_lt.2 ?_) (Exact.le_of_lt apart))
      norm_num
    · have hv' : v ∈ first :: rest :=
        (sublist_ofPoints (first :: rest)).subset hv
      obtain ⟨a, rfl⟩ := Vec2.exists_ofComplex (finite first List.mem_cons_self)
      obtain ⟨b, rfl⟩ := Vec2.exists_ofComplex (finite p (List.mem_cons_of_mem _ listed))
      obtain ⟨c, rfl⟩ := Vec2.exists_ofComplex (finite v hv')
      rw [ofScientific_eq] at close
      simp only [Vec2.ofComplex_sub, Vec2.norm_ofComplex, real_lt] at apart close
      have near : ‖b - c‖ ≤ 1e-9 := not_lt.1 close
      rcases List.mem_cons.1 hv with first | kept
      · rw [Vec2.ofComplex_injective first] at near
        linarith
      · refine .of kept ?_
        have triangle := norm_sub_le_norm_sub_add_norm_sub b c a
        simp only [Vec2.ofComplex_sub, Vec2.norm_ofComplex, real_lt]
        linarith

/-- A shifted line is usable if the line is, and the shift does not bring its vertices
together. -/
theorem Spaced.usable_shift_iff (spaced : line.Spaced) {distance : Exact} :
    (line.shift distance).Usable ↔
      line.Usable ∧ (distance = 0.0 ∨ Spread 1e-9 (line.shiftedVertices distance)) := by
  have still : (distance == 0.0) = true ↔ distance = 0.0 := by
    rw [zero_eq]
    cases distance with
    | real x => simp
    | infinite | notANumber => exact ⟨nofun, nofun⟩
  have short : line.segments.isEmpty = true ↔ ¬ line.Usable := by
    rw [spaced.usable_iff, List.isEmpty_iff, ← List.length_eq_zero_iff, length_segments]
    omega
  rw [Polyline.shift]
  split
  · next unmoved =>
    rw [Bool.or_eq_true, still, short] at unmoved
    tauto
  · next moved =>
    rw [Bool.or_eq_true, still, short, not_or, not_not] at moved
    rw [usable_ofPoints_iff]
    tauto

end Exact

/-- Lists of the same length are zipped to the end. -/
theorem exists_mem_zipWith {β γ δ : Type} (f : β → γ → δ) {xs : List β} {ys : List γ}
    (same : xs.length = ys.length) {x : β} (hx : x ∈ xs) :
    ∃ y ∈ ys, f x y ∈ List.zipWith f xs ys := by
  obtain ⟨i, hi, rfl⟩ := List.mem_iff_getElem.1 hx
  have hi' : i < ys.length := same ▸ hi
  refine ⟨ys[i], List.getElem_mem hi', List.mem_iff_getElem.2 ⟨i, ?_, List.getElem_zipWith⟩⟩
  rw [List.length_zipWith]
  exact lt_min hi hi'

namespace Planar
variable {line : Polyline Exact} (planar : line.Planar)
include planar

/-- Shifted vertices are as far from each other as before, less five times the distance. -/
theorem spread_shiftedVertices {x gap : ℝ}
    (far : Spread (real (gap + 5 * |x|)) line.vertices) :
    Spread (real gap) (line.shiftedVertices (real x)) := by
  obtain ⟨vertices⟩ := line
  cases far with
  | @of first p rest listed apart =>
    have count : (normals ⟨first :: rest⟩).length = rest.length := length_normals _
    rw [shiftedVertices]
    have unit := planar.unit_normals
    cases hnormals : normals ⟨first :: rest⟩ with
    | nil =>
      rw [hnormals, List.length_nil] at count
      rw [List.eq_nil_of_length_eq_zero count.symm] at listed
      cases listed
    | cons n ns =>
      rw [hnormals] at count unit
      have same : rest.length = (mitersAfter n ns).length := by
        rw [length_mitersAfter, ← count, List.length_cons]
      obtain ⟨m, hm, shifted⟩ :=
        exists_mem_zipWith (fun p (m : Vec2 Exact) => p + m.scale (real x)) same listed
      refine .of shifted ?_
      obtain @⟨w, hw⟩ := bounded_mitersAfter (unit n List.mem_cons_self)
        (fun k hk => unit k (List.mem_cons_of_mem n hk)) m hm
      obtain @⟨u, hu⟩ := unit n List.mem_cons_self
      obtain ⟨a, rfl⟩ := Vec2.exists_ofComplex (planar.finite first List.mem_cons_self)
      obtain ⟨b, rfl⟩ := Vec2.exists_ofComplex (planar.finite p (List.mem_cons_of_mem _ listed))
      simp only [Vec2.scale_ofComplex, Vec2.ofComplex_add, Vec2.ofComplex_sub,
        Vec2.norm_ofComplex, real_lt] at apart ⊢
      have moved : ‖x • u - x • w‖ ≤ 5 * |x| := by
        rw [← smul_sub, norm_smul, Real.norm_eq_abs, mul_comm]
        refine mul_le_mul_of_nonneg_right ?_ (abs_nonneg x)
        linarith [norm_sub_le u w]
      have split : b - a = b + x • w - (a + x • u) + (x • u - x • w) := by ring
      have triangle := norm_add_le (b + x • w - (a + x • u)) (x • u - x • w)
      rw [← split] at triangle
      linarith

/-- A line is usable after a shift if it is long enough. -/
theorem usable_shift {x : ℝ} (far : Spread (real (1e-9 + 5 * |x|)) line.vertices) :
    (line.shift (real x)).Usable := by
  have short : (1e-9 : Exact) = real 1e-9 := rfl
  refine planar.spaced.usable_shift_iff.2 ⟨planar.spaced.usable_iff.2 far.two_le_length, .inr ?_⟩
  rw [short]
  exact planar.spread_shiftedVertices far

/-- A line without bends is usable after any real shift. -/
theorem usable_shift_straight (straight : line.vertices.length = 2) (x : ℝ) :
    (line.shift (real x)).Usable := by
  obtain ⟨vertices⟩ := line
  match vertices, straight with
  | [a, b], _ =>
    refine planar.spaced.usable_shift_iff.2 ⟨planar.spaced.usable_iff.2 le_rfl, .inr ?_⟩
    have apart := (List.isChain_cons_cons.1 planar.spaced).1
    obtain ⟨n, single⟩ : ∃ n, normals ⟨[a, b]⟩ = [n] := ⟨_, rfl⟩
    have unit := planar.unit_normals n (by rw [single]; exact List.mem_cons_self)
    have moved : shiftedVertices ⟨[a, b]⟩ (real x) =
        [a + n.scale (real x), b + n.scale (real x)] := by
      rw [shiftedVertices, single]
      rfl
    rw [moved]
    obtain ⟨length⟩ := unit
    obtain ⟨a, rfl⟩ := Vec2.exists_ofComplex (planar.finite a List.mem_cons_self)
    obtain ⟨b, rfl⟩ := Vec2.exists_ofComplex
      (planar.finite b (List.mem_cons_of_mem _ List.mem_cons_self))
    refine .of List.mem_cons_self ?_
    simpa only [Vec2.scale_ofComplex, Vec2.ofComplex_add, Vec2.ofComplex_sub,
      add_sub_add_right_eq_sub] using apart

end Planar
end Polyline
end Roadway
