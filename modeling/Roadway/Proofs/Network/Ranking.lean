import Mathlib.Tactic.Tauto
import Roadway.Network.LaneIndex

/-!
# Ranking of candidates

Candidates are compared by a preorder that tells the candidates of different lanes
apart, provided that the total comparison of scalars is a preorder. So the first
candidate of a ranked list that passes a test is the one best candidate that does,
and the grid decides only which lanes are measured.

## Main definitions

* `Candidate.Best` — the candidate of a kind that comes before all others.
* `Candidate.head?_eq_some_iff` — the head of a ranked list is its best candidate.
* `LaneIndex.mem_nearest`, `LaneIndex.ranked_nearest` — what a query lists, and that it
  is ranked.
-/
namespace Roadway
open Std
variable {α : Type}

namespace LaneRef
variable {net : Network α}

instance : TransOrd (LaneRef net) :=
  inferInstanceAs (TransCmp (compareLex (compareOn fun r : LaneRef net => r.edge.val)
    (compareOn fun r : LaneRef net => r.lane.val)))

/-- The order tells lanes apart. -/
theorem eq_of_compare {a b : LaneRef net} (h : compare a b = .eq) : a = b := by
  have h : (compare a.edge.val b.edge.val).then (compare a.lane.val b.lane.val) = .eq := h
  rw [Ordering.then_eq_eq, Nat.compare_eq_eq, Nat.compare_eq_eq] at h
  exact ext_iff_val.2 h

end LaneRef

namespace Candidate
variable [Scalar α] {net : Network α}

/-- Candidates from best to worst. -/
def Ranked (candidates : List (Candidate net)) : Prop :=
  candidates.Pairwise fun a b => (a.compare b).isLE = true

/-- The one candidate of a kind that comes before every other one. -/
structure Best (P : Candidate net → Prop) (c : Candidate net) : Prop where
  holds : P c
  before : ∀ d, P d → d = c ∨ c.compare d = .lt

/-- Whether candidates are those of lanes at a point and a heading. -/
def Measured (p : Vec2 α) (heading : Option α) (c : Candidate net) : Prop :=
  c = net.candidate p heading c.lane

theorem measured_candidate (p : Vec2 α) (heading : Option α) (r : LaneRef net) :
    Measured p heading (net.candidate p heading r) := rfl

theorem Measured.eq_of_lane {p : Vec2 α} {heading : Option α} {c d : Candidate net}
    (hc : Measured p heading c) (hd : Measured p heading d) (h : c.lane = d.lane) : c = d := by
  rw [Measured] at hc hd
  rw [hc, hd, h]

@[simp] theorem mem_rank {candidates : List (Candidate net)} {c : Candidate net} :
    c ∈ rank candidates ↔ c ∈ candidates := List.mem_mergeSort

/-- Equal comparison means the same lane. -/
theorem lane_eq_of_compare {c d : Candidate net} (h : c.compare d = .eq) : c.lane = d.lane := by
  rw [Candidate.compare, Ordering.then_eq_eq] at h
  exact LaneRef.eq_of_compare h.2

/-- Lateral distances are compared first. -/
theorem lateral_isLE_of_compare {c d : Candidate net} (h : c.compare d = .lt) :
    (Scalar.compareTotal c.projection.lateral d.projection.lateral).isLE = true := by
  rw [Candidate.compare] at h
  cases hlateral : Scalar.compareTotal c.projection.lateral d.projection.lateral with
  | lt | eq => rfl
  | gt => simp [hlateral] at h

section Order
variable [TransCmp (Scalar.compareTotal (α := α))]

instance : TransCmp (Candidate.compare : Candidate net → Candidate net → Ordering) :=
  inferInstanceAs (TransCmp (compareLex
    (compareLex
      (@compareOn _ _ ⟨Scalar.compareTotal⟩ fun c : Candidate net => c.projection.lateral)
      (@compareOn _ _ ⟨Scalar.compareTotal⟩ fun c : Candidate net => c.headingDelta))
    (compareOn fun c : Candidate net => c.lane)))

theorem ranked_rank (candidates : List (Candidate net)) : Ranked (rank candidates) := by
  refine List.pairwise_mergeSort ?_ ?_ candidates
  · intro a b c hab hbc
    exact TransCmp.isLE_trans hab hbc
  · intro a b
    rw [Bool.or_eq_true]
    by_cases h : (a.compare b).isLE = true
    · exact .inl h
    · exact .inr (Ordering.isLE_of_eq_lt (OrientedCmp.lt_of_not_isLE h))

theorem Best.unique {P : Candidate net → Prop} {c d : Candidate net} (hc : Best P c)
    (hd : Best P d) : c = d := by
  rcases hc.before d hd.holds with heq | hlt
  · exact heq.symm
  · rcases hd.before c hc.holds with heq | hlt'
    · exact heq
    · exact absurd hlt' (OrientedCmp.not_lt_of_lt hlt)

/-- The head of a ranked list of candidates for one point is its best candidate. -/
theorem head?_eq_some_iff {p : Vec2 α} {heading : Option α}
    {candidates : List (Candidate net)} (ranked : Ranked candidates)
    (measured : ∀ c ∈ candidates, Measured p heading c) {c : Candidate net} :
    candidates.head? = some c ↔ Best (· ∈ candidates) c := by
  cases candidates with
  | nil =>
    constructor
    · intro head
      cases head
    · intro best
      cases best.holds
  | cons x rest =>
    have best : Best (· ∈ x :: rest) x := by
      refine ⟨List.mem_cons_self, ?_⟩
      intro d hd
      rcases List.mem_cons.1 hd with rfl | hrest
      · exact .inl rfl
      · have hle : (x.compare d).isLE = true := (List.pairwise_cons.1 ranked).1 d hrest
        rcases Ordering.isLE_iff_eq_lt_or_eq_eq.1 hle with hlt | heq
        · exact .inr hlt
        · -- Candidates that compare as equal are of one lane, and measured alike.
          refine .inl ((measured d hd).eq_of_lane (measured x List.mem_cons_self) ?_)
          exact (lane_eq_of_compare heq).symm
    rw [List.head?_cons, Option.some.injEq]
    constructor
    · rintro rfl
      exact best
    · exact best.unique

end Order

theorem Best.congr {P Q : Candidate net → Prop} {c : Candidate net} (h : ∀ d, P d ↔ Q d) :
    Best P c ↔ Best Q c := by
  rw [funext fun d => propext (h d)]

end Candidate

namespace LaneIndex
variable [Scalar α] {index : LaneIndex α} {p : Vec2 α} {radius : α} {heading : Option α}
  {keep : Lane α → Bool}

/-- A query lists the lanes near the point that pass the test and are in reach. -/
theorem mem_nearest {c : Candidate index.network} :
    c ∈ index.nearest p radius heading keep ↔
      (0.0 : α) ≤ radius ∧ c.lane ∈ index.lanesNear p radius ∧
        keep (index.network.lane c.lane) = true ∧ Candidate.Measured p heading c ∧
        c.projection.lateral ≤ radius := by
  rw [nearest]
  split
  · next hradius =>
    simp only [Candidate.mem_rank, List.mem_filter, List.mem_map, decide_eq_true_eq]
    constructor
    · intro h
      obtain ⟨⟨r, ⟨hnear, hkeep⟩, rfl⟩, hreach⟩ := h
      exact ⟨hradius, hnear, hkeep, Candidate.measured_candidate p heading r, hreach⟩
    · intro h
      obtain ⟨-, hnear, hkeep, hmeasured, hreach⟩ := h
      exact ⟨⟨c.lane, ⟨hnear, hkeep⟩, hmeasured.symm⟩, hreach⟩
  · next hradius =>
    constructor
    · intro hmem
      cases hmem
    · intro h
      exact absurd h.1 hradius

/-- A test narrows down what a query lists without one. -/
theorem mem_nearest_keep {c : Candidate index.network} :
    c ∈ index.nearest p radius heading keep ↔
      c ∈ index.nearest p radius heading (fun _ => true) ∧
        keep (index.network.lane c.lane) = true := by
  rw [mem_nearest, mem_nearest]
  tauto

theorem ranked_nearest [TransCmp (Scalar.compareTotal (α := α))] :
    Candidate.Ranked (index.nearest p radius heading keep) := by
  rw [nearest]
  split
  · exact Candidate.ranked_rank _
  · exact .nil

end LaneIndex
end Roadway
