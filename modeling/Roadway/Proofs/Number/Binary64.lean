import Roadway.Number.Binary64

/-!
# Order of doubles

The total comparison of doubles is a preorder. A positive double is a number, is not
negative and differs from zero, although doubles as a whole are not linearly ordered.
-/
namespace Roadway.Binary64
open Std Float.Model

instance : TransCmp (Scalar.compareTotal (α := Float)) :=
  inferInstanceAs (TransCmp (compareOn compareTotal.key))

theorem lt_iff_compare {x y : Float} :
    x < y ↔ x.toModel.unpack.compare y.toModel.unpack = some .lt := by
  change (decide (x.toModel < y.toModel)) = true ↔ _
  rw [decide_eq_true_iff]
  change (x.toModel.unpack.compare y.toModel.unpack == some .lt) = true ↔ _
  rw [beq_iff_eq]

theorem beq_iff_compare {x y : Float} :
    (x == y) = true ↔ x.toModel.unpack.compare y.toModel.unpack = some .eq := by
  change (x.toModel.unpack.compare y.toModel.unpack == some .eq) = true ↔ _
  rw [beq_iff_eq]

theorem unpack_zero : (0.0 : Float).toModel.unpack = .zero .positive := rfl

/-- Numbers equal themselves. -/
theorem compare_self {u : UnpackedFloat} (number : u ≠ .notANumber) :
    u.compare u = some .eq := by
  cases u with
  | infinity sign => cases sign <;> rfl
  | notANumber => exact absurd rfl number
  | zero sign => cases sign <;> rfl
  | finite sign mantissa exponent =>
    have hthen : (compare exponent exponent).then (compare mantissa mantissa) = .eq := by
      rw [Ordering.then_eq_eq]
      exact ⟨ReflCmp.compare_self, ReflCmp.compare_self⟩
    cases sign with
    | positive =>
      change some ((compare exponent exponent).then (compare mantissa mantissa)) = some .eq
      rw [hthen]
    | negative =>
      change some ((compare exponent exponent).then (compare mantissa mantissa)).swap = some .eq
      rw [hthen]
      rfl

/-- The other way round the comparison of zero with a positive number comes out. -/
theorem compare_zero_of_pos {u : UnpackedFloat}
    (h : (UnpackedFloat.zero .positive).compare u = some .lt) :
    u.compare (.zero .positive) = some .gt := by
  cases u with
  | infinity sign => cases sign <;> first | rfl | cases h
  | notANumber => cases h
  | zero sign => cases sign <;> cases h
  | finite sign mantissa exponent => cases sign <;> first | rfl | cases h

section Positive
variable {x : Float} (pos : 0.0 < x)
include pos

theorem compare_zero : x.toModel.unpack.compare (0.0 : Float).toModel.unpack = some .gt := by
  rw [lt_iff_compare, unpack_zero] at pos
  rw [unpack_zero]
  exact compare_zero_of_pos pos

theorem not_neg_of_pos : ¬ x < 0.0 := by
  rw [lt_iff_compare, compare_zero pos]
  decide

theorem ne_zero_of_pos : (x == 0.0) = false := by
  rw [Bool.eq_false_iff, ne_eq, beq_iff_compare, compare_zero pos]
  decide

theorem isNaN_of_pos : Scalar.isNaN x = false := by
  have number : x.toModel.unpack ≠ .notANumber := by
    intro h
    have hcompare := compare_zero pos
    rw [h] at hcompare
    cases hcompare
  have hself : (x == x) = true := beq_iff_compare.2 (compare_self number)
  change (!(x == x)) = false
  rw [hself]
  rfl

end Positive

end Roadway.Binary64
