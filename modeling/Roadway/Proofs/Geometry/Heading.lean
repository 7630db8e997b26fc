import Roadway.Geometry.Heading
import Roadway.Proofs.Number.Remainder

/-!
# Headings within a full turn

Normalising a double gives a heading from zero up to a full turn, or what is not a number if
the angle is infinite or not a number itself. A remainder below zero is brought up by a full
turn, which rounds to a full turn at most, and then counts as zero.

## Main definitions

* `Heading.Normal` — headings from zero up to a full turn.
* `Heading.normal_normalize` — what normalising gives.
-/
namespace Roadway.Heading
open Binary64

/-- From zero up to a full turn. -/
def Normal {α : Type} [Scalar α] (heading : α) : Prop := (0.0 : α) ≤ heading ∧ heading < 360.0

theorem rank?_turn : rank? 360.0 = some 4645040803167600640 := by decide +kernel

/-- What is not negative is normal, or counts as zero. -/
theorem normal_wrapped {wrapped : Float} (nonneg : 0.0 ≤ wrapped) :
    Normal (if 360.0 ≤ wrapped then 0.0 else wrapped) := by
  split_ifs with full
  · exact (by decide +kernel : (0.0 : Float) ≤ 0.0 ∧ (0.0 : Float) < 360.0)
  · refine ⟨nonneg, ?_⟩
    obtain ⟨-, k, -, rank, -⟩ := le_iff_rank.1 nonneg
    refine lt_iff_rank.2 ⟨k, _, rank, rank?_turn, ?_⟩
    by_contra above
    exact full (le_iff_rank.2 ⟨_, k, rank?_turn, rank, not_lt.1 above⟩)

/-- Normalising gives a normal heading, or what is not a number. -/
theorem normal_normalize (x : Float) :
    Normal (normalize x) ∨ Scalar.isNaN (normalize x) = true := by
  cases finite : x.isFinite with
  | false =>
    refine .inr ?_
    have rest : Scalar.remainder x 360.0 = nan := by
      change remainder x 360.0 = nan
      simp [remainder, finite]
    rw [normalize, rest]
    decide +kernel
  | true =>
    refine .inl ?_
    obtain ⟨bits, le, rank⟩ := rank?_remainder (y := 360.0) finite (by decide +kernel)
      (by decide +kernel)
    have turn : magnitudeBits 360.0 = 4645040803167600640 := by decide +kernel
    rw [turn] at le
    change Normal (let rest := remainder x 360.0
      let wrapped := if rest < 0.0 then rest + 360.0 else rest
      if 360.0 ≤ wrapped then 0.0 else wrapped)
    generalize remainder x 360.0 = rest at rank
    generalize hsigned : (if isNegative x then -(bits : ℤ) else bits) = signed at rank
    have zero : rank? 0.0 = some 0 := by decide +kernel
    by_cases below : rest < 0.0
    · obtain ⟨i, j, first, second, lt⟩ := lt_iff_rank.1 below
      cases rank.symm.trans first
      cases zero.symm.trans second
      have minus : signed = -(bits : ℤ) := by
        split_ifs at hsigned <;> omega
      have within : 4645040803167600640 < infinityBits := by
        rw [infinityBits_eq]
        decide
      simp only [if_pos below]
      exact normal_wrapped (nonneg_add (minus ▸ rank) rank?_turn (by omega) le within)
    · simp only [if_neg below]
      refine normal_wrapped (le_iff_rank.2 ⟨0, signed, zero, rank, ?_⟩)
      by_contra negative
      exact below (lt_iff_rank.2 ⟨signed, 0, rank, zero, not_le.1 negative⟩)

end Roadway.Heading
