import Roadway.Proofs.Number.Rounding

/-!
# Remainders, sums and halves of doubles

The remainder of truncated division is below the divisor in magnitude before it is rounded,
and rounding does not take it past the divisor, which is a double itself. The sum of a
negative double and a positive one at least as large in magnitude is not negative: whatever
rounding does to it, it keeps the sign. Sums and halves of doubles that are not negative are
not negative either.

## Main definitions

* `nearestBits_le` — a quotient does not round past a double above it.
* `rank?_remainder` — a remainder is no larger than the divisor.
* `nonneg_add` — a sum that is not below zero does not round below zero.
* `nonneg_sum`, `nonneg_half` — sums and halves of what is not negative.
-/
namespace Roadway.Binary64
open Std Float.Model UnpackedFloat

section Bits

/-- Bits that are no pattern of what is not a number are those of a double. -/
theorem toBits_ofBits {word : UInt64} (number : word.toNat % 2 ^ 63 ≤ infinityBits) :
    (Float.ofBits word).toBits = word := by
  have bits : UnpackedFloat.pack Format.binary64
      (UnpackedFloat.unpack Format.binary64 word.toBitVec) = word.toBitVec := by
    rw [unpack_eq, pack_ofFields]
    · exact packComponents_unpack _
    · intro greatest
      have exponent := toNat_unpackExponent word.toBitVec
      have mantissa := toNat_unpackMantissa word.toBitVec
      rw [greatest] at exponent
      change 2047 = word.toNat / 2 ^ 52 % 2 ^ 11 at exponent
      change _ = word.toNat % 2 ^ 52 at mantissa
      rw [infinityBits_eq] at number
      exact BitVec.eq_of_toNat_eq (mantissa.trans (by simp; omega))
  change UInt64.ofBitVec (UnpackedFloat.pack Format.binary64
    (UnpackedFloat.unpack Format.binary64 word.toBitVec)) = word
  rw [bits]

/-- Bits up to those of infinity rank a double. -/
theorem rank?_ofMagnitudeBits {bits : ℕ} (bounded : bits ≤ infinityBits) (negative : Bool) :
    rank? (ofMagnitudeBits negative bits) = some (if negative then -(bits : ℤ) else bits) := by
  have small : bits < 2 ^ 63 := by
    rw [infinityBits_eq] at bounded
    omega
  have word : (UInt64.ofNat (if negative then twoPow 63 + bits else bits)).toNat =
      if negative then 2 ^ 63 + bits else bits := by
    rw [UInt64.toNat_ofNat', twoPow_eq]
    cases negative <;> simp only [Bool.false_eq_true, if_false, if_true] <;> omega
  have kept : (ofMagnitudeBits negative bits).toBits.toNat =
      if negative then 2 ^ 63 + bits else bits := by
    rw [ofMagnitudeBits, toBits_ofBits, word]
    rw [word]
    cases negative <;> simp only [Bool.false_eq_true, if_false, if_true] <;> omega
  rw [rank?_eq_some, magnitudeBits, isNegative, kept, twoPow_eq]
  cases negative with
  | false =>
    have positive : ¬ 2 ^ 63 ≤ bits := by omega
    simp only [Bool.false_eq_true, if_false, positive, decide_false, Nat.mod_eq_of_lt small]
    exact ⟨bounded, trivial⟩
  | true =>
    have negative : 2 ^ 63 ≤ 2 ^ 63 + bits := Nat.le_add_right _ _
    simp only [if_true, negative, decide_true, Nat.add_mod_left, Nat.mod_eq_of_lt small]
    exact ⟨bounded, trivial⟩

end Bits

section Nearest
variable {d : Magnitude} {num den : ℕ}

/-- Rounding does not take a quotient past a natural. -/
theorem roundDiv_le {n : ℕ} (positive : 0 < den) (below : num ≤ n * den) :
    roundDiv num den ≤ n := by
  have split : den * (num / den) + num % den = num := Nat.div_add_mod num den
  rw [roundDiv]
  generalize num / den = quotient at *
  generalize num % den = r at *
  have least : quotient ≤ n := by
    by_contra h
    have := Nat.mul_le_mul_left den (show n + 1 ≤ quotient by omega)
    nlinarith
  rcases least.lt_or_eq with less | rfl
  · split_ifs <;> omega
  · have exact : r = 0 := by nlinarith
    simp [exact, positive]

theorem nearestBits_le_infinityBits (num den : ℕ) : nearestBits num den ≤ infinityBits := by
  rw [nearestBits]
  split_ifs
  · exact Nat.zero_le _
  · exact min_le_right _ _

/-- A quotient no larger than a double does not round past it. -/
theorem nearestBits_le (canonical : d.Canonical) (hden : 0 < den)
    (below : (num : ℚ) / den ≤ d.significand * 2 ^ d.exponent) :
    nearestBits num den ≤ d.bits := by
  rw [nearestBits]
  split_ifs with zero
  · exact Nat.zero_le _
  obtain ⟨least, narrow, normal⟩ := exponentOf_spec (Nat.pos_of_ne_zero zero) hden
  have hpos := scaled_snd_pos num hden (exponentOf num den)
  have hscaled := @scaled_div num den (exponentOf num den)
  have hlt := scaled_div_lt_iff num hden (exponentOf num den)
  generalize exponentOf num den = e at *
  dsimp only
  generalize (scaled num den e).1 = n at *
  generalize (scaled num den e).2 = m at *
  have hm : (0 : ℚ) < m := by exact_mod_cast hpos
  have hunit : (0 : ℚ) < 2 ^ e := by positivity
  refine (min_le_left _ _).trans ?_
  rw [Magnitude.bits, twoPow_eq]
  rcases Int.lt_trichotomy e d.exponent with lower | same | higher
  · -- The significand may carry into the exponent field, which is still below.
    have hnum : n ≤ 2 ^ 53 * m := by
      have : n / m < 2 ^ 53 := (hlt (2 ^ 53)).2 (by exact_mod_cast narrow)
      exact ((Nat.div_lt_iff_lt_mul hpos).1 this).le
    have hround := roundDiv_le hpos hnum
    have := canonical.normal
    omega
  · subst same
    have hnum : n ≤ d.significand * m := by
      rw [div_eq_iff hm.ne', div_mul_eq_mul_div, eq_div_iff hunit.ne'] at hscaled
      have : (n : ℚ) * 2 ^ d.exponent ≤ d.significand * m * 2 ^ d.exponent := by
        rw [hscaled]
        calc (num : ℚ) / den * m ≤ d.significand * 2 ^ d.exponent * m := by gcongr
          _ = d.significand * m * 2 ^ d.exponent := by ring
      exact_mod_cast le_of_mul_le_mul_right this hunit
    have hround := roundDiv_le hpos hnum
    omega
  · -- A quotient of 53 bits at a greater exponent would be above the double.
    exfalso
    have double : (2 : ℚ) ^ 1 * 2 ^ d.exponent ≤ 2 ^ e := two_pow_mul_zpow_le (by omega)
    have hnormal : 2 ^ 52 * 2 ^ e ≤ (num : ℚ) / den := normal.resolve_left (by
      have := canonical.least
      omega)
    have hsig : (d.significand : ℚ) + 1 ≤ 2 ^ 53 := by exact_mod_cast canonical.narrow
    have hunit' : (0 : ℚ) < 2 ^ d.exponent := by positivity
    nlinarith

end Nearest

section Remainder
variable {x y : Float}

/-- A double apart from zero has a significand. -/
theorem significand_pos (finite : y.isFinite = true) (nonzero : (y == 0.0) = false) :
    0 < (magnitude y).significand := by
  by_contra h
  obtain ⟨canonical, bits⟩ := canonical_magnitude finite
  have zero : (magnitude y).significand = 0 := by omega
  have least : (magnitude y).exponent = -1074 := by
    have := canonical.normal
    omega
  rw [Magnitude.bits, zero, least] at bits
  have hrank : rank? y = some 0 := by
    rw [rank?_eq_some, ← bits]
    exact ⟨Nat.zero_le _, by simp⟩
  have hcompare := (ranked y).compare (ranked 0.0)
  have hzero : rank? 0.0 = some 0 := by decide +kernel
  rw [hrank, hzero] at hcompare
  rw [beq_iff_compare.2 hcompare] at nonzero
  cases nonzero

/-- A remainder has the sign of the dividend and is no larger than the divisor. -/
theorem rank?_remainder (hx : x.isFinite = true) (hy : y.isFinite = true)
    (nonzero : (y == 0.0) = false) : ∃ bits ≤ magnitudeBits y,
      rank? (remainder x y) = some (if isNegative x then -(bits : ℤ) else bits) := by
  have number : y.isNaN = false := by
    change y.toModel.unpack.isNaN = false
    change y.toModel.unpack.isFinite = true at hy
    cases unpacked : y.toModel.unpack with
    | notANumber =>
      rw [unpacked] at hy
      cases hy
    | infinity | zero | finite => rfl
  obtain ⟨canonical, bits⟩ := canonical_magnitude hy
  have positive := significand_pos hy nonzero
  simp only [remainder, hx, hy, number, nonzero, Bool.not_false, Bool.and_self, if_true]
  generalize magnitude x = a
  generalize magnitude y = b at *
  generalize he : min a.exponent b.exponent = e
  have hb : e ≤ b.exponent := he ▸ min_le_right _ _
  have hrest : a.significand * twoPow (a.exponent - e).toNat %
      (b.significand * twoPow (b.exponent - e).toNat) <
      b.significand * 2 ^ (b.exponent - e).toNat := by
    rw [twoPow_eq, twoPow_eq]
    exact Nat.mod_lt _ (Nat.mul_pos positive (Nat.two_pow_pos _))
  generalize a.significand * twoPow (a.exponent - e).toNat %
    (b.significand * twoPow (b.exponent - e).toNat) = rest at hrest
  have hdivisor : (b.significand : ℚ) * 2 ^ (b.exponent - e).toNat * 2 ^ e =
      b.significand * 2 ^ b.exponent := by
    rw [mul_assoc, two_pow_mul_zpow, Int.toNat_of_nonneg (by omega), add_sub_cancel]
  have below : ((rest * twoPow e.toNat : ℕ) : ℚ) / (twoPow (-e).toNat : ℕ) ≤
      b.significand * 2 ^ b.exponent := by
    have hle : (rest : ℚ) ≤ b.significand * 2 ^ (b.exponent - e).toNat := by
      exact_mod_cast hrest.le
    rw [twoPow_eq, twoPow_eq]
    push_cast
    rw [mul_div_assoc, ← zpow_eq_div two_ne_zero, ← hdivisor]
    gcongr
  have den : 0 < twoPow (-e).toNat := by
    rw [twoPow_eq]
    exact Nat.two_pow_pos _
  refine ⟨_, bits ▸ nearestBits_le canonical den below, ?_⟩
  rw [ofMagnitude, nearest, rank?_ofMagnitudeBits (nearestBits_le_infinityBits _ _)]

end Remainder

section Sum

/-- The fields of a double make up its bits. -/
theorem toNat_packComponents (sign : Sign) (exponent : BitVec 11) (mantissa : BitVec 52) :
    (packComponents Format.binary64 sign exponent mantissa).toNat =
      (sign.toBitVec.toNat * 2 ^ 11 + exponent.toNat) * 2 ^ 52 + mantissa.toNat := by
  rw [packComponents, BitVec.toNat_append, BitVec.toNat_append,
    ← Nat.shiftLeft_add_eq_or_of_lt exponent.isLt, ← Nat.shiftLeft_add_eq_or_of_lt mantissa.isLt,
    Nat.shiftLeft_eq, Nat.shiftLeft_eq]

/-- A positive number, rounded or not, packs into a double that is not negative. -/
theorem nonneg_pack {mantissa : ℕ} {exponent : ℤ} (positive : 0 < mantissa) :
    0.0 ≤ Float.ofModel (Float.Model.pack (.finite .positive mantissa exponent positive)) := by
  -- its sign is not set, and its exponent field is the greatest only for infinity
  obtain ⟨e, m, packed, number⟩ : ∃ (e : BitVec 11) (m : BitVec 52),
      UnpackedFloat.pack Format.binary64 (.finite .positive mantissa exponent positive) =
        packComponents Format.binary64 .positive e m ∧
      e.toNat * 2 ^ 52 + m.toNat ≤ infinityBits := by
    rw [infinityBits_eq, UnpackedFloat.pack]
    dsimp only
    split_ifs with infinite normal
    · exact ⟨-1#11, 0#52, rfl, by decide⟩
    · refine ⟨_, _, rfl, ?_⟩
      have hm := (BitVec.ofNat 52 mantissa).isLt
      rw [BitVec.toNat_ofNat]
      change ¬ 2 ^ 11 ≤ (exponent + (1023 : ℕ) + (52 : ℕ)).toNat + 1 at infinite
      change (exponent + (1023 : ℕ) + (52 : ℕ)).toNat % 2 ^ 11 * 2 ^ 52 + _ ≤ _
      rw [Nat.mod_eq_of_lt (by omega)]
      omega
    · refine ⟨0#11, _, rfl, ?_⟩
      have hm := (BitVec.ofNat 52 mantissa).isLt
      change 0 * 2 ^ 52 + _ ≤ _
      omega
  generalize hz : Float.ofModel
    (Float.Model.pack (.finite .positive mantissa exponent positive)) = z
  have bits : z.toBits.toNat = e.toNat * 2 ^ 52 + m.toNat := by
    subst hz
    change (UnpackedFloat.pack Format.binary64
      (.finite .positive mantissa exponent positive)).toNat = _
    rw [packed, toNat_packComponents]
    simp [Sign.toBitVec]
  have rank : rank? z = some ((e.toNat * 2 ^ 52 + m.toNat : ℕ) : ℤ) := by
    rw [infinityBits_eq] at number
    have unsigned : ¬ 2 ^ 63 ≤ e.toNat * 2 ^ 52 + m.toNat := by omega
    rw [rank?_eq_some, magnitudeBits, isNegative, bits, twoPow_eq, infinityBits_eq,
      Nat.mod_eq_of_lt (by omega)]
    exact ⟨number, by rw [decide_eq_false unsigned]; rfl⟩
  exact le_iff_rank.2 ⟨0, _, by decide +kernel, rank, Int.natCast_nonneg _⟩

/-- What is positive is rounded to what is not negative. -/
theorem nonneg_roundWithAccuracy (mantissa : ℕ) (exponent : ℤ) (accuracy : Accuracy) :
    0.0 ≤ Float.ofModel (Float.Model.pack
      (UnpackedFloat.roundWithAccuracy Format.binary64 .positive mantissa exponent accuracy)) := by
  unfold UnpackedFloat.roundWithAccuracy
  dsimp only
  split_ifs
  · decide +kernel
  · exact nonneg_pack _

theorem nonneg_round (mantissa : ℕ) (exponent : ℤ) : 0.0 ≤ Float.ofModel (Float.Model.pack
    (UnpackedFloat.round Format.binary64 .positive mantissa exponent)) := by
  rw [UnpackedFloat.round]
  exact nonneg_roundWithAccuracy _ _ _

theorem nonneg_normalize {mantissa : ℤ} (h : 0 ≤ mantissa) (exponent : ℤ) :
    0.0 ≤ Float.ofModel (Float.Model.pack
      (UnpackedFloat.normalize Format.binary64 mantissa exponent .positive)) := by
  rw [UnpackedFloat.normalize]
  rcases h.lt_or_eq with positive | rfl
  · rw [Std.compare_eq_gt.2 positive]
    exact nonneg_round _ _
  · rw [Std.compare_self]
    change 0.0 ≤ Float.ofModel (Float.Model.pack (.zero .positive))
    decide +kernel

/-- Significands brought to a common exponent are ordered as the ranks are. -/
theorem decreaseExponent_le {m n : ℕ} {e f : ℤ} (narrow : m < 2 ^ 53) (narrow' : n < 2 ^ 53)
    (least : -1074 ≤ e) (least' : -1074 ≤ f) (normal : e = -1074 ∨ 2 ^ 52 ≤ m)
    (normal' : f = -1074 ∨ 2 ^ 52 ≤ n)
    (le : (e + 1074) * 2 ^ 52 + m ≤ (f + 1074) * 2 ^ 52 + n) :
    (decreaseExponent m e (min e f)).1 ≤ (decreaseExponent n f (min e f)).1 := by
  have ordered : e ≤ f := by omega
  simp only [decreaseExponent, min_eq_left ordered, sub_self, Int.toNat_zero,
    Nat.shiftLeft_eq]
  rcases ordered.lt_or_eq with below | rfl
  · have full : 2 ^ 52 ≤ n := normal'.resolve_left (by omega)
    obtain ⟨k, hk⟩ : ∃ k, (f - e).toNat = k + 1 := ⟨(f - e).toNat - 1, by omega⟩
    have := Nat.one_le_two_pow (n := k)
    rw [hk, pow_succ]
    nlinarith
  · rw [sub_self, Int.toNat_zero, pow_zero, mul_one]
    omega

/-- A negative double and a finite positive one at least as large in magnitude have a sum
that is not negative. -/
theorem nonneg_add {x y : Float} {i j : ℕ} (hx : rank? x = some (-(i : ℤ)))
    (hy : rank? y = some (j : ℤ)) (negative : 0 < i) (le : i ≤ j) (finite : j < infinityBits) :
    0.0 ≤ x + y := by
  have first := ranked x
  have second := ranked y
  have sum : (x + y) = Float.ofModel (Float.Model.pack
    (UnpackedFloat.add Format.binary64 x.toModel.unpack y.toModel.unpack)) := rfl
  rw [infinityBits_eq] at finite
  rw [sum]
  generalize x.toModel.unpack = u at first
  generalize y.toModel.unpack = v at second
  rw [hx] at first
  rw [hy] at second
  generalize hi : -(i : ℤ) = i' at first
  generalize hj : (j : ℤ) = j' at second
  cases first with
  | infinity sign => cases sign <;> simp only [Sign.apply] at hi <;> omega
  | zero => omega
  | @finite s m e hm least _ narrow normal =>
    cases second with
    | infinity sign => cases sign <;> simp only [Sign.apply] at hj <;> omega
    | zero => omega
    | @finite t n f hn least' _ narrow' normal' =>
      cases s with
      | positive =>
        simp only [Sign.apply] at hi
        omega
      | negative =>
        cases t with
        | negative =>
          simp only [Sign.apply] at hj
          omega
        | positive =>
          simp only [Sign.apply] at hi hj
          have ordered := decreaseExponent_le narrow narrow' least least' normal normal' (by omega)
          rw [UnpackedFloat.add]
          simp only [Sign.apply]
          generalize (decreaseExponent m e (min e f)).1 = a at *
          generalize (decreaseExponent n f (min e f)).1 = b at *
          exact nonneg_normalize (by omega) _

/-- An unpacked number that is not below zero. -/
inductive Nonneg : UnpackedFloat → Prop
  | infinity : Nonneg (.infinity .positive)
  | zero (sign : Sign) : Nonneg (.zero sign)
  | finite {mantissa : ℕ} {exponent : ℤ} (positive : 0 < mantissa) :
      Nonneg (.finite .positive mantissa exponent positive)

theorem nonneg_unpack {x : Float} (h : 0.0 ≤ x) : Nonneg x.toModel.unpack := by
  obtain ⟨zero, rank, hzero, hrank, le⟩ := le_iff_rank.1 h
  have origin : rank? 0.0 = some 0 := by decide +kernel
  obtain rfl := Option.some.inj (origin.symm.trans hzero)
  have ranked := ranked x
  rw [hrank] at ranked
  generalize x.toModel.unpack = u at ranked
  cases ranked with
  | zero sign => exact .zero sign
  | infinity sign =>
    cases sign with
    | positive => exact .infinity
    | negative => cases le.not_gt (by decide)
  | finite sign positive least =>
    cases sign with
    | positive => exact .finite positive
    | negative =>
      simp only [Sign.apply] at le
      omega

theorem Nonneg.pack {u : UnpackedFloat} (h : Nonneg u) :
    0.0 ≤ Float.ofModel (Float.Model.pack u) := by
  cases h with
  | infinity => decide +kernel
  | zero sign => cases sign <;> decide +kernel
  | finite positive => exact nonneg_pack positive

/-- Doubles that are not negative have a sum that is not negative. -/
theorem nonneg_sum {x y : Float} (hx : 0.0 ≤ x) (hy : 0.0 ≤ y) : 0.0 ≤ x + y := by
  have first := nonneg_unpack hx
  have second := nonneg_unpack hy
  have sum : (x + y) = Float.ofModel (Float.Model.pack
    (UnpackedFloat.add Format.binary64 x.toModel.unpack y.toModel.unpack)) := rfl
  rw [sum]
  generalize x.toModel.unpack = u at first
  generalize y.toModel.unpack = v at second
  cases first with
  | infinity => cases second <;> exact Nonneg.infinity.pack
  | zero s =>
    cases second with
    | infinity => exact Nonneg.infinity.pack
    | zero t => cases s <;> cases t <;> exact (Nonneg.zero _).pack
    | finite positive => exact nonneg_pack positive
  | finite positive =>
    cases second with
    | infinity => exact Nonneg.infinity.pack
    | zero => exact nonneg_pack positive
    | finite => exact nonneg_normalize (add_nonneg (Int.natCast_nonneg _) (Int.natCast_nonneg _)) _

/-- Half a double that is not negative is not negative. -/
theorem nonneg_half {x : Float} (h : 0.0 ≤ x) : 0.0 ≤ x / 2.0 := by
  have number := nonneg_unpack h
  have half : (x / 2.0) = Float.ofModel (Float.Model.pack
    (UnpackedFloat.div Format.binary64 x.toModel.unpack (2.0 : Float).toModel.unpack)) := rfl
  obtain ⟨m, e, positive, two⟩ : ∃ (m : ℕ) (e : ℤ) (positive : 0 < m),
    (2.0 : Float).toModel.unpack = .finite .positive m e positive := ⟨2 ^ 52, -51, by decide, rfl⟩
  rw [half, two]
  generalize x.toModel.unpack = u at number
  cases number with
  | infinity => exact Nonneg.infinity.pack
  | zero s => exact (Nonneg.zero _).pack
  | finite => exact nonneg_roundWithAccuracy _ _ _

theorem isNaN_of_nonneg {x : Float} (h : 0.0 ≤ x) : Scalar.isNaN x = false := by
  obtain ⟨_, i, _, rank, _⟩ := le_iff_rank.1 h
  exact isNaN_eq_false_iff.2 ⟨i, rank⟩

end Sum
end Roadway.Binary64
