import Mathlib
import Roadway.Number.Decimal
import Roadway.Proofs.Number.Rank

/-!
# Rounding to doubles

A quotient of naturals rounds to the double in whose interval it lies. The exponent at
which a quotient is rounded is that of the binade in which it lies, and there is one case
in which this is not the exponent of the double: just below a power of two, where the
quotient rounds up to the next binade and carries into the exponent field. Everything is
measured in quarters of the last place of the double, as its interval is.

## Main definitions

* `Magnitude.Canonical`, `Magnitude.bits` — the magnitudes that doubles have, and their bits.
* `Magnitude.Near` — the numbers that round to a magnitude.
* `nearestBits_of_near` — a quotient rounds to the magnitude that it is near to.
-/
namespace Roadway

theorem twoPow_eq (n : ℕ) : twoPow n = 2 ^ n := Nat.pow_eq

theorem tenPow_eq (n : ℕ) : tenPow n = 10 ^ n := Nat.pow_eq

/-- A power with an integer exponent is a quotient of two powers, one of them one. -/
theorem zpow_eq_div {base : ℚ} (h : base ≠ 0) (k : ℤ) :
    base ^ k = base ^ k.toNat / base ^ (-k).toNat := by
  rw [← zpow_natCast, ← zpow_natCast, ← zpow_sub₀ h, Int.toNat_sub_toNat_neg]

namespace Binary64

/-- The magnitudes of finite doubles: a significand of 53 bits, of which the first one is
set unless the exponent is the least. -/
structure Magnitude.Canonical (d : Magnitude) : Prop where
  least : -1074 ≤ d.exponent
  greatest : d.exponent ≤ 971
  narrow : d.significand < 2 ^ 53
  normal : d.exponent = -1074 ∨ 2 ^ 52 ≤ d.significand

/-- The bits of a double below its sign. The first bit of a normal significand is not
stored and adds one to the exponent field instead. -/
def Magnitude.bits (d : Magnitude) : ℕ := (d.exponent + 1074).toNat * 2 ^ 52 + d.significand

/-- The numbers that round to a magnitude, in quarters of its last place. They lie less than
two quarters away, or just two if the significand is even, and below a power of two only one
quarter, since there the places are half as wide. -/
structure Magnitude.Near (d : Magnitude) (quarters : ℚ) : Prop where
  low : 4 * d.significand - 2 ≤ quarters
  high : quarters ≤ 4 * d.significand + 2
  odd : d.significand % 2 = 1 →
    4 * d.significand - 2 < quarters ∧ quarters < 4 * d.significand + 2
  power : d.significand = 2 ^ 52 → -1074 < d.exponent → 4 * d.significand - 1 ≤ quarters

section Division
variable {num den : ℕ}

/-- A quotient rounds to a natural less than half away, and to an even one half away. -/
theorem roundDiv_eq (positive : 0 < den) {n : ℕ} (low : 2 * n * den ≤ 2 * num + den)
    (high : 2 * num ≤ 2 * n * den + den)
    (tie : n % 2 = 1 → 2 * n * den < 2 * num + den ∧ 2 * num < 2 * n * den + den) :
    roundDiv num den = n := by
  have split : num = den * (num / den) + num % den := (Nat.div_add_mod num den).symm
  have rest := Nat.mod_lt num positive
  rw [roundDiv]
  generalize num / den = quotient at *
  generalize num % den = r at *
  have below : quotient ≤ n := by
    by_contra h
    have := Nat.mul_le_mul_left den (show n + 1 ≤ quotient by omega)
    nlinarith
  have above : n ≤ quotient + 1 := by
    by_contra h
    have := Nat.mul_le_mul_left den (show quotient + 2 ≤ n by omega)
    nlinarith
  rcases (show n = quotient ∨ n = quotient + 1 by omega) with rfl | rfl
  · have least : 2 * r ≤ den := by nlinarith
    by_cases half : 2 * r = den
    · have even : n % 2 = 0 := by
        by_contra odd
        have := (tie (by omega)).2
        nlinarith
      simp [half, even]
    · simp [show 2 * r < den by omega]
  · have greatest : den ≤ 2 * r := by nlinarith
    by_cases half : den = 2 * r
    · have odd : quotient % 2 ≠ 0 := by
        intro even
        have := (tie (by omega)).1
        nlinarith
      simp [half, odd]
    · have : ¬ 2 * r < den := by omega
      simp [this, show den < 2 * r by omega]

theorem scaled_snd_pos (num : ℕ) (positive : 0 < den) (e : ℤ) : 0 < (scaled num den e).2 := by
  exact Nat.mul_pos positive (Nat.two_pow_pos _)

theorem scaled_div (e : ℤ) :
    ((scaled num den e).1 : ℚ) / (scaled num den e).2 = num / den / 2 ^ e := by
  rw [scaled, zpow_eq_div two_ne_zero e]
  push_cast [twoPow_eq]
  field_simp

/-- The quotient of the scaled parts as naturals says in which binade the quotient is. -/
theorem scaled_div_lt_iff (num : ℕ) (positive : 0 < den) (e : ℤ) (n : ℕ) :
    (scaled num den e).1 / (scaled num den e).2 < n ↔ (num : ℚ) / den < n * 2 ^ e := by
  have hden : (0 : ℚ) < (scaled num den e).2 := by exact_mod_cast scaled_snd_pos num positive e
  have hpow : (0 : ℚ) < 2 ^ e := by positivity
  rw [Nat.div_lt_iff_lt_mul (scaled_snd_pos num positive e), ← div_lt_iff₀ hpow, ← scaled_div e,
    div_lt_iff₀ hden]
  exact_mod_cast Iff.rfl

theorem two_pow_mul_zpow (n : ℕ) (e : ℤ) : (2 : ℚ) ^ n * 2 ^ e = 2 ^ (e + n) := by
  rw [zpow_add₀ two_ne_zero, zpow_natCast, mul_comm]

theorem two_pow_mul_zpow_le {n : ℕ} {e f : ℤ} (h : e + n ≤ f) : (2 : ℚ) ^ n * 2 ^ e ≤ 2 ^ f := by
  rw [two_pow_mul_zpow]
  exact zpow_le_zpow_right₀ one_le_two h

/-- The lengths of the parts in bits place a quotient up to a factor of four. -/
theorem log2_bounds (hnum : 0 < num) (hden : 0 < den) :
    let e : ℤ := (Nat.log2 num : ℤ) - Nat.log2 den - 52
    2 ^ 51 * 2 ^ e < (num : ℚ) / den ∧ (num : ℚ) / den < 2 ^ 53 * 2 ^ e := by
  intro e
  have hden' : (0 : ℚ) < den := by exact_mod_cast hden
  have bounds (n : ℕ) (h : 0 < n) :
      (2 : ℚ) ^ (n.log2 : ℤ) ≤ n ∧ (n : ℚ) < 2 ^ ((n.log2 : ℤ) + 1) := by
    constructor
    · rw [zpow_natCast]
      exact_mod_cast Nat.log2_self_le (Nat.pos_iff_ne_zero.1 h)
    · exact_mod_cast (Nat.lt_log2_self (n := n))
  obtain ⟨numLow, numHigh⟩ := bounds num hnum
  obtain ⟨denLow, denHigh⟩ := bounds den hden
  rw [two_pow_mul_zpow, two_pow_mul_zpow, lt_div_iff₀ hden', div_lt_iff₀ hden']
  have hlow : (2 : ℚ) ^ (e + (51 : ℕ)) * 2 ^ ((den.log2 : ℤ) + 1) = 2 ^ (num.log2 : ℤ) := by
    rw [← zpow_add₀ two_ne_zero]
    congr 1
    omega
  have hhigh : (2 : ℚ) ^ (e + (53 : ℕ)) * 2 ^ (den.log2 : ℤ) = 2 ^ ((num.log2 : ℤ) + 1) := by
    rw [← zpow_add₀ two_ne_zero]
    congr 1
    omega
  constructor
  · calc (2 : ℚ) ^ (e + (51 : ℕ)) * den
        < 2 ^ (e + (51 : ℕ)) * 2 ^ ((den.log2 : ℤ) + 1) := by gcongr
      _ = 2 ^ (num.log2 : ℤ) := hlow
      _ ≤ num := numLow
  · calc (num : ℚ)
        < 2 ^ ((num.log2 : ℤ) + 1) := numHigh
      _ = 2 ^ (e + (53 : ℕ)) * 2 ^ (den.log2 : ℤ) := hhigh.symm
      _ ≤ 2 ^ (e + (53 : ℕ)) * den := by gcongr

/-- A quotient is rounded at the exponent at which it has 53 bits, or at the least one. -/
theorem exponentOf_spec (hnum : 0 < num) (hden : 0 < den) :
    -1074 ≤ exponentOf num den ∧ (num : ℚ) / den < 2 ^ 53 * 2 ^ exponentOf num den ∧
      (exponentOf num den = -1074 ∨ 2 ^ 52 * 2 ^ exponentOf num den ≤ (num : ℚ) / den) := by
  obtain ⟨low, high⟩ := log2_bounds hnum hden
  have below := scaled_div_lt_iff num hden
  rw [exponentOf]
  dsimp only
  generalize (Nat.log2 num : ℤ) - Nat.log2 den - 52 = guess at *
  -- The guess has 53 bits or 52; in the second case the next exponent below has 53.
  obtain ⟨e, he, normal, narrow⟩ : ∃ e : ℤ,
      (if (scaled num den guess).1 / (scaled num den guess).2 < twoPow 52 then guess - 1
        else guess) = e ∧ 2 ^ 52 * 2 ^ e ≤ (num : ℚ) / den ∧
      (num : ℚ) / den < 2 ^ 53 * 2 ^ e := by
    have hhalf : (2 : ℚ) ^ guess = 2 * 2 ^ (guess - 1) := by
      rw [← zpow_one_add₀ two_ne_zero]
      congr 1
      omega
    by_cases small : (scaled num den guess).1 / (scaled num den guess).2 < twoPow 52
    · have small' := (below guess (twoPow 52)).1 small
      rw [twoPow_eq] at small'
      push_cast at small'
      rw [hhalf] at low small'
      exact ⟨guess - 1, if_pos small, by linarith, by linarith⟩
    · have large := mt (below guess (twoPow 52)).2 small
      rw [twoPow_eq] at large
      push_cast at large
      exact ⟨guess, if_neg small, not_lt.1 large, high⟩
  rw [he]
  refine ⟨le_max_right _ _, ?_, ?_⟩
  · calc (num : ℚ) / den < 2 ^ 53 * 2 ^ e := narrow
      _ ≤ 2 ^ 53 * 2 ^ max e (-1074) := by
        gcongr
        · norm_num
        · exact le_max_left _ _
  · rcases le_total e (-1074) with h | h
    · exact .inl (max_eq_right h)
    · rw [max_eq_left h]
      exact .inr normal

end Division

section Nearest
variable {d : Magnitude} {num den : ℕ} {x : ℚ}

/-- A quotient near a magnitude is rounded at its exponent, or at the one below if it lies
under a power of two. -/
theorem exponentOf_of_near (canonical : d.Canonical) (near : d.Near x) (hnum : 0 < num)
    (hden : 0 < den) (value : (num : ℚ) / den = x / 4 * 2 ^ d.exponent) :
    exponentOf num den = d.exponent ∨ exponentOf num den = d.exponent - 1 ∧
      d.significand = 2 ^ 52 ∧ -1074 < d.exponent ∧ x < 4 * d.significand := by
  obtain ⟨least, narrow, normal⟩ := exponentOf_spec hnum hden
  rw [value] at narrow normal
  generalize exponentOf num den = e at *
  have hunit : (0 : ℚ) < 2 ^ d.exponent := by positivity
  rcases lt_trichotomy e d.exponent with below | same | above
  · have beyond : -1074 < d.exponent := by omega
    have half : (2 : ℚ) ^ 1 * 2 ^ e ≤ 2 ^ d.exponent := two_pow_mul_zpow_le (by omega)
    have hx : x / 4 < 2 ^ 52 := lt_of_mul_lt_mul_right (by linarith) hunit.le
    have hsig : d.significand = 2 ^ 52 := by
      by_contra other
      have : 2 ^ 52 + 1 ≤ d.significand := by
        have := canonical.normal
        omega
      have : (2 : ℚ) ^ 52 + 1 ≤ d.significand := by exact_mod_cast this
      linarith [near.low]
    have hsig' : (d.significand : ℚ) = 2 ^ 52 := by exact_mod_cast hsig
    have hlow := near.power hsig beyond
    refine .inr ⟨?_, hsig, beyond, by linarith⟩
    by_contra other
    have quarter : (2 : ℚ) ^ 2 * 2 ^ e ≤ 2 ^ d.exponent := two_pow_mul_zpow_le (by omega)
    have : x / 4 < 2 ^ 51 := lt_of_mul_lt_mul_right (by linarith) hunit.le
    linarith
  · exact .inl same
  · have double : (2 : ℚ) ^ 1 * 2 ^ d.exponent ≤ 2 ^ e := two_pow_mul_zpow_le (by omega)
    have hnormal : 2 ^ 52 * 2 ^ e ≤ x / 4 * 2 ^ d.exponent := normal.resolve_left (by
      have := canonical.least
      omega)
    have hx : 2 ^ 53 ≤ x / 4 := le_of_mul_le_mul_right (by linarith) hunit
    have hsig : (d.significand : ℚ) + 1 ≤ 2 ^ 53 := by exact_mod_cast canonical.narrow
    linarith [near.high]

/-- A quotient near a magnitude rounds to it. -/
theorem nearestBits_of_near (canonical : d.Canonical) (near : d.Near x) (hnum : 0 < num)
    (hden : 0 < den) (value : (num : ℚ) / den = x / 4 * 2 ^ d.exponent) :
    nearestBits num den = d.bits := by
  have hscaled : ((scaled num den (exponentOf num den)).1 : ℚ) =
      num / den / 2 ^ exponentOf num den * (scaled num den (exponentOf num den)).2 := by
    rw [← scaled_div, div_mul_cancel₀]
    exact_mod_cast (scaled_snd_pos num hden _).ne'
  have hpos := scaled_snd_pos num hden (exponentOf num den)
  rw [nearestBits, if_neg hnum.ne']
  dsimp only
  generalize (scaled num den (exponentOf num den)).1 = n at *
  generalize (scaled num den (exponentOf num den)).2 = m at *
  have hm : (0 : ℚ) < m := by exact_mod_cast hpos
  have hunit : (2 : ℚ) ^ d.exponent ≠ 0 := by positivity
  have bounded : d.bits ≤ infinityBits := by
    obtain ⟨least, greatest, narrow, -⟩ := canonical
    rw [Magnitude.bits, infinityBits_eq]
    omega
  rcases exponentOf_of_near canonical near hnum hden value with he | ⟨he, hsig, beyond, under⟩
  · have hn : 4 * (n : ℚ) = x * m := by
      rw [hscaled, value, he]
      field_simp
    have rounded : roundDiv n m = d.significand := by
      have low := mul_le_mul_of_nonneg_right near.low hm.le
      have high := mul_le_mul_of_nonneg_right near.high hm.le
      refine roundDiv_eq hpos ?_ ?_ ?_
      · qify
        linarith
      · qify
        linarith
      · intro odd
        have ⟨low, high⟩ := near.odd odd
        have low := mul_lt_mul_of_pos_right low hm
        have high := mul_lt_mul_of_pos_right high hm
        constructor <;> qify <;> linarith
    rw [he, rounded, twoPow_eq]
    exact min_eq_left bounded
  · have hn : 2 * (n : ℚ) = x * m := by
      rw [hscaled, value, he, zpow_sub_one₀ two_ne_zero]
      field_simp
      ring
    have hlow := near.power hsig beyond
    have hsig' : (d.significand : ℚ) = 2 ^ 52 := by exact_mod_cast hsig
    -- The significand is full: it carries into the exponent field.
    have rounded : roundDiv n m = 2 ^ 53 := by
      have low := mul_le_mul_of_nonneg_right hlow hm.le
      have high := mul_lt_mul_of_pos_right under hm
      rw [hsig'] at low high
      refine roundDiv_eq hpos ?_ ?_ ?_
      · qify
        linarith
      · qify
        linarith
      · intro odd
        exact absurd odd (by decide)
    have hbits : (d.exponent - 1 + 1074).toNat * 2 ^ 52 + 2 ^ 53 = d.bits := by
      rw [Magnitude.bits, hsig]
      omega
    rw [he, rounded, twoPow_eq, hbits]
    exact min_eq_left bounded

end Nearest

section Bits
open Std Float.Model UnpackedFloat

/-- A number packs into the fields that it was taken from. -/
theorem pack_ofFields (sign : Sign) (exponent : BitVec 11) (mantissa : BitVec 52)
    (number : exponent = -1#11 → mantissa = 0#52) :
    UnpackedFloat.pack Format.binary64 (ofFields sign exponent mantissa) =
      packComponents Format.binary64 sign exponent mantissa := by
  have hexponent : exponent.toNat < 2 ^ 11 := exponent.isLt
  have hmantissa : mantissa.toNat < 2 ^ 52 := mantissa.isLt
  rw [ofFields]
  by_cases greatest : exponent = -1#11
  · rw [if_pos greatest, if_pos (number greatest), greatest, number greatest]
    rfl
  · rw [if_neg greatest]
    by_cases least : exponent = 0#11
    · rw [if_pos least, least]
      by_cases zero : mantissa = 0#52
      · rw [dif_pos zero, zero]
        rfl
      · have positive : mantissa.toNat ≠ 0 := fun h => zero (BitVec.eq_of_toNat_eq h)
        have short : ¬ mantissa.toNat.log2 + 1 = 53 := by
          have := (Nat.log2_lt positive).2 hmantissa
          omega
        rw [dif_neg zero, UnpackedFloat.pack]
        refine (if_neg (by decide)).trans ((if_neg short).trans ?_)
        rw [BitVec.ofNat_toNat, BitVec.setWidth_eq]
    · have bounded : exponent.toNat ≠ 2047 := fun h => greatest (BitVec.eq_of_toNat_eq h)
      have hbiased : ((exponent.toNat : ℤ) - 1075 + (1023 : ℕ) + (52 : ℕ)).toNat =
          exponent.toNat := by omega
      have full : (2 ^ 52 + mantissa.toNat).log2 + 1 = 53 := by
        rw [(Nat.log2_eq_iff (by omega)).2 ⟨Nat.le_add_right _ _, by omega⟩]
      have low : (BitVec.ofNat 52 (2 ^ 52 + mantissa.toNat)) = mantissa := by
        apply BitVec.eq_of_toNat_eq
        rw [BitVec.toNat_ofNat]
        omega
      rw [if_neg least, UnpackedFloat.pack]
      refine (if_neg ?_).trans ((if_pos full).trans ?_)
      · change ¬ 2 ^ 11 ≤ ((exponent.toNat : ℤ) - 1075 + (1023 : ℕ) + (52 : ℕ)).toNat + 1
        omega
      · change packComponents Format.binary64 sign
          (BitVec.ofNat 11 ((exponent.toNat : ℤ) - 1075 + (1023 : ℕ) + (52 : ℕ)).toNat)
          (BitVec.ofNat 52 (2 ^ 52 + mantissa.toNat)) = _
        rw [hbiased, low, BitVec.ofNat_toNat, BitVec.setWidth_eq]

/-- The fields of a double put together. -/
theorem packComponents_unpack (b : BitVec 64) :
    packComponents Format.binary64 (Sign.ofBitVec (@unpackSign Format.binary64 b))
      (@unpackExponent Format.binary64 b) (@unpackMantissa Format.binary64 b) = b := by
  have bounded : b.toNat < 2 ^ 64 := b.isLt
  have hsign : (Sign.ofBitVec (@unpackSign Format.binary64 b)).toBitVec.toNat =
      b.toNat / 2 ^ 63 := by
    rw [ofBitVec_unpackSign]
    by_cases negative : 2 ^ 63 ≤ b.toNat
    · rw [if_pos negative]
      simp only [Sign.toBitVec, BitVec.toNat_ofNat]
      omega
    · rw [if_neg negative]
      simp only [Sign.toBitVec, BitVec.toNat_ofNat]
      omega
  apply BitVec.eq_of_toNat_eq
  have hexponent : (@unpackExponent Format.binary64 b).toNat < 2 ^ 11 := BitVec.isLt _
  have hmantissa : (@unpackMantissa Format.binary64 b).toNat < 2 ^ 52 := BitVec.isLt _
  rw [packComponents, BitVec.toNat_append, BitVec.toNat_append,
    ← Nat.shiftLeft_add_eq_or_of_lt hexponent, ← Nat.shiftLeft_add_eq_or_of_lt hmantissa,
    Nat.shiftLeft_eq, Nat.shiftLeft_eq, hsign, toNat_unpackExponent, toNat_unpackMantissa]
  omega

/-- A double is determined by its bits. -/
theorem ofBits_toBits (x : Float) : Float.ofBits x.toBits = x := by
  have hpack : UnpackedFloat.pack Format.binary64
      (UnpackedFloat.unpack Format.binary64 x.toBits.toBitVec) = x.toBits.toBitVec := by
    rw [unpack_eq]
    by_cases number : @unpackExponent Format.binary64 x.toBits.toBitVec = -1#11 →
        @unpackMantissa Format.binary64 x.toBits.toBitVec = 0#52
    · rw [pack_ofFields _ _ _ number]
      exact packComponents_unpack _
    · obtain ⟨greatest, nonzero⟩ := Classical.not_imp.1 number
      rw [ofFields, if_pos greatest, if_neg nonzero]
      exact (x.toModel.valid.eq_packedNaN greatest nonzero).symm
  have hbits : UInt64.ofBitVec x.toBits.toBitVec = x.toBits := rfl
  rw [Float.ofBits, Float.Model.ofBits]
  simp only [Float.Model.pack, hpack, hbits]
  rfl

theorem ofMagnitudeBits_magnitudeBits (x : Float) :
    ofMagnitudeBits (isNegative x) (magnitudeBits x) = x := by
  have bounded : x.toBits.toNat < 2 ^ 64 := x.toBits.toNat_lt
  have hbits : (if isNegative x then twoPow 63 + magnitudeBits x else magnitudeBits x) =
      x.toBits.toNat := by
    simp only [isNegative, magnitudeBits, twoPow_eq]
    by_cases negative : 2 ^ 63 ≤ x.toBits.toNat
    · simp only [negative, decide_true, if_true]
      omega
    · simp only [negative, decide_false, Bool.false_eq_true, if_false]
      omega
  rw [ofMagnitudeBits, hbits, UInt64.ofNat_toNat, ofBits_toBits]

theorem magnitudeBits_lt {x : Float} (finite : x.isFinite = true) :
    magnitudeBits x < infinityBits := by
  have hranked := ranked x
  change x.toModel.unpack.isFinite = true at finite
  generalize x.toModel.unpack = u at finite hranked
  generalize hrank : rank? x = rank at hranked
  rw [infinityBits_eq]
  cases hranked with
  | notANumber | infinity => cases finite
  | zero =>
    obtain ⟨-, hzero⟩ := rank?_eq_some.1 hrank
    split at hzero <;> omega
  | finite sign =>
    obtain ⟨-, hfinite⟩ := rank?_eq_some.1 hrank
    cases sign <;> simp only [Sign.apply] at hfinite <;> split at hfinite <;> omega

theorem canonical_magnitude {x : Float} (finite : x.isFinite = true) :
    (magnitude x).Canonical ∧ (magnitude x).bits = magnitudeBits x := by
  have bounded := magnitudeBits_lt finite
  rw [infinityBits_eq] at bounded
  rw [magnitude]
  simp only [twoPow_eq, Magnitude.bits]
  generalize magnitudeBits x = bits at *
  by_cases least : bits < 2 ^ 52
  · rw [if_pos least]
    refine ⟨⟨Int.le_refl _, ?_, ?_, .inl rfl⟩, ?_⟩ <;> dsimp only <;> omega
  · rw [if_neg least]
    refine ⟨⟨?_, ?_, ?_, .inr ?_⟩, ?_⟩ <;> dsimp only <;> omega

end Bits

end Binary64
end Roadway
