import Mathlib
import Roadway.Proofs.Number.Binary64

/-!
# Doubles by rank

Every double that is a number has a rank among the integers: its magnitude bits with its
sign. The model of doubles compares signs, exponents and significands of unpacked numbers;
as fields of the bits, exponents stand above significands, so that this is the order of
ranks. The total comparison follows the ranks too and puts what is not a number above all
numbers, since there is only one pattern of bits for it. So a double that the total
comparison puts below a number in reach is in reach itself.

## Main definitions

* `rank?` — the rank of a number among doubles.
* `Ranked` — the rank of an unpacked double, by constructor.
* `ranked` — the rank of the bits is that of the unpacked double.
* `le_of_compareTotal` — the total comparison agrees with the partial order.
-/
namespace Roadway.Binary64
open Std Float.Model UnpackedFloat

/-- The magnitude bits of a number with its sign. Both zeros have rank zero. -/
def rank? (x : Float) : Option Int :=
  if infinityBits < magnitudeBits x then none
  else some (if isNegative x then -(magnitudeBits x : Int) else magnitudeBits x)

/-- The rank of an unpacked double. Exponents are counted from the least one, and a
significand that is not normal has the least exponent. -/
inductive Ranked : UnpackedFloat → Option Int → Prop
  | notANumber : Ranked .notANumber none
  | infinity (sign : Sign) : Ranked (.infinity sign) (some (sign.apply (2047 * 2 ^ 52)))
  | zero (sign : Sign) : Ranked (.zero sign) (some 0)
  | finite (sign : Sign) {mantissa : Nat} {exponent : Int} (positive : 0 < mantissa)
      (least : -1074 ≤ exponent) (greatest : exponent ≤ 971) (narrow : mantissa < 2 ^ 53)
      (normal : exponent = -1074 ∨ 2 ^ 52 ≤ mantissa) :
      Ranked (.finite sign mantissa exponent positive)
        (some (sign.apply ((exponent + 1074) * 2 ^ 52 + mantissa)))

section Fields
variable (sign : Sign) (exponent : BitVec 11) (mantissa : BitVec 52) (b : BitVec 64)

/-- A double from the fields of its bits. -/
def ofFields : UnpackedFloat :=
  if exponent = -1#11 then
    if mantissa = 0#52 then .infinity sign else .notANumber
  else if exponent = 0#11 then
    if h : mantissa = 0#52 then .zero sign
    else .finite sign mantissa.toNat (-1074) (by simpa [BitVec.toNat_pos, BitVec.pos_iff_ne_zero])
  else .finite sign (2 ^ 52 + mantissa.toNat) (exponent.toNat - 1075) (by omega)

/-- A normal significand has a leading bit that is not stored. -/
theorem toNat_append_mantissa : (1#1 ++ mantissa).toNat = 2 ^ 52 + mantissa.toNat := by
  have hor := Nat.two_pow_add_eq_or_of_lt mantissa.isLt 1
  rw [BitVec.toNat_append, Nat.shiftLeft_eq, Nat.mul_comm, BitVec.toNat_ofNat]
  exact hor.symm

theorem unpack_eq : UnpackedFloat.unpack Format.binary64 b =
    ofFields (Sign.ofBitVec (@unpackSign Format.binary64 b))
      (@unpackExponent Format.binary64 b) (@unpackMantissa Format.binary64 b) := by
  rw [UnpackedFloat.unpack, ofFields]
  dsimp only
  split
  · rfl
  · split
    · next least =>
      split
      · rfl
      · simp only [least]
        rfl
    · congr 1
      exact toNat_append_mantissa _

theorem toNat_unpackMantissa :
    (@unpackMantissa Format.binary64 b).toNat = b.toNat % 2 ^ 52 := by
  simp [unpackMantissa, BitVec.extractLsb, BitVec.extractLsb']

theorem toNat_unpackExponent :
    (@unpackExponent Format.binary64 b).toNat = b.toNat / 2 ^ 52 % 2 ^ 11 := by
  simp [unpackExponent, BitVec.extractLsb, BitVec.extractLsb', Nat.shiftRight_eq_div_pow]

theorem ofBitVec_unpackSign : Sign.ofBitVec (@unpackSign Format.binary64 b) =
    if 2 ^ 63 ≤ b.toNat then .negative else .positive := by
  have bounded : b.toNat < 2 ^ 64 := b.isLt
  have field : (@unpackSign Format.binary64 b).toNat = b.toNat / 2 ^ 63 := by
    simp [unpackSign, BitVec.extractLsb, BitVec.extractLsb', Nat.shiftRight_eq_div_pow]
    omega
  rw [Sign.ofBitVec]
  simp only [← BitVec.toNat_inj, field]
  split <;> split <;> simp at * <;> omega

theorem ranked_ofFields : Ranked (ofFields sign exponent mantissa)
    (if 2047 * 2 ^ 52 < exponent.toNat * 2 ^ 52 + mantissa.toNat then none
      else some (sign.apply (exponent.toNat * 2 ^ 52 + mantissa.toNat))) := by
  have hzero : mantissa = 0#52 ↔ mantissa.toNat = 0 := BitVec.toNat_inj.symm
  have hleast : exponent = 0#11 ↔ exponent.toNat = 0 := BitVec.toNat_inj.symm
  have hgreatest : exponent = -1#11 ↔ exponent.toNat = 2047 := BitVec.toNat_inj.symm
  have hexponent := exponent.isLt
  have hmantissa := mantissa.isLt
  rw [ofFields]
  by_cases greatest : exponent = -1#11
  · rw [if_pos greatest, hgreatest.1 greatest]
    by_cases zero : mantissa = 0#52
    · rw [if_pos zero, hzero.1 zero]
      exact .infinity sign
    · have nonzero : mantissa.toNat ≠ 0 := mt hzero.2 zero
      have beyond : 2047 * 2 ^ 52 < 2047 * 2 ^ 52 + mantissa.toNat := by omega
      rw [if_neg zero, if_pos beyond]
      exact .notANumber
  · have finite : exponent.toNat ≠ 2047 := mt hgreatest.2 greatest
    have within : ¬ 2047 * 2 ^ 52 < exponent.toNat * 2 ^ 52 + mantissa.toNat := by omega
    rw [if_neg greatest, if_neg within]
    by_cases least : exponent = 0#11
    · rw [if_pos least, hleast.1 least]
      by_cases zero : mantissa = 0#52
      · rw [dif_pos zero, hzero.1 zero]
        cases sign with
        | negative => exact .zero .negative
        | positive => exact .zero .positive
      · have nonzero : mantissa.toNat ≠ 0 := mt hzero.2 zero
        rw [dif_neg zero]
        exact .finite sign _ (Int.le_refl _) (by decide) (by omega) (.inl rfl)
    · have normal : exponent.toNat ≠ 0 := mt hleast.2 least
      have place : (exponent.toNat * 2 ^ 52 + mantissa.toNat : Int) =
          (exponent.toNat - 1075 + 1074) * 2 ^ 52 + (2 ^ 52 + mantissa.toNat : Nat) := by omega
      have low : (-1074 : Int) ≤ exponent.toNat - 1075 := by omega
      have high : (exponent.toNat - 1075 : Int) ≤ 971 := by omega
      rw [if_neg least, place]
      exact .finite sign _ low high (by omega) (.inr (by omega))

end Fields

theorem infinityBits_eq : infinityBits = 2047 * 2 ^ 52 := by decide

/-- Exponents stand above significands. -/
theorem magnitudeBits_eq (x : Float) : magnitudeBits x =
    (@unpackExponent Format.binary64 x.toBits.toBitVec).toNat * 2 ^ 52 +
      (@unpackMantissa Format.binary64 x.toBits.toBitVec).toNat := by
  have hpow : twoPow 63 = 2 ^ 63 := by decide
  rw [toNat_unpackExponent, toNat_unpackMantissa, magnitudeBits, hpow]
  change x.toBits.toBitVec.toNat % 2 ^ 63 = _
  omega

/-- The bits of a double rank it as its unpacked form does. -/
theorem ranked (x : Float) : Ranked x.toModel.unpack (rank? x) := by
  have hpow : twoPow 63 = 2 ^ 63 := by decide
  have hsign : (if isNegative x then -(magnitudeBits x : Int) else magnitudeBits x) =
      (Sign.ofBitVec (@unpackSign Format.binary64 x.toBits.toBitVec)).apply
        (magnitudeBits x) := by
    rw [ofBitVec_unpackSign, isNegative, hpow]
    change (if decide (2 ^ 63 ≤ x.toBits.toBitVec.toNat) = true then _ else _) = _
    by_cases negative : 2 ^ 63 ≤ x.toBits.toBitVec.toNat
    · simp only [negative, decide_true, if_true, Sign.apply]
    · simp only [negative, decide_false, Bool.false_eq_true, if_false, Sign.apply]
  rw [rank?, hsign, magnitudeBits_eq, infinityBits_eq, Int.natCast_add, Int.natCast_mul]
  change Ranked (UnpackedFloat.unpack Format.binary64 x.toBits.toBitVec) _
  rw [unpack_eq]
  exact ranked_ofFields _ _ _

section Compare

theorem some_lt {i j : Int} (h : i < j) :
    some Ordering.lt = (some i).bind fun i => (some j).map fun j => Ord.compare i j :=
  congrArg some (Std.compare_eq_lt.2 h).symm

theorem some_gt {i j : Int} (h : j < i) :
    some Ordering.gt = (some i).bind fun i => (some j).map fun j => Ord.compare i j :=
  congrArg some (Std.compare_eq_gt.2 h).symm

theorem swap_compare (i j : Int) : (Ord.compare i j).swap = Ord.compare (-i) (-j) := by
  rcases Int.lt_trichotomy i j with h | rfl | h
  · rw [Std.compare_eq_lt.2 h, Std.compare_eq_gt.2 (Int.neg_lt_neg h)]
    rfl
  · rw [Std.compare_self, Std.compare_self]
    rfl
  · rw [Std.compare_eq_gt.2 h, Std.compare_eq_lt.2 (Int.neg_lt_neg h)]
    rfl

/-- Numbers compare by exponent and then by significand: a normal significand outweighs
every one with a smaller exponent. -/
theorem compare_finite {m n : Nat} {d e : Int} (hm : m < 2 ^ 53) (hn : n < 2 ^ 53)
    (hd : -1074 ≤ d) (he : -1074 ≤ e) (normal : d = -1074 ∨ 2 ^ 52 ≤ m)
    (normal' : e = -1074 ∨ 2 ^ 52 ≤ n) :
    (Ord.compare d e).then (Ord.compare m n) =
      Ord.compare ((d + 1074) * 2 ^ 52 + m) ((e + 1074) * 2 ^ 52 + n) := by
  rcases Int.lt_trichotomy d e with h | rfl | h
  · have below : (d + 1074) * 2 ^ 52 + m < (e + 1074) * 2 ^ 52 + n := by omega
    rw [Std.compare_eq_lt.2 h, Std.compare_eq_lt.2 below]
    rfl
  · rw [Std.compare_self]
    rcases Nat.lt_trichotomy m n with h | rfl | h
    · have below : (d + 1074) * 2 ^ 52 + m < (d + 1074) * 2 ^ 52 + n := by omega
      rw [Std.compare_eq_lt.2 h, Std.compare_eq_lt.2 below]
      rfl
    · rw [Std.compare_self, Std.compare_self]
      rfl
    · have above : (d + 1074) * 2 ^ 52 + n < (d + 1074) * 2 ^ 52 + m := by omega
      rw [Std.compare_eq_gt.2 h, Std.compare_eq_gt.2 above]
      rfl
  · have above : (e + 1074) * 2 ^ 52 + n < (d + 1074) * 2 ^ 52 + m := by omega
    rw [Std.compare_eq_gt.2 h, Std.compare_eq_gt.2 above]
    rfl

/-- Unpacked doubles compare as their ranks do. -/
theorem Ranked.compare {u v : UnpackedFloat} {i j : Option Int} (hu : Ranked u i)
    (hv : Ranked v j) :
    u.compare v = i.bind fun i => j.map fun j => Ord.compare i j := by
  cases hu with
  | notANumber => rfl
  | infinity s =>
    cases hv with
    | notANumber => cases s <;> rfl
    | infinity t => cases s <;> cases t <;> rfl
    | zero t => cases s <;> rfl
    | finite t =>
      cases s with
      | negative => exact some_lt (by cases t <;> simp only [Sign.apply] <;> omega)
      | positive => exact some_gt (by cases t <;> simp only [Sign.apply] <;> omega)
  | zero s =>
    cases hv with
    | notANumber => rfl
    | infinity t => cases t <;> rfl
    | zero t => rfl
    | finite t =>
      cases t with
      | negative => exact some_gt (by simp only [Sign.apply]; omega)
      | positive => exact some_lt (by simp only [Sign.apply]; omega)
  | @finite s m d hm least _ narrow normal =>
    cases hv with
    | notANumber => cases s <;> rfl
    | infinity t =>
      cases t with
      | negative =>
        cases s <;> exact some_gt (by simp only [Sign.apply]; omega)
      | positive =>
        cases s <;> exact some_lt (by simp only [Sign.apply]; omega)
    | zero t =>
      cases s with
      | negative => exact some_lt (by simp only [Sign.apply]; omega)
      | positive => exact some_gt (by simp only [Sign.apply]; omega)
    | @finite t n e hn least' _ narrow' normal' =>
      have hcompare := compare_finite narrow narrow' least least' normal normal'
      cases s with
      | negative =>
        cases t with
        | negative =>
          change some ((Ord.compare d e).then (Ord.compare m n)).swap = _
          rw [hcompare, swap_compare]
          rfl
        | positive => exact some_lt (by simp only [Sign.apply]; omega)
      | positive =>
        cases t with
        | negative => exact some_gt (by simp only [Sign.apply]; omega)
        | positive =>
          change some ((Ord.compare d e).then (Ord.compare m n)) = _
          rw [hcompare]
          rfl

end Compare

section Order
variable {x y z : Float}

/-- Doubles are ordered as their ranks are. -/
theorem le_iff_rank : x ≤ y ↔ ∃ i j, rank? x = some i ∧ rank? y = some j ∧ i ≤ j := by
  have hcompare := (ranked x).compare (ranked y)
  have hle : x ≤ y ↔ (x.toModel.unpack.compare y.toModel.unpack).any (·.isLE) = true := by
    change decide (x.toModel ≤ y.toModel) = true ↔ _
    rw [decide_eq_true_iff]
    rfl
  rw [hle, hcompare]
  cases rank? x <;> cases rank? y <;> simp [Std.isLE_compare]

theorem lt_iff_rank : x < y ↔ ∃ i j, rank? x = some i ∧ rank? y = some j ∧ i < j := by
  rw [lt_iff_compare, (ranked x).compare (ranked y)]
  cases rank? x <;> cases rank? y <;> simp [Std.compare_eq_lt]

protected theorem le_of_lt (h : x < y) : x ≤ y := by
  obtain ⟨i, j, hi, hj, lt⟩ := lt_iff_rank.1 h
  exact le_iff_rank.2 ⟨i, j, hi, hj, Int.le_of_lt lt⟩

theorem rank?_eq_none : rank? x = none ↔ infinityBits < magnitudeBits x := by
  rw [rank?, ite_eq_left_iff]
  simp

theorem rank?_eq_some {i : Int} : rank? x = some i ↔ magnitudeBits x ≤ infinityBits ∧
    (if isNegative x then -(magnitudeBits x : Int) else magnitudeBits x) = i := by
  rw [rank?]
  split <;> simp <;> omega

theorem isNaN_eq_false_iff : Scalar.isNaN x = false ↔ ∃ i, rank? x = some i := by
  have self : Scalar.isNaN x = false ↔ (x == x) = true := by simp [Scalar.isNaN]
  rw [self, beq_iff_compare, (ranked x).compare (ranked x)]
  cases rank? x <;> simp [Std.ReflCmp.compare_self]

/-- Two numbers are always comparable. -/
theorem not_le_iff_lt (hx : Scalar.isNaN x = false) (hy : Scalar.isNaN y = false) :
    ¬ y ≤ x ↔ x < y := by
  obtain ⟨i, hi⟩ := isNaN_eq_false_iff.1 hx
  obtain ⟨j, hj⟩ := isNaN_eq_false_iff.1 hy
  simp [le_iff_rank, lt_iff_rank, hi, hj]

/-- There is one pattern of bits for what is not a number, and it is positive. -/
theorem isNegative_of_rank (h : rank? x = none) : isNegative x = false := by
  have beyond := rank?_eq_none.1 h
  have hmantissa := (@unpackMantissa Format.binary64 x.toBits.toBitVec).isLt
  have hexponent := (@unpackExponent Format.binary64 x.toBits.toBitVec).isLt
  rw [magnitudeBits_eq, infinityBits_eq] at beyond
  have pattern : x.toBits.toBitVec = packedNaN Format.binary64 := by
    refine x.toModel.valid.eq_packedNaN ?_ ?_
    · apply BitVec.eq_of_toNat_eq
      change (@unpackExponent Format.binary64 x.toBits.toBitVec).toNat = 2047
      change _ < 2 ^ 52 at hmantissa
      change _ < 2 ^ 11 at hexponent
      omega
    · intro zero
      change @unpackMantissa Format.binary64 x.toBits.toBitVec = 0#52 at zero
      rw [zero] at beyond
      change _ < _ * 2 ^ 52 + 0 at beyond
      change _ < 2 ^ 11 at hexponent
      omega
  have bits : x.toBits.toNat = 0x7ff8000000000000 := by
    change x.toBits.toBitVec.toNat = _
    rw [pattern]
    rfl
  rw [isNegative, bits]
  decide

/-- What the total comparison puts no higher than a double within a limit is within it. -/
theorem le_of_compareTotal (h : (Scalar.compareTotal x y).isLE = true) (within : y ≤ z) :
    x ≤ z := by
  have hkey : compareTotal.key x ≤ compareTotal.key y := Std.isLE_compare.1 h
  obtain ⟨j, k, hy, hz, hjk⟩ := le_iff_rank.1 within
  obtain ⟨bounded, rfl⟩ := rank?_eq_some.1 hy
  simp only [compareTotal.key] at hkey
  cases hx : rank? x with
  | none =>
    have beyond := rank?_eq_none.1 hx
    simp only [isNegative_of_rank hx, Bool.false_eq_true, if_false] at hkey
    split at hkey <;> omega
  | some i =>
    obtain ⟨-, rfl⟩ := rank?_eq_some.1 hx
    refine le_iff_rank.2 ⟨_, k, hx, hz, Int.le_trans ?_ hjk⟩
    cases hx : isNegative x <;> cases hy : isNegative y <;>
      simp only [hx, hy, Bool.false_eq_true, if_false, if_true] at hkey ⊢ <;> omega

end Order
end Roadway.Binary64
