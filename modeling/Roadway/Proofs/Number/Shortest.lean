import Mathlib
import Roadway.Proofs.Number.Rounding

/-!
# Shortest decimals read back

The shortest decimal of a double is a point of a decimal grid inside its interval, so the
double nearest to it is the double itself. Such a point is found because twenty-four grids
are tried, of which the finest has four points in every place of the double. How the
decimal is split into digits and a power of ten does not matter to the reader: any two
decimals of one value read alike.

## Main definitions

* `Decimal.quarters` — a decimal in quarters of the last place of a double.
* `Decimal.near_shortest` — the shortest decimal lies in the interval of the magnitude.
* `Decimal.toDouble_of_near` — a decimal in the interval of a double reads as the double.
* `Decimal.toDouble_of_value` — so does every decimal of the value of its shortest one.
-/
namespace Roadway

section Powers

/-- A bound between powers of ten and of two carries over to all exponents it scales to. -/
theorem ten_zpow_le_two_zpow {p q : ℕ} (positive : 0 < q) {k j : ℤ}
    (bound : ((10 : ℚ) ^ q) ^ k ≤ (2 ^ p) ^ k) (h : p * k ≤ q * j) : (10 : ℚ) ^ k ≤ 2 ^ j := by
  refine le_of_pow_le_pow_left₀ positive.ne' (by positivity) ?_
  calc ((10 : ℚ) ^ k) ^ q = (10 ^ q) ^ k := by
        rw [← zpow_natCast, ← zpow_mul, mul_comm k, zpow_mul, zpow_natCast]
    _ ≤ (2 ^ p) ^ k := bound
    _ = 2 ^ (p * k) := by rw [zpow_mul, zpow_natCast]
    _ ≤ 2 ^ (q * j) := zpow_le_zpow_right₀ one_le_two h
    _ = (2 ^ j) ^ q := by
        rw [mul_comm, zpow_mul, zpow_natCast]

/-- Ten cubed is below two to the tenth. -/
theorem ten_zpow_le_of_nonneg {k j : ℤ} (nonneg : 0 ≤ k) (h : 10 * k ≤ 3 * j) :
    (10 : ℚ) ^ k ≤ 2 ^ j := by
  have bound : ((10 : ℚ) ^ 3) ^ k ≤ (2 ^ 10) ^ k :=
    zpow_le_zpow_left₀ nonneg (by norm_num) (by norm_num)
  exact ten_zpow_le_two_zpow (by norm_num) bound (by exact_mod_cast h)

/-- Two to the power 93 is below ten to the power 28. -/
theorem ten_zpow_le_of_neg {k j : ℤ} (neg : k < 0) (h : 93 * k ≤ 28 * j) :
    (10 : ℚ) ^ k ≤ 2 ^ j := by
  have bound : ((10 : ℚ) ^ 28) ^ k ≤ (2 ^ 93) ^ k := by
    obtain ⟨n, rfl⟩ : ∃ n : ℕ, k = -n := ⟨k.natAbs, by omega⟩
    rw [zpow_neg, zpow_neg, zpow_natCast, zpow_natCast]
    gcongr
    norm_num
  exact ten_zpow_le_two_zpow (by norm_num) bound (by exact_mod_cast h)

end Powers

namespace Decimal
open Binary64

/-- The number that a decimal denotes. -/
def value (d : Decimal) : ℚ := d.digits * 10 ^ d.exponent

/-- A decimal in quarters of the last place at an exponent. -/
def quarters (d : Decimal) (exponent : ℤ) : ℚ := 4 * d.value / 2 ^ exponent

section Grid
variable {tie : Tie} {d : Magnitude} {grid : ℤ}

theorem onGrid_snd_pos (k : ℕ) (e g : ℤ) : 0 < (onGrid k e g).2 :=
  Nat.mul_pos (Nat.two_pow_pos _) (Nat.pow_pos (by norm_num))

/-- How far a point of a grid lies from a number of quarters. -/
theorem quarters_sub (n k : ℕ) (e g : ℤ) :
    quarters ⟨n, g⟩ e - k = ((n * (onGrid k e g).2 : ℕ) - ((onGrid k e g).1 : ℕ)) *
      (4 * 10 ^ g / (2 ^ e * (onGrid k e g).2)) := by
  have hquarter : (2 : ℚ) ^ (e - 2) = 2 ^ e / 4 := by
    rw [zpow_sub₀ two_ne_zero]
    norm_num
  have htwo := zpow_eq_div (two_ne_zero : (2 : ℚ) ≠ 0) (e - 2)
  have hten := zpow_eq_div (show (10 : ℚ) ≠ 0 by norm_num) g
  rw [hquarter, Int.neg_sub] at htwo
  rw [quarters, value, onGrid, hten]
  push_cast [twoPow_eq, tenPow_eq]
  field_simp at htwo ⊢
  linear_combination (-(k : ℚ) * 10 ^ (-g).toNat) * htwo

theorem factor_pos (k : ℕ) (e g : ℤ) : (0 : ℚ) < 4 * 10 ^ g / (2 ^ e * (onGrid k e g).2) := by
  have : (0 : ℚ) < (onGrid k e g).2 := by exact_mod_cast onGrid_snd_pos k e g
  positivity

theorem onGrid_le_iff (n k : ℕ) (e g : ℤ) :
    (onGrid k e g).1 ≤ n * (onGrid k e g).2 ↔ (k : ℚ) ≤ quarters ⟨n, g⟩ e := by
  rw [← sub_nonneg (b := (k : ℚ)), quarters_sub,
    mul_nonneg_iff_of_pos_right (factor_pos k e g), sub_nonneg, Nat.cast_le]

theorem lt_onGrid_iff (n k : ℕ) (e g : ℤ) :
    n * (onGrid k e g).2 < (onGrid k e g).1 ↔ quarters ⟨n, g⟩ e < k := by
  rw [← not_le, ← not_le, onGrid_le_iff]

theorem onGrid_lt_iff (n k : ℕ) (e g : ℤ) :
    (onGrid k e g).1 < n * (onGrid k e g).2 ↔ (k : ℚ) < quarters ⟨n, g⟩ e := by
  rw [← sub_pos (b := (k : ℚ)), quarters_sub,
    mul_pos_iff_of_pos_right (factor_pos k e g), sub_pos, Nat.cast_lt]

theorem le_onGrid_iff (n k : ℕ) (e g : ℤ) :
    n * (onGrid k e g).2 ≤ (onGrid k e g).1 ↔ quarters ⟨n, g⟩ e ≤ k := by
  rw [← not_lt, ← not_lt, onGrid_lt_iff]

/-- Whether a point of a grid lies in the interval of a magnitude. -/
def inside (d : Magnitude) (grid : ℤ) (n : ℕ) : Bool :=
  let i := Interval.ofMagnitude d
  let point := n * (onGrid i.low d.exponent grid).2
  if i.closed then
    decide ((onGrid i.low d.exponent grid).1 ≤ point ∧ point ≤ (onGrid i.high d.exponent grid).1)
  else
    decide ((onGrid i.low d.exponent grid).1 < point ∧ point < (onGrid i.high d.exponent grid).1)

theorem inside_iff {n : ℕ} : inside d grid n = true ↔
    let i := Interval.ofMagnitude d
    let q := quarters ⟨n, grid⟩ d.exponent
    i.low ≤ q ∧ q ≤ i.high ∧ (i.closed = false → i.low < q ∧ q < i.high) := by
  have hunit : (onGrid (Interval.ofMagnitude d).low d.exponent grid).2 =
      (onGrid (Interval.ofMagnitude d).high d.exponent grid).2 := rfl
  dsimp only
  rw [inside, ← onGrid_le_iff, ← le_onGrid_iff, ← onGrid_lt_iff, ← lt_onGrid_iff, ← hunit]
  cases (Interval.ofMagnitude d).closed with
  | true => simp
  | false =>
    simp
    omega

theorem low_ofMagnitude (positive : 0 < d.significand) :
    4 * (d.significand : ℚ) - 2 ≤ (Interval.ofMagnitude d).low ∧
      (d.significand = 2 ^ 52 → -1074 < d.exponent →
        4 * (d.significand : ℚ) - 1 = (Interval.ofMagnitude d).low) := by
  have hlow : (Interval.ofMagnitude d).low = 4 * d.significand -
      (if d.significand = 2 ^ 52 ∧ -1074 < d.exponent then 1 else 2) := by
    rw [Interval.ofMagnitude, twoPow_eq]
  by_cases power : d.significand = 2 ^ 52 ∧ -1074 < d.exponent
  · rw [hlow, if_pos power, Nat.cast_sub (by omega)]
    push_cast
    exact ⟨by linarith, fun _ _ => rfl⟩
  · rw [hlow, if_neg power, Nat.cast_sub (by omega)]
    push_cast
    exact ⟨le_rfl, fun significand exponent => absurd ⟨significand, exponent⟩ power⟩

/-- What lies in the interval of a magnitude is near it. -/
theorem near_of_inside (positive : 0 < d.significand) {c : Decimal}
    (h : inside d c.exponent c.digits = true) : d.Near (c.quarters d.exponent) := by
  obtain ⟨n, grid⟩ := c
  obtain ⟨low, high, inner⟩ := inside_iff.1 h
  obtain ⟨least, power⟩ := low_ofMagnitude positive
  have hhigh : ((Interval.ofMagnitude d).high : ℚ) = 4 * d.significand + 2 := by
    simp [Interval.ofMagnitude]
  rw [hhigh] at high inner
  refine ⟨least.trans low, high, ?_, ?_⟩
  · intro odd
    have opened : (Interval.ofMagnitude d).closed = false := by simp [Interval.ofMagnitude, odd]
    exact ⟨least.trans_lt (inner opened).1, (inner opened).2⟩
  · intro significand exponent
    exact (power significand exponent).trans_le low

/-- The greatest point of a grid that is not above a magnitude. -/
def pointBelow (d : Magnitude) (grid : ℤ) : ℕ :=
  (onGrid (Interval.ofMagnitude d).value d.exponent grid).1 /
    (onGrid (Interval.ofMagnitude d).value d.exponent grid).2

theorem quarters_pointBelow (d : Magnitude) (grid : ℤ) :
    quarters ⟨pointBelow d grid, grid⟩ d.exponent ≤ 4 * d.significand ∧
      4 * d.significand < quarters ⟨pointBelow d grid + 1, grid⟩ d.exponent := by
  have hvalue : ((Interval.ofMagnitude d).value : ℚ) = 4 * d.significand := by
    simp [Interval.ofMagnitude]
  rw [← hvalue, ← le_onGrid_iff, ← onGrid_lt_iff, Nat.mul_comm (pointBelow d grid + 1)]
  exact ⟨Nat.div_mul_le_self _ _, Nat.lt_mul_div_succ _ (onGrid_snd_pos _ _ _)⟩

theorem quarters_succ (n : ℕ) (e grid : ℤ) :
    quarters ⟨n + 1, grid⟩ e = quarters ⟨n, grid⟩ e + 4 * 10 ^ grid / 2 ^ e := by
  simp only [quarters, value]
  push_cast
  ring

/-- The choice between the points around the value. -/
theorem onGrid?_eq : onGrid? tie d grid =
    let below := pointBelow d grid
    match inside d grid below, inside d grid (below + 1) with
    | false, false => none
    | true, false => some below
    | false, true => some (below + 1)
    | true, true =>
      let unit := (onGrid (Interval.ofMagnitude d).low d.exponent grid).2
      let rest := 2 * ((onGrid (Interval.ofMagnitude d).value d.exponent grid).1 % unit)
      if rest < unit then some below
      else if unit < rest then some (below + 1)
      else match tie with
        | .up => some (below + 1)
        | .toEven => some (if below % 2 = 0 then below else below + 1) := rfl

/-- A point that is chosen lies in the interval. -/
theorem inside_of_onGrid? {n : ℕ} (h : onGrid? tie d grid = some n) :
    inside d grid n = true := by
  rw [onGrid?_eq] at h
  dsimp only at h
  split at h
  · cases h
  · next hbelow _ =>
    cases h
    exact hbelow
  · next _ habove =>
    cases h
    exact habove
  · next hbelow habove =>
    split at h
    · cases h
      exact hbelow
    · split at h
      · cases h
        exact habove
      · cases tie with
        | up =>
          cases h
          exact habove
        | toEven =>
          cases h
          split
          · exact hbelow
          · exact habove

theorem not_inside_of_onGrid? (h : onGrid? tie d grid = none) :
    inside d grid (pointBelow d grid + 1) = false := by
  rw [onGrid?_eq] at h
  dsimp only at h
  split at h
  · assumption
  · cases h
  · cases h
  · split at h
    · cases h
    · split at h
      · cases h
      · cases tie <;> cases h

/-- On a grid with four points in every place the point above the value is inside. -/
theorem exists_onGrid? (fine : 4 * (10 : ℚ) ^ grid ≤ 2 ^ d.exponent) :
    ∃ n, onGrid? tie d grid = some n := by
  rw [← Option.ne_none_iff_exists']
  intro h
  have outside := not_inside_of_onGrid? h
  have unit : 4 * (10 : ℚ) ^ grid / 2 ^ d.exponent ≤ 1 := (div_le_one (by positivity)).2 fine
  have hhigh : ((Interval.ofMagnitude d).high : ℚ) = 4 * d.significand + 2 := by
    simp [Interval.ofMagnitude]
  have hlow : (Interval.ofMagnitude d).low ≤ 4 * d.significand := by
    simp [Interval.ofMagnitude]
  have hlow : ((Interval.ofMagnitude d).low : ℚ) ≤ 4 * d.significand := by exact_mod_cast hlow
  obtain ⟨below, above⟩ := quarters_pointBelow d grid
  have next := quarters_succ (pointBelow d grid) d.exponent grid
  have within : inside d grid (pointBelow d grid + 1) = true := by
    rw [inside_iff]
    dsimp only
    rw [hhigh]
    exact ⟨by linarith, by linarith, fun _ => ⟨by linarith, by linarith⟩⟩
  rw [within] at outside
  cases outside

end Grid

section Search
variable {tie : Tie} {d : Magnitude}

/-- A search that meets a fine grid ends with a point that lies in the interval. -/
theorem inside_search {fuel : ℕ} {grid : ℤ} (tries : 0 < fuel)
    (fine : 4 * (10 : ℚ) ^ (grid - fuel + 1) ≤ 2 ^ d.exponent) :
    inside d (search tie d fuel grid).exponent (search tie d fuel grid).digits = true := by
  induction fuel generalizing grid with
  | zero => cases tries
  | succ fuel ih =>
    rw [search]
    cases found : onGrid? tie d grid with
    | some n => exact inside_of_onGrid? found
    | none =>
      have finer : 0 < fuel := by
        by_contra last
        obtain rfl : fuel = 0 := by omega
        have found' : ∃ n, onGrid? tie d grid = some n := exists_onGrid? (by simpa using fine)
        obtain ⟨n, hn⟩ := found'
        rw [found] at hn
        cases hn
      refine ih finer ?_
      have : grid - 1 - fuel + 1 = grid - (fuel + 1 : ℕ) + 1 := by omega
      rwa [this]

/-- The finest grid that is tried has four points in every place. -/
theorem fine_coarsest (canonical : d.Canonical) (positive : 0 < d.significand) :
    4 * (10 : ℚ) ^ (coarsest d - 23) ≤ 2 ^ d.exponent := by
  obtain ⟨least, greatest, narrow, -⟩ := canonical
  have hlog : d.significand.log2 < 53 := (Nat.log2_lt positive.ne').2 narrow
  have hcoarsest : coarsest d =
    ((d.significand.log2 : ℤ) + d.exponent) * 30103 / 100000 + 2 := rfl
  have hpow : (10 : ℚ) ^ (coarsest d - 23) ≤ 2 ^ (d.exponent - 2) := by
    rcases lt_or_ge (coarsest d - 23) 0 with neg | nonneg
    · exact ten_zpow_le_of_neg neg (by omega)
    · exact ten_zpow_le_of_nonneg nonneg (by omega)
  have hquarter : (2 : ℚ) ^ (d.exponent - 2) = 2 ^ d.exponent / 4 := by
    rw [zpow_sub₀ two_ne_zero]
    norm_num
  rw [hquarter] at hpow
  linarith

/-- The shortest decimal of a magnitude lies in its interval. -/
theorem near_shortest (canonical : d.Canonical) (positive : 0 < d.significand) :
    d.Near ((shortest tie d).quarters d.exponent) := by
  have last : coarsest d - (24 : ℕ) + 1 = coarsest d - 23 := by omega
  rw [shortest, if_neg positive.ne']
  apply near_of_inside positive
  apply inside_search (by norm_num)
  rw [last]
  exact fine_coarsest canonical positive

end Search

section Size
variable {c : Decimal}

/-- Digits and exponent together bound a decimal by powers of ten. -/
theorem value_bounds (positive : 0 < c.digits) :
    let size : ℤ := (digitChars c.digits).length + c.exponent
    (10 : ℚ) ^ (size - 1) ≤ c.value ∧ c.value < 10 ^ size := by
  intro size
  have hten : (10 : ℚ) ≠ 0 := by norm_num
  have hlength : 0 < (digitChars c.digits).length := Nat.length_toDigits_pos
  have high : c.digits < 10 ^ (digitChars c.digits).length :=
    (Nat.length_toDigits_le_iff (by norm_num) hlength).1 le_rfl
  have low : 10 ^ ((digitChars c.digits).length - 1) ≤ c.digits := by
    by_contra h
    rcases Nat.eq_zero_or_pos ((digitChars c.digits).length - 1) with hone | hmore
    · rw [hone] at h
      omega
    · have := (Nat.length_toDigits_le_iff (by norm_num) hmore).2 (not_le.1 h)
      change (digitChars c.digits).length ≤ _ at this
      omega
  have hpow : (0 : ℚ) < 10 ^ c.exponent := by positivity
  have hlow : (10 : ℚ) ^ (size - 1) =
      (10 ^ ((digitChars c.digits).length - 1) : ℕ) * 10 ^ c.exponent := by
    push_cast
    rw [← zpow_natCast, ← zpow_add₀ hten]
    congr 1
    omega
  have hhigh : (10 : ℚ) ^ size = (10 ^ (digitChars c.digits).length : ℕ) * 10 ^ c.exponent := by
    push_cast
    rw [← zpow_natCast, ← zpow_add₀ hten]
  rw [hlow, hhigh, value]
  constructor
  · exact mul_le_mul_of_nonneg_right (by exact_mod_cast low) hpow.le
  · exact mul_lt_mul_of_pos_right (by exact_mod_cast high) hpow

/-- A decimal near a finite double is within the range of exponents that is looked at. -/
theorem size_of_near {d : Magnitude} (canonical : d.Canonical) (positive : 0 < d.significand)
    (near : d.Near (c.quarters d.exponent)) (digits : 0 < c.digits) :
    let size : ℤ := (digitChars c.digits).length + c.exponent
    ¬ size < -400 ∧ ¬ 400 < size := by
  intro size
  obtain ⟨low, high⟩ := value_bounds digits
  change (10 : ℚ) ^ (size - 1) ≤ c.value at low
  change c.value < (10 : ℚ) ^ size at high
  have hunit : (0 : ℚ) < 2 ^ d.exponent := by positivity
  have hquarters : c.value = c.quarters d.exponent / 4 * 2 ^ d.exponent := by
    rw [quarters]
    field_simp
  have hone : (1 : ℚ) ≤ d.significand := by exact_mod_cast positive
  have hnarrow : (d.significand : ℚ) + 1 ≤ 2 ^ 53 := by exact_mod_cast canonical.narrow
  constructor
  · intro beyond
    have hten : (10 : ℚ) ^ size ≤ 10 ^ (-401 : ℤ) :=
      zpow_le_zpow_right₀ (by norm_num) (by omega)
    have htwo : (10 : ℚ) ^ (-401 : ℤ) ≤ 2 ^ (-1076 : ℤ) :=
      ten_zpow_le_of_neg (by norm_num) (by norm_num)
    have hleast : (2 : ℚ) ^ 2 * 2 ^ (-1076 : ℤ) ≤ 2 ^ d.exponent :=
      two_pow_mul_zpow_le canonical.least
    have hvalue : 1 / 2 * 2 ^ d.exponent ≤ c.value := by
      rw [hquarters]
      exact mul_le_mul_of_nonneg_right (by linarith [near.low]) hunit.le
    have : (0 : ℚ) < 2 ^ (-1076 : ℤ) := by positivity
    linarith
  · intro beyond
    have hten : (10 : ℚ) ^ (400 : ℤ) ≤ 10 ^ (size - 1) :=
      zpow_le_zpow_right₀ (by norm_num) (by omega)
    have htwo : (2 : ℚ) ^ (1024 : ℤ) ≤ 10 ^ (400 : ℤ) :=
      calc (2 : ℚ) ^ (1024 : ℤ) = (2 ^ (8 : ℤ)) ^ (128 : ℤ) := by rw [← zpow_mul]; rfl
        _ ≤ (10 ^ (3 : ℤ)) ^ (128 : ℤ) :=
          zpow_le_zpow_left₀ (by norm_num) (by norm_num) (by norm_num)
        _ = 10 ^ (384 : ℤ) := by rw [← zpow_mul]; rfl
        _ ≤ 10 ^ (400 : ℤ) := zpow_le_zpow_right₀ (by norm_num) (by norm_num)
    have hgreatest : (2 : ℚ) ^ 53 * 2 ^ d.exponent ≤ 2 ^ (1024 : ℤ) :=
      two_pow_mul_zpow_le (by have := canonical.greatest; push_cast; omega)
    have hvalue : c.value < 2 ^ 53 * 2 ^ d.exponent := by
      rw [hquarters]
      exact mul_lt_mul_of_pos_right (by linarith [near.high]) hunit
    exact absurd (hvalue.trans_le (hgreatest.trans (htwo.trans (hten.trans low)))) (lt_irrefl _)

end Size

/-- A decimal in the interval of a double reads as the double. -/
theorem toDouble_of_near {x : Float} {c : Decimal} (finite : x.isFinite = true)
    (positive : 0 < (magnitude x).significand)
    (near : (magnitude x).Near (c.quarters (magnitude x).exponent)) :
    toDouble (isNegative x) c = x := by
  obtain ⟨canonical, bits⟩ := canonical_magnitude finite
  have hone : (1 : ℚ) ≤ (magnitude x).significand := by exact_mod_cast positive
  have hdigits : 0 < c.digits := by
    by_contra zero
    have hzero : c.quarters (magnitude x).exponent = 0 := by
      simp [quarters, value, Nat.eq_zero_of_not_pos zero]
    linarith [hzero ▸ near.low]
  obtain ⟨low, high⟩ := size_of_near canonical positive near hdigits
  have hnum : 0 < c.digits * tenPow c.exponent.toNat :=
    Nat.mul_pos hdigits (Nat.pow_pos (by norm_num))
  have hden : 0 < tenPow (-c.exponent).toNat := Nat.pow_pos (by norm_num)
  have hvalue : ((c.digits * tenPow c.exponent.toNat : ℕ) : ℚ) / (tenPow (-c.exponent).toNat : ℕ) =
      c.quarters (magnitude x).exponent / 4 * 2 ^ (magnitude x).exponent := by
    rw [quarters, value, zpow_eq_div (show (10 : ℚ) ≠ 0 by norm_num) c.exponent]
    push_cast [tenPow_eq]
    field_simp
  have zero : ¬ (c.digits = 0 ∨ ((digitChars c.digits).length : ℤ) + c.exponent < -400) :=
    not_or.2 ⟨hdigits.ne', low⟩
  rw [toDouble, if_neg zero, if_neg high, nearest,
    nearestBits_of_near canonical near hnum hden hvalue, bits, ofMagnitudeBits_magnitudeBits]

/-- A decimal with the value of the shortest one of a double reads as the double. -/
theorem toDouble_of_value {x : Float} {tie : Tie} {c : Decimal} (finite : x.isFinite = true)
    (h : c.value = (shortest tie (magnitude x)).value) : toDouble (isNegative x) c = x := by
  obtain ⟨canonical, bits⟩ := canonical_magnitude finite
  rcases Nat.eq_zero_or_pos (magnitude x).significand with zero | positive
  · have hdigits : c.digits = 0 := by
      rw [shortest, if_pos zero] at h
      have hten : (10 : ℚ) ^ c.exponent ≠ 0 := by positivity
      simpa [value, hten] using h
    have hbits : magnitudeBits x = 0 := by
      have := canonical.normal
      rw [← bits, Magnitude.bits, zero]
      omega
    rw [toDouble, if_pos (.inl hdigits), ← hbits, ofMagnitudeBits_magnitudeBits]
  · have near : (magnitude x).Near ((shortest tie (magnitude x)).quarters _) :=
      near_shortest canonical positive
    rw [quarters, ← h] at near
    exact toDouble_of_near finite positive near

end Decimal
end Roadway
