import Mathlib.Analysis.SpecialFunctions.Complex.Arg
import Mathlib.Data.Prod.Lex
import Roadway.Scalar

/-!
# Exact numbers

Arithmetic without rounding. An exact number is a real number, one of two infinities,
or not a number; the last three follow the rules that doubles have for them, except that
there is one zero, without a sign. The laws of geometry and motion that rounding blurs
are stated over these scalars, with the definitions that run on doubles.

Sums, differences and products are real only if both operands are. So an infinite
coordinate never gives way to a real distance.

## Main definitions

* `Exact` — the exact numbers, with their instance of `Scalar`.
* `Exact.isFinite_add`, `Exact.isFinite_sub`, `Exact.isFinite_mul` — what is not real
  stays so.
* `Exact.floor_div_mono` — the integer part of a quotient is monotone.
* `Exact.le_iff_key` — numbers are linearly ordered.
* `Exact.clamp_mem` — numbers are clamped into intervals.
* `Exact.excess_of_not_le` — by how much a distance exceeds another.
-/
namespace Roadway

/-- A number of exact arithmetic. -/
inductive Exact
  | real (x : ℝ)
  | infinite (negative : Bool)
  | notANumber

namespace Exact
noncomputable section

protected def add : Exact → Exact → Exact
  | real x, real y => real (x + y)
  | real _, infinite s => infinite s
  | infinite s, real _ => infinite s
  | infinite s, infinite t => if s = t then infinite s else notANumber
  | notANumber, _ => notANumber
  | _, notANumber => notANumber

protected def neg : Exact → Exact
  | real x => real (-x)
  | infinite s => infinite (!s)
  | notANumber => notANumber

/-- An infinity times a real number. -/
def scaleInfinity (negative : Bool) (x : ℝ) : Exact :=
  if x = 0 then notANumber else infinite (negative ^^ decide (x < 0))

protected def mul : Exact → Exact → Exact
  | real x, real y => real (x * y)
  | real x, infinite s => scaleInfinity s x
  | infinite s, real y => scaleInfinity s y
  | infinite s, infinite t => infinite (s ^^ t)
  | notANumber, _ => notANumber
  | _, notANumber => notANumber

/-- A quotient by zero takes the sign of the dividend. -/
protected def div : Exact → Exact → Exact
  | real x, real y =>
    if y = 0 then if x = 0 then notANumber else infinite (decide (x < 0)) else real (x / y)
  | real _, infinite _ => real 0
  | infinite s, real y => infinite (s ^^ decide (y < 0))
  | infinite _, infinite _ => notANumber
  | notANumber, _ => notANumber
  | _, notANumber => notANumber

protected def lt : Exact → Exact → Prop
  | real x, real y => x < y
  | real _, infinite s => s = false
  | infinite s, real _ => s = true
  | infinite s, infinite t => s = true ∧ t = false
  | notANumber, _ => False
  | _, notANumber => False

protected def le : Exact → Exact → Prop
  | real x, real y => x ≤ y
  | real _, infinite s => s = false
  | infinite s, real _ => s = true
  | infinite s, infinite t => s = true ∨ t = false
  | notANumber, _ => False
  | _, notANumber => False

protected def beq : Exact → Exact → Bool
  | real x, real y => decide (x = y)
  | infinite s, infinite t => s == t
  | _, _ => false

def sqrt : Exact → Exact
  | real x => if x < 0 then notANumber else real (Real.sqrt x)
  | infinite false => infinite false
  | infinite true => notANumber
  | notANumber => notANumber

def isFinite : Exact → Bool
  | real _ => true
  | _ => false

/-- The place in the total order, in which what is not a number comes last. -/
def key : Exact → ℕ ×ₗ ℝ
  | infinite true => toLex (0, 0)
  | real x => toLex (1, x)
  | infinite false => toLex (2, 0)
  | notANumber => toLex (3, 0)

/-- Integer parts are unbounded; only real numbers have one. -/
def floor : Exact → Int
  | real x => ⌊x⌋
  | _ => 0

def ceil : Exact → Exact
  | real x => real ⌈x⌉
  | x => x

/-- The integer next to a real number in the direction of zero. -/
def truncate (x : ℝ) : Int := if x < 0 then ⌈x⌉ else ⌊x⌋

def remainder : Exact → Exact → Exact
  | real x, real y => if y = 0 then notANumber else real (x - truncate (x / y) * y)
  | real x, infinite _ => real x
  | _, _ => notANumber

/-- The angle of a real vector; any other has none. -/
def atan2 : Exact → Exact → Exact
  | real y, real x => real (Complex.arg ⟨x, y⟩)
  | _, _ => notANumber

instance : Scalar Exact where
  add := Exact.add
  sub x y := Exact.add x y.neg
  mul := Exact.mul
  div := Exact.div
  neg := Exact.neg
  lt := Exact.lt
  le := Exact.le
  beq := Exact.beq
  ofScientific mantissa negative exponent :=
    real (OfScientific.ofScientific mantissa negative exponent)
  decidableLT := fun _ _ => Classical.propDecidable _
  decidableLE := fun _ _ => Classical.propDecidable _
  sqrt := sqrt
  infinity := infinite false
  isFinite := isFinite
  compareTotal x y := compare x.key y.key
  floor := floor
  ceil := ceil
  ofNat n := real n
  remainder := remainder
  atan2 := atan2
  degreesPerRadian := real (180 / Real.pi)

instance : Std.TransCmp (Scalar.compareTotal (α := Exact)) :=
  inferInstanceAs (Std.TransCmp (compareOn key))

end

section Real
variable (x y : ℝ)

/-- Literals are real numbers. -/
theorem ofScientific_eq (mantissa : ℕ) (negative : Bool) (exponent : ℕ) :
    (OfScientific.ofScientific mantissa negative exponent : Exact) =
      real (OfScientific.ofScientific mantissa negative exponent) := rfl

@[simp] theorem zero_eq : (0.0 : Exact) = real 0 := by
  rw [ofScientific_eq]
  norm_num

@[simp] theorem one_eq : (1.0 : Exact) = real 1 := by
  rw [ofScientific_eq]
  norm_num

@[simp] theorem two_eq : (2.0 : Exact) = real 2 := by
  rw [ofScientific_eq]
  norm_num

@[simp] theorem real_add : real x + real y = real (x + y) := rfl
@[simp] theorem real_sub : real x - real y = real (x - y) := congrArg real (sub_eq_add_neg x y).symm
@[simp] theorem real_neg : -real x = real (-x) := rfl
@[simp] theorem real_mul : real x * real y = real (x * y) := rfl
@[simp] theorem real_lt {x y : ℝ} : real x < real y ↔ x < y := Iff.rfl
@[simp] theorem real_le {x y : ℝ} : real x ≤ real y ↔ x ≤ y := Iff.rfl
@[simp] theorem real_beq : (real x == real y) = decide (x = y) := rfl
@[simp] theorem isFinite_real : Scalar.isFinite (real x) = true := rfl
@[simp] theorem floor_real : Scalar.floor (real x) = ⌊x⌋ := rfl
@[simp] theorem ceil_real : Scalar.ceil (real x) = real ⌈x⌉ := rfl

theorem real_div {y : ℝ} (h : y ≠ 0) : real x / real y = real (x / y) := if_neg h

@[simp] theorem infinite_neg (s : Bool) : -infinite s = infinite (!s) := rfl

theorem infinite_div {y : ℝ} (s : Bool) (h : 0 < y) : infinite s / real y = infinite s := by
  change infinite (s ^^ decide (y < 0)) = _
  rw [decide_eq_false h.not_gt, Bool.xor_false]

theorem sqrt_real {x : ℝ} (h : 0 ≤ x) : Scalar.sqrt (real x) = real (Real.sqrt x) :=
  if_neg h.not_gt

theorem isNaN_real : Scalar.isNaN (real x) = false := by simp [Scalar.isNaN]

theorem smaller_real : Scalar.smaller (real x) (real y) = real (min x y) := by
  have number : ¬ Scalar.isNaN (real y) = true := by simp [isNaN_real]
  rw [Scalar.smaller, if_neg number]
  by_cases h : x < y
  · rw [if_pos (real_lt.2 h), min_eq_left h.le]
  · rw [if_neg (mt real_lt.1 h), min_eq_right (not_lt.1 h)]

theorem larger_real : Scalar.larger (real x) (real y) = real (max x y) := by
  have number : ¬ Scalar.isNaN (real y) = true := by simp [isNaN_real]
  rw [Scalar.larger, if_neg number]
  by_cases h : y < x
  · rw [if_pos (real_lt.2 h), max_eq_left h.le]
  · rw [if_neg (mt real_lt.1 h), max_eq_right (not_lt.1 h)]

theorem clamp_real (low high : ℝ) :
    Scalar.clamp (real x) (real low) (real high) = real (min (max x low) high) := by
  have raised : (if real x < real low then real low else real x) = real (max x low) := by
    by_cases h : x < low
    · rw [if_pos (real_lt.2 h), max_eq_right h.le]
    · rw [if_neg (mt real_lt.1 h), max_eq_left (not_lt.1 h)]
  rw [Scalar.clamp, raised]
  by_cases h : high < max x low
  · rw [if_pos (real_lt.2 h), min_eq_right h.le]
  · rw [if_neg (mt real_lt.1 h), min_eq_left (not_lt.1 h)]

end Real

section Unreal

theorem exists_real {x : Exact} (h : Scalar.isFinite x = true) : ∃ a, x = real a := by
  cases x with
  | real a => exact ⟨a, rfl⟩
  | infinite | notANumber => cases h

theorem ne_of_isFinite {x : Exact} (h : Scalar.isFinite x = true) : x ≠ notANumber := by
  rintro rfl
  cases h

/-- A sum is real only if both summands are. -/
theorem isFinite_add (x y : Exact) :
    Scalar.isFinite (x + y) = (Scalar.isFinite x && Scalar.isFinite y) := by
  cases x with
  | real a => cases y <;> rfl
  | notANumber => rfl
  | infinite s =>
    cases y with
    | real b => rfl
    | notANumber => rfl
    | infinite t => cases s <;> cases t <;> rfl

theorem isFinite_sub (x y : Exact) :
    Scalar.isFinite (x - y) = (Scalar.isFinite x && Scalar.isFinite y) := by
  have negated : Scalar.isFinite y.neg = Scalar.isFinite y := by cases y <;> rfl
  exact (isFinite_add x y.neg).trans (by rw [negated])

theorem isFinite_scaleInfinity (s : Bool) (a : ℝ) :
    Scalar.isFinite (scaleInfinity s a) = false := by
  rw [scaleInfinity]
  split <;> rfl

theorem isFinite_mul (x y : Exact) :
    Scalar.isFinite (x * y) = (Scalar.isFinite x && Scalar.isFinite y) := by
  cases x with
  | real a =>
    cases y with
    | real b => rfl
    | infinite t => exact isFinite_scaleInfinity t a
    | notANumber => rfl
  | infinite s =>
    cases y with
    | real b => exact isFinite_scaleInfinity s b
    | infinite t => rfl
    | notANumber => rfl
  | notANumber => rfl

/-- A quotient without any real part is not a number. -/
theorem div_of_not_isFinite {x y : Exact} (hx : Scalar.isFinite x = false)
    (hy : Scalar.isFinite y = false) : x / y = notANumber := by
  cases x with
  | real a => cases hx
  | notANumber => rfl
  | infinite s =>
    cases y with
    | real b => cases hy
    | infinite t => rfl
    | notANumber => rfl

protected theorem add_zero (x : Exact) : x + 0.0 = x := by
  rw [zero_eq]
  cases x with
  | real a => simp
  | infinite | notANumber => rfl

protected theorem zero_add (x : Exact) : 0.0 + x = x := by
  rw [zero_eq]
  cases x with
  | real a => simp
  | infinite | notANumber => rfl

@[simp] theorem add_notANumber (x : Exact) : x + notANumber = notANumber := by cases x <;> rfl
@[simp] theorem sub_notANumber (x : Exact) : x - notANumber = notANumber := by cases x <;> rfl
@[simp] theorem mul_notANumber (x : Exact) : x * notANumber = notANumber := by cases x <;> rfl
@[simp] theorem sqrt_notANumber : Scalar.sqrt notANumber = notANumber := rfl

theorem real_add_ne (a : ℝ) {x : Exact} (number : x ≠ notANumber) :
    real a + x ≠ notANumber := by
  cases x with
  | real | infinite => exact nofun
  | notANumber => exact absurd rfl number

theorem real_mul_ne {a : ℝ} (nonzero : a ≠ 0) {x : Exact} (number : x ≠ notANumber) :
    real a * x ≠ notANumber := by
  cases x with
  | real => exact nofun
  | infinite s =>
    change scaleInfinity s a ≠ notANumber
    rw [scaleInfinity, if_neg nonzero]
    exact nofun
  | notANumber => exact absurd rfl number

theorem not_notANumber_lt (x : Exact) : ¬ notANumber < x := id

theorem clamp_notANumber (low high : Exact) :
    Scalar.clamp notANumber low high = notANumber := by
  have notBelow : ¬ notANumber < low := not_notANumber_lt low
  have notAbove : ¬ high < notANumber := by cases high <;> exact id
  rw [Scalar.clamp, if_neg notBelow, if_neg notAbove]

end Unreal

section Order
variable {x y : ℝ} {cell : Exact}

/-- The integer part of a quotient is monotone in the dividend. -/
theorem floor_div_mono (positive : 0.0 < cell) (h : x ≤ y) :
    Scalar.floor (real x / cell) ≤ Scalar.floor (real y / cell) := by
  rw [zero_eq] at positive
  cases cell with
  | real c =>
    have positive : 0 < c := positive
    rw [real_div x positive.ne', real_div y positive.ne', floor_real, floor_real]
    exact Int.floor_mono (div_le_div_of_nonneg_right h positive.le)
  | infinite s => exact le_rfl
  | notANumber => exact positive.elim

end Order

/-! Numbers are in the order of their keys, so they are linearly ordered with the infinities
at both ends. -/
section Number
variable {x y z low high : Exact}

theorem real_le_infinite_iff {a : ℝ} {s : Bool} : real a ≤ infinite s ↔ s = false := Iff.rfl
theorem infinite_le_real_iff {a : ℝ} {s : Bool} : infinite s ≤ real a ↔ s = true := Iff.rfl
theorem infinite_le_infinite_iff {s t : Bool} :
    infinite s ≤ infinite t ↔ s = true ∨ t = false := Iff.rfl
theorem real_lt_infinite_iff {a : ℝ} {s : Bool} : real a < infinite s ↔ s = false := Iff.rfl
theorem infinite_lt_real_iff {a : ℝ} {s : Bool} : infinite s < real a ↔ s = true := Iff.rfl
theorem infinite_lt_infinite_iff {s t : Bool} :
    infinite s < infinite t ↔ s = true ∧ t = false := Iff.rfl

theorem le_iff_key : x ≤ y ↔ x ≠ notANumber ∧ y ≠ notANumber ∧ x.key ≤ y.key := by
  cases x with
  | notANumber => exact ⟨False.elim, fun h => absurd rfl h.1⟩
  | real a =>
    cases y with
    | notANumber => exact ⟨False.elim, fun h => absurd rfl h.2.1⟩
    | real b => simp [key, Prod.Lex.toLex_le_toLex]
    | infinite t => cases t <;> simp [key, Prod.Lex.toLex_le_toLex, real_le_infinite_iff]
  | infinite s =>
    cases y with
    | notANumber => exact ⟨False.elim, fun h => absurd rfl h.2.1⟩
    | real b => cases s <;> simp [key, Prod.Lex.toLex_le_toLex, infinite_le_real_iff]
    | infinite t =>
      cases s <;> cases t <;>
        simp [key, Prod.Lex.toLex_le_toLex, infinite_le_infinite_iff]

theorem lt_iff_key : x < y ↔ x ≠ notANumber ∧ y ≠ notANumber ∧ x.key < y.key := by
  cases x with
  | notANumber => exact ⟨False.elim, fun h => absurd rfl h.1⟩
  | real a =>
    cases y with
    | notANumber => exact ⟨False.elim, fun h => absurd rfl h.2.1⟩
    | real b => simp [key, Prod.Lex.toLex_lt_toLex]
    | infinite t => cases t <;> simp [key, Prod.Lex.toLex_lt_toLex, real_lt_infinite_iff]
  | infinite s =>
    cases y with
    | notANumber => exact ⟨False.elim, fun h => absurd rfl h.2.1⟩
    | real b => cases s <;> simp [key, Prod.Lex.toLex_lt_toLex, infinite_lt_real_iff]
    | infinite t =>
      cases s <;> cases t <;>
        simp [key, Prod.Lex.toLex_lt_toLex, infinite_lt_infinite_iff]

theorem le_self_iff : x ≤ x ↔ x ≠ notANumber := by
  rw [le_iff_key]
  exact ⟨fun h => h.1, fun h => ⟨h, h, le_rfl⟩⟩

protected theorem le_of_lt (h : x < y) : x ≤ y := by
  obtain ⟨hx, hy, hlt⟩ := lt_iff_key.1 h
  exact le_iff_key.2 ⟨hx, hy, hlt.le⟩

protected theorem le_trans (h : x ≤ y) (h' : y ≤ z) : x ≤ z := by
  obtain ⟨hx, -, hxy⟩ := le_iff_key.1 h
  obtain ⟨-, hz, hyz⟩ := le_iff_key.1 h'
  exact le_iff_key.2 ⟨hx, hz, hxy.trans hyz⟩

protected theorem le_antisymm (h : x ≤ y) (h' : y ≤ x) : x = y := by
  obtain ⟨hx, hy, hle⟩ := le_iff_key.1 h
  obtain ⟨-, -, hge⟩ := le_iff_key.1 h'
  have same : x.key = y.key := le_antisymm hle hge
  cases x with
  | notANumber => exact absurd rfl hx
  | real a =>
    cases y with
    | notANumber => exact absurd rfl hy
    | real b => simpa [key] using same
    | infinite t => cases t <;> simp [key] at same
  | infinite s =>
    cases y with
    | notANumber => exact absurd rfl hy
    | real b => cases s <;> simp [key] at same
    | infinite t => cases s <;> cases t <;> simp_all [key]

protected theorem lt_of_lt_of_le (h : x < y) (h' : y ≤ z) : x < z := by
  obtain ⟨hx, -, hxy⟩ := lt_iff_key.1 h
  obtain ⟨-, hz, hyz⟩ := le_iff_key.1 h'
  exact lt_iff_key.2 ⟨hx, hz, hxy.trans_le hyz⟩

protected theorem lt_of_le_of_lt (h : x ≤ y) (h' : y < z) : x < z := by
  obtain ⟨hx, -, hxy⟩ := le_iff_key.1 h
  obtain ⟨-, hz, hyz⟩ := lt_iff_key.1 h'
  exact lt_iff_key.2 ⟨hx, hz, hxy.trans_lt hyz⟩

theorem not_lt_iff (hx : x ≠ notANumber) (hy : y ≠ notANumber) : ¬ x < y ↔ y ≤ x := by
  rw [lt_iff_key, le_iff_key]
  simp [hx, hy]

/-- A number is clamped into an interval. -/
theorem clamp_mem (number : x ≠ notANumber) (h : low ≤ high) :
    low ≤ Scalar.clamp x low high ∧ Scalar.clamp x low high ≤ high := by
  obtain ⟨hlow, hhigh, -⟩ := le_iff_key.1 h
  have clamped {y : Exact} (number : y ≠ notANumber) (above : low ≤ y) :
      low ≤ (if high < y then high else y) ∧ (if high < y then high else y) ≤ high := by
    split
    · exact ⟨h, le_self_iff.2 hhigh⟩
    · next below => exact ⟨above, (not_lt_iff hhigh number).1 below⟩
  rw [Scalar.clamp]
  split
  · exact clamped hlow (le_self_iff.2 hlow)
  · next above => exact clamped number ((not_lt_iff number hlow).1 above)

/-- What lies between real numbers is real. -/
theorem isFinite_of_mem {a b : ℝ} (hlow : real a ≤ x) (hhigh : x ≤ real b) :
    Scalar.isFinite x = true := by
  cases x with
  | real => rfl
  | infinite s =>
    rw [real_le_infinite_iff] at hlow
    rw [infinite_le_real_iff, hlow] at hhigh
    cases hhigh
  | notANumber => cases hlow

/-- What lies in an interval is left as it is. -/
theorem clamp_of_mem (hlow : low ≤ x) (hhigh : x ≤ high) : Scalar.clamp x low high = x := by
  obtain ⟨low', number, -⟩ := le_iff_key.1 hlow
  have notBelow := (not_lt_iff number low').2 hlow
  have notAbove := (not_lt_iff (le_iff_key.1 hhigh).2.1 number).2 hhigh
  rw [Scalar.clamp, if_neg notBelow, if_neg notAbove]

/-- What lies in front of an interval is moved to its start. -/
theorem clamp_of_le (hx : x ≤ low) (h : low ≤ high) : Scalar.clamp x low high = low := by
  obtain ⟨hlow, hhigh, -⟩ := le_iff_key.1 h
  have raised : (if x < low then low else x) = low := by
    split
    · rfl
    · next above => exact Exact.le_antisymm hx ((not_lt_iff (le_iff_key.1 hx).1 hlow).1 above)
  rw [Scalar.clamp, raised]
  exact if_neg ((not_lt_iff hhigh hlow).2 h)

/-- What lies behind an interval is moved to its end. -/
theorem clamp_of_ge (hx : high ≤ x) (h : low ≤ high) : Scalar.clamp x low high = high := by
  obtain ⟨hlow, hhigh, -⟩ := le_iff_key.1 h
  have number := (le_iff_key.1 hx).2.1
  have kept : (if x < low then low else x) = x :=
    if_neg ((not_lt_iff number hlow).2 (Exact.le_trans h hx))
  rw [Scalar.clamp, kept]
  split
  · rfl
  · next below => exact Exact.le_antisymm ((not_lt_iff hhigh number).1 below) hx

end Number

/-! Distances are not negative. They are compared and added as one expects, and a distance
that is not within another one exceeds it by their difference. -/
section Distance
variable {x y : Exact}

@[simp] theorem real_le_infinite (a : ℝ) : real a ≤ infinite false := rfl
@[simp] theorem infinite_le_infinite : infinite false ≤ infinite false := .inr rfl
@[simp] theorem not_infinite_le_real (a : ℝ) : ¬ infinite false ≤ real a := Bool.false_ne_true

theorem nonneg_cases (h : 0.0 ≤ x) : (∃ a, 0 ≤ a ∧ x = real a) ∨ x = infinite false := by
  rw [zero_eq] at h
  cases x with
  | real a => exact .inl ⟨a, h, rfl⟩
  | infinite s =>
    obtain rfl : s = false := h
    exact .inr rfl
  | notANumber => exact h.elim

theorem literal_nonneg (mantissa exponent : ℕ) :
    (0.0 : Exact) ≤ OfScientific.ofScientific mantissa true exponent := by
  rw [zero_eq, ofScientific_eq, real_le, NNRatCast.toOfScientific_def]
  exact NNRat.cast_nonneg _

/-- What exceeds a distance is one. -/
theorem nonneg_of_lt (hx : 0.0 ≤ x) (h : x < y) : 0.0 ≤ y :=
  Exact.le_trans hx (Exact.le_of_lt h)

/-- A sum with a distance is not smaller. -/
theorem le_add (hx : 0.0 ≤ x) (hy : 0.0 ≤ y) : x ≤ x + y := by
  rcases nonneg_cases hx with ⟨a, ha, rfl⟩ | rfl
  · rcases nonneg_cases hy with ⟨b, hb, rfl⟩ | rfl
    · rw [real_add, real_le]
      linarith
    · exact real_le_infinite a
  · rcases nonneg_cases hy with ⟨b, hb, rfl⟩ | rfl
    · exact infinite_le_infinite
    · exact infinite_le_infinite

/-- What is added to a real number can only grow. -/
theorem real_add_le {a b : ℝ} (h : real b ≤ y) : real (a + b) ≤ real a + y := by
  cases y with
  | real c =>
    rw [real_add, real_le]
    linarith [real_le.1 h]
  | infinite s => exact h
  | notANumber => exact h

protected theorem add_nonneg (hx : 0.0 ≤ x) (hy : 0.0 ≤ y) : 0.0 ≤ x + y :=
  Exact.le_trans hx (le_add hx hy)

theorem ne_of_nonneg (hx : 0.0 ≤ x) : x ≠ notANumber := (le_iff_key.1 hx).2.1

/-- A root that is a number is a distance. -/
theorem sqrt_nonneg (number : Scalar.sqrt x ≠ notANumber) : 0.0 ≤ Scalar.sqrt x := by
  rw [zero_eq]
  cases x with
  | real a =>
    rcases lt_or_ge a 0 with negative | positive
    · exact absurd (if_pos negative) number
    · rw [sqrt_real positive]
      exact Real.sqrt_nonneg a
  | infinite s =>
    cases s with
    | false => exact real_le_infinite 0
    | true => exact absurd rfl number
  | notANumber => exact absurd rfl number

/-- The larger one of anything and a distance is a distance. -/
theorem larger_nonneg (x : Exact) (hy : 0.0 ≤ y) : 0.0 ≤ Scalar.larger x y := by
  have number : ¬ Scalar.isNaN y = true := by
    rcases nonneg_cases hy with ⟨b, -, rfl⟩ | rfl
    · simp [isNaN_real]
    · decide
  rw [Scalar.larger, if_neg number]
  split
  · next above => exact nonneg_of_lt hy above
  · exact hy

theorem larger_zero_nonneg (x : Exact) : 0.0 ≤ Scalar.larger x 0.0 :=
  larger_nonneg x (le_self_iff.2 nofun)

theorem le_self (hx : 0.0 ≤ x) : x ≤ x := le_self_iff.2 (ne_of_nonneg hx)

protected theorem not_lt (hx : 0.0 ≤ x) (hy : 0.0 ≤ y) : ¬ x < y ↔ y ≤ x :=
  not_lt_iff (ne_of_nonneg hx) (ne_of_nonneg hy)

/-- A distance that is not within another one exceeds it by their difference. -/
theorem excess_of_not_le (hx : 0.0 ≤ x) (hy : 0.0 ≤ y) (h : ¬ x ≤ y) :
    0.0 ≤ x - y ∧ y + (x - y) = x := by
  rcases nonneg_cases hx with ⟨a, ha, rfl⟩ | rfl
  · rcases nonneg_cases hy with ⟨b, hb, rfl⟩ | rfl
    · rw [real_le] at h
      have excess : 0 ≤ a - b := by linarith
      exact ⟨by simpa using excess, by simp⟩
    · exact absurd (real_le_infinite a) h
  · rcases nonneg_cases hy with ⟨b, hb, rfl⟩ | rfl
    · exact ⟨hx, rfl⟩
    · exact absurd infinite_le_infinite h
end Distance

section Positive
variable {x y : Exact}

theorem pos_cases (h : 0.0 < x) : (∃ a, 0 < a ∧ x = real a) ∨ x = infinite false := by
  rw [zero_eq] at h
  cases x with
  | real a => exact .inl ⟨a, h, rfl⟩
  | infinite s =>
    obtain rfl : s = false := h
    exact .inr rfl
  | notANumber => exact h.elim

protected theorem mul_pos (hx : 0.0 < x) (hy : 0.0 < y) : 0.0 < x * y := by
  have scaled {a : ℝ} (ha : 0 < a) : scaleInfinity false a = infinite false := by
    rw [scaleInfinity, if_neg ha.ne', decide_eq_false ha.not_gt]
    rfl
  rcases pos_cases hx with ⟨a, ha, rfl⟩ | rfl
  · rcases pos_cases hy with ⟨b, hb, rfl⟩ | rfl
    · rw [real_mul, zero_eq, real_lt]
      positivity
    · exact lt_of_lt_of_eq hy (scaled ha).symm
  · rcases pos_cases hy with ⟨b, hb, rfl⟩ | rfl
    · exact lt_of_lt_of_eq hx (scaled hb).symm
    · exact hx

theorem smaller_eq (x y : Exact) : Scalar.smaller x y = x ∨ Scalar.smaller x y = y := by
  rw [Scalar.smaller]
  split
  · exact .inl rfl
  · split
    · exact .inl rfl
    · exact .inr rfl

/-- Half of a positive number, on both sides of zero. -/
theorem half_bounds (hx : 0.0 < x) : -x / 2.0 ≤ 0.0 ∧ (0.0 : Exact) ≤ x / 2.0 := by
  rcases pos_cases hx with ⟨a, ha, rfl⟩ | rfl
  · rw [two_eq, real_neg, real_div _ two_ne_zero, real_div _ two_ne_zero, zero_eq, real_le,
      real_le]
    constructor <;> linarith
  · rw [two_eq, infinite_neg, infinite_div _ two_pos, infinite_div _ two_pos, zero_eq]
    exact ⟨rfl, rfl⟩

end Positive

end Exact
end Roadway
