import Mathlib
import Roadway.Json.Reader
import Roadway.Proofs.Number.Shortest

/-!
# Numerals read back

Whatever layout a writer picks for a double, positional or with an exponent, is a whole
part, a fraction and an exponent, and the reader takes such a numeral apart in the same
way. So it is enough to compare the decimals that the parts denote, and this decimal has
the value of the shortest one of the double. What follows a numeral must not continue it.

## Main definitions

* `Json.Numeral`, `Json.Numeral.Denotes` — the parts of a numeral, and what they denote.
* `Json.Reader.Ends` — a text that does not continue a numeral.
* `Json.Reader.number_finiteText`, `Json.Reader.number_integerText` — numbers read back.
-/
namespace Roadway
open Decimal Scan

section Digits

@[simp] theorem Scan.natOf_digitChars (n : ℕ) : natOf (digitChars n) = n :=
  Nat.ofDigitChars_ten_toDigits

theorem Scan.natOf_append (as bs : List Char) :
    natOf (as ++ bs) = 10 ^ bs.length * natOf as + natOf bs := by
  change Nat.ofDigitChars 10 (as ++ bs) 0 = _
  rw [Nat.ofDigitChars_append, Nat.ofDigitChars_eq_ofDigitChars_zero]
  rfl

theorem Scan.natOf_replicate_zero_append (n : ℕ) (bs : List Char) :
    natOf (List.replicate n '0' ++ bs) = natOf bs := by
  have zeros : natOf (List.replicate n '0') = 10 ^ n * 0 := Nat.ofDigitChars_replicate_zero
  rw [natOf_append, zeros]
  simp

theorem Decimal.isDigit_of_mem_digitChars {n : ℕ} {c : Char} (h : c ∈ digitChars n) :
    isDigit c = true :=
  Nat.isDigit_of_mem_toDigits (by norm_num) le_rfl h

theorem Decimal.digitChars_ne_nil (n : ℕ) : digitChars n ≠ [] := Nat.toDigits_ne_nil

/-- Only zero is written with a zero in front. -/
theorem Decimal.head?_digitChars {n : ℕ} (positive : 0 < n) :
    (digitChars n).head? ≠ some '0' := by
  induction n using Nat.strongRecOn with
  | ind n ih =>
    rcases Nat.lt_or_ge n 10 with digit | more
    · have hchars : digitChars n = [n.digitChar] := Nat.toDigits_of_lt_base digit
      rw [hchars]
      simpa using positive.ne'
    · have hchars : digitChars n = digitChars (n / 10) ++ [(n % 10).digitChar] :=
        Nat.toDigits_of_base_le (by norm_num) more
      rw [hchars, List.head?_append_of_ne_nil _ (digitChars_ne_nil _)]
      exact ih (n / 10) (by omega) (by omega)

/-- A run of digits is taken off as far as it goes. -/
theorem Scan.digits1_append {digits rest : List Char} (nonempty : digits ≠ [])
    (all : ∀ c ∈ digits, isDigit c = true) (stop : ∀ c ∈ rest.head?, isDigit c = false) :
    digits1 (digits ++ rest) = some (digits, rest) := by
  have htake : rest.takeWhile isDigit = [] := by
    cases rest with
    | nil => rfl
    | cons c rest => simp [stop c rfl]
  have hdrop : rest.dropWhile isDigit = rest := by
    cases rest with
    | nil => rfl
    | cons c rest => simp [stop c rfl]
  rw [digits1, List.span_eq_takeWhile_dropWhile, List.takeWhile_append_of_pos all,
    List.dropWhile_append_of_pos all, htake, hdrop, List.append_nil]
  cases digits with
  | nil => exact absurd rfl nonempty
  | cons c digits => rfl

end Digits

namespace Json

/-- The parts of a numeral without its sign. -/
structure Numeral where
  whole : List Char
  fraction : List Char
  exponent : Option ℤ

namespace Numeral

/-- A fraction behind its point, unless it is empty. -/
def fractionText (digits : List Char) : List Char :=
  if digits = [] then [] else '.' :: digits

/-- A signed exponent behind its mark, if there is one. -/
def exponentText : Option ℤ → List Char
  | none => []
  | some e => 'e' :: (if e < 0 then '-' else '+') :: digitChars e.natAbs

def text (n : Numeral) : List Char :=
  n.whole ++ (fractionText n.fraction ++ exponentText n.exponent)

/-- A numeral behind its sign. -/
def signed (negative : Bool) (n : Numeral) : List Char :=
  if negative then '-' :: n.text else n.text

/-- The decimal that a numeral denotes. -/
def decimal (n : Numeral) : Decimal :=
  ⟨natOf (n.whole ++ n.fraction), n.exponent.getD 0 - n.fraction.length⟩

/-- Digits where they belong, and no superfluous zero in front. -/
structure Proper (n : Numeral) : Prop where
  whole : ∀ c ∈ n.whole, isDigit c = true
  fraction : ∀ c ∈ n.fraction, isDigit c = true
  nonempty : n.whole ≠ []
  leading : n.whole = ['0'] ∨ n.whole.head? ≠ some '0'

variable {n : Numeral}

/-- A numeral without its sign begins with a digit. -/
theorem Proper.exists_cons (proper : n.Proper) :
    ∃ c cs, n.text = c :: cs ∧ isDigit c = true := by
  obtain ⟨c, digits, hwhole⟩ := List.exists_cons_of_ne_nil proper.nonempty
  exact ⟨c, _, by rw [text, hwhole, List.cons_append], proper.whole c (by simp [hwhole])⟩

/-- A numeral begins with a digit or a minus sign. -/
theorem Proper.signed_eq_cons (proper : n.Proper) (negative : Bool) :
    ∃ c cs, n.signed negative = c :: cs ∧ (isDigit c = true ∨ c = '-') := by
  cases negative with
  | true => exact ⟨'-', n.text, rfl, .inr rfl⟩
  | false =>
    obtain ⟨c, cs, htext, digit⟩ := proper.exists_cons
    exact ⟨c, cs, htext, .inl digit⟩

end Numeral

namespace Reader
open Numeral

/-- A text that does not continue a numeral. -/
def Ends (rest : List Char) : Prop :=
  ∀ c ∈ rest.head?, isDigit c = false ∧ c ≠ '.' ∧ c ≠ 'e' ∧ c ≠ 'E'

theorem ends_nil : Ends [] := by
  intro c hc
  cases hc

section Parts
variable {rest : List Char}

theorem exponentPart_exponentText (ends : Ends rest) (exponent : Option ℤ) :
    exponentPart (exponentText exponent ++ rest) = some (exponent, rest) := by
  cases exponent with
  | none =>
    cases rest with
    | nil => rfl
    | cons c rest =>
      obtain ⟨-, -, lower, upper⟩ := ends c rfl
      simp [exponentText, exponentPart, lower, upper]
  | some e =>
    have digits : digits1 (digitChars e.natAbs ++ rest) = some (digitChars e.natAbs, rest) :=
      digits1_append (digitChars_ne_nil _) (fun _ h => isDigit_of_mem_digitChars h)
        fun c hc => (ends c hc).1
    by_cases negative : e < 0
    · simp [exponentText, exponentPart, negative, digits, abs_of_neg negative]
    · simp [exponentText, exponentPart, negative, digits, abs_of_nonneg (not_lt.1 negative)]

/-- The character behind the digits before an exponent. -/
theorem exponentText_stops (ends : Ends rest) (exponent : Option ℤ) :
    ∀ c ∈ (exponentText exponent ++ rest).head?, isDigit c = false ∧ c ≠ '.' := by
  intro c hc
  cases exponent with
  | none => exact ⟨(ends c hc).1, (ends c hc).2.1⟩
  | some e =>
    cases hc
    decide

theorem fractionPart_fractionText {digits : List Char} (all : ∀ c ∈ digits, isDigit c = true)
    (stops : ∀ c ∈ rest.head?, isDigit c = false ∧ c ≠ '.') :
    fractionPart (fractionText digits ++ rest) = some (digits, rest) := by
  by_cases empty : digits = []
  · rw [fractionText, if_pos empty, empty, List.nil_append]
    cases rest with
    | nil => rfl
    | cons c rest => simp [fractionPart, (stops c rfl).2]
  · rw [fractionText, if_neg empty]
    exact digits1_append empty all fun c hc => (stops c hc).1

/-- The character behind the digits before a fraction. -/
theorem fractionText_stops (digits : List Char) (stops : ∀ c ∈ rest.head?, isDigit c = false) :
    ∀ c ∈ (fractionText digits ++ rest).head?, isDigit c = false := by
  intro c hc
  by_cases empty : digits = []
  · rw [fractionText, if_pos empty] at hc
    exact stops c hc
  · rw [fractionText, if_neg empty] at hc
    cases hc
    decide

theorem wholePart_append {digits : List Char} (nonempty : digits ≠ [])
    (all : ∀ c ∈ digits, isDigit c = true) (leading : digits = ['0'] ∨ digits.head? ≠ some '0')
    (stops : ∀ c ∈ rest.head?, isDigit c = false) :
    wholePart (digits ++ rest) = some (digits, rest) := by
  rw [wholePart, digits1_append nonempty all stops]
  rcases leading with rfl | leading
  · rfl
  · split
    · next superfluous =>
      cases superfluous
      exact absurd rfl leading
    · rfl

end Parts

/-- A numeral is taken apart into the parts it was made of. -/
theorem number_signed {n : Numeral} (proper : n.Proper) {rest : List Char} (ends : Ends rest)
    (negative : Bool) :
    number (n.signed negative ++ rest) =
      (numeral negative n.whole n.fraction n.exponent).map (·, rest) := by
  have hexponent := exponentPart_exponentText ends n.exponent
  have hstops := exponentText_stops ends n.exponent
  have hfraction := fractionPart_fractionText proper.fraction hstops
  have hwhole := wholePart_append proper.nonempty proper.whole proper.leading
    (fractionText_stops n.fraction fun c hc => (hstops c hc).1)
  have htext : n.text ++ rest =
      n.whole ++ (fractionText n.fraction ++ (exponentText n.exponent ++ rest)) := by
    simp [Numeral.text]
  obtain ⟨c, cs, hcs, digit⟩ := proper.exists_cons
  have hc : c ≠ '-' := by
    rintro rfl
    cases digit
  rw [← htext, hcs, List.cons_append] at hwhole
  cases negative with
  | true => simp [number, signed, hcs, hwhole, hfraction, hexponent]
  | false => simp [number, signed, hcs, hc, hwhole, hfraction, hexponent]

end Reader

namespace Numeral

/-- A numeral of a double: well formed, with a fraction or an exponent, and of the value
of a decimal. -/
structure Denotes (n : Numeral) (d : Decimal) : Prop extends n.Proper where
  marked : n.fraction ≠ [] ∨ n.exponent ≠ none
  value : n.decimal.value = d.value

/-- Digits of which the first one is not zero. -/
structure Significant (digits : List Char) : Prop where
  all : ∀ c ∈ digits, isDigit c = true
  nonempty : digits ≠ []
  leading : digits.head? ≠ some '0'

theorem significant_digitChars {n : ℕ} (positive : 0 < n) : Significant (digitChars n) where
  all := fun _ h => isDigit_of_mem_digitChars h
  nonempty := digitChars_ne_nil n
  leading := head?_digitChars positive

theorem isDigit_of_mem_zeros (zeros : ℕ) {c : Char} (h : c ∈ List.replicate zeros '0') :
    isDigit c = true := by
  rw [List.eq_of_mem_replicate h]
  decide

section Layout
variable {digits before after : List Char}

/-- Digits to the right of the point, behind zeros. -/
theorem denotes_fraction (h : Significant digits) (zeros : ℕ) :
    Denotes ⟨['0'], List.replicate zeros '0' ++ digits, none⟩
      ⟨natOf digits, -(zeros + digits.length : ℕ)⟩ where
  whole := fun _ => isDigit_of_mem_zeros 1
  fraction := by
    intro c hc
    rcases List.mem_append.1 hc with zero | digit
    · exact isDigit_of_mem_zeros _ zero
    · exact h.all c digit
  nonempty := by simp
  leading := .inl rfl
  marked := .inl (by simp [h.nonempty])
  value := by
    have hnat := natOf_replicate_zero_append (zeros + 1) digits
    rw [List.replicate_succ, List.cons_append] at hnat
    simp [decimal, Decimal.value, hnat]

/-- Digits to the left of the point, with zeros behind them. -/
theorem denotes_whole (h : Significant digits) (zeros : ℕ) :
    Denotes ⟨digits ++ List.replicate zeros '0', ['0'], none⟩ ⟨natOf digits, zeros⟩ where
  whole := by
    intro c hc
    rcases List.mem_append.1 hc with digit | zero
    · exact h.all c digit
    · exact isDigit_of_mem_zeros _ zero
  fraction := fun _ => isDigit_of_mem_zeros 1
  nonempty := by simp [h.nonempty]
  leading := .inr (by rw [List.head?_append_of_ne_nil _ h.nonempty]; exact h.leading)
  marked := .inl (by simp)
  value := by
    have hzeros : List.replicate zeros '0' ++ ['0'] = List.replicate (zeros + 1) '0' ++ [] := by
      rw [List.append_nil, ← List.replicate_succ']
    have hnat : natOf (digits ++ (List.replicate zeros '0' ++ ['0'])) =
        10 ^ (zeros + 1) * natOf digits := by
      rw [natOf_append, hzeros, natOf_replicate_zero_append]
      simp [natOf]
    simp [decimal, Decimal.value, hnat, pow_succ, zpow_neg]
    ring

/-- Digits on both sides of the point. -/
theorem denotes_split (h : Significant (before ++ after)) (left : before ≠ [])
    (right : after ≠ []) :
    Denotes ⟨before, after, none⟩ ⟨natOf (before ++ after), -after.length⟩ where
  whole := fun c hc => h.all c (List.mem_append_left _ hc)
  fraction := fun c hc => h.all c (List.mem_append_right _ hc)
  nonempty := left
  leading := .inr (by rw [← List.head?_append_of_ne_nil _ left]; exact h.leading)
  marked := .inl right
  value := by simp [decimal]

/-- One digit before the point, and an exponent. -/
theorem denotes_scientific {c : Char} (h : Significant (c :: after)) (exponent : ℤ) :
    Denotes ⟨[c], after, some exponent⟩ ⟨natOf (c :: after), exponent - after.length⟩ where
  whole := by
    intro d hd
    exact h.all d (List.mem_cons.2 (.inl (List.mem_singleton.1 hd)))
  fraction := fun d hd => h.all d (List.mem_cons_of_mem c hd)
  nonempty := by simp
  leading := .inr h.leading
  marked := .inr (by simp)
  value := rfl

/-- Every positional numeral denotes its digits at the place of its point. -/
theorem exists_positional (h : Significant digits) (exponent : ℤ) :
    ∃ n : Numeral, n.Denotes ⟨natOf digits, exponent⟩ ∧
      n.text = positional digits (digits.length + exponent) ['.', '0'] := by
  have hlength := List.length_pos_of_ne_nil h.nonempty
  -- The point lies before the digits, behind them, or between two of them.
  by_cases small : digits.length + exponent ≤ 0
  · have hzeros : exponent = -((-(digits.length + exponent)).toNat + digits.length : ℕ) := by
      omega
    have denotes := denotes_fraction h (-(digits.length + exponent)).toNat
    rw [← hzeros] at denotes
    refine ⟨_, denotes, ?_⟩
    rw [positional, if_pos small]
    simp [Numeral.text, fractionText, exponentText, h.nonempty]
  · by_cases wide : digits.length ≤ (digits.length + exponent).toNat
    · have hzeros : exponent = ((digits.length + exponent).toNat - digits.length : ℕ) := by omega
      have denotes := denotes_whole h ((digits.length + exponent).toNat - digits.length)
      rw [← hzeros] at denotes
      refine ⟨_, denotes, ?_⟩
      rw [positional, if_neg small, if_pos wide]
      simp [Numeral.text, fractionText, exponentText]
    · have hpoint : (digits.length + exponent).toNat < digits.length := by omega
      have hafter : exponent = -(digits.drop (digits.length + exponent).toNat).length := by
        rw [List.length_drop]
        omega
      have hdigits := List.take_append_drop (digits.length + exponent).toNat digits
      have left : digits.take (digits.length + exponent).toNat ≠ [] :=
        List.ne_nil_of_length_pos (by rw [List.length_take]; omega)
      have right : digits.drop (digits.length + exponent).toNat ≠ [] :=
        List.ne_nil_of_length_pos (by rw [List.length_drop]; omega)
      have denotes := denotes_split (hdigits.symm ▸ h) left right
      rw [hdigits, ← hafter] at denotes
      refine ⟨_, denotes, ?_⟩
      rw [positional, if_neg small, if_neg wide]
      simp [Numeral.text, fractionText, exponentText, right]

/-- Every numeral with an exponent denotes its digits at the place of its point. -/
theorem exists_scientific (h : Significant digits) (exponent : ℤ) :
    ∃ n : Numeral, n.Denotes ⟨natOf digits, exponent⟩ ∧
      n.text = scientific digits (digits.length + exponent) := by
  obtain ⟨c, after, rfl⟩ := List.exists_cons_of_ne_nil h.nonempty
  have denotes := denotes_scientific h ((c :: after).length + exponent - 1)
  have hexponent : ((c :: after).length + exponent - 1 : ℤ) - after.length = exponent := by
    simp
    ring
  rw [hexponent] at denotes
  refine ⟨_, denotes, ?_⟩
  cases after with
  | nil => simp [Numeral.text, fractionText, exponentText, scientific]
  | cons d after => simp [Numeral.text, fractionText, exponentText, scientific]

/-- Every numeral of a double denotes its shortest decimal. -/
theorem exists_magnitudeText (x : Float) : ∃ n : Numeral,
    n.Denotes (shortest .toEven (Binary64.magnitude x)) ∧
      n.text = NumeralStyle.wire.magnitudeText x := by
  have htie : NumeralStyle.wire.tie = .toEven := rfl
  have hwhole : NumeralStyle.wire.whole = ['.', '0'] := rfl
  have hwindow : NumeralStyle.wire.window = some (-4, 16) := rfl
  rw [NumeralStyle.magnitudeText, htie, hwhole, hwindow]
  generalize shortest .toEven (Binary64.magnitude x) = d
  dsimp only
  by_cases zero : d.digits = 0
  · rw [if_pos zero]
    have digit : ∀ c ∈ ['0'], isDigit c = true := fun _ => isDigit_of_mem_zeros 1
    refine ⟨⟨['0'], ['0'], none⟩, ⟨⟨digit, digit, List.cons_ne_nil _ _, .inl rfl⟩, ?_, ?_⟩, rfl⟩
    · exact .inl (List.cons_ne_nil _ _)
    · simp [decimal, Decimal.value, zero, natOf]
  · have h := significant_digitChars (Nat.pos_of_ne_zero zero)
    rw [if_neg zero]
    split
    · simpa using exists_positional h d.exponent
    · simpa using exists_scientific h d.exponent

end Layout

/-- Every text of a double is a signed numeral. -/
theorem exists_finiteText (x : Float) : ∃ n : Numeral,
    n.Denotes (shortest .toEven (Binary64.magnitude x)) ∧
      n.signed (Binary64.isNegative x) = NumeralStyle.wire.finiteText x := by
  obtain ⟨n, denotes, htext⟩ := exists_magnitudeText x
  refine ⟨n, denotes, ?_⟩
  rw [signed, NumeralStyle.finiteText, htext]

/-- The numeral of an integer has neither fraction nor exponent. -/
def ofInteger (n : ℤ) : Numeral := ⟨digitChars n.natAbs, [], none⟩

theorem proper_ofInteger (n : ℤ) : (ofInteger n).Proper where
  whole := fun _ => isDigit_of_mem_digitChars
  fraction := by simp [ofInteger]
  nonempty := digitChars_ne_nil _
  leading := by
    rcases Nat.eq_zero_or_pos n.natAbs with zero | positive
    · exact .inl (by rw [ofInteger, zero]; rfl)
    · exact .inr (head?_digitChars positive)

theorem signed_ofInteger (n : ℤ) : (ofInteger n).signed (decide (n < 0)) = integerText n := by
  by_cases negative : n < 0 <;>
    simp [signed, integerText, negative, text, ofInteger, fractionText, exponentText]

end Numeral

namespace Reader

/-- A finite double reads back from its text. -/
theorem number_finiteText {x : Float} (finite : x.isFinite = true) {rest : List Char}
    (ends : Ends rest) :
    number (NumeralStyle.wire.finiteText x ++ rest) = some (.real x, rest) := by
  obtain ⟨n, denotes, htext⟩ := Numeral.exists_finiteText x
  have hdouble : toDouble (Binary64.isNegative x) n.decimal = x :=
    toDouble_of_value finite denotes.value
  have hnumeral : numeral (Binary64.isNegative x) n.whole n.fraction n.exponent =
      some (.real x) := by
    rw [numeral, if_neg fun h => denotes.marked.elim (absurd h.1) (absurd h.2.1)]
    rw [Numeral.decimal] at hdouble
    rw [hdouble, if_pos finite]
  rw [← htext, number_signed denotes.toProper ends, hnumeral]
  rfl

/-- An integer within 64 bits reads back from its text. -/
theorem number_integerText {n : ℤ} (least : -2 ^ 63 ≤ n) (greatest : n < 2 ^ 64)
    {rest : List Char} (ends : Ends rest) :
    number (integerText n ++ rest) = some (.integer n, rest) := by
  have hnumeral : numeral (decide (n < 0)) (digitChars n.natAbs) [] none = some (.integer n) := by
    rw [numeral, natOf_digitChars, twoPow_eq, twoPow_eq]
    by_cases negative : n < 0
    · have fits : 0 < n.natAbs ∧ n.natAbs ≤ 2 ^ 63 := by omega
      have habs : -(n.natAbs : ℤ) = n := by omega
      simp only [negative, decide_true, if_true, fits, and_self, habs]
    · have fits : n.natAbs < 2 ^ 64 := by omega
      have habs : (n.natAbs : ℤ) = n := by omega
      simp only [negative, decide_false, Bool.false_eq_true, if_false, fits, and_self, if_true,
        habs]
  rw [← Numeral.signed_ofInteger, number_signed (Numeral.proper_ofInteger n) ends]
  exact congrArg (Option.map _) hnumeral

end Reader
end Json
end Roadway
