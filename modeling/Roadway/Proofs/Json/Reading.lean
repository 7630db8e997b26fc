import Mathlib
import Roadway.Json.Record
import Roadway.Proofs.Json.Numeral

/-!
# Written JSON reads back

A value that is written without blanks reads back as itself, provided that its doubles are
finite, its integers fit into 64 bits and it does not nest too deep. Inside an array or an
object a value is followed by a comma or a bracket, and neither continues a numeral. The
text of a value is a single line: everything below the space is escaped in strings, and
there are no blanks between the parts.

## Main definitions

* `Json.Fits` — the values that read back.
* `Json.read?_compact` — such a value reads back from its text.
* `Json.printable_render` — no character of a written value is a control character.
-/
namespace Roadway.Json
open Decimal Scan

namespace Reader

section Strings

theorem hexValue?_hexDigit {n : ℕ} (h : n < 16) : Scan.hexValue? (hexDigit n) = some n := by
  decide +revert

/-- An escaped character reads back, whatever follows it. -/
theorem text_escapeChar (c : Char) (fuel : ℕ) (rest : List Char) :
    text (fuel + 1) (escapeChar c ++ rest) =
      (text fuel rest).map fun (cs, r) => (c :: cs, r) := by
  rw [escapeChar]
  split_ifs with quote backslash backspace feed line carriage tab control
  · simp [text, escape, unescape?, quote]
  · simp [text, escape, unescape?, backslash]
  · simp [text, escape, unescape?, backspace]
  · simp [text, escape, unescape?, feed]
  · simp [text, escape, unescape?, line]
  · simp [text, escape, unescape?, carriage]
  · simp [text, escape, unescape?, tab]
  · have high := hexValue?_hexDigit (show c.toNat / 16 < 16 by omega)
    have low := hexValue?_hexDigit (show c.toNat % 16 < 16 by omega)
    have zero : Scan.hexValue? '0' = some 0 := by decide
    have hcode : c.toNat / 16 * 16 + c.toNat % 16 = c.toNat := by omega
    have hhigh : isHighSurrogate c.toNat = false := by
      simp only [isHighSurrogate, Bool.and_eq_false_iff, decide_eq_false_iff_not]
      omega
    have hlow : isLowSurrogate c.toNat = false := by
      simp only [isLowSurrogate, Bool.and_eq_false_iff, decide_eq_false_iff_not]
      omega
    simp [text, escape, codedChar, hexWord, high, low, zero, hcode, hhigh, hlow]
  · simp [text, quote, backslash, control]

/-- An escaped text reads back up to its closing quote. -/
theorem text_escaped (cs rest : List Char) {fuel : ℕ} (enough : cs.length < fuel) :
    text fuel (cs.flatMap escapeChar ++ '"' :: rest) = some (cs, rest) := by
  induction cs generalizing fuel with
  | nil =>
    obtain ⟨fuel, rfl⟩ : ∃ n, fuel = n + 1 := ⟨fuel - 1, by omega⟩
    simp [text]
  | cons c cs ih =>
    obtain ⟨fuel, rfl⟩ : ∃ n, fuel = n + 1 := ⟨fuel - 1, by omega⟩
    rw [List.flatMap_cons, List.append_assoc, text_escapeChar, ih (by simpa using enough)]
    rfl

theorem length_le_flatMap_escapeChar (cs : List Char) :
    cs.length ≤ (cs.flatMap escapeChar).length := by
  induction cs with
  | nil => exact le_rfl
  | cons c cs ih =>
    have nonempty : 0 < (escapeChar c).length := by
      rw [escapeChar]
      split_ifs <;> simp
    simp only [List.flatMap_cons, List.length_append, List.length_cons]
    omega

/-- A string reads back from its quoted text. -/
theorem string_quoted (s : String) (rest : List Char) :
    string (quoted s ++ rest) = some (s, rest) := by
  have htext : quoted s ++ rest = '"' :: (s.toList.flatMap escapeChar ++ '"' :: rest) := by
    simp [quoted]
  have enough : s.toList.length < (s.toList.flatMap escapeChar ++ '"' :: rest).length + 1 := by
    have := length_le_flatMap_escapeChar s.toList
    rw [List.length_append]
    omega
  rw [htext, string, text_escaped _ _ enough]
  simp

end Strings

section Sequences
variable {β : Type} {item : Scanner β} {write : β → List Char} {close : Char}

/-- A text that begins like a value: with a character, and neither with a blank nor with a
closing bracket. -/
def Opens (cs : List Char) : Prop :=
  ∃ c rest, cs = c :: rest ∧ isBlank c = false ∧ c ≠ ']' ∧ c ≠ '}'

theorem skip_of_opens {cs : List Char} (opens : Opens cs) (rest : List Char) :
    skip (cs ++ rest) = cs ++ rest := by
  obtain ⟨c, tail, rfl, solid, -⟩ := opens
  simp [skip, solid]

/-- The text of items with commas between them. -/
def commas (write : β → List Char) (xs : List β) : List Char := [','].intercalate (xs.map write)

theorem commas_cons_cons (x y : β) (xs : List β) :
    commas write (x :: y :: xs) = write x ++ ',' :: commas write (y :: xs) := by
  simp [commas, List.intercalate]

/-- A scanner reads back what a writer writes, if what follows ends it. -/
def Undoes (item : Scanner β) (write : β → List Char) (x : β) : Prop :=
  Opens (write x) ∧ ∀ rest, Ends rest → item (write x ++ rest) = some (x, rest)

/-- A closing bracket. -/
def Closes (close : Char) : Prop := close = ']' ∨ close = '}'

theorem Closes.ends (h : Closes close) (rest : List Char) : Ends (close :: rest) := by
  rintro c ⟨⟩
  rcases h with rfl | rfl <;> decide

theorem ends_comma (rest : List Char) : Ends (',' :: rest) := by
  rintro c ⟨⟩
  decide

/-- Items read back up to a closing bracket, one after the other. -/
theorem items_commas (h : Closes close) {xs : List β} (nonempty : xs ≠ [])
    (undoes : ∀ x ∈ xs, Undoes item write x) {fuel : ℕ} (enough : xs.length ≤ fuel)
    (rest : List Char) :
    items item close fuel (commas write xs ++ close :: rest) = some (xs, rest) := by
  induction xs generalizing fuel with
  | nil => exact absurd rfl nonempty
  | cons x xs ih =>
    obtain ⟨fuel, rfl⟩ : ∃ n, fuel = n + 1 := ⟨fuel - 1, by simp at enough; omega⟩
    obtain ⟨-, hx⟩ := undoes x (by simp)
    cases xs with
    | nil =>
      have solid : isBlank close = false := by rcases h with rfl | rfl <;> decide
      have htext : commas write [x] = write x := by simp [commas]
      rw [htext, items, hx _ (h.ends rest)]
      simp [skip, solid]
    | cons y ys =>
      have hcomma : ',' ≠ close := by rcases h with rfl | rfl <;> decide
      have hrest := ih (by simp) (fun z hz => undoes z (List.mem_cons_of_mem x hz))
        (Nat.le_of_succ_le_succ enough)
      rw [commas_cons_cons, List.append_assoc, List.cons_append, items, hx _ (ends_comma _)]
      simp [skip, isBlank, hcomma, hrest]

theorem length_le_commas {xs : List β} (undoes : ∀ x ∈ xs, Undoes item write x) :
    xs.length ≤ (commas write xs).length := by
  induction xs with
  | nil => simp
  | cons x xs ih =>
    obtain ⟨⟨c, tail, htext, -⟩, -⟩ := undoes x (by simp)
    have := ih fun y hy => undoes y (List.mem_cons_of_mem x hy)
    cases xs with
    | nil => simp [commas, htext]
    | cons y ys =>
      rw [commas_cons_cons, htext]
      simp only [List.length_append, List.length_cons] at this ⊢
      omega

/-- Perhaps no items at all. -/
theorem sequence_commas (h : Closes close) {xs : List β}
    (undoes : ∀ x ∈ xs, Undoes item write x) (rest : List Char) :
    sequence item close (commas write xs ++ close :: rest) = some (xs, rest) := by
  cases xs with
  | nil =>
    have solid : isBlank close = false := by rcases h with rfl | rfl <;> decide
    simp [commas, sequence, skip, solid]
  | cons x xs =>
    have enough : (x :: xs).length ≤ (commas write (x :: xs) ++ close :: rest).length := by
      have := length_le_commas undoes
      rw [List.length_append]
      omega
    have hitems := items_commas h (by simp) undoes enough rest
    obtain ⟨⟨c, tail, hwrite, solid, square, curly⟩, -⟩ := undoes x (by simp)
    have hclose : c ≠ close := by rcases h with rfl | rfl <;> assumption
    obtain ⟨more, htext⟩ : ∃ more, commas write (x :: xs) ++ close :: rest = c :: more := by
      cases xs with
      | nil => exact ⟨tail ++ close :: rest, by simp [commas, hwrite]⟩
      | cons y ys =>
        rw [commas_cons_cons, hwrite]
        exact ⟨_, rfl⟩
    rw [htext] at hitems ⊢
    have hskip : skip (c :: more) = c :: more := by simp [skip, solid]
    rw [sequence, hskip]
    simpa [hclose] using hitems

end Sequences

section Values
variable {depth : ℕ}

/-- Where no array and no object begins, a scalar is read. -/
theorem value_eq_scalar {cs : List Char} (opens : Opens cs) (rest : List Char)
    (square : cs.head? ≠ some '[') (curly : cs.head? ≠ some '\x7b') :
    value depth (cs ++ rest) = scalar (cs ++ rest) := by
  have hskip := skip_of_opens opens rest
  obtain ⟨c, tail, rfl, -⟩ := opens
  cases depth with
  | zero => rw [value, hskip]
  | succ depth =>
    rw [value, hskip]
    simp at square curly
    simp [square, curly]

/-- A digit or a minus sign is no other character. -/
theorem ne_of_numeric {c d : Char} (numeric : isDigit c = true ∨ c = '-')
    (letter : isDigit d = false) (sign : d ≠ '-') : c ≠ d := by
  rintro rfl
  rcases numeric with digit | rfl
  · rw [digit] at letter
    cases letter
  · exact sign rfl

theorem opens_signed {n : Numeral} (proper : n.Proper) (negative : Bool) :
    Opens (n.signed negative) := by
  obtain ⟨c, cs, hcs, numeric⟩ := proper.signed_eq_cons negative
  refine ⟨c, cs, hcs, ?_, ne_of_numeric numeric (by decide) (by decide),
    ne_of_numeric numeric (by decide) (by decide)⟩
  have space : c ≠ ' ' := ne_of_numeric numeric (by decide) (by decide)
  have tab : c ≠ '\t' := ne_of_numeric numeric (by decide) (by decide)
  have line : c ≠ '\n' := ne_of_numeric numeric (by decide) (by decide)
  have carriage : c ≠ '\r' := ne_of_numeric numeric (by decide) (by decide)
  simp [isBlank, space, tab, line, carriage]

/-- Where a numeral begins, a number is read. -/
theorem value_signed {n : Numeral} (proper : n.Proper) (negative : Bool) (rest : List Char) :
    value depth (n.signed negative ++ rest) = number (n.signed negative ++ rest) := by
  have opens := opens_signed proper negative
  obtain ⟨c, cs, hcs, numeric⟩ := proper.signed_eq_cons negative
  have square : c ≠ '[' := ne_of_numeric numeric (by decide) (by decide)
  have curly : c ≠ '\x7b' := ne_of_numeric numeric (by decide) (by decide)
  have quote : c ≠ '"' := ne_of_numeric numeric (by decide) (by decide)
  have null : c ≠ 'n' := ne_of_numeric numeric (by decide) (by decide)
  have yes : c ≠ 't' := ne_of_numeric numeric (by decide) (by decide)
  have no : c ≠ 'f' := ne_of_numeric numeric (by decide) (by decide)
  rw [value_eq_scalar opens rest (by simpa [hcs] using square) (by simpa [hcs] using curly), hcs]
  simp [scalar, quote, null, yes, no]

end Values

end Reader

/-- The values that read back: finite doubles, integers of 64 bits, signed or unsigned, and
at most as deep as given. -/
inductive Fits : ℕ → Json → Prop
  | null {depth : ℕ} : Fits depth null
  | bool {depth : ℕ} (b : Bool) : Fits depth (bool b)
  | integer {depth : ℕ} {n : ℤ} (least : -2 ^ 63 ≤ n) (greatest : n < 2 ^ 64) :
      Fits depth (integer n)
  | real {depth : ℕ} {x : Float} (finite : x.isFinite = true) : Fits depth (real x)
  | string {depth : ℕ} (s : String) : Fits depth (string s)
  | array {depth : ℕ} {items : List Json} (fits : ∀ j ∈ items, Fits depth j) :
      Fits (depth + 1) (array items)
  | object {depth : ℕ} {members : List (String × Json)} (fits : ∀ m ∈ members, Fits depth m.2) :
      Fits (depth + 1) (object members)

theorem fits_ofNat {depth n : ℕ} (h : n < 2 ^ 64) : Fits depth (ofNat n) :=
  .integer (by omega) (by exact_mod_cast h)

theorem fits_list {depth : ℕ} {β : Type} {write : β → Json} {xs : List β}
    (h : ∀ x ∈ xs, Fits depth (write x)) : Fits (depth + 1) (.array (xs.map write)) := by
  refine .array fun j hj => ?_
  obtain ⟨x, hx, rfl⟩ := List.mem_map.1 hj
  exact h x hx

/-- The text of a member. -/
def renderMember (m : String × Json) : List Char := quoted m.1 ++ ':' :: render m.2

open Reader

theorem renderItems_eq (items : List Json) : renderItems items = commas render items := by
  induction items with
  | nil => rfl
  | cons j items ih =>
    cases items with
    | nil => simp [renderItems, commas]
    | cons k items => rw [renderItems, ih, commas_cons_cons]

theorem renderMembers_eq (members : List (String × Json)) :
    renderMembers members = commas renderMember members := by
  induction members with
  | nil => rfl
  | cons m members ih =>
    cases members with
    | nil => simp [renderMembers, commas, renderMember]
    | cons k members =>
      rw [renderMembers, ih, commas_cons_cons, renderMember]

theorem opens_render (j : Json) : Opens j.render := by
  cases j with
  | null => exact ⟨'n', _, rfl, by decide⟩
  | bool b => cases b <;> exact ⟨_, _, rfl, by decide⟩
  | integer n =>
    rw [render, ← Numeral.signed_ofInteger]
    exact opens_signed (Numeral.proper_ofInteger n) _
  | real x =>
    by_cases finite : x.isFinite = true
    · obtain ⟨n, denotes, htext⟩ := Numeral.exists_finiteText x
      rw [render, realText, if_pos finite, ← htext]
      exact opens_signed denotes.toProper _
    · rw [render, realText, if_neg finite]
      exact ⟨'n', _, rfl, by decide⟩
  | string s => exact ⟨'"', _, rfl, by decide⟩
  | array items => exact ⟨'[', _, rfl, by decide⟩
  | object members => exact ⟨'\x7b', _, rfl, by decide⟩

/-- A member reads back if its value does. -/
theorem undoes_member {item : Scanner Json} {m : String × Json} (undoes : Undoes item render m.2) :
    Undoes (member item) renderMember m := by
  refine ⟨⟨'"', _, rfl, by decide⟩, fun rest ends => ?_⟩
  have htext : renderMember m ++ rest = quoted m.1 ++ ':' :: (render m.2 ++ rest) := by
    simp [renderMember]
  have hskip : skip (quoted m.1 ++ ':' :: (render m.2 ++ rest)) =
      quoted m.1 ++ ':' :: (render m.2 ++ rest) := skip_of_opens ⟨'"', _, rfl, by decide⟩ _
  rw [htext, member, hskip, string_quoted]
  simp [skip, isBlank, undoes.2 rest ends]

/-- A value that fits reads back from its text, if what follows ends it. -/
theorem undoes_value {depth : ℕ} {j : Json} (fits : Fits depth j) :
    Undoes (value depth) render j := by
  refine ⟨opens_render j, ?_⟩
  induction fits with
  | null =>
    intro rest _
    rw [value_eq_scalar (opens_render .null) rest (by decide) (by decide)]
    simp [render, scalar, word]
  | bool b =>
    intro rest _
    cases b with
    | false =>
      rw [value_eq_scalar (opens_render (.bool false)) rest (by decide) (by decide)]
      simp [render, scalar, word]
    | true =>
      rw [value_eq_scalar (opens_render (.bool true)) rest (by decide) (by decide)]
      simp [render, scalar, word]
  | integer least greatest =>
    intro rest ends
    rw [render, ← number_integerText least greatest ends, ← Numeral.signed_ofInteger]
    exact value_signed (Numeral.proper_ofInteger _) _ rest
  | @real depth x finite =>
    intro rest ends
    obtain ⟨n, denotes, htext⟩ := Numeral.exists_finiteText x
    rw [render, realText, if_pos finite, ← number_finiteText finite ends, ← htext]
    exact value_signed denotes.toProper _ rest
  | string s =>
    intro rest _
    have square : (string s).render.head? ≠ some '[' := by simp [render, quoted]
    have curly : (string s).render.head? ≠ some '\x7b' := by simp [render, quoted]
    have hquoted := string_quoted s rest
    rw [value_eq_scalar (opens_render (.string s)) rest square curly, render]
    rw [quoted, List.cons_append] at hquoted ⊢
    rw [scalar, hquoted]
    rfl
  | @array depth items fits ih =>
    intro rest _
    have undoes : ∀ j ∈ items, Undoes (value depth) render j :=
      fun j hj => ⟨opens_render j, ih j hj⟩
    have hitems := sequence_commas (.inl rfl) undoes rest
    rw [render, renderItems_eq]
    simp [Reader.value, skip, isBlank, hitems]
  | @object depth members fits ih =>
    intro rest _
    have undoes : ∀ m ∈ members, Undoes (member (value depth)) renderMember m :=
      fun m hm => undoes_member ⟨opens_render m.2, ih m hm⟩
    have hmembers := sequence_commas (.inr rfl) undoes rest
    rw [render, renderMembers_eq]
    simp [Reader.value, skip, isBlank, hmembers]

/-- A value that fits reads back from its line. -/
theorem read?_compact {j : Json} (fits : Fits maxDepth j) : read? j.compact = some j := by
  have hvalue := (undoes_value fits).2 [] ends_nil
  rw [List.append_nil] at hvalue
  rw [read?, compact, String.toList_ofList, ofChars?, hvalue]
  rfl

section Printable

/-- No character is a control character. -/
def Printable (cs : List Char) : Prop := ∀ c ∈ cs, 32 ≤ c.toNat

theorem Printable.append {as bs : List Char} (ha : Printable as) (hb : Printable bs) :
    Printable (as ++ bs) :=
  fun c hc => (List.mem_append.1 hc).elim (ha c) (hb c)

theorem Printable.cons {c : Char} {cs : List Char} (hc : 32 ≤ c.toNat) (hcs : Printable cs) :
    Printable (c :: cs) :=
  List.forall_mem_cons.2 ⟨hc, hcs⟩

theorem printable_digits {cs : List Char} (h : ∀ c ∈ cs, isDigit c = true) : Printable cs := by
  intro c hc
  have digit := h c hc
  simp only [isDigit, Bool.and_eq_true, decide_eq_true_eq] at digit
  have least : '0'.toNat ≤ c.toNat := digit.1
  exact le_trans (by decide) least

theorem printable_signed {n : Numeral} (proper : n.Proper) (negative : Bool) :
    Printable (n.signed negative) := by
  have fraction : Printable (Numeral.fractionText n.fraction) := by
    rw [Numeral.fractionText]
    split
    · exact List.forall_mem_nil _
    · exact .cons (by decide) (printable_digits proper.fraction)
  have exponent : Printable (Numeral.exponentText n.exponent) := by
    cases n.exponent with
    | none => exact List.forall_mem_nil _
    | some e =>
      refine .cons (by decide) (.cons ?_ (printable_digits fun _ => isDigit_of_mem_digitChars))
      split <;> decide
  have text : Printable n.text := (printable_digits proper.whole).append (fraction.append exponent)
  cases negative with
  | true => exact .cons (by decide) text
  | false => exact text

theorem printable_escapeChar (c : Char) : Printable (escapeChar c) := by
  have digit : ∀ n < 16, 32 ≤ (hexDigit n).toNat := by decide
  rw [escapeChar]
  split_ifs with quote backslash backspace feed line carriage tab control
  · simp [Printable]
  · simp [Printable]
  · simp [Printable]
  · simp [Printable]
  · simp [Printable]
  · simp [Printable]
  · simp [Printable]
  · have high := digit (c.toNat / 16) (by omega)
    have low := digit (c.toNat % 16) (by omega)
    simp [Printable, high, low]
  · exact .cons (not_lt.1 control) (List.forall_mem_nil _)

theorem printable_quoted (s : String) : Printable (quoted s) := by
  refine .cons (by decide) (.append ?_ ?_)
  · intro c hc
    obtain ⟨d, -, hd⟩ := List.mem_flatMap.1 hc
    exact printable_escapeChar d c hd
  · simp [Printable]

mutual

/-- A written value is a single line without control characters. -/
theorem printable_render : ∀ j : Json, Printable j.render
  | null => by simp [render, Printable]
  | bool true => by simp [render, Printable]
  | bool false => by simp [render, Printable]
  | integer n => by
    rw [render, ← Numeral.signed_ofInteger]
    exact printable_signed (Numeral.proper_ofInteger n) _
  | real x => by
    obtain ⟨n, denotes, htext⟩ := Numeral.exists_finiteText x
    rw [render, realText, ← htext]
    split
    · exact printable_signed denotes.toProper _
    · simp [Printable]
  | string s => printable_quoted s
  | array items =>
    .cons (by decide) (.append (printable_renderItems items) (by simp [Printable]))
  | object members =>
    .cons (by decide) (.append (printable_renderMembers members) (by simp [Printable]))

theorem printable_renderItems : ∀ items : List Json, Printable (renderItems items)
  | [] => List.forall_mem_nil _
  | [item] => printable_render item
  | item :: next :: rest =>
    .append (printable_render item) (.cons (by decide) (printable_renderItems (next :: rest)))

theorem printable_renderMembers : ∀ members : List (String × Json),
    Printable (renderMembers members)
  | [] => List.forall_mem_nil _
  | [(name, j)] =>
    .append (printable_quoted name) (.cons (by decide) (printable_render j))
  | (name, j) :: next :: rest =>
    .append (.append (printable_quoted name) (.cons (by decide) (printable_render j)))
      (.cons (by decide) (printable_renderMembers (next :: rest)))

end

end Printable

end Roadway.Json
