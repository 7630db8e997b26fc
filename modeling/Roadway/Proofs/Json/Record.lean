import Mathlib
import Roadway.Json.Record

/-!
# Records under edits

What a record says does not depend on the order of its members, on members of names that
it does not declare, or on whether a member is written that holds its default. These edits
are a relation between lists of members. Under any number of them a declared name keeps its
only value or loses its default, and so every reader of fields answers the same.

## Main definitions

* `Json.valuesOf` — the values of the members of one name.
* `Json.Edited` — what the edits make of a list of members.
* `Json.Keeps`, `Json.Edited.keeps` — what an edited list keeps of a declared name.
-/
namespace Roadway.Json
open Record

section Values

/-- The values of the members of one name, in order. -/
def valuesOf (name : String) (members : List (String × Json)) : List Json :=
  (members.filter (·.1 == name)).map (·.2)

variable {name : String} {members as bs : List (String × Json)}

theorem valuesOf_append : valuesOf name (as ++ bs) = valuesOf name as ++ valuesOf name bs := by
  simp [valuesOf]

theorem valuesOf_cons (m : String × Json) :
    valuesOf name (m :: members) =
      if m.1 = name then m.2 :: valuesOf name members else valuesOf name members := by
  by_cases h : m.1 = name <;> simp [valuesOf, h]

theorem valuesOf_perm (h : as.Perm bs) : (valuesOf name as).Perm (valuesOf name bs) :=
  (h.filter _).map _

theorem lookup_eq_head? : members.lookup name = (valuesOf name members).head? := by
  induction members with
  | nil => rfl
  | cons m members ih =>
    rw [valuesOf_cons, List.lookup_cons]
    by_cases h : m.1 = name
    · simp [h]
    · have : (name == m.1) = false := by simpa using Ne.symm h
      simp [h, this, ih]

theorem countP_eq_length : members.countP (·.1 == name) = (valuesOf name members).length := by
  simp [valuesOf, List.countP_eq_length_filter]

/-- The tag of a record does not count among its fields. -/
theorem valuesOf_filter {tag : String} (h : name ≠ tag) :
    valuesOf name (members.filter (·.1 != tag)) = valuesOf name members := by
  induction members with
  | nil => rfl
  | cons m members ih =>
    by_cases htag : m.1 = tag
    · simp [htag, valuesOf_cons, ih, Ne.symm h]
    · simp [htag, valuesOf_cons, ih]

end Values

/-- What becomes of the members of a record when members that hold their default are left
out, members are reordered, and texts of names that are not declared are put in. -/
inductive Edited (full defaults : List (String × Json)) : List (String × Json) → Prop
  | whole : Edited full defaults full
  | dropped {before after : List (String × Json)} {m : String × Json} (default : m ∈ defaults)
      (edited : Edited full defaults (before ++ m :: after)) :
      Edited full defaults (before ++ after)
  | reordered {ms ms' : List (String × Json)} (perm : ms.Perm ms')
      (edited : Edited full defaults ms) : Edited full defaults ms'
  | added {before after : List (String × Json)} {name : String} (text : String)
      (foreign : name ∉ full.map (·.1)) (edited : Edited full defaults (before ++ after)) :
      Edited full defaults (before ++ (name, .string text) :: after)

/-- A name has its only value, or it has none and the value is its default. -/
def Keeps (defaults ms : List (String × Json)) (name : String) (v : Json) : Prop :=
  valuesOf name ms = [v] ∨ valuesOf name ms = [] ∧ (name, v) ∈ defaults

namespace Edited
variable {full defaults ms : List (String × Json)} {name : String} {v : Json}

theorem valuesOf_full (nodup : (full.map (·.1)).Nodup) (declared : (name, v) ∈ full) :
    valuesOf name full = [v] := by
  induction full with
  | nil => cases declared
  | cons m full ih =>
    rw [List.map_cons, List.nodup_cons] at nodup
    have absent {w : String} (h : w ∉ full.map (·.1)) : valuesOf w full = [] := by
      rw [valuesOf, List.map_eq_nil_iff, List.filter_eq_nil_iff]
      intro k hk hname
      exact h (List.mem_map.2 ⟨k, hk, by simpa using hname⟩)
    rcases List.mem_cons.1 declared with rfl | later
    · rw [valuesOf_cons, if_pos rfl, absent nodup.1]
    · have hname : m.1 ≠ name := by
        rintro rfl
        exact nodup.1 (List.mem_map.2 ⟨_, later, rfl⟩)
      rw [valuesOf_cons, if_neg hname, ih nodup.2 later]

/-- Edits keep what a list of members tells about the names it declares. -/
theorem keeps (edited : Edited full defaults ms) (nodup : (full.map (·.1)).Nodup)
    (declared : (name, v) ∈ full) : Keeps defaults ms name v := by
  induction edited with
  | whole => exact .inl (valuesOf_full nodup declared)
  | @dropped before after m default edited ih =>
    simp only [Keeps, valuesOf_append, valuesOf_cons] at ih ⊢
    by_cases hname : m.1 = name
    · rw [if_pos hname] at ih
      rcases ih with only | ⟨none, -⟩
      · rcases List.append_eq_singleton_iff.1 only with ⟨hbefore, hafter⟩ | ⟨-, impossible⟩
        · obtain ⟨hvalue, hafter⟩ := List.cons.inj hafter
          refine .inr ⟨by rw [hbefore, hafter]; rfl, ?_⟩
          rwa [← hname, ← hvalue]
        · cases impossible
      · cases (List.append_eq_nil_iff.1 none).2
    · rwa [if_neg hname] at ih
  | @reordered ms ms' perm edited ih =>
    have hperm : (valuesOf name ms).Perm (valuesOf name ms') := valuesOf_perm perm
    rcases ih with only | ⟨none, default⟩
    · exact .inl (List.singleton_perm.1 (only ▸ hperm)).symm
    · exact .inr ⟨List.nil_perm.1 (none ▸ hperm), default⟩
  | @added before after other text foreign edited ih =>
    have hname : other ≠ name := by
      rintro rfl
      exact foreign (List.mem_map.2 ⟨_, declared, rfl⟩)
    simpa [Keeps, valuesOf_append, valuesOf_cons, hname] using ih

/-- Edits put in nothing but texts. -/
theorem forall_mem {p : Json → Prop} (edited : Edited full defaults ms)
    (full' : ∀ m ∈ full, p m.2) (texts : ∀ s, p (.string s)) : ∀ m ∈ ms, p m.2 := by
  induction edited with
  | whole => exact full'
  | dropped default edited ih =>
    intro m hm
    refine ih m ?_
    rw [List.mem_append] at hm ⊢
    exact hm.imp_right (List.mem_cons_of_mem _)
  | reordered perm edited ih => exact fun m hm => ih m (perm.mem_iff.2 hm)
  | added text foreign edited ih =>
    intro m hm
    rcases List.mem_append.1 hm with before | after
    · exact ih m (List.mem_append_left _ before)
    · rcases List.mem_cons.1 after with rfl | after
      · exact texts text
      · exact ih m (List.mem_append_right _ after)

end Edited

section Reading
variable {full defaults ms : List (String × Json)} {tag name : String} {t v : Json}

/-- The tag of an edited record is found, and it is taken off. -/
theorem tagged?_of_keeps (keeps : Keeps defaults ms tag t)
    (required : ∀ w, (tag, w) ∉ defaults) :
    tagged? tag (.object ms) = some (t, .object (ms.filter (·.1 != tag))) := by
  have only : valuesOf tag ms = [t] := keeps.resolve_right fun h => required t h.2
  obtain ⟨m, hfilter, hvalue⟩ := List.map_eq_singleton_iff.1 only
  rw [tagged?, hfilter, ← hvalue]

/-- The tag of a record is taken off the other members. -/
theorem tagged?_cons (fresh : ∀ m ∈ ms, m.1 ≠ tag) :
    tagged? tag (.object ((tag, t) :: ms)) = some (t, .object ms) := by
  have rest : ms.filter (·.1 != tag) = ms :=
    List.filter_eq_self.2 fun m hm => by simpa using fresh m hm
  have others : ms.filter (·.1 == tag) = [] :=
    List.filter_eq_nil_iff.2 fun m hm => by simpa using fresh m hm
  simp [tagged?, rest, others]

/-- The fields of an edited record behind its tag. -/
theorem fields?_of_keeps {declared : List (String × Json)} (untagged : tag ∉ declared.map (·.1))
    (keeps : ∀ name v, (name, v) ∈ declared → Keeps defaults ms name v) :
    fields? (declared.map (·.1)) (.object (ms.filter (·.1 != tag))) =
      some ((declared.map (·.1)).map fun name => (valuesOf name ms).head?) := by
  have untag : ∀ name ∈ declared.map (·.1),
      valuesOf name (ms.filter (·.1 != tag)) = valuesOf name ms := by
    intro name hname
    exact valuesOf_filter fun h => untagged (h ▸ hname)
  have once : ((declared.map (·.1)).all fun name =>
      decide ((ms.filter (·.1 != tag)).countP (·.1 == name) ≤ 1)) = true := by
    rw [List.all_eq_true]
    intro name hname
    obtain ⟨⟨_, v⟩, hv, rfl⟩ := List.mem_map.1 hname
    rw [decide_eq_true_eq, countP_eq_length, untag _ hname]
    rcases keeps _ v hv with only | ⟨none, -⟩
    · simp [only]
    · simp [none]
  rw [fields?, if_pos once, Option.some.injEq, List.map_inj_left]
  intro name hname
  rw [lookup_eq_head?, untag name hname]

variable {β : Type} {read : Json → Option β} {x : β}

/-- A field without a default is read from its value. -/
theorem required_of_keeps (keeps : Keeps defaults ms name v)
    (required : ∀ w, (name, w) ∉ defaults) (value : read v = some x) :
    Record.required read (valuesOf name ms).head? = some x := by
  have only : valuesOf name ms = [v] := keeps.resolve_right fun h => required v h.2
  rw [only]
  exact value

/-- A field with a default is read from its value, or it is the default. -/
theorem orElse_of_keeps {d : β} (keeps : Keeps defaults ms name v)
    (default : ∀ w, (name, w) ∈ defaults → read w = some d) (value : read v = some x) :
    Record.orElse read d (valuesOf name ms).head? = some x := by
  rcases keeps with only | ⟨none, dropped⟩
  · rw [only]
    exact value
  · have := default v dropped
    rw [value] at this
    rw [none]
    exact this.symm

/-- A list reads back if its entries do. -/
theorem list?_array {write : β → Json} {xs : List β} (h : ∀ x ∈ xs, read (write x) = some x) :
    list? read (.array (xs.map write)) = some xs := by
  rw [list?]
  induction xs with
  | nil => rfl
  | cons x xs ih =>
    have hx := h x (by simp)
    have hxs := ih fun y hy => h y (List.mem_cons_of_mem x hy)
    simp [hx, hxs]

end Reading

end Roadway.Json
