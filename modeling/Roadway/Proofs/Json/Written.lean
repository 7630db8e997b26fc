import Roadway.Proofs.Json.Record
import Roadway.Proofs.Json.Reading

/-!
# Values as they are written

JSON has no infinities, and a double that is not finite is written as `null`. So a value has
the text of the one in which `null` stands in their place, and that one is read back. A reader
of doubles refuses `null`.

## Main definitions

* `Json.written` — the value with `null` for what is not finite.
* `Json.read?_compact_written` — it is what is read from the line of a value.
-/
namespace Roadway.Json

mutual

/-- What is read from the text of a value: a double that is not finite is written as `null`. -/
def written : Json → Json
  | real x => if x.isFinite then real x else null
  | array items => array (writtenItems items)
  | object members => object (writtenMembers members)
  | j => j

def writtenItems : List Json → List Json
  | [] => []
  | item :: rest => written item :: writtenItems rest

def writtenMembers : List (String × Json) → List (String × Json)
  | [] => []
  | (name, value) :: rest => (name, written value) :: writtenMembers rest

end

@[simp] theorem writtenItems_eq (items : List Json) : writtenItems items = items.map written := by
  induction items with
  | nil => rfl
  | cons item rest ih => rw [writtenItems, ih, List.map_cons]

@[simp] theorem writtenMembers_eq (members : List (String × Json)) :
    writtenMembers members = members.map fun m => (m.1, m.2.written) := by
  induction members with
  | nil => rfl
  | cons m rest ih => rw [writtenMembers, ih, List.map_cons]

@[simp] theorem written_string (s : String) : (string s).written = string s := rfl

@[simp] theorem written_ofNat (n : ℕ) : (ofNat n).written = ofNat n := rfl

@[simp] theorem written_object (members : List (String × Json)) :
    (object members).written = object (members.map fun m => (m.1, m.2.written)) := by
  rw [written, writtenMembers_eq]

@[simp] theorem written_list {β : Type} (write : β → Json) (xs : List β) :
    (array (xs.map write)).written = array (xs.map fun x => (write x).written) := by
  rw [written, writtenItems_eq, List.map_map]
  rfl

mutual

/-- The text of a value is that of what is read from it. -/
theorem render_written : ∀ j : Json, j.written.render = j.render
  | null | bool _ | integer _ | string _ => rfl
  | real x => by
    rw [written]
    split
    · rfl
    · next lost => rw [render, render, realText, if_neg lost]
  | array items => by
    rw [written, render, render, renderItems_written items]
  | object members => by
    rw [written, render, render, renderMembers_written members]

theorem renderItems_written : ∀ items : List Json,
    renderItems (writtenItems items) = renderItems items
  | [] => rfl
  | [item] => by rw [writtenItems, writtenItems, renderItems, renderItems, render_written item]
  | item :: next :: rest => by
    have tail := renderItems_written (next :: rest)
    rw [writtenItems] at tail ⊢
    rw [writtenItems, renderItems, tail, renderItems, render_written item]

theorem renderMembers_written : ∀ members : List (String × Json),
    renderMembers (writtenMembers members) = renderMembers members
  | [] => rfl
  | [(name, j)] => by
    rw [writtenMembers, writtenMembers, renderMembers, renderMembers, render_written j]
  | (name, j) :: next :: rest => by
    have tail := renderMembers_written (next :: rest)
    rw [writtenMembers] at tail ⊢
    rw [writtenMembers, renderMembers, tail, renderMembers, render_written j]

end

@[simp] theorem fits_written_real {depth : ℕ} (x : Float) : Fits depth (real x).written := by
  rw [written]
  split
  · next finite => exact .real finite
  · exact .null

theorem fits_written_object {depth : ℕ} {members : List (String × Json)}
    (fits : ∀ m ∈ members, Fits depth m.2.written) :
    Fits (depth + 1) (object members).written := by
  rw [written_object]
  refine .object fun m hm => ?_
  obtain ⟨k, hk, rfl⟩ := List.mem_map.1 hm
  exact fits k hk

/-- Only finite doubles are read back. -/
theorem double?_written (x : Float) :
    double? (real x).written = if x.isFinite then some x else none := by
  rw [written]
  split <;> rfl

/-- A list is read back if all of its entries are. -/
theorem list?_written {β : Type} {write : β → Json} {read : Json → Option β} {p : β → Prop}
    [DecidablePred p] (entry : ∀ x, read (write x).written = if p x then some x else none)
    (xs : List β) :
    list? read (array (xs.map write)).written = if ∀ x ∈ xs, p x then some xs else none := by
  rw [written_list, list?]
  induction xs with
  | nil => rfl
  | cons x xs ih =>
    rw [List.map_cons, List.mapM_cons, entry, ih]
    by_cases first : p x
    · by_cases rest : ∀ y ∈ xs, p y
      · have all : ∀ y ∈ x :: xs, p y := List.forall_mem_cons.2 ⟨first, rest⟩
        rw [if_pos first, if_pos rest, if_pos all]
        rfl
      · have some : ¬ ∀ y ∈ x :: xs, p y := fun all => rest (List.forall_mem_cons.1 all).2
        rw [if_pos first, if_neg rest, if_neg some]
        rfl
    · have some : ¬ ∀ y ∈ x :: xs, p y := fun all => first (List.forall_mem_cons.1 all).1
      rw [if_neg first, if_neg some]
      rfl

/-- From the line of a value what is written is read, if that fits. -/
theorem read?_compact_written {j : Json} (fits : Fits maxDepth j.written) :
    read? j.compact = some j.written := by
  rw [← read?_compact fits, compact, compact, render_written]

end Roadway.Json
