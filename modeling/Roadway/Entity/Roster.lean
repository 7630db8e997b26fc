import Roadway.Entity.Basic

/-!
# Rosters

The entities of a session, each under its own id and in ascending order of ids.
Inserting an entity replaces the one with the same id. A roster is determined by
what `find?` answers, and each operation is described by its effect on that.

## Main definitions

* `Roster` — entities in strictly ascending order of their ids.
* `Roster.find?`, `Roster.insert`, `Roster.erase`, `Roster.filter` — the operations.
* `Roster.ofList` — the roster of a list.
-/
namespace Roadway

/-- Entities in strictly ascending order of their ids. -/
structure Roster (α : Type) where
  entities : List (Entity α)
  sorted : entities.Pairwise fun a b => a.id < b.id

namespace Roster
variable {α : Type}

@[ext] theorem ext {r s : Roster α} (h : r.entities = s.entities) : r = s := by
  cases r; cases s; congr

instance [DecidableEq α] : DecidableEq (Roster α) := fun r s =>
  decidable_of_iff (r.entities = s.entities) ⟨ext, fun h => h ▸ rfl⟩

def empty : Roster α := ⟨[], .nil⟩

instance : Inhabited (Roster α) := ⟨empty⟩

def ids (r : Roster α) : List String := r.entities.map (·.id)

def size (r : Roster α) : Nat := r.entities.length

def find? (r : Roster α) (id : String) : Option (Entity α) := r.entities.find? (·.id == id)

/-- The number of entities of a kind. -/
def count (r : Roster α) (kind : Kind) : Nat := r.entities.countP (·.kind == kind)

/-- Puts an entity at the place of its id, over the one that is there. -/
def insertInto (e : Entity α) : List (Entity α) → List (Entity α)
  | [] => [e]
  | x :: rest =>
    if e.id < x.id then e :: x :: rest
    else if e.id = x.id then e :: rest
    else x :: insertInto e rest

theorem mem_insertInto {e y : Entity α} {xs : List (Entity α)} (h : y ∈ insertInto e xs) :
    y = e ∨ y ∈ xs := by
  induction xs with
  | nil => simpa [insertInto] using h
  | cons x rest ih =>
    unfold insertInto at h
    split at h
    · simpa using h
    · split at h
      · rcases List.mem_cons.1 h with h | h
        · exact .inl h
        · exact .inr (List.mem_cons_of_mem _ h)
      · rcases List.mem_cons.1 h with h | h
        · exact .inr (h ▸ List.mem_cons_self)
        · exact (ih h).imp_right (List.mem_cons_of_mem _)

theorem sorted_insertInto (e : Entity α) {xs : List (Entity α)}
    (h : xs.Pairwise fun a b => a.id < b.id) :
    (insertInto e xs).Pairwise fun a b => a.id < b.id := by
  induction xs with
  | nil => simp [insertInto]
  | cons x rest ih =>
    have ⟨hx, hrest⟩ := List.pairwise_cons.1 h
    unfold insertInto
    split
    · next lt =>
      refine List.pairwise_cons.2 ⟨fun y hy => ?_, h⟩
      rcases List.mem_cons.1 hy with rfl | hy
      · exact lt
      · exact String.lt_trans lt (hx y hy)
    · next nlt =>
      split
      · next eq => exact List.pairwise_cons.2 ⟨fun y hy => eq ▸ hx y hy, hrest⟩
      · next ne =>
        refine List.pairwise_cons.2 ⟨fun y hy => ?_, ih hrest⟩
        rcases mem_insertInto hy with rfl | hy
        · exact Decidable.byContradiction fun nlt' =>
            ne (String.le_antisymm (String.not_lt.1 nlt') (String.not_lt.1 nlt))
        · exact hx y hy

theorem find?_insertInto (e : Entity α) (xs : List (Entity α)) (id : String) :
    (insertInto e xs).find? (·.id == id) =
      if e.id = id then some e else xs.find? (·.id == id) := by
  induction xs with
  | nil => by_cases h : e.id = id <;> simp [insertInto, h]
  | cons x rest ih =>
    unfold insertInto
    split
    · by_cases h : e.id = id <;> simp [List.find?_cons, h]
    · split
      · next eq => by_cases h : e.id = id <;> simp [← eq, h]
      · next ne =>
        by_cases hx : x.id = id
        · have h : e.id ≠ id := fun h => ne (h.trans hx.symm)
          simp [hx, h]
        · simp [hx, ih]

def insert (r : Roster α) (e : Entity α) : Roster α :=
  ⟨insertInto e r.entities, sorted_insertInto e r.sorted⟩

/-- The entities that pass a test. -/
def filter (r : Roster α) (keep : Entity α → Bool) : Roster α :=
  ⟨r.entities.filter keep, r.sorted.filter keep⟩

def erase (r : Roster α) (id : String) : Roster α := r.filter fun e => !(e.id == id)

/-- The roster of a list; of entities with one id the last stays. -/
def ofList (entities : List (Entity α)) : Roster α := entities.foldl insert empty

theorem id_of_find? {r : Roster α} {id : String} {e : Entity α} (h : r.find? id = some e) :
    e.id = id := by
  simpa using List.find?_some h

/-- An entity of a sorted list is the one found under its id. -/
theorem find?_of_mem {xs : List (Entity α)} (sorted : xs.Pairwise fun a b => a.id < b.id)
    {e : Entity α} (h : e ∈ xs) : xs.find? (·.id == e.id) = some e := by
  induction xs with
  | nil => cases h
  | cons x rest ih =>
    have ⟨hx, hrest⟩ := List.pairwise_cons.1 sorted
    rcases List.mem_cons.1 h with rfl | h
    · simp
    · have ne : x.id ≠ e.id := fun eq => String.lt_irrefl _ (eq ▸ hx e h)
      simp [ne, ih hrest h]

theorem mem_entities_iff {r : Roster α} {e : Entity α} :
    e ∈ r.entities ↔ r.find? e.id = some e :=
  ⟨find?_of_mem r.sorted, List.mem_of_find?_eq_some⟩

@[simp] theorem find?_empty (id : String) : (empty : Roster α).find? id = none := rfl

theorem find?_insert (r : Roster α) (e : Entity α) (id : String) :
    (r.insert e).find? id = if e.id = id then some e else r.find? id :=
  find?_insertInto e r.entities id

theorem find?_filter (r : Roster α) (keep : Entity α → Bool) (id : String) :
    (r.filter keep).find? id = (r.find? id).filter keep := by
  apply Option.ext
  intro e
  constructor
  · intro h
    obtain rfl := id_of_find? h
    have ⟨mem, kept⟩ := List.mem_filter.1 (mem_entities_iff.2 h)
    simp [mem_entities_iff.1 mem, kept]
  · intro h
    have ⟨found, kept⟩ := Option.filter_eq_some_iff.1 h
    obtain rfl := id_of_find? found
    exact mem_entities_iff.1 (List.mem_filter.2 ⟨mem_entities_iff.2 found, kept⟩)

theorem find?_erase (r : Roster α) (gone id : String) :
    (r.erase gone).find? id = if id = gone then none else r.find? id := by
  rw [erase, find?_filter]
  cases h : r.find? id with
  | none => simp
  | some e =>
    obtain rfl := id_of_find? h
    by_cases eq : e.id = gone <;> simp [eq]

theorem nodup_of_sorted {xs : List (Entity α)} (sorted : xs.Pairwise fun a b => a.id < b.id) :
    xs.Nodup :=
  sorted.imp fun {a b} (lt : a.id < b.id) (eq : a = b) => String.lt_irrefl _ (eq ▸ lt)

/-- Sorted lists with the same members are equal. -/
theorem eq_of_mem_iff {xs ys : List (Entity α)} (hx : xs.Pairwise fun a b => a.id < b.id)
    (hy : ys.Pairwise fun a b => a.id < b.id) (h : ∀ e, e ∈ xs ↔ e ∈ ys) : xs = ys :=
  List.Perm.eq_of_pairwise
    (fun a b _ _ (hab : a.id < b.id) hba => absurd hba (String.lt_asymm hab)) hx hy
    ((List.perm_ext_iff_of_nodup (nodup_of_sorted hx) (nodup_of_sorted hy)).2 h)

/-- A roster is determined by what is found in it. -/
theorem ext_find? {r s : Roster α} (h : ∀ id, r.find? id = s.find? id) : r = s :=
  ext (eq_of_mem_iff r.sorted s.sorted fun e => by
    rw [mem_entities_iff, mem_entities_iff, h])

end Roster
end Roadway
