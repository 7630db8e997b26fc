import Roadway.Entity.Roster

/-!
# Ids of rosters

Every id occurs once in a roster. A roster built from a sorted list holds that list, and
taking entities out splits the ids into those taken and those left.

## Main definitions

* `Roster.nodup_ids`, `Roster.mem_ids` — which ids a roster has.
* `Roster.entities_ofList` — the roster of a sorted list.
* `Roster.perm_ids_filter`, `Roster.perm_ids_erase` — how removals split the ids.
-/
namespace Roadway.Roster
variable {α : Type}

theorem sorted_ids (r : Roster α) : r.ids.Pairwise (· < ·) := List.pairwise_map.2 r.sorted

theorem nodup_ids (r : Roster α) : r.ids.Nodup := by
  refine r.sorted_ids.imp ?_
  intro a b hlt heq
  exact String.lt_irrefl b (heq ▸ hlt)

theorem mem_entities_of_find? {r : Roster α} {id : String} {e : Entity α}
    (h : r.find? id = some e) : e ∈ r.entities := List.mem_of_find?_eq_some h

theorem mem_ids {r : Roster α} {id : String} : id ∈ r.ids ↔ ∃ e, r.find? id = some e := by
  constructor
  · intro h
    obtain ⟨e, he, rfl⟩ := List.mem_map.1 h
    exact ⟨e, mem_entities_iff.1 he⟩
  · intro h
    obtain ⟨e, he⟩ := h
    exact List.mem_map.2 ⟨e, mem_entities_of_find? he, id_of_find? he⟩

theorem mem_entities_insert {r : Roster α} {e x : Entity α} (h : x ∈ (r.insert e).entities) :
    x = e ∨ x ∈ r.entities := mem_insertInto h

theorem mem_insert (r : Roster α) (e : Entity α) : e ∈ (r.insert e).entities :=
  mem_entities_iff.2 ((find?_insert r e e.id).trans (if_pos rfl))

/-- Inserting what is there already changes nothing. -/
theorem insert_of_find? {r : Roster α} {id : String} {e : Entity α}
    (h : r.find? id = some e) : r.insert e = r := by
  obtain rfl := id_of_find? h
  refine ext_find? fun id => ?_
  rw [find?_insert]
  split
  · next same => rw [← same, h]
  · rfl

/-- What comes after all others is put at the end. -/
theorem insertInto_of_last {e : Entity α} {xs : List (Entity α)}
    (last : ∀ x ∈ xs, x.id < e.id) : insertInto e xs = xs ++ [e] := by
  induction xs with
  | nil => rfl
  | cons x rest ih =>
    have hx : x.id < e.id := last x List.mem_cons_self
    have hlt : ¬ e.id < x.id := String.lt_asymm hx
    have hne : e.id ≠ x.id := fun heq => String.lt_irrefl x.id (heq ▸ hx)
    rw [insertInto, if_neg hlt, if_neg hne, ih fun y hy => last y (List.mem_cons_of_mem x hy)]
    rfl

theorem entities_foldl_insert {r : Roster α} {xs : List (Entity α)}
    (sorted : (r.entities ++ xs).Pairwise fun a b => a.id < b.id) :
    (xs.foldl insert r).entities = r.entities ++ xs := by
  induction xs generalizing r with
  | nil => simp
  | cons x rest ih =>
    have hlast : ∀ y ∈ r.entities, y.id < x.id := by
      intro y hy
      exact (List.pairwise_append.1 sorted).2.2 y hy x List.mem_cons_self
    have hinsert : (r.insert x).entities = r.entities ++ [x] := insertInto_of_last hlast
    have hsorted : ((r.insert x).entities ++ rest).Pairwise fun a b => a.id < b.id := by
      rw [hinsert, List.append_assoc]
      exact sorted
    rw [List.foldl_cons, ih hsorted, hinsert, List.append_assoc]
    rfl

/-- A sorted list is the roster it makes. -/
theorem entities_ofList {xs : List (Entity α)}
    (sorted : xs.Pairwise fun a b => a.id < b.id) : (ofList xs).entities = xs :=
  entities_foldl_insert (r := empty) sorted

/-- A test splits the ids. -/
theorem perm_ids_filter (r : Roster α) (keep : Entity α → Bool) :
    r.ids.Perm ((r.filter keep).ids ++ (r.filter fun e => !keep e).ids) := by
  have hperm := (List.filter_append_perm keep r.entities).map (·.id)
  rw [List.map_append] at hperm
  exact hperm.symm

theorem perm_ids_erase {r : Roster α} {id : String} {e : Entity α}
    (h : r.find? id = some e) : r.ids.Perm (id :: (r.erase id).ids) := by
  refine (List.perm_ext_iff_of_nodup r.nodup_ids ?_).2 ?_
  · refine List.nodup_cons.2 ⟨?_, nodup_ids _⟩
    rw [mem_ids, find?_erase]
    simp
  · intro x
    rw [List.mem_cons, mem_ids, mem_ids, find?_erase]
    by_cases hx : x = id
    · simp [hx, h]
    · simp [hx]

end Roadway.Roster
