import Roadway.Traffic.Collision

/-!
# Who collides

The collisions of a step name occupants that took part in the check, whatever the
junctions and the profiles are. Whether two occupants collide, and in which junction first,
does not depend on the others: with some of them left out, the collisions of those that
remain are reported as before.

## Main definitions

* `Occupant.mem_collisions` — a collision names two of the occupants.
* `Collision.among` — whether a collision is one of two given entities.
* `Occupant.collisions_filter` — the collisions among some of the occupants.
-/
namespace Roadway

theorem Collision.firstOfPairs_sublist (cs : List Collision) : (firstOfPairs cs).Sublist cs := by
  induction cs with
  | nil => exact .slnil
  | cons c rest ih => exact (List.filter_sublist.trans ih).cons_cons c

theorem mem_pairs {β : Type} {xs : List β} {a b : β} (h : (a, b) ∈ pairs xs) :
    a ∈ xs ∧ b ∈ xs := by
  induction xs with
  | nil => cases h
  | cons x rest ih =>
    rcases List.mem_append.1 h with hfirst | hrest
    · obtain ⟨y, hy, heq⟩ := List.mem_map.1 hfirst
      cases heq
      exact ⟨List.mem_cons_self, List.mem_cons_of_mem _ hy⟩
    · obtain ⟨ha, hb⟩ := ih hrest
      exact ⟨List.mem_cons_of_mem x ha, List.mem_cons_of_mem x hb⟩

/-- Pairs are formed of the elements kept in the order that they had. -/
theorem pairs_filter {β : Type} (p : β → Bool) (xs : List β) :
    pairs (xs.filter p) = (pairs xs).filter fun (a, b) => p a && p b := by
  induction xs with
  | nil => rfl
  | cons x rest ih =>
    rw [pairs, List.filter_append, ← ih, List.filter_map]
    cases hx : p x with
    | false => simp [hx, Function.comp_def]
    | true => simp [hx, pairs, Function.comp_def]

namespace Collision

/-- Whether both entities of a collision are kept. -/
def among (keep : String → Bool) (c : Collision) : Bool := keep c.entityA && keep c.entityB

theorem among_eq_of_samePair {keep : String → Bool} {c d : Collision}
    (h : c.samePair d = true) : d.among keep = c.among keep := by
  simp only [samePair, Bool.and_eq_true, beq_iff_eq] at h
  rw [among, among, h.1, h.2]

/-- The first collision of a pair stays the first one. -/
theorem firstOfPairs_filter (keep : String → Bool) (cs : List Collision) :
    firstOfPairs (cs.filter (among keep)) = (firstOfPairs cs).filter (among keep) := by
  induction cs with
  | nil => rfl
  | cons c rest ih =>
    rw [firstOfPairs]
    cases kept : c.among keep with
    | true =>
      rw [List.filter_cons_of_pos kept, List.filter_cons_of_pos kept, firstOfPairs, ih,
        List.filter_filter, List.filter_filter]
      simp only [Bool.and_comm]
    | false =>
      have dropped : ¬ c.among keep = true := by simp [kept]
      rw [List.filter_cons_of_neg dropped, List.filter_cons_of_neg dropped, ih,
        List.filter_filter]
      refine List.filter_congr fun d _ => ?_
      -- What names the same pair as `c` is dropped with it.
      cases same : c.samePair d with
      | false => simp
      | true => simp [among_eq_of_samePair same, kept]

end Collision

namespace Occupant
variable {α : Type} [Scalar α] {motion : MotionSettings α} {occupants : List (Occupant α)}
  {c : Collision}

theorem mem_collisionsIn {j : Junction α} (h : c ∈ collisionsIn motion occupants j) :
    ∃ a ∈ occupants, ∃ b ∈ occupants, c = ⟨a.id, b.id, j.id⟩ := by
  obtain ⟨⟨a, b⟩, hpair, rfl⟩ := List.mem_map.1 h
  obtain ⟨ha, hb⟩ := mem_pairs (List.mem_filter.1 hpair).1
  exact ⟨a, (List.mem_filter.1 ha).1, b, (List.mem_filter.1 hb).1, rfl⟩

/-- A collision names two of the occupants. -/
theorem mem_collisions {junctions : List (Junction α)}
    (h : c ∈ collisions motion junctions occupants) :
    ∃ a ∈ occupants, ∃ b ∈ occupants, c.entityA = a.id ∧ c.entityB = b.id := by
  have hmem := (Collision.firstOfPairs_sublist _).subset h
  obtain ⟨j, -, hj⟩ := List.mem_flatMap.1 hmem
  obtain ⟨a, ha, b, hb, rfl⟩ := mem_collisionsIn hj
  exact ⟨a, ha, b, hb, rfl, rfl⟩

theorem collisionsIn_filter (keep : String → Bool) (j : Junction α) :
    collisionsIn motion (occupants.filter fun o => keep o.id) j =
      (collisionsIn motion occupants j).filter (Collision.among keep) := by
  have inside : (occupants.filter fun o => keep o.id).filter j.isOccupiedBy =
      (occupants.filter j.isOccupiedBy).filter fun o => keep o.id := by
    rw [List.filter_filter, List.filter_filter]
    simp only [Bool.and_comm]
  rw [collisionsIn, collisionsIn, inside, pairs_filter, List.filter_map, List.filter_filter,
    List.filter_filter]
  refine congrArg _ (List.filter_congr fun pair _ => ?_)
  exact Bool.and_comm _ _

/-- The collisions of some of the occupants are those of all that name only them. -/
theorem collisions_filter (keep : String → Bool) (junctions : List (Junction α)) :
    collisions motion junctions (occupants.filter fun o => keep o.id) =
      (collisions motion junctions occupants).filter (Collision.among keep) := by
  rw [collisions, collisions, ← Collision.firstOfPairs_filter, List.filter_flatMap,
    funext (collisionsIn_filter keep)]

end Occupant
end Roadway
