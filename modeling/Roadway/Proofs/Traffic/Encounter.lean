import Mathlib.Data.Fin.Basic
import Mathlib.Data.List.FinRange
import Roadway.Proofs.Traffic.Collision

/-!
# Which encounters are reported

Two occupants encounter each other in every junction that both of them occupy. The collisions
of a step are reported encounters: those of two occupants closer than half their summed lengths,
unless both are persons, and of all junctions that the two share only the first in the order of
the junctions. Reports are ordered by junctions and then by the positions of the two occupants.

## Main definitions

* `Encounter` — two occupants and a junction, by position.
* `Encounter.Before` — the order of reports.
* `Encounter.Collides` — the encounters that are to be reported.
* `Occupant.exists_encounters` — they are reported, and no others.
-/
namespace Roadway

section Pairs
variable {β γ : Type}

theorem pairs_map (f : β → γ) (xs : List β) :
    pairs (xs.map f) = (pairs xs).map fun (a, b) => (f a, f b) := by
  induction xs with
  | nil => rfl
  | cons x rest ih => simp [pairs, ih, Function.comp_def]

/-- What holds between an element and those after it holds in every pair. -/
theorem forall_pairs {R : β → β → Prop} {xs : List β} (related : xs.Pairwise R) {a b : β}
    (h : (a, b) ∈ pairs xs) : R a b := by
  induction related with
  | nil => cases h
  | cons first _ ih =>
    rcases List.mem_append.1 h with inFirst | inRest
    · obtain ⟨y, hy, same⟩ := List.mem_map.1 inFirst
      cases same
      exact first b hy
    · exact ih inRest

theorem mem_pairs_of_lt {n : Nat} {xs : List (Fin n)} (ascending : xs.Pairwise (· < ·))
    {i k : Fin n} (hi : i ∈ xs) (hk : k ∈ xs) (lt : i < k) : (i, k) ∈ pairs xs := by
  induction ascending with
  | nil => cases hi
  | @cons x rest first _ ih =>
    rw [pairs, List.mem_append]
    rcases List.mem_cons.1 hi with rfl | behind
    · rcases List.mem_cons.1 hk with rfl | hk
      · exact absurd lt (lt_irrefl k)
      · exact .inl (List.mem_map.2 ⟨k, hk, rfl⟩)
    · rcases List.mem_cons.1 hk with rfl | hk
      · exact absurd lt (first i behind).not_gt
      · exact .inr (ih behind hk)

/-- The pairs of positions are those that ascend. -/
theorem mem_pairs_finRange {n : Nat} {i k : Fin n} : (i, k) ∈ pairs (List.finRange n) ↔ i < k :=
  ⟨forall_pairs (List.pairwise_lt_finRange n),
    mem_pairs_of_lt (List.pairwise_lt_finRange n) (List.mem_finRange i) (List.mem_finRange k)⟩

/-- Pairs are enumerated in lexicographic order. -/
theorem pairwise_pairs {R : β → β → Prop} {xs : List β} (related : xs.Pairwise R) :
    (pairs xs).Pairwise (Prod.Lex R R) := by
  induction related with
  | nil => exact .nil
  | @cons x rest first rest_related ih =>
    refine List.pairwise_append.2 ⟨?_, ih, ?_⟩
    · exact List.pairwise_map.2 (rest_related.imp fun lt => .right x lt)
    · intro p hp q hq
      obtain ⟨y, -, rfl⟩ := List.mem_map.1 hp
      exact .left _ _ (first q.1 (mem_pairs hq).1)

end Pairs

namespace Collision
variable {β : Type} {f : β → Collision} {before : β → β → Prop}

/-- In an ordered list what is kept are the first of each pair. -/
theorem firstOfPairs_map (asymm : ∀ {x y}, before x y → ¬ before y x) {xs : List β}
    (ordered : xs.Pairwise before) :
    ∃ kept : List β, kept.Sublist xs ∧ firstOfPairs (xs.map f) = kept.map f ∧
      ∀ y, y ∈ kept ↔ y ∈ xs ∧ ∀ x ∈ xs, before x y → (f x).samePair (f y) = false := by
  induction ordered with
  | nil => exact ⟨[], .slnil, rfl, by simp⟩
  | @cons x rest first _ ih =>
    obtain ⟨kept, sublist, same, mem⟩ := ih
    refine ⟨x :: kept.filter fun y => !(f x).samePair (f y),
      (List.filter_sublist.trans sublist).cons_cons x, ?_, fun y => ?_⟩
    · rw [List.map_cons, firstOfPairs, same, List.filter_map, List.map_cons]
      rfl
    · rw [List.mem_cons, List.mem_filter, mem, Bool.not_eq_true']
      constructor
      · rintro (rfl | ⟨⟨hy, earliest⟩, apart⟩)
        · refine ⟨List.mem_cons_self, fun z hz lt => ?_⟩
          rcases List.mem_cons.1 hz with rfl | hz
          · exact absurd lt (asymm lt)
          · exact absurd lt (asymm (first z hz))
        · refine ⟨List.mem_cons_of_mem x hy, fun z hz lt => ?_⟩
          rcases List.mem_cons.1 hz with rfl | hz
          · exact apart
          · exact earliest z hz lt
      · rintro ⟨hy, earliest⟩
        rcases List.mem_cons.1 hy with rfl | hy
        · exact .inl rfl
        · exact .inr ⟨⟨hy, fun z hz => earliest z (List.mem_cons_of_mem x hz)⟩,
            earliest x List.mem_cons_self (first y hy)⟩

end Collision

variable {α : Type}

/-- Two occupants in a junction, all three by position. -/
structure Encounter (junctions : List (Junction α)) (occupants : List (Occupant α)) where
  junction : Fin junctions.length
  first : Fin occupants.length
  second : Fin occupants.length
  deriving DecidableEq

/-- How far apart two entities of a kind each must be so as not to collide. -/
def MotionSettings.gap [Scalar α] (motion : MotionSettings α) (a b : Kind) : α :=
  ((motion.profile a).length + (motion.profile b).length) / 2.0

namespace Encounter
variable {junctions : List (Junction α)} {occupants : List (Occupant α)}

/-- How an encounter is reported. -/
def collision (s : Encounter junctions occupants) : Collision :=
  ⟨occupants[s.first].id, occupants[s.second].id, junctions[s.junction].id⟩

/-- By junctions, then by the positions of the first and of the second occupant. -/
inductive Before (s t : Encounter junctions occupants) : Prop
  | junction (lt : s.junction < t.junction)
  | first (same : s.junction = t.junction) (lt : s.first < t.first)
  | second (same : s.junction = t.junction) (same' : s.first = t.first) (lt : s.second < t.second)

theorem Before.asymm {s t : Encounter junctions occupants} (h : s.Before t) : ¬ t.Before s := by
  intro h'
  cases h <;> cases h' <;> omega

variable [Scalar α]

/-- Both occupants end the step inside a junction or have crossed it. -/
def Shares (s : Encounter junctions occupants) (j : Fin junctions.length) : Prop :=
  (junctions[j].contains occupants[s.first].position = true ∨
      junctions[j].id ∈ occupants[s.first].crossed) ∧
    (junctions[j].contains occupants[s.second].position = true ∨
      junctions[j].id ∈ occupants[s.second].crossed)

/-- The encounters that are to be reported. -/
structure Collides (motion : MotionSettings α) (s : Encounter junctions occupants) : Prop where
  ordered : s.first < s.second
  mixed : ¬ (occupants[s.first].kind = .person ∧ occupants[s.second].kind = .person)
  close : (occupants[s.first].position - occupants[s.second].position).norm <
    motion.gap occupants[s.first].kind occupants[s.second].kind
  shared : s.Shares s.junction
  earliest : ∀ j, s.Shares j → s.junction ≤ j

end Encounter

namespace Occupant
variable [Scalar α] {motion : MotionSettings α} {junctions : List (Junction α)}
  {occupants : List (Occupant α)}

theorem collides_iff {a b : Occupant α} : collides motion a b = true ↔
    ¬ (a.kind = .person ∧ b.kind = .person) ∧
      ¬ motion.gap a.kind b.kind ≤ (a.position - b.position).norm := by
  simp only [collides, MotionSettings.gap, Bool.and_eq_true, Bool.not_eq_true',
    Bool.and_eq_false_iff, beq_eq_false_iff_ne, decide_eq_false_iff_not, not_and_or]

/-- The encounters in a junction of occupants that collide there. -/
def encountersIn (motion : MotionSettings α) (junctions : List (Junction α))
    (occupants : List (Occupant α)) (j : Fin junctions.length) :
    List (Encounter junctions occupants) :=
  ((pairs (List.finRange occupants.length)).filter fun (i, k) =>
    collides motion occupants[i] occupants[k] &&
      (junctions[j].isOccupiedBy occupants[i] && junctions[j].isOccupiedBy occupants[k])).map
    fun (i, k) => ⟨j, i, k⟩

/-- The encounters in all junctions of occupants that collide there. -/
def encounters (motion : MotionSettings α) (junctions : List (Junction α))
    (occupants : List (Occupant α)) : List (Encounter junctions occupants) :=
  (List.finRange junctions.length).flatMap (encountersIn motion junctions occupants)

theorem collisionsIn_eq_encountersIn (j : Fin junctions.length) :
    collisionsIn motion occupants junctions[j] =
      (encountersIn motion junctions occupants j).map Encounter.collision := by
  have listed : occupants = (List.finRange occupants.length).map (occupants[·]) := by simp
  rw [collisionsIn, pairs_filter, List.filter_filter, encountersIn]
  conv_lhs => rw [listed]
  rw [pairs_map, List.filter_map, List.map_map, List.map_map]
  rfl

theorem collisions_eq_firstOfPairs : collisions motion junctions occupants =
    Collision.firstOfPairs ((encounters motion junctions occupants).map Encounter.collision) := by
  have listed : junctions = (List.finRange junctions.length).map (junctions[·]) := by simp
  rw [collisions, encounters, List.map_flatMap]
  conv_lhs => rw [listed]
  rw [List.flatMap_map]
  simp only [collisionsIn_eq_encountersIn]

/-- What holds between the ids of an occupant and of those after it holds in every collision. -/
theorem forall_collisions {R : String → String → Prop}
    (related : occupants.Pairwise fun a b => R a.id b.id) {c : Collision}
    (h : c ∈ collisions motion junctions occupants) : R c.entityA c.entityB := by
  obtain ⟨j, -, hj⟩ := List.mem_flatMap.1 ((Collision.firstOfPairs_sublist _).subset h)
  obtain ⟨⟨a, b⟩, hpair, rfl⟩ := List.mem_map.1 hj
  exact forall_pairs (related.filter _) (List.mem_filter.1 hpair).1

theorem isOccupiedBy_iff {j : Junction α} {o : Occupant α} :
    j.isOccupiedBy o = true ↔ j.contains o.position = true ∨ j.id ∈ o.crossed := by
  simp [Junction.isOccupiedBy]

theorem mem_encounters {s : Encounter junctions occupants} :
    s ∈ encounters motion junctions occupants ↔ s.first < s.second ∧
      collides motion occupants[s.first] occupants[s.second] = true ∧ s.Shares s.junction := by
  simp only [Encounter.Shares, ← isOccupiedBy_iff, ← Bool.and_eq_true]
  constructor
  · intro h
    obtain ⟨j, -, hj⟩ := List.mem_flatMap.1 h
    obtain ⟨⟨i, k⟩, hpair, rfl⟩ := List.mem_map.1 hj
    obtain ⟨paired, close⟩ := List.mem_filter.1 hpair
    exact ⟨mem_pairs_finRange.1 paired, close⟩
  · rintro ⟨lt, close⟩
    refine List.mem_flatMap.2 ⟨s.junction, List.mem_finRange _, List.mem_map.2 ?_⟩
    exact ⟨(s.first, s.second), List.mem_filter.2 ⟨mem_pairs_finRange.2 lt, close⟩, rfl⟩

theorem pairwise_encounters :
    (encounters motion junctions occupants).Pairwise Encounter.Before := by
  refine List.pairwise_flatMap.2 ⟨fun j _ => ?_, ?_⟩
  · refine List.pairwise_map.2 (((pairwise_pairs (List.pairwise_lt_finRange _)).filter _).imp ?_)
    rintro ⟨a, b⟩ ⟨c, d⟩ lex
    cases lex with
    | left _ _ lt => exact .first rfl lt
    | right _ lt => exact .second rfl rfl lt
  · refine (List.pairwise_lt_finRange _).imp fun lt s hs t ht => .junction ?_
    obtain ⟨_, -, rfl⟩ := List.mem_map.1 hs
    obtain ⟨_, -, rfl⟩ := List.mem_map.1 ht
    exact lt

section Reported
variable (distinct : (occupants.map (·.id)).Nodup)
include distinct

omit [Scalar α] in
theorem samePair_iff {s t : Encounter junctions occupants} :
    s.collision.samePair t.collision = true ↔ s.first = t.first ∧ s.second = t.second := by
  have apart := List.pairwise_iff_getElem.1 (List.pairwise_map.1 distinct)
  have same {i k : Fin occupants.length} : occupants[i].id = occupants[k].id ↔ i = k := by
    refine ⟨fun h => ?_, fun h => h ▸ rfl⟩
    rcases lt_trichotomy i k with lt | rfl | lt
    · exact absurd h (apart _ _ i.isLt k.isLt lt)
    · rfl
    · exact absurd h.symm (apart _ _ k.isLt i.isLt lt)
  simp only [Encounter.collision, Collision.samePair, Bool.and_eq_true, beq_iff_eq, same]

/-- An encounter is the first of its pair just if its junction is the first that the two share. -/
theorem first_iff_earliest {s : Encounter junctions occupants}
    (hs : s ∈ encounters motion junctions occupants) :
    (∀ t ∈ encounters motion junctions occupants, t.Before s →
        t.collision.samePair s.collision = false) ↔ ∀ j, s.Shares j → s.junction ≤ j := by
  constructor
  · intro first j shares
    by_contra earlier
    have sooner : (⟨j, s.first, s.second⟩ : Encounter junctions occupants) ∈
        encounters motion junctions occupants :=
      mem_encounters.2 ⟨(mem_encounters.1 hs).1, (mem_encounters.1 hs).2.1, shares⟩
    have apart := first _ sooner (.junction (not_le.1 earlier))
    rw [Bool.eq_false_iff] at apart
    exact apart ((samePair_iff distinct).2 ⟨rfl, rfl⟩)
  · intro earliest t ht before
    rw [Bool.eq_false_iff]
    intro same
    obtain ⟨first, second⟩ := (samePair_iff distinct).1 same
    have shares := (mem_encounters.1 ht).2.2
    have sharesToo : s.Shares t.junction := by
      simpa only [Encounter.Shares, first, second] using shares
    cases before with
    | junction lt => exact absurd lt (earliest _ sharesToo).not_gt
    | first _ lt => exact lt.ne first
    | second _ _ lt => exact lt.ne second

/-- What is reported are the encounters that are to be reported, in order, if all distances can
be compared. -/
theorem exists_encounters (comparable : occupants.Pairwise fun a b =>
      (¬ motion.gap a.kind b.kind ≤ (a.position - b.position).norm ↔
        (a.position - b.position).norm < motion.gap a.kind b.kind)) :
    ∃ reported : List (Encounter junctions occupants), reported.Pairwise Encounter.Before ∧
      (∀ s, s ∈ reported ↔ s.Collides motion) ∧
      collisions motion junctions occupants = reported.map Encounter.collision := by
  have ordered : (encounters motion junctions occupants).Pairwise Encounter.Before :=
    pairwise_encounters
  obtain ⟨reported, sublist, same, mem⟩ :=
    Collision.firstOfPairs_map (f := Encounter.collision) Encounter.Before.asymm ordered
  refine ⟨reported, ordered.sublist sublist, fun s => ?_, collisions_eq_firstOfPairs.trans same⟩
  have close (lt : s.first < s.second) := List.pairwise_iff_getElem.1 comparable _ _ s.first.isLt
    s.second.isLt lt
  rw [mem]
  constructor
  · rintro ⟨hs, first⟩
    obtain ⟨lt, near, shares⟩ := mem_encounters.1 hs
    obtain ⟨mixed, below⟩ := collides_iff.1 near
    exact ⟨lt, mixed, (close lt).1 below, shares, (first_iff_earliest distinct hs).1 first⟩
  · intro h
    have hs := mem_encounters.2 ⟨h.ordered, collides_iff.2 ⟨h.mixed, (close h.ordered).2 h.close⟩,
      h.shared⟩
    exact ⟨hs, (first_iff_earliest distinct hs).2 h.earliest⟩

end Reported
end Occupant
end Roadway
