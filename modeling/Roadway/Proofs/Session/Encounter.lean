import Roadway.Proofs.Number.Remainder
import Roadway.Proofs.Session.Departure
import Roadway.Proofs.Session.Legality
import Roadway.Proofs.Session.Refusal
import Roadway.Proofs.Traffic.Encounter

/-!
# Collisions that steps report

Over doubles the collisions reported are exactly the encounters that are to be reported, as long
as distances and half sums of lengths are numbers. Half sums are numbers for the lengths of all
settings that are accepted, since those are positive; they are not for infinite lengths of opposite
signs, which collide at any distance. A step checks its occupants in the order of their ids, so
that each collision it names, in its report or in its refusal, names the lesser id first.

## Main definitions

* `Session.namedIn` — the collisions that the outcome of a step names.
* `SessionSettings.isNaN_gap` — half sums of accepted lengths are numbers.
* `Session.reports_encounters` — what is reported and in which order it is named.
-/
namespace Roadway

/-- Half sums of accepted lengths are numbers. -/
theorem SessionSettings.isNaN_gap {settings : SessionSettings Float} (accepted : settings.Accepted)
    (a b : Kind) : Scalar.isNaN (settings.motion.gap a b) = false := by
  simp only [Accepted, fault?, MotionProfile.fault?, Option.orElse_eq_orElse, Option.orElse_eq_or,
    Option.or_eq_none_iff, SettingsFault.unless_eq_none, decide_eq_true_eq] at accepted
  obtain ⟨-, -, ⟨vehicle, -⟩, ⟨person, -⟩, -⟩ := accepted
  have nonneg (kind : Kind) : (0.0 : Float) ≤ (settings.motion.profile kind).length := by
    cases kind with
    | vehicle => exact Binary64.le_of_lt vehicle
    | person => exact Binary64.le_of_lt person
  exact Binary64.isNaN_of_nonneg (Binary64.nonneg_half (Binary64.nonneg_sum (nonneg a) (nonneg b)))

namespace Session
variable {α : Type}

/-- The collisions that the outcome of a step names, in its report or in its refusal. -/
def namedIn : Except (ControlFault α) (StepReport α) → List Collision
  | .ok report => report.collisions
  | .error (.collisionDetected collisions) => collisions
  | .error _ => []

variable [Scalar α] {s : Session α} {moves : List (Move α)}

/-- What a step names are the collisions of its moves. -/
theorem exists_of_namedIn {c : Collision} (h : c ∈ namedIn s.step.1) :
    ∃ moves, s.moves = .ok moves ∧ c ∈ s.collisionsOf moves := by
  have stepped := s.stepped
  generalize s.step = outcome at stepped h
  cases stepped with
  | closed => cases h
  | @failed _ fault stuck =>
    cases fault with
    | collisionDetected => exact absurd rfl (ne_collision_of_moves stuck)
    | _ => cases h
  | undone _ moved => exact ⟨_, moved, h⟩
  | committed _ moved => exact ⟨_, moved, h⟩

/-- Occupants keep the order of the entities. -/
theorem ids_occupants_sublist {net : Network α} {entities : List (Entity α)}
    (all : List.Forall₂ Move.Of entities moves) :
    ((moves.filterMap (·.occupant? net)).map (·.id)).Sublist (entities.map (·.id)) := by
  induction all with
  | nil => exact .slnil
  | @cons e move _ _ made _ ih =>
    cases made with
    | arrives => exact ih.cons _
    | @stays next id _ _ _ crossed event =>
      cases located : next.placement.position? net with
      | none =>
        have absent : (Move.stays next crossed event).occupant? net = none := by
          simp [Move.occupant?, located]
        rw [List.filterMap_cons_none absent]
        exact ih.cons _
      | some p =>
        have present : (Move.stays next crossed event).occupant? net =
            some ⟨e.id, next.kind, p, crossed⟩ := by simp [Move.occupant?, located, id]
        rw [List.filterMap_cons_some present]
        exact ih.cons_cons _

/-- The occupants of a step ascend in their ids. -/
theorem ascending_occupants (moved : s.moves = .ok moves) :
    (moves.filterMap (·.occupant? s.network)).Pairwise fun a b => a.id < b.id :=
  List.pairwise_map.1 (s.roster.sorted_ids.sublist (ids_occupants_sublist (of_moves moved)))

theorem ascending_of_namedIn {c : Collision} (h : c ∈ namedIn s.step.1) :
    c.entityA < c.entityB := by
  obtain ⟨moves, moved, hc⟩ := exists_of_namedIn h
  rw [collisionsOf] at hc
  split at hc
  · cases hc
  · exact Occupant.forall_collisions (ascending_occupants moved) hc

/-- What is reported are the encounters of two occupants, not both persons, closer than half the
sum of their lengths, in the first junction that both of them occupy, in order; and steps name the
lesser id first. -/
theorem reports_encounters :
    (∀ (motion : MotionSettings Float) (junctions : List (Junction Float))
      (occupants : List (Occupant Float)), (occupants.map (·.id)).Nodup →
      (occupants.Pairwise fun a b => Scalar.isNaN (a.position - b.position).norm = false ∧
        Scalar.isNaN (motion.gap a.kind b.kind) = false) →
      ∃ reported : List (Encounter junctions occupants), reported.Pairwise Encounter.Before ∧
        (∀ encounter, encounter ∈ reported ↔ encounter.Collides motion) ∧
        Occupant.collisions motion junctions occupants = reported.map Encounter.collision) ∧
    ∀ (s : Session Float), ∀ c ∈ namedIn s.step.1, c.entityA < c.entityB := by
  refine ⟨fun motion junctions occupants distinct numbers => ?_,
    fun s c named => ascending_of_namedIn named⟩
  exact Occupant.exists_encounters distinct
    (numbers.imp fun number => Binary64.not_le_iff_lt number.1 number.2)

/-- A junction and a narrow one behind it. -/
def crossings : List (Junction Float) := [⟨"A", ⟨0.0, 0.0⟩, 10.0⟩, ⟨"B", ⟨12.0, 0.0⟩, 1.0⟩]

/-- Traffic behind both junctions, of which only the walker is still in one. -/
def traffic : List (Occupant Float) :=
  [⟨"van", .vehicle, ⟨14.0, 0.0⟩, ["A", "B"]⟩, ⟨"bus", .vehicle, ⟨16.0, 1.0⟩, ["B"]⟩,
    ⟨"walker", .person, ⟨13.0, 0.0⟩, []⟩, ⟨"cab", .vehicle, ⟨13.5, 0.5⟩, ["A", "B"]⟩]

theorem accepted_defaults : (SessionSettings.default : SessionSettings Float).Accepted := by
  rw [SessionSettings.Accepted]
  decide +kernel

theorem reports_traffic :
    (∃ reported : List (Encounter crossings traffic), reported.Pairwise Encounter.Before ∧
      (∀ encounter, encounter ∈ reported ↔ encounter.Collides MotionSettings.default) ∧
      reported.map Encounter.collision = [⟨"van", "cab", "A"⟩, ⟨"van", "bus", "B"⟩,
        ⟨"van", "walker", "B"⟩, ⟨"bus", "cab", "B"⟩, ⟨"walker", "cab", "B"⟩]) ∧
    namedIn crowded.step.1 = [⟨"a", "b", "A"⟩] ∧ "a" < "b" := by
  have distances : traffic.Pairwise fun a b =>
      Scalar.isNaN (a.position - b.position).norm = false := by decide +kernel
  have numbers := distances.imp fun {a b} number =>
    And.intro number (SessionSettings.isNaN_gap accepted_defaults a.kind b.kind)
  have answer : Occupant.collisions MotionSettings.default crossings traffic =
      [⟨"van", "cab", "A"⟩, ⟨"van", "bus", "B"⟩, ⟨"van", "walker", "B"⟩, ⟨"bus", "cab", "B"⟩,
        ⟨"walker", "cab", "B"⟩] := by decide +kernel
  have meeting : namedIn crowded.step.1 = [⟨"a", "b", "A"⟩] := by decide +kernel
  obtain ⟨reported, ordered, listed, same⟩ :=
    reports_encounters.1 MotionSettings.default crossings traffic (by decide) numbers
  exact ⟨⟨reported, ordered, listed, same.symm.trans answer⟩, meeting,
    reports_encounters.2 crowded ⟨"a", "b", "A"⟩ (meeting ▸ List.mem_singleton_self _)⟩

/-- Lengths that are infinite, with opposite signs. -/
def boundless : MotionSettings Float :=
  { vehicle := { (MotionSettings.default : MotionSettings Float).vehicle with
      length := Scalar.infinity }
    person := { (MotionSettings.default : MotionSettings Float).person with
      length := -Scalar.infinity } }

/-- Occupants that collide although they are not closer than half the sum of their lengths. -/
theorem collides_boundless :
    let car : Occupant Float := ⟨"car", .vehicle, ⟨0.0, 0.0⟩, []⟩
    let walker : Occupant Float := ⟨"walker", .person, ⟨3.0, 4.0⟩, []⟩
    ([car, walker].map (·.id)).Nodup ∧
      (∀ kind, Scalar.isNaN (boundless.profile kind).length = false) ∧
      Scalar.isNaN (car.position - walker.position).norm = false ∧
      ¬ (car.position - walker.position).norm < boundless.gap .vehicle .person ∧
      Occupant.collisions boundless [⟨"A", ⟨0.0, 0.0⟩, 10.0⟩] [car, walker] =
        [⟨"car", "walker", "A"⟩] := by
  have lengths : Scalar.isNaN (boundless.profile .vehicle).length = false ∧
      Scalar.isNaN (boundless.profile .person).length = false := by decide +kernel
  refine ⟨by decide, fun kind => ?_, ?_⟩
  · cases kind with
    | vehicle => exact lengths.1
    | person => exact lengths.2
  · decide +kernel

end Session
end Roadway
