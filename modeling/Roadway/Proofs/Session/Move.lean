import Mathlib.Data.List.Forall2
import Roadway.Session.Step

/-!
# Moves

The move of an entity has one list of the ways in which it ends. A move keeps what the
entity is and where it means to go, and the moves of a step are those of its entities
in turn, so the ids of those that stay and those that arrive are the ids before.

## Main definitions

* `Session.Moved` — the ways in which the move of an entity ends.
* `Move.Of` — what an entity can make for a move.
* `Session.moves_cases` — all entities move, or one of them has a fault.
* `Move.ids_perm` — every entity stays or arrives, once.
-/
namespace Roadway

/-- A traversal makes a result for every element or fails at one of them. -/
theorem mapM_cases {β γ ε : Type} (f : β → Except ε γ) (xs : List β) :
    (∃ ys, xs.mapM f = .ok ys ∧ List.Forall₂ (fun x y => f x = .ok y) xs ys) ∨
      ∃ fault, xs.mapM f = .error fault ∧ ∃ x ∈ xs, f x = .error fault := by
  induction xs with
  | nil => exact .inl ⟨[], rfl, .nil⟩
  | cons x rest ih =>
    rw [List.mapM_cons]
    cases first : f x with
    | error fault => exact .inr ⟨fault, rfl, x, List.mem_cons_self, first⟩
    | ok y =>
      rcases ih with ⟨ys, hys, all⟩ | ⟨fault, hfault, z, hz, failed⟩
      · rw [hys]
        exact .inl ⟨y :: ys, rfl, .cons first all⟩
      · rw [hfault]
        exact .inr ⟨fault, rfl, z, List.mem_cons_of_mem x hz, failed⟩

/-- A traversal that fails nowhere makes the results in turn. -/
theorem mapM_eq_map {β γ ε : Type} {f : β → Except ε γ} {g : β → γ} {xs : List β}
    (made : ∀ x ∈ xs, f x = .ok (g x)) : xs.mapM f = .ok (xs.map g) := by
  induction xs with
  | nil => rfl
  | cons x rest ih =>
    rw [List.mapM_cons, made x List.mem_cons_self,
      ih fun y hy => made y (List.mem_cons_of_mem x hy)]
    rfl

variable {α : Type}

/-- A move of an entity: it arrives, or stays the entity it is. -/
inductive Move.Of (e : Entity α) : Move α → Prop
  | stays {next : Entity α} (id : next.id = e.id) (kind : next.kind = e.kind)
      (route : next.route = e.route) (exitTime : next.exitTime = e.exitTime)
      (crossed : List String) (event : Option BoundaryEvent) :
      Of e (.stays next crossed event)
  | arrives : Of e (.arrives e.id)

theorem Move.of_ofAdvance [Scalar α] {net : Network α} (e : Entity α) (lateral speed : α)
    (a : Advance net) : Move.Of e (.ofAdvance e lateral speed a) := by
  cases a with
  | arrived => exact .arrives
  | onLane r offset routePosition junctions => refine .stays ?_ ?_ ?_ ?_ _ _ <;> rfl
  | boundary r junctions => refine .stays ?_ ?_ ?_ ?_ _ _ <;> rfl

namespace Move
variable {entities : List (Entity α)} {moves : List (Move α)}

/-- The entities that stay, as they are afterwards. -/
def survivors (moves : List (Move α)) : List (Entity α) := moves.filterMap (·.survivor?)

section Movers
variable {R : Entity α → Move α → Prop} (all : List.Forall₂ R entities moves)
include all

theorem exists_of_mem {e : Entity α} (h : e ∈ entities) : ∃ move ∈ moves, R e move := by
  induction all with
  | nil => cases h
  | @cons x move _ _ made _ ih =>
    rcases List.mem_cons.1 h with rfl | h
    · exact ⟨move, List.mem_cons_self, made⟩
    · obtain ⟨y, hy, hmade⟩ := ih h
      exact ⟨y, List.mem_cons_of_mem move hy, hmade⟩

theorem exists_mover {move : Move α} (h : move ∈ moves) : ∃ e ∈ entities, R e move := by
  induction all with
  | nil => cases h
  | @cons x y _ _ made _ ih =>
    rcases List.mem_cons.1 h with rfl | h
    · exact ⟨x, List.mem_cons_self, made⟩
    · obtain ⟨e, he, hmade⟩ := ih h
      exact ⟨e, List.mem_cons_of_mem x he, hmade⟩

/-- A survivor comes from an entity that stayed. -/
theorem exists_of_survivor {next : Entity α} (h : next ∈ survivors moves) :
    ∃ e ∈ entities, ∃ crossed event, R e (.stays next crossed event) := by
  obtain ⟨move, listed, survives⟩ := List.mem_filterMap.1 h
  cases move with
  | stays e' crossed event =>
    cases survives
    obtain ⟨e, he, made⟩ := exists_mover all listed
    exact ⟨e, he, crossed, event, made⟩
  | arrives => cases survives

end Movers

/-- Survivors keep the order of the entities. -/
theorem ids_sublist (all : List.Forall₂ Of entities moves) :
    ((survivors moves).map (·.id)).Sublist (entities.map (·.id)) := by
  rw [survivors]
  induction all with
  | nil => exact .slnil
  | cons made _ ih =>
    cases made with
    | stays id =>
      simp only [List.filterMap_cons, survivor?, List.map_cons, id]
      exact ih.cons_cons _
    | arrives =>
      simp only [List.filterMap_cons, survivor?, List.map_cons]
      exact ih.cons _

/-- Every entity stays or arrives, once. -/
theorem ids_perm (all : List.Forall₂ Of entities moves) :
    (entities.map (·.id)).Perm
      ((survivors moves).map (·.id) ++ moves.filterMap (·.arrival?)) := by
  rw [survivors]
  induction all with
  | nil => exact .nil
  | cons made _ ih =>
    cases made with
    | stays id =>
      simp only [List.filterMap_cons, survivor?, arrival?, List.map_cons, id, List.cons_append]
      exact ih.cons _
    | arrives =>
      simp only [List.filterMap_cons, survivor?, arrival?, List.map_cons]
      exact (ih.cons _).trans List.perm_middle.symm

end Move

namespace Session
variable [Scalar α]

/-- The ways in which the move of an entity ends. -/
inductive Moved (s : Session α) (e : Entity α) : Except (ControlFault α) (Move α) → Prop
  | rests (off : ∀ edge lane offset lateral, e.placement ≠ .onLane edge lane offset lateral) :
      Moved s e (.ok (.stays e [] none))
  | missing {edge : String} {lane : Nat} {offset lateral : α}
      (on : e.placement = .onLane edge lane offset lateral)
      (unknown : s.network.laneRef? edge lane = none) :
      Moved s e (.error (.invalidArgument (.missingLane e.id edge lane)))
  | stuck {edge : String} {lane : Nat} {offset lateral : α}
      (on : e.placement = .onLane edge lane offset lateral) {r : LaneRef s.network}
      (known : s.network.laneRef? edge lane = some r)
      (refused : Motion.advance? s.settings.backend s.settings.motion e (s.network.lane r)
        s.clock.stepLength = none) :
      Moved s e (.error (.stepNotPositive s.clock.stepLength))
  | drives {edge : String} {lane : Nat} {offset lateral : α}
      (on : e.placement = .onLane edge lane offset lateral) {r : LaneRef s.network}
      (known : s.network.laneRef? edge lane = some r) {motion : Motion α}
      (moving : Motion.advance? s.settings.backend s.settings.motion e (s.network.lane r)
        s.clock.stepLength = some motion) :
      Moved s e (.ok (.ofAdvance e lateral motion.speed
        (s.network.advance e r offset motion.distance)))

theorem moved (s : Session α) (e : Entity α) : Moved s e (s.moveOf e) := by
  rw [moveOf]
  split
  · next edge lane offset lateral on =>
    split
    · next unknown => exact .missing on unknown
    · next r known =>
      split
      · next refused => exact .stuck on known refused
      · next motion moving => exact .drives on known moving
  · next off => exact .rests off

theorem of_moveOf {s : Session α} {e : Entity α} {move : Move α}
    (h : s.moveOf e = .ok move) : Move.Of e move := by
  have moved := s.moved e
  rw [h] at moved
  cases moved with
  | rests => exact .stays rfl rfl rfl rfl [] none
  | drives => exact Move.of_ofAdvance e _ _ _

/-- All entities move, or one of them has a fault. -/
theorem moves_cases (s : Session α) :
    (∃ moves, s.moves = .ok moves ∧
      List.Forall₂ (fun e move => s.moveOf e = .ok move) s.roster.entities moves) ∨
      ∃ fault, s.moves = .error fault ∧ ∃ e ∈ s.roster.entities, s.moveOf e = .error fault :=
  mapM_cases s.moveOf s.roster.entities

theorem moveOf_of_moves {s : Session α} {moves : List (Move α)} (h : s.moves = .ok moves) :
    List.Forall₂ (fun e move => s.moveOf e = .ok move) s.roster.entities moves := by
  rcases s.moves_cases with ⟨made, hmade, all⟩ | ⟨fault, hfault, -⟩
  · rw [h] at hmade
    cases hmade
    exact all
  · rw [h] at hfault
    cases hfault

theorem of_moves {s : Session α} {moves : List (Move α)} (h : s.moves = .ok moves) :
    List.Forall₂ Move.Of s.roster.entities moves :=
  (moveOf_of_moves h).imp fun _ _ => of_moveOf

section Congr
variable {s t : Session α} (index : s.index = t.index)
  (backend : s.settings.backend = t.settings.backend)
  (motion : s.settings.motion = t.settings.motion) (clock : s.clock = t.clock)
include index backend motion clock

/-- A move depends on the network, the settings of motion and the clock alone. -/
theorem moveOf_congr (e : Entity α) : s.moveOf e = t.moveOf e := by
  obtain ⟨net, _, _, _, _, _, _⟩ := s
  obtain ⟨_, _, _, _, _, _, _⟩ := t
  dsimp only at index backend motion clock
  subst index clock
  unfold moveOf
  cases e.placement with
  | onLane edge lane offset lateral =>
    dsimp only [network]
    cases net.network.laneRef? edge lane with
    | none => rfl
    | some r =>
      dsimp only
      rw [backend, motion]
  | free | undetermined => rfl

theorem moves_congr (roster : s.roster = t.roster) : s.moves = t.moves := by
  rw [moves, moves, roster, funext (moveOf_congr index backend motion clock)]

end Congr

/-- Moves do not depend on the timer. -/
theorem moves_timer (s : Session α) (timer : StepTimer) :
    moves { s with timer := timer } = s.moves :=
  moves_congr rfl rfl rfl rfl rfl

end Session
end Roadway
