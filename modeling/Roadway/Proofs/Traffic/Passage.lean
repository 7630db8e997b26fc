import Mathlib.Data.List.Chain
import Roadway.Proofs.Traffic.Route
import Roadway.Proofs.Traffic.Walk

/-!
# Passages through the network

A walk passes along the lanes that it leaves behind to the one on which it ends. Each edge of
the passage begins at the junction at which the one before it ends: successors leave there, and
so does the next edge of a route without a fault, at whichever of its occurrences the edge just
left is found. The route need not be the one that the walk has followed so far, and the position
in it may be any.

## Main definitions

* `Walker.passage` — the lanes of a walk.
* `Network.Passes` — how a walk passes through the network.
* `Network.passes_of_advance` — every move from a lane that admits the entity passes that way.
-/
namespace Roadway
variable {α : Type} {net : Network α} {e : Entity α}

/-- A position that is found is one of the edge. -/
theorem Entity.getElem?_of_routeIndexFrom? {edge : String} {start index : Nat}
    (found : e.routeIndexFrom? edge start = some index) : e.route[index]? = some edge := by
  rw [routeIndexFrom?, Option.or_eq_some_iff] at found
  rcases found with ahead | ⟨-, behind⟩
  · obtain ⟨i, hi, rfl⟩ := Option.map_eq_some_iff.1 ahead
    obtain ⟨hlt, same, -⟩ := List.findIdx?_eq_some_iff_getElem.1 hi
    rw [List.getElem_drop] at same
    rw [List.length_drop] at hlt
    rw [Nat.add_comm, List.getElem?_eq_getElem (by omega), eq_of_beq same]
  · obtain ⟨hlt, same, -⟩ := List.findIdx?_eq_some_iff_getElem.1 behind
    rw [List.getElem?_eq_getElem hlt, eq_of_beq same]

namespace Network

theorem mem_successors {edge next : Fin net.edges.size} :
    next ∈ net.successors edge ↔ net.Continues edge next := by
  simp [successors, Continues]

theorem continues_of_freeSuccessor? {edge next : Fin net.edges.size} {kind : Kind}
    (found : net.freeSuccessor? edge kind = some next) : net.Continues edge next := by
  rw [freeSuccessor?, Option.orElse_eq_orElse, Option.orElse_eq_or, Option.or_eq_some_iff] at found
  have usable : next ∈ (net.successors edge).filter fun n => (net.edgeAt n).admits kind := by
    rcases found with onward | ⟨-, back⟩
    · exact List.mem_of_find?_eq_some onward
    · exact List.mem_of_head? back
  exact mem_successors.1 (List.mem_filter.1 usable).1

/-- On a route without a fault each edge is continued by the next one. -/
theorem continues_of_route (wf : net.WellFormed) {route : List String}
    (valid : net.routeFault? route = none) {position : Nat} {edge next : Fin net.edges.size}
    (here : route[position]? = some (net.edgeAt edge).id) {id : String}
    (ahead : route[position + 1]? = some id) (found : net.edgeIndex? id = some next) :
    net.Continues edge next := by
  rw [← id_of_edgeIndex? found] at ahead
  exact ((routeFault?_eq_none_iff wf).1 valid).continues position edge next here ahead

/-- However an entity goes on, the edge entered continues the one left. -/
theorem continues_of_onward (wf : net.WellFormed)
    (route : e.route = [] ∨ net.routeFault? e.route = none) {edge next : Fin net.edges.size}
    {position following : Nat} (enter : net.onward e edge position = .enter next following) :
    net.Continues edge next := by
  unfold onward at enter
  split at enter
  · next index found =>
    have here := Entity.getElem?_of_routeIndexFrom? found
    split at enter
    · next id ahead =>
      split at enter
      · next known =>
        cases enter
        rcases route with empty | valid
        · rw [empty] at ahead
          cases ahead
        · exact continues_of_route wf valid here ahead known
      · cases enter
    · cases enter
  · split at enter
    · next found =>
      cases enter
      exact continues_of_freeSuccessor? found
    · cases enter

end Network

namespace Walker
variable [Scalar α] {w w' w'' : Walker net} {left : List (LaneRef net)}

/-- The walker that a walk leads to, where it halts or is held. -/
def reached (e : Entity α) : Nat → Walker net → Walker net
  | 0, w => w
  | n + 1, w =>
    match w.next e with
    | .inl _ => w
    | .inr w' => reached e n w'

/-- The lanes of a walk, from the one on which it begins to the one on which it ends. -/
def passage (e : Entity α) (n : Nat) (w : Walker net) : List (LaneRef net) :=
  lanesLeft e n w ++ [(reached e n w).lane]

theorem trail_reached (e : Entity α) (n : Nat) (w : Walker net) :
    Trail e (lanesLeft e n w) w (reached e n w) := by
  induction n generalizing w with
  | zero => exact .refl w
  | succ n ih =>
    rcases next_cases e w with ⟨a, halts, -⟩ | ⟨w', crosses, first⟩
    · simp only [lanesLeft, reached, halts]
      exact .refl w
    · simp only [lanesLeft, reached, crosses]
      exact .cross first (ih w')

theorem Trail.reached_eq (trail : Trail e left w w') : reached e left.length w = w' := by
  induction trail with
  | refl w => rfl
  | cross first _ ih =>
    rw [List.length_cons, reached, first.next_eq]
    exact ih

/-- Crossings are deterministic, so a trail leads to one walker. -/
theorem Trail.unique (trail : Trail e left w w') (other : Trail e left w w'') : w' = w'' :=
  trail.reached_eq.symm.trans other.reached_eq

/-- A walk halts where it leads to, or is held there with its crossings used up. -/
theorem walk_reached (e : Entity α) (n : Nat) (w : Walker net) :
    (lanesLeft e n w).length < n ∧ Halts e (reached e n w) (walk e n w) ∨
      (lanesLeft e n w).length = n ∧ walk e n w =
        .onLane (reached e n w).lane (net.lane (reached e n w).lane).length
          (reached e n w).routePosition (reached e n w).junctions := by
  obtain ⟨w', trail, ended⟩ := walk_trail e n w
  rw [trail.unique (trail_reached e n w)] at ended
  exact ended

namespace Trail

theorem head?_lanes (trail : Trail e left w w') :
    (left ++ [w'.lane]).head? = some w.lane := by
  cases trail <;> rfl

/-- What holds between the lanes of every crossing holds along a trail. -/
theorem isChain_lanes {R : LaneRef net → LaneRef net → Prop}
    (joins : ∀ {v v' : Walker net}, Crosses e v v' → R v.lane v'.lane) (trail : Trail e left w w') :
    (left ++ [w'.lane]).IsChain R := by
  induction trail with
  | refl w => exact List.isChain_singleton _
  | cross first rest ih =>
    refine List.isChain_cons.2 ⟨?_, ih⟩
    intro r hr
    cases rest.head?_lanes.symm.trans hr
    exact joins first

/-- What holds of the lane on which a trail begins and of every lane entered holds of all its
lanes. -/
theorem forall_lanes {P : LaneRef net → Prop}
    (enters : ∀ {v v' : Walker net}, Crosses e v v' → P v'.lane) (trail : Trail e left w w')
    (hw : P w.lane) : ∀ r ∈ left ++ [w'.lane], P r := by
  induction trail with
  | refl w => simpa using hw
  | cross first _ ih =>
    intro r hr
    rcases List.mem_cons.1 hr with rfl | hr
    · exact hw
    · exact ih (enters first) r hr

end Trail
end Walker

/-- The end of a walk on the last lane of its passage. The junctions crossed are those at which
the other lanes end, and a walk that is not held stays within its lane. -/
inductive Advance.EndsOn [Scalar α] (passage : List (LaneRef net)) : Advance net → Prop
  | onLane {r : LaneRef net} {stop : α} {position : Nat} {junctions : List String}
      (last : passage.getLast? = some r)
      (crossed : junctions = passage.dropLast.map fun r => (net.edgeAt r.edge).toJunction)
      (within : passage.dropLast.length < Network.maxCrossings → stop ≤ (net.lane r).length) :
      EndsOn passage (.onLane r stop position junctions)
  | boundary {r : LaneRef net} {junctions : List String} (last : passage.getLast? = some r)
      (crossed : junctions = passage.dropLast.map fun r => (net.edgeAt r.edge).toJunction) :
      EndsOn passage (.boundary r junctions)
  | arrived : EndsOn passage .arrived

namespace Network
variable [Scalar α]

/-- How a move of an entity from a lane passes through the network. -/
structure Passes (net : Network α) (e : Entity α) (start : LaneRef net)
    (passage : List (LaneRef net)) (result : Advance net) : Prop where
  begins : passage.head? = some start
  connected : passage.IsChain fun r s => net.Continues r.edge s.edge
  known : ∀ r ∈ passage, net.laneRef? (net.edgeAt r.edge).id r.lane.val = some r
  admits : ∀ r ∈ passage, (net.lane r).allows e.kind = true
  few : passage.dropLast.length ≤ maxCrossings
  ends : result.EndsOn passage

/-- A move from a lane that admits the entity, over any distance and with a route that is empty
or without a fault, passes along edges that continue each other and lanes that admit it. -/
theorem passes_of_advance {d : NetworkDescription α} (accepted : d.Accepted) {e : Entity α}
    (route : e.route = [] ∨ (lay d).routeFault? e.route = none) {lane : LaneRef (lay d)}
    (allows : ((lay d).lane lane).allows e.kind = true) (offset distance : α) :
    (lay d).Passes e lane (Walker.passage e maxCrossings (setOut e lane offset distance))
      ((lay d).advance e lane offset distance) := by
  have wf := wellFormed_lay accepted
  have trail := Walker.trail_reached e maxCrossings (setOut e lane offset distance)
  have ended := Walker.walk_reached e maxCrossings (setOut e lane offset distance)
  rw [Walker.passage, advance_eq]
  generalize Walker.lanesLeft e maxCrossings (setOut e lane offset distance) = left at *
  generalize Walker.reached e maxCrossings (setOut e lane offset distance) = w at *
  generalize Walker.walk e maxCrossings (setOut e lane offset distance) = result at *
  have crossed : w.junctions = left.map fun r => ((lay d).edgeAt r.edge).toJunction :=
    trail.junctions
  refine ⟨trail.head?_lanes, ?_, ?_, ?_, ?_, ?_⟩
  · refine trail.isChain_lanes fun crosses => ?_
    cases crosses with
    | enter _ onward entered =>
      have continues := continues_of_onward wf route onward
      rw [← (admitted_of_entryLane? entered).1] at continues
      exact continues
  · intro r _
    exact laneRef?_eq_some_iff.2 ⟨edgeIndex?_id wf r.edge, rfl⟩
  · refine trail.forall_lanes (fun crosses => ?_) allows
    cases crosses with
    | enter _ _ entered => exact (admitted_of_entryLane? entered).2
  · rw [List.dropLast_concat]
    rcases ended with ⟨few, -⟩ | ⟨all, -⟩
    · exact few.le
    · exact all.le
  · rcases ended with ⟨-, halts⟩ | ⟨all, rfl⟩
    · cases halts with
      | within within => exact .onLane List.getLast?_concat (by simpa using crossed) fun _ => within
      | deadEnd => exact .boundary List.getLast?_concat (by simpa using crossed)
      | routeEnd => exact .arrived
    · refine .onLane List.getLast?_concat (by simpa using crossed) fun few => ?_
      rw [List.dropLast_concat] at few
      exact absurd all few.ne

end Network

/-! A road that goes on past a crossing, with a lane for persons only, or leads back. -/
section Fork

def NetworkDescription.fork : NetworkDescription Float where
  name := "fork"
  description := ""
  junctions := [⟨"A", ⟨0.0, 0.0⟩, 10.0⟩, ⟨"B", ⟨100.0, 0.0⟩, 10.0⟩, ⟨"C", ⟨200.0, 0.0⟩, 10.0⟩]
  edges := [⟨"AB", "A", "B", [⟨0.0, 0.0⟩, ⟨100.0, 0.0⟩], 13.89, [.default, .default]⟩,
    ⟨"BA", "B", "A", [⟨100.0, 5.0⟩, ⟨0.0, 5.0⟩], 13.89, [.default]⟩,
    ⟨"BC", "B", "C", [⟨100.0, 0.0⟩, ⟨200.0, 0.0⟩], 13.89, [.default, ⟨3.2, [.person], none⟩]⟩]

theorem NetworkDescription.accepted_fork : fork.Accepted := by decide +kernel

theorem Network.lay_fork : lay .fork = ⟨"fork", (NetworkDescription.fork.edges.map layEdge).toArray,
    NetworkDescription.fork.junctions⟩ := lay_of_sorted (by decide)

/-- A car whose position lies behind the end of its route. -/
def Entity.misplaced : Entity Float :=
  { create "car" .vehicle 1.0 with route := ["AB", "BC"], routePosition := 7 }

/-- The car goes on to the lane that admits it, five metres past the crossing. -/
theorem Network.passes_fork : ∃ start last,
    (lay .fork).laneRef? "AB" 1 = some start ∧ (lay .fork).laneRef? "BC" 0 = some last ∧
    (Walker.passage .misplaced maxCrossings (setOut .misplaced start 95.0 10.0)).map
      (fun r => ((lay .fork).lane r).id) = ["AB_1", "BC_0"] ∧
    (lay .fork).advance .misplaced start 95.0 10.0 = .onLane last 5.0 1 ["B"] ∧
    (lay .fork).Passes .misplaced start
      (Walker.passage .misplaced maxCrossings (setOut .misplaced start 95.0 10.0))
      ((lay .fork).advance .misplaced start 95.0 10.0) := by
  have route : (lay .fork).routeFault? Entity.misplaced.route = none := by
    rw [lay_fork]
    decide +kernel
  have moves : ∃ start last,
      (lay .fork).laneRef? "AB" 1 = some start ∧ (lay .fork).laneRef? "BC" 0 = some last ∧
      ((lay .fork).lane start).allows .vehicle = true ∧
      (Walker.passage .misplaced maxCrossings (setOut .misplaced start 95.0 10.0)).map
        (fun r => ((lay .fork).lane r).id) = ["AB_1", "BC_0"] ∧
      (lay .fork).advance .misplaced start 95.0 10.0 = .onLane last 5.0 1 ["B"] := by
    rw [lay_fork]
    refine ⟨⟨⟨0, by decide⟩, ⟨1, by decide +kernel⟩⟩, ⟨⟨2, by decide⟩, ⟨0, by decide +kernel⟩⟩, ?_⟩
    decide +kernel
  obtain ⟨start, last, known, entered, allows, passage, ending⟩ := moves
  exact ⟨start, last, known, entered, passage, ending,
    passes_of_advance NetworkDescription.accepted_fork (.inr route) allows 95.0 10.0⟩

end Fork
end Roadway
