import Roadway.Proofs.Traffic.Route
import Roadway.Proofs.Traffic.Walk

/-!
# Walks along a route

An entity on the edge at its position in its route enters the next edge of the route, if any
lane of that edge admits it, and is then on the edge at the next position. So a walk leaves
the edges of the route behind one by one, and every crossing counts in the position. Where a
route repeats an edge it is the position that tells which of the occurrences is meant.

## Main definitions

* `Walker.OnRoute` — on the edge at the position in the route.
* `Network.RunsPast` — whether a move goes past the end of the last edge of the route.
* `Network.Blocked` — whether the edge after a position does not admit an entity.
* `Network.onRoute_of_advance`, `Network.advance_eq_arrived_iff`,
  `Network.blocked_of_advance` — the three ways in which a move along a route ends.
-/
namespace Roadway
variable {α : Type} {net : Network α} {e : Entity α}

/-- The edge at a position of the route is found from there. -/
theorem Entity.routeIndexFrom?_of_getElem? {edge : String} {position : Nat}
    (here : e.route[position]? = some edge) :
    e.routeIndexFrom? edge position = some position := by
  obtain ⟨hlt, heq⟩ := List.getElem?_eq_some_iff.1 here
  have first : (e.route.drop position).findIdx? (· == edge) = some 0 := by
    rw [List.drop_eq_getElem_cons hlt, List.findIdx?_cons, heq]
    simp
  rw [routeIndexFrom?, first]
  simp

namespace Network

/-- The edge at the position after a given one admits no entity of the kind. -/
def Blocked (net : Network α) (e : Entity α) (position : Nat) : Prop :=
  ∃ id i, e.route[position + 1]? = some id ∧ net.edgeIndex? id = some i ∧
    (net.edgeAt i).admits e.kind = false

end Network

namespace Walker

/-- On the edge at the position in the route. -/
def OnRoute (e : Entity α) (w : Walker net) : Prop :=
  e.route[w.routePosition]? = some (net.edgeAt w.lane.edge).id

section Onward
variable {w : Walker net} (here : OnRoute e w)
include here

/-- On its route an entity goes on to the next edge, until there is none. -/
theorem OnRoute.onward_eq : net.onward e w.lane.edge w.routePosition =
    match e.route[w.routePosition + 1]? with
    | some id =>
      match net.edgeIndex? id with
      | some edge => .enter edge (w.routePosition + 1)
      | none => .deadEnd
    | none => .routeEnd := by
  rewrite [Network.onward, Entity.routeIndexFrom?_of_getElem? here]
  rfl

theorem OnRoute.of_enter {edge : Fin net.edges.size} {position : Nat}
    (enter : net.onward e w.lane.edge w.routePosition = .enter edge position) :
    position = w.routePosition + 1 ∧
      ∃ id, e.route[w.routePosition + 1]? = some id ∧ net.edgeIndex? id = some edge := by
  rw [here.onward_eq] at enter
  split at enter
  · next id hnext =>
    split at enter
    · next found =>
      cases enter
      exact ⟨rfl, id, hnext, found⟩
    · cases enter
  · cases enter

/-- The route ends on its last edge. -/
theorem OnRoute.routeEnd_iff : net.onward e w.lane.edge w.routePosition = .routeEnd ↔
    w.routePosition + 1 = e.route.length := by
  obtain ⟨hlt, -⟩ := List.getElem?_eq_some_iff.1 here
  rw [here.onward_eq]
  constructor
  · intro last
    split at last
    · split at last <;> cases last
    · next none =>
      have hle := List.getElem?_eq_none_iff.1 none
      omega
  · intro last
    rw [List.getElem?_eq_none (by omega)]

/-- A route without a fault has no dead ends. -/
theorem OnRoute.ne_deadEnd (valid : net.routeFault? e.route = none) :
    net.onward e w.lane.edge w.routePosition ≠ .deadEnd := by
  rw [here.onward_eq]
  split
  · next id hnext =>
    obtain ⟨i, found⟩ := Network.edgeIndex?_of_route valid (List.mem_of_getElem? hnext)
    rw [found]
    exact nofun
  · exact nofun

end Onward

variable [Scalar α] {w w' : Walker net} {left : List (LaneRef net)}

/-- A crossing leads onto the next edge of the route. -/
theorem OnRoute.crosses (here : OnRoute e w) (crosses : Crosses e w w') :
    OnRoute e w' ∧ w'.routePosition = w.routePosition + 1 := by
  cases crosses with
  | enter _ onward entered =>
    obtain ⟨rfl, id, hnext, found⟩ := here.of_enter onward
    refine ⟨?_, rfl⟩
    rw [OnRoute, (Network.admitted_of_entryLane? entered).1, Network.id_of_edgeIndex? found]
    exact hnext

/-- A trail leaves the edges of the route behind one by one. -/
theorem Trail.onRoute (trail : Trail e left w w') (here : OnRoute e w) :
    OnRoute e w' ∧ w'.routePosition = w.routePosition + left.length ∧
      left.map (fun r => (net.edgeAt r.edge).id) =
        (e.route.drop w.routePosition).take left.length := by
  induction trail with
  | refl w => exact ⟨here, rfl, rfl⟩
  | @cross left w w' w'' first rest ih =>
    obtain ⟨next, position⟩ := here.crosses first
    obtain ⟨there, reached, edges⟩ := ih next
    obtain ⟨hlt, heq⟩ := List.getElem?_eq_some_iff.1 here
    refine ⟨there, ?_, ?_⟩
    · rw [reached, position, List.length_cons]
      omega
    · rw [List.map_cons, edges, position, List.drop_eq_getElem_cons hlt, List.length_cons,
        List.take_succ_cons, heq]

end Walker

namespace Network
variable [Scalar α] {lane r : LaneRef net} {offset distance stop : α} {position : Nat}
  {junctions : List String}

/-- A move goes past the end of the last edge of the route before its crossings are used
up. -/
def RunsPast (e : Entity α) (lane : LaneRef net) (offset distance : α) : Prop :=
  ∃ left w, Walker.Trail e left (setOut e lane offset distance) w ∧
    left.length < maxCrossings ∧ w.routePosition + 1 = e.route.length ∧
    ¬ w.offset ≤ (net.lane w.lane).length

section OnRoute
variable (here : e.route[e.routePosition]? = some (net.edgeAt lane.edge).id)
include here

/-- A move along a route leads along a trail on it, which counts its crossings. -/
theorem exists_trail_onRoute (offset distance : α) :
    ∃ left w, Walker.Trail e left (setOut e lane offset distance) w ∧ Walker.OnRoute e w ∧
      w.routePosition = e.routePosition + w.junctions.length ∧
      (left.length < maxCrossings ∧ Walker.Halts e w (net.advance e lane offset distance) ∨
        net.advance e lane offset distance =
          .onLane w.lane (net.lane w.lane).length w.routePosition w.junctions) := by
  obtain ⟨w, trail, ended⟩ := Walker.walk_trail e maxCrossings (setOut e lane offset distance)
  obtain ⟨there, reached, -⟩ := trail.onRoute here
  refine ⟨_, w, trail, there, ?_, ended.imp_right And.right⟩
  rw [reached, trail.junctions]
  simp [setOut]

/-- A move along a route that ends on a lane has counted its crossings, and crossed the
junctions at which the edges left behind end. -/
theorem onRoute_of_advance (wf : net.WellFormed)
    (h : net.advance e lane offset distance = .onLane r stop position junctions) :
    e.route[position]? = some (net.edgeAt r.edge).id ∧
      position = e.routePosition + junctions.length ∧
      junctions.map some = ((e.route.drop e.routePosition).take junctions.length).map
        fun id => (net.edge? id).map (·.toJunction) := by
  obtain ⟨left, w, trail, there, counted, ended⟩ := exists_trail_onRoute here offset distance
  have crossed : w.junctions = left.map fun r => (net.edgeAt r.edge).toJunction :=
    trail.junctions
  have edges : left.map (fun r => (net.edgeAt r.edge).id) =
      (e.route.drop e.routePosition).take left.length := (trail.onRoute here).2.2
  have known : ∀ i, net.edge? (net.edgeAt i).id = some (net.edgeAt i) := by
    intro i
    rw [edge?, edgeIndex?_id wf]
    rfl
  have ends : w.junctions.map some = ((e.route.drop e.routePosition).take w.junctions.length).map
      fun id => (net.edge? id).map (·.toJunction) := by
    rw [crossed, List.length_map, ← edges]
    simp [known]
  rw [h] at ended
  rcases ended with ⟨-, halts⟩ | held
  · cases halts
    exact ⟨there, counted, ends⟩
  · cases held
    exact ⟨there, counted, ends⟩

/-- A move along a route arrives just if it goes past the end of the last edge. -/
theorem advance_eq_arrived_iff :
    net.advance e lane offset distance = .arrived ↔ RunsPast e lane offset distance := by
  constructor
  · intro h
    obtain ⟨left, w, trail, there, -, ended⟩ := exists_trail_onRoute here offset distance
    rw [h] at ended
    rcases ended with ⟨few, halts⟩ | held
    · cases halts with
      | routeEnd past last => exact ⟨left, w, trail, few, there.routeEnd_iff.1 last, past⟩
    · cases held
  · intro h
    obtain ⟨left, w, trail, few, last, past⟩ := h
    have last := (trail.onRoute here).1.routeEnd_iff.2 last
    -- At least one crossing is left at `w`, so the walk looks for a next edge there.
    obtain ⟨n, hn⟩ := Nat.exists_eq_add_of_lt few
    have arrives : w.next e = .inl .arrived := by
      rw [Walker.next]
      simp only [if_neg past, last]
    rw [advance_eq, hn, Nat.add_assoc, trail.walk_eq, Walker.walk, arrives]

/-- A move along a route that ends at a boundary is blocked by the next edge. -/
theorem blocked_of_advance (valid : net.routeFault? e.route = none)
    (h : net.advance e lane offset distance = .boundary r junctions) :
    Blocked net e (e.routePosition + junctions.length) := by
  obtain ⟨left, w, trail, there, counted, ended⟩ := exists_trail_onRoute here offset distance
  rw [h] at ended
  rcases ended with ⟨-, halts⟩ | held
  · cases halts with
    | deadEnd past stuck =>
      rcases stuck with dead | ⟨edge, position, enter, blocked⟩
      · exact absurd dead (there.ne_deadEnd valid)
      · obtain ⟨-, id, hnext, found⟩ := there.of_enter enter
        have closed := isSome_entryLane? edge w.lane.lane e.kind
        rw [blocked] at closed
        rw [← counted]
        exact ⟨id, edge, hnext, found, closed.symm⟩
  · cases held

end OnRoute
end Network
end Roadway
