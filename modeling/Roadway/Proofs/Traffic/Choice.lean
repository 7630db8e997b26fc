import Mathlib.Order.Fin.Basic
import Roadway.Proofs.Traffic.Passage

/-!
# Which way an entity chooses

At the end of an edge that is not on its route an entity chooses its way by itself. Of the edges
that begin there and admit it on some lane, it takes the one with the least id that does not
lead straight back, and only if all of them do the one with the least id. Edges lie in the order
of their ids, so the first edge that is found is the least. On the edge entered it keeps the index
of its lane if it can; otherwise it takes the lowest lane that admits it. If no edge admits it,
its walk is over.

## Main definitions

* `Network.Open`, `Network.LeadsBack` — the edges that can be entered, and those that lead back.
* `Network.Chosen` — the edge that an entity chooses.
* `LaneRef.Entered` — the lane on which an edge is entered.
* `Network.chooses_of_off_route` — every lane end off the route is crossed that way, or ends the
  walk.
-/
namespace Roadway
variable {α : Type} {net : Network α} {e : Entity α}

/-- An edge off the route has no position in it. -/
theorem Entity.routeIndexFrom?_of_notMem {edge : String} (off : edge ∉ e.route) (start : Nat) :
    e.routeIndexFrom? edge start = none := by
  have apart : ∀ id ∈ e.route, (id == edge) = false := by
    intro id listed
    rw [beq_eq_false_iff_ne]
    rintro rfl
    exact off listed
  rw [routeIndexFrom?, Option.or_eq_none_iff, Option.map_eq_none_iff, List.findIdx?_eq_none_iff,
    List.findIdx?_eq_none_iff]
  exact ⟨fun id listed => apart id (List.mem_of_mem_drop listed), apart⟩

/-- In an ascending list the first element that is found is the least. -/
theorem le_of_find? {n : Nat} {xs : List (Fin n)} (ascending : xs.Pairwise (· < ·))
    {p : Fin n → Bool} {x y : Fin n} (found : xs.find? p = some x) (hy : y ∈ xs)
    (hp : p y = true) : x ≤ y := by
  obtain ⟨-, before, after, rfl, skipped⟩ := List.find?_eq_some_iff_append.1 found
  rcases List.mem_append.1 hy with inFront | behind
  · have passedOver := skipped y inFront
    rw [hp] at passedOver
    cases passedOver
  · rcases List.mem_cons.1 behind with rfl | behind
    · exact le_rfl
    · exact ((List.pairwise_cons.1 (List.pairwise_append.1 ascending).2.1).1 y behind).le

namespace Network

/-- An edge that begins where another ends and admits a kind on one of its lanes. -/
structure Open (net : Network α) (kind : Kind) (edge next : Fin net.edges.size) : Prop where
  continues : net.Continues edge next
  admits : ∃ r : LaneRef net, r.edge = next ∧ (net.lane r).allows kind = true

/-- An edge leads from the end of another straight to its beginning. -/
def LeadsBack (net : Network α) (edge next : Fin net.edges.size) : Prop :=
  (net.edgeAt next).fromJunction = (net.edgeAt edge).toJunction ∧
    (net.edgeAt next).toJunction = (net.edgeAt edge).fromJunction

/-- An edge with a property whose id is the least. -/
structure Least (net : Network α) (P : Fin net.edges.size → Prop) (edge : Fin net.edges.size) :
    Prop where
  holds : P edge
  le : ∀ other, P other → (net.edgeAt edge).id ≤ (net.edgeAt other).id

/-- The edge that an entity of a kind chooses at the end of an edge. -/
inductive Chosen (net : Network α) (kind : Kind) (edge next : Fin net.edges.size) : Prop
  | onward (least : net.Least (fun n => net.Open kind edge n ∧ ¬ net.LeadsBack edge n) next)
  /-- Turning back is the last resort. -/
  | back (onlyWay : ∀ n, net.Open kind edge n → net.LeadsBack edge n)
      (least : net.Least (net.Open kind edge) next)

end Network

/-- The lane on which an entity of a kind enters an edge from a lane with an index. -/
inductive LaneRef.Entered (kind : Kind) (index : Nat) (entry : LaneRef net) : Prop
  /-- The index is kept, as far as the edge has lanes. -/
  | kept (allows : (net.lane entry).allows kind = true)
      (same : entry.lane.val = min index ((net.edgeAt entry.edge).lanes.size - 1))
  | lowest (allows : (net.lane entry).allows kind = true)
      (closed : ∀ r : LaneRef net, r.edge = entry.edge →
        r.lane.val = min index ((net.edgeAt entry.edge).lanes.size - 1) →
        (net.lane r).allows kind = false)
      (least : ∀ r : LaneRef net, r.edge = entry.edge → (net.lane r).allows kind = true →
        entry.lane.val ≤ r.lane.val)

namespace Network

/-- Only open edges are chosen. -/
theorem Chosen.opened {kind : Kind} {edge next : Fin net.edges.size}
    (chosen : net.Chosen kind edge next) : net.Open kind edge next := by
  cases chosen with
  | onward least => exact least.holds.1
  | back _ least => exact least.holds

theorem admits_iff {kind : Kind} {edge : Fin net.edges.size} :
    (net.edgeAt edge).admits kind = true ↔
      ∃ r : LaneRef net, r.edge = edge ∧ (net.lane r).allows kind = true := by
  rw [Edge.admits, Array.any_eq_true]
  constructor
  · rintro ⟨i, hi, allows⟩
    exact ⟨⟨edge, ⟨i, hi⟩⟩, rfl, allows⟩
  · rintro ⟨r, rfl, allows⟩
    exact ⟨r.lane.val, r.lane.isLt, allows⟩

/-- The successors that admit a kind are the open edges, in ascending order. -/
theorem mem_usable {kind : Kind} {edge next : Fin net.edges.size} :
    next ∈ (net.successors edge).filter (fun n => (net.edgeAt n).admits kind) ↔
      net.Open kind edge next := by
  rw [List.mem_filter, mem_successors, admits_iff]
  exact ⟨fun h => ⟨h.1, h.2⟩, fun h => ⟨h.continues, h.admits⟩⟩

theorem isReverseOf_iff {edge next : Fin net.edges.size} :
    (net.edgeAt next).isReverseOf (net.edgeAt edge) = true ↔ net.LeadsBack edge next := by
  simp [Edge.isReverseOf, LeadsBack]

theorem isSome_freeSuccessor?_iff {kind : Kind} {edge : Fin net.edges.size} :
    (net.freeSuccessor? edge kind).isSome = true ↔ ∃ next, net.Open kind edge next := by
  simp only [isSome_freeSuccessor?, List.any_eq_true, ← mem_usable, List.mem_filter]

/-- An entity that chooses its way by itself finds the edge that is to be chosen. -/
theorem chosen_of_freeSuccessor? (ordered : ∀ i j : Fin net.edges.size, i ≤ j →
      (net.edgeAt i).id ≤ (net.edgeAt j).id) {kind : Kind} {edge next : Fin net.edges.size}
    (found : net.freeSuccessor? edge kind = some next) : net.Chosen kind edge next := by
  have ascending := (net.ascending_successors edge).filter fun n => (net.edgeAt n).admits kind
  rw [freeSuccessor?, Option.orElse_eq_orElse, Option.orElse_eq_or, Option.or_eq_some_iff] at found
  rcases found with onward | ⟨none, first⟩
  · have opened := mem_usable.1 (List.mem_of_find?_eq_some onward)
    have ahead : ¬ net.LeadsBack edge next := by
      rw [← isReverseOf_iff]
      simpa using List.find?_some onward
    refine .onward ⟨⟨opened, ahead⟩, fun other passable => ordered _ _ ?_⟩
    obtain ⟨usable, forward⟩ := passable
    rw [← isReverseOf_iff] at forward
    exact le_of_find? ascending onward (mem_usable.2 usable) (by simpa using forward)
  · refine .back (fun n usable => ?_) ⟨mem_usable.1 (List.mem_of_head? first), fun n usable => ?_⟩
    · rw [← isReverseOf_iff]
      simpa using List.find?_eq_none.1 none n (mem_usable.2 usable)
    · refine ordered _ _ (le_of_find? (p := fun _ => true) ascending ?_ (mem_usable.2 usable) rfl)
      rw [← first]
      cases (net.successors edge).filter fun n => (net.edgeAt n).admits kind <;> rfl

/-- An edge is entered on the lane that is meant. -/
theorem entered_of_entryLane? {edge : Fin net.edges.size} {index : Nat} {kind : Kind}
    {entry : LaneRef net} (found : net.entryLane? edge index kind = some entry) :
    entry.edge = edge ∧ entry.Entered kind index := by
  obtain ⟨rfl, allows⟩ := admitted_of_entryLane? found
  refine ⟨rfl, ?_⟩
  unfold entryLane? at found
  dsimp only at found
  split at found
  · exact .kept allows (laneOn?_eq_some_iff.1 found).2
  · next refused =>
    obtain ⟨i, first, same⟩ := Option.map_eq_some_iff.1 found
    refine .lowest allows ?_ ?_
    · rintro ⟨edge, preferred⟩ rfl at_preferred
      rw [← at_preferred, Array.getElem?_eq_getElem preferred.isLt] at refused
      simpa [lane] using refused
    · rintro ⟨edge, other⟩ rfl admitted
      have lowest := (Array.findFinIdx?_eq_some_iff.1 first).2
      rw [← (LaneRef.ext_iff_val.1 same).2]
      exact not_lt.1 fun lower => lowest other lower admitted

end Network

namespace Walker
variable [Scalar α] {w w' : Walker net} {left : List (LaneRef net)}

/-- How a walker comes to be on the next lane when the entity chooses its way. -/
structure Chooses (e : Entity α) (w w' : Walker net) : Prop where
  edge : net.Chosen e.kind w.lane.edge w'.lane.edge
  lane : w'.lane.Entered e.kind w.lane.lane.val
  offset : w'.offset = w.offset - (net.lane w.lane).length
  routePosition : w'.routePosition = w.routePosition
  junctions : w'.junctions = w.junctions ++ [(net.edgeAt w.lane.edge).toJunction]

section OffRoute
variable (off : (net.edgeAt w.lane.edge).id ∉ e.route)
  (past : ¬ w.offset ≤ (net.lane w.lane).length)
include off past

/-- Off the route a walk that no edge admits halts. -/
theorem next_of_closed (closed : ∀ next, ¬ net.Open e.kind w.lane.edge next) :
    w.next e = .inl (.boundary w.lane w.junctions) := by
  have none : net.freeSuccessor? w.lane.edge e.kind = none := by
    rw [← Option.not_isSome_iff_eq_none, Network.isSome_freeSuccessor?_iff, not_exists]
    exact closed
  rw [next]
  simp only [if_neg past, Network.onward, Entity.routeIndexFrom?_of_notMem off, none]

/-- Off the route a walk that some edge admits crosses onto the one to be chosen. -/
theorem exists_chooses (ordered : ∀ i j : Fin net.edges.size, i ≤ j →
      (net.edgeAt i).id ≤ (net.edgeAt j).id)
    (opened : ∃ next, net.Open e.kind w.lane.edge next) :
    ∃ w', Crosses e w w' ∧ Chooses e w w' := by
  obtain ⟨next, found⟩ := Option.isSome_iff_exists.1 (Network.isSome_freeSuccessor?_iff.2 opened)
  have chosen := Network.chosen_of_freeSuccessor? ordered found
  have onward : net.onward e w.lane.edge w.routePosition = .enter next w.routePosition := by
    simp only [Network.onward, Entity.routeIndexFrom?_of_notMem off, found]
  have admits := Network.admits_iff.2 chosen.opened.admits
  obtain ⟨entry, entered⟩ := Option.isSome_iff_exists.1
    ((Network.isSome_entryLane? next w.lane.lane.val e.kind).trans admits)
  obtain ⟨rfl, lane⟩ := Network.entered_of_entryLane? entered
  exact ⟨_, .enter past onward entered, chosen, lane, rfl, rfl, rfl⟩

end OffRoute

/-- A trail goes on with a crossing. -/
theorem Trail.concat (trail : Trail e left w w') {w'' : Walker net} (last : Crosses e w' w'') :
    Trail e (left ++ [w'.lane]) w w'' := by
  induction trail with
  | refl w => exact .cross last (.refl w'')
  | cross first _ ih => exact .cross first (ih last)

/-- A walk that ends at a boundary still has all the junctions that it began with. -/
theorem length_junctions_le_of_boundary {n : Nat} {r : LaneRef net} {junctions : List String}
    (ends : walk e n w = .boundary r junctions) : w.junctions.length ≤ junctions.length := by
  obtain ⟨w', trail, ended⟩ := walk_trail e n w
  have crossed := congrArg List.length trail.junctions
  rw [List.length_append] at crossed
  rw [ends] at ended
  rcases ended with ⟨-, halts⟩ | ⟨-, held⟩
  · cases halts
    omega
  · cases held

end Walker

namespace Network
variable [Scalar α] {d : NetworkDescription α} {start : LaneRef (lay d)} {offset distance : α}
  {left : List (LaneRef (lay d))} {w : Walker (lay d)}

/-- Edges lie in the order of their ids. -/
theorem ordered_edges_lay (accepted : d.Accepted) (i j : Fin (lay d).edges.size) (le : i ≤ j) :
    ((lay d).edgeAt i).id ≤ ((lay d).edgeAt j).id := by
  rcases le.lt_or_eq with lt | rfl
  · exact String.not_lt.1 (String.lt_asymm (sorted_edges_lay accepted lt))
  · exact String.le_refl _

/-- Wherever a move comes past the end of an edge that is not on the route, it ends at a boundary
just if no edge is open from there, and goes on with the chosen one if there is any. -/
theorem chooses_of_off_route (accepted : d.Accepted) {e : Entity α}
    (trail : Walker.Trail e left (setOut e start offset distance) w)
    (few : left.length < maxCrossings) (past : ¬ w.offset ≤ ((lay d).lane w.lane).length)
    (off : ((lay d).edgeAt w.lane.edge).id ∉ e.route) :
    ((lay d).advance e start offset distance = .boundary w.lane w.junctions ↔
      ∀ next, ¬ (lay d).Open e.kind w.lane.edge next) ∧
    ((∃ next, (lay d).Open e.kind w.lane.edge next) →
      ∃ w', Walker.Chooses e w w' ∧
        Walker.Trail e (left ++ [w.lane]) (setOut e start offset distance) w' ∧
        (lay d).advance e start offset distance =
          Walker.walk e (maxCrossings - (left ++ [w.lane]).length) w') := by
  have crossing (opened : ∃ next, (lay d).Open e.kind w.lane.edge next) :
      ∃ w', Walker.Chooses e w w' ∧
        Walker.Trail e (left ++ [w.lane]) (setOut e start offset distance) w' ∧
        (lay d).advance e start offset distance =
          Walker.walk e (maxCrossings - (left ++ [w.lane]).length) w' := by
    obtain ⟨w', crosses, chooses⟩ := Walker.exists_chooses off past (ordered_edges_lay accepted) opened
    have onward := trail.concat crosses
    refine ⟨w', chooses, onward, ?_⟩
    rw [← onward.walk_eq, advance_eq, Nat.add_sub_cancel' (by simpa using Nat.succ_le_of_lt few)]
  refine ⟨⟨fun ends => ?_, fun closed => ?_⟩, crossing⟩
  · -- Had the move gone on, it would have crossed the junction at the end of this edge.
    by_contra opened
    simp only [not_forall, not_not] at opened
    obtain ⟨w', chooses, -, goesOn⟩ := crossing opened
    have longer := Walker.length_junctions_le_of_boundary (goesOn.symm.trans ends)
    rw [chooses.junctions, List.length_append, List.length_singleton] at longer
    omega
  · obtain ⟨n, hn⟩ := Nat.exists_eq_add_of_lt few
    rw [advance_eq, hn, Nat.add_assoc, trail.walk_eq, Walker.walk,
      Walker.next_of_closed off past closed]

end Network

/-- A car that follows no route. -/
def Entity.stray : Entity Float := .create "car" .vehicle 1.0

theorem Network.chooses_fork : ∃ start w', (lay .fork).laneRef? "AB" 1 = some start ∧
    Walker.Chooses .stray (setOut .stray start 95.0 10.0) w' ∧
    ((lay .fork).lane w'.lane).id = "BC_0" := by
  have scene : ((lay .fork).laneRef? "AB" 1).map (fun start =>
      (decide ((95.0 : Float) + 10.0 ≤ ((lay .fork).lane start).length),
        ((lay .fork).freeSuccessor? start.edge .vehicle).isSome,
        ((lay .fork).lane (Walker.reached .stray 1 (setOut .stray start 95.0 10.0)).lane).id)) =
      some (false, true, "BC_0") := by
    rw [lay_fork]
    decide +kernel
  obtain ⟨start, known, scene⟩ := Option.map_eq_some_iff.1 scene
  obtain ⟨past, scene⟩ := Prod.mk.inj scene
  obtain ⟨opened, entered⟩ := Prod.mk.inj scene
  obtain ⟨w', chooses, trail, -⟩ := (chooses_of_off_route NetworkDescription.accepted_fork
    (.refl (setOut .stray start 95.0 10.0)) (by decide) (of_decide_eq_false past)
    List.not_mem_nil).2 (isSome_freeSuccessor?_iff.1 opened)
  refine ⟨start, w', known, chooses, ?_⟩
  rw [← trail.reached_eq]
  exact entered

end Roadway
