import Roadway.Network.Basic
import Roadway.Number.Binary64

/-!
# Layout of accepted networks

The network of an accepted description tells its edges apart by their ids, and every
lane carries the id of its edge and its own index. So a lane is found again under the
names that it carries, which is what placements keep of it.

## Main definitions

* `Network.WellFormed` — edges and lanes are found under their names.
* `Network.wellFormed_lay` — accepted descriptions are laid out that way.
* `Network.ascending_laneRefs` — lanes are listed in order.
* `Lane.Before`, `Network.sorted_laneRefs` — which is that of their edges' ids and indices.
-/
namespace Roadway
variable {α : Type}

@[simp] theorem NetworkFault.when_eq_none {condition : Bool} {fault : NetworkFault} :
    NetworkFault.when condition fault = none ↔ condition = false := by
  cases condition <;> simp [NetworkFault.when]

section Faults
variable [Scalar α]

/-- What was seen before matters for a junction only if its id was. -/
theorem Junction.fault?_eq_none_iff {seen : List String} {j : Junction α} :
    j.fault? seen = none ↔ j.id ∉ seen ∧ j.fault? [] = none := by
  simp only [fault?, Option.orElse_eq_orElse, Option.orElse_eq_or, Option.or_eq_none_iff,
    NetworkFault.when_eq_none]
  simp only [List.contains_eq_mem, decide_eq_false_iff_not, List.not_mem_nil, not_false_eq_true,
    true_and]
  exact and_left_comm

/-- Junctions are without a fault if each of them is, and they have ids of their own, none of
which was seen before. -/
theorem Junction.firstFault?_eq_none_iff {junctions : List (Junction α)} {seen : List String} :
    firstFault? seen junctions = none ↔ (junctions.map (·.id)).Nodup ∧
      ∀ j ∈ junctions, j.id ∉ seen ∧ j.fault? [] = none := by
  induction junctions generalizing seen with
  | nil => simp [firstFault?]
  | cons j rest ih =>
    rw [firstFault?, Option.orElse_eq_orElse, Option.orElse_eq_or, Option.or_eq_none_iff,
      fault?_eq_none_iff, ih, List.map_cons, List.nodup_cons]
    simp only [List.mem_map, List.mem_cons, not_or, forall_eq_or_imp]
    grind

/-- What was seen before matters for an edge only if its id was. -/
theorem EdgeDescription.fault?_eq_none_iff {junctions seen : List String}
    {e : EdgeDescription α} : e.fault? junctions seen = none ↔
      e.id ∉ seen ∧ e.fault? junctions [] = none := by
  simp only [fault?, Option.orElse_eq_orElse, Option.orElse_eq_or, Option.or_eq_none_iff,
    NetworkFault.when_eq_none]
  simp only [List.contains_eq_mem, decide_eq_false_iff_not, List.not_mem_nil, not_false_eq_true,
    true_and]
  exact and_left_comm

/-- Edges are without a fault if each of them is, and they have ids of their own, none of which
was seen before. -/
theorem EdgeDescription.firstFault?_eq_none_iff {junctions : List String}
    {edges : List (EdgeDescription α)} {seen : List String} :
    firstFault? junctions seen edges = none ↔ (edges.map (·.id)).Nodup ∧
      ∀ e ∈ edges, e.id ∉ seen ∧ e.fault? junctions [] = none := by
  induction edges generalizing seen with
  | nil => simp [firstFault?]
  | cons e rest ih =>
    rw [firstFault?, Option.orElse_eq_orElse, Option.orElse_eq_or, Option.or_eq_none_iff,
      fault?_eq_none_iff, ih, List.map_cons, List.nodup_cons]
    simp only [List.mem_map, List.mem_cons, not_or, forall_eq_or_imp]
    grind

/-- What an accepted description is made of, in whatever order. -/
theorem NetworkDescription.accepted_iff {d : NetworkDescription α} : d.Accepted ↔
    d.edges ≠ [] ∧ Junction.firstFault? [] d.junctions = none ∧ (d.edges.map (·.id)).Nodup ∧
      ∀ e ∈ d.edges, e.fault? (d.junctions.map (·.id)) [] = none := by
  rw [Accepted, fault?]
  simp only [Option.orElse_eq_orElse, Option.orElse_eq_or, Option.or_eq_none_iff,
    NetworkFault.when_eq_none, EdgeDescription.firstFault?_eq_none_iff, List.not_mem_nil,
    not_false_eq_true, true_and, List.isEmpty_eq_false_iff]

end Faults

section Accepted
variable [Scalar α]

/-- Each lane of a list without a fault is without one. -/
theorem LaneDescription.fault?_of_mem {edge : String} {index : Nat}
    {lanes : List (LaneDescription α)} (h : firstFault? edge index lanes = none)
    {lane : LaneDescription α} (hlane : lane ∈ lanes) :
    ∃ index, lane.fault? edge index = none := by
  induction lanes generalizing index with
  | nil => cases hlane
  | cons x rest ih =>
    simp only [firstFault?, Option.orElse_eq_orElse, Option.orElse_eq_or,
      Option.or_eq_none_iff] at h
    rcases List.mem_cons.1 hlane with rfl | hlane
    · exact ⟨index, h.1⟩
    · exact ih h.2 hlane

namespace NetworkDescription.Accepted
variable {d : NetworkDescription α} (accepted : d.Accepted) {e : EdgeDescription α}
  (he : e ∈ d.edges)
include accepted he

theorem edge : e.fault? (d.junctions.map (·.id)) [] = none :=
  (accepted_iff.1 accepted).2.2.2 e he

/-- Accepted edges lead from a junction to a junction. -/
theorem ends : e.fromJunction ∈ d.junctions.map (·.id) ∧
    e.toJunction ∈ d.junctions.map (·.id) := by
  have edge := accepted.edge he
  simp only [EdgeDescription.fault?, Option.orElse_eq_orElse, Option.orElse_eq_or,
    Option.or_eq_none_iff, NetworkFault.when_eq_none] at edge
  obtain ⟨-, -, source, target, -⟩ := edge
  exact ⟨by simpa using source, by simpa using target⟩

/-- Accepted shapes have two points, all of them finite, and a length. -/
theorem shape : 2 ≤ e.shape.length ∧ (∀ p ∈ e.shape, p.isFinite = true) ∧
    ¬ chainLength 0.0 e.shape ≤ 0.0 := by
  have edge := accepted.edge he
  simp only [EdgeDescription.fault?, Option.orElse_eq_orElse, Option.orElse_eq_or,
    Option.or_eq_none_iff, NetworkFault.when_eq_none] at edge
  obtain ⟨-, -, -, -, points, finite, length, -⟩ := edge
  exact ⟨Nat.not_lt.1 (of_decide_eq_false points), by simpa using finite, of_decide_eq_false length⟩

/-- Accepted lanes have a width, and a speed limit of their own or that of their edge. -/
theorem lane {lane : LaneDescription α} (hlane : lane ∈ e.lanes) :
    (0.0 : α) < lane.width ∧ (0.0 : α) < lane.speedLimit.getD e.speedLimit := by
  have edge := accepted.edge he
  simp only [EdgeDescription.fault?, Option.orElse_eq_orElse, Option.orElse_eq_or,
    Option.or_eq_none_iff, NetworkFault.when_eq_none] at edge
  obtain ⟨-, -, -, -, -, -, -, limit, -, lanes⟩ := edge
  obtain ⟨index, sound⟩ := LaneDescription.fault?_of_mem lanes hlane
  simp only [LaneDescription.fault?, Option.orElse_eq_orElse, Option.orElse_eq_or,
    Option.or_eq_none_iff, NetworkFault.when_eq_none] at sound
  refine ⟨by simpa using sound.1, ?_⟩
  cases hlimit : lane.speedLimit with
  | none => simpa using limit
  | some own => simpa [hlimit] using sound.2

end NetworkDescription.Accepted

end Accepted

theorem LaneRef.compare_eq_lt_iff {net : Network α} {a b : LaneRef net} :
    compare a b = .lt ↔ a.edge.val < b.edge.val ∨
      a.edge.val = b.edge.val ∧ a.lane.val < b.lane.val := by
  change (compare a.edge.val b.edge.val).then (compare a.lane.val b.lane.val) = .lt ↔ _
  rw [Ordering.then_eq_lt, Nat.compare_eq_lt, Nat.compare_eq_lt, Nat.compare_eq_eq]

/-- By the ids of the edges and, on one edge, from right to left. -/
def Lane.Before (a b : Lane α) : Prop :=
  a.edgeId < b.edgeId ∨ a.edgeId = b.edgeId ∧ a.index < b.index

namespace Network

/-- Ids tell edges apart, and every lane carries the id of its edge and its index. -/
structure WellFormed (net : Network α) : Prop where
  edge_ext : ∀ i j : Fin net.edges.size, (net.edgeAt i).id = (net.edgeAt j).id → i = j
  edgeId_lane : ∀ r : LaneRef net, (net.lane r).edgeId = (net.edgeAt r.edge).id
  index_lane : ∀ r : LaneRef net, (net.lane r).index = r.lane.val

section Lookup
variable {net : Network α}

theorem edgeIndex?_id (wf : net.WellFormed) (i : Fin net.edges.size) :
    net.edgeIndex? (net.edgeAt i).id = some i := by
  refine Array.findFinIdx?_eq_some_iff.2 ⟨by simp [edgeAt], ?_⟩
  intro j hj hid
  have heq : j = i := wf.edge_ext j i (by simpa [edgeAt] using hid)
  exact absurd hj (by simp [heq])

theorem id_of_edgeIndex? {id : String} {i : Fin net.edges.size}
    (found : net.edgeIndex? id = some i) : (net.edgeAt i).id = id := by
  have same := (Array.findFinIdx?_eq_some_iff.1 found).1
  simpa [edgeAt] using same

theorem edgeIndex?_eq_some_iff (wf : net.WellFormed) {id : String} {i : Fin net.edges.size} :
    net.edgeIndex? id = some i ↔ (net.edgeAt i).id = id := by
  constructor
  · exact id_of_edgeIndex?
  · rintro rfl
    exact edgeIndex?_id wf i

theorem laneOn?_eq_some_iff {edge : Fin net.edges.size} {index : Nat} {r : LaneRef net} :
    net.laneOn? edge index = some r ↔ r.edge = edge ∧ r.lane.val = index := by
  constructor
  · intro h
    unfold laneOn? at h
    split at h
    · cases h; exact ⟨rfl, rfl⟩
    · cases h
  · intro h
    obtain ⟨rfl, rfl⟩ := h
    simp [laneOn?]

theorem laneRef?_eq_some_iff {id : String} {index : Nat} {r : LaneRef net} :
    net.laneRef? id index = some r ↔ net.edgeIndex? id = some r.edge ∧ r.lane.val = index := by
  rw [laneRef?, Option.bind_eq_some_iff]
  constructor
  · intro h
    obtain ⟨edge, hedge, hlane⟩ := h
    obtain ⟨rfl, hindex⟩ := laneOn?_eq_some_iff.1 hlane
    exact ⟨hedge, hindex⟩
  · intro h
    obtain ⟨hedge, hindex⟩ := h
    exact ⟨r.edge, hedge, laneOn?_eq_some_iff.2 ⟨rfl, hindex⟩⟩

@[simp] theorem mem_lanesOf {edge : Fin net.edges.size} {r : LaneRef net} :
    r ∈ net.lanesOf edge ↔ r.edge = edge := by
  rw [lanesOf]
  constructor
  · intro h
    obtain ⟨lane, -, rfl⟩ := List.mem_map.1 h
    rfl
  · rintro rfl
    exact List.mem_map.2 ⟨r.lane, List.mem_finRange _, rfl⟩

/-- Lanes are listed in ascending order. -/
theorem ascending_laneRefs (net : Network α) :
    net.laneRefs.Pairwise fun a b => compare a b = .lt := by
  refine List.pairwise_flatMap.2 ⟨fun edge _ => ?_, ?_⟩
  · refine List.pairwise_map.2 ((List.pairwise_lt_finRange _).imp fun lt => ?_)
    exact LaneRef.compare_eq_lt_iff.2 (.inr ⟨rfl, lt⟩)
  · refine (List.pairwise_lt_finRange _).imp fun lt a ha b hb => ?_
    rw [mem_lanesOf] at ha hb
    exact LaneRef.compare_eq_lt_iff.2 (.inl (ha ▸ hb ▸ lt))

theorem nodup_laneRefs (net : Network α) : net.laneRefs.Nodup := by
  refine (ascending_laneRefs net).imp ?_
  rintro a _ lt rfl
  rcases LaneRef.compare_eq_lt_iff.1 lt with edge | ⟨-, lane⟩
  · exact Nat.lt_irrefl _ edge
  · exact Nat.lt_irrefl _ lane

/-- A lane is found under the names that it carries. -/
theorem laneRef?_lane (wf : net.WellFormed) (r : LaneRef net) :
    net.laneRef? (net.lane r).edgeId (net.lane r).index = some r := by
  rw [laneRef?_eq_some_iff, wf.edgeId_lane, wf.index_lane]
  exact ⟨edgeIndex?_id wf r.edge, rfl⟩

/-- A lane carries the names under which it is found. -/
theorem names_of_laneRef? (wf : net.WellFormed) {id : String} {index : Nat} {r : LaneRef net}
    (known : net.laneRef? id index = some r) :
    (net.lane r).edgeId = id ∧ (net.lane r).index = index := by
  obtain ⟨edge, lane⟩ := laneRef?_eq_some_iff.1 known
  rw [wf.edgeId_lane, wf.index_lane]
  exact ⟨id_of_edgeIndex? edge, lane⟩

theorem ascending_successors (net : Network α) (edge : Fin net.edges.size) :
    (net.successors edge).Pairwise (· < ·) :=
  (List.pairwise_lt_finRange _).filter _

end Lookup

section Build
variable [Scalar α]

theorem edgeId_layEdge (e : EdgeDescription α) (i : Nat) (h : i < (layEdge e).lanes.size) :
    (layEdge e).lanes[i].edgeId = e.id := by
  simp [layEdge]

theorem index_layEdge (e : EdgeDescription α) (i : Nat) (h : i < (layEdge e).lanes.size) :
    (layEdge e).lanes[i].index = i := by
  simp [layEdge]

theorem length_laneShifts (total consumed : α) (widths : List α) :
    (laneShifts total consumed widths).length = widths.length := by
  induction widths generalizing consumed with
  | nil => rfl
  | cons width rest ih => rw [laneShifts, List.length_cons, ih, List.length_cons]

/-- Every lane of a description is laid out. -/
theorem size_layEdge (e : EdgeDescription α) : (layEdge e).lanes.size = e.lanes.length := by
  simp [layEdge, laneCenters, length_laneShifts]

theorem width_layEdge (e : EdgeDescription α) (i : Nat) (h : i < (layEdge e).lanes.size) :
    (e.lanes.map (·.width))[i]? = some (layEdge e).lanes[i].width := by
  have described : i < e.lanes.length := size_layEdge e ▸ h
  simp [layEdge, described]

/-- Every edge is laid out from a description. -/
theorem edgeAt_lay (d : NetworkDescription α) (i : Fin (lay d).edges.size) :
    ∃ e ∈ d.edges, (lay d).edgeAt i = layEdge e := by
  have hi := i.isLt
  simp only [lay, List.size_toArray, List.length_map] at hi
  refine ⟨(d.edges.mergeSort fun a b => decide (a.id ≤ b.id))[i.val], ?_, ?_⟩
  · exact List.mem_mergeSort.1 (List.getElem_mem hi)
  · rw [edgeAt, Fin.getElem_fin]
    simp [lay]

/-- The shape of a lane is that of its edge, shifted by the centre of the lane. -/
theorem shape_layEdge (e : EdgeDescription α) (i : Nat) (h : i < (layEdge e).lanes.size) :
    ∃ center, (laneCenters (e.lanes.map (·.width)))[i]? = some center ∧
      (layEdge e).lanes[i].shape = (Polyline.ofPoints e.shape).shift center := by
  simp only [layEdge, List.size_toArray, List.length_mapIdx, List.length_zip, Nat.lt_min] at h
  simp only [layEdge, List.getElem_toArray, List.getElem_mapIdx, List.getElem_zip]
  exact ⟨_, List.getElem?_eq_getElem h.2, rfl⟩

/-- Every description of an edge is laid out. -/
theorem exists_edgeAt_lay {d : NetworkDescription α} {e : EdgeDescription α} (he : e ∈ d.edges) :
    ∃ i, (lay d).edgeAt i = layEdge e := by
  have laid : layEdge e ∈ (lay d).edges := by
    simp only [lay, List.mem_toArray]
    exact List.mem_map_of_mem (List.mem_mergeSort.2 he)
  obtain ⟨i, hi, found⟩ := Array.mem_iff_getElem.1 laid
  exact ⟨⟨i, hi⟩, found⟩

theorem shape_lane (d : NetworkDescription α) (r : LaneRef (lay d)) :
    ∃ e ∈ d.edges, (lay d).edgeAt r.edge = layEdge e ∧
      ∃ center, (laneCenters (e.lanes.map (·.width)))[r.lane.val]? = some center ∧
        ((lay d).lane r).shape = (Polyline.ofPoints e.shape).shift center := by
  obtain ⟨i, l⟩ := r
  obtain ⟨e, he, heq⟩ := edgeAt_lay d i
  have hl := l.isLt
  simp only [lane, Fin.getElem_fin, heq] at hl ⊢
  exact ⟨e, he, rfl, shape_layEdge e l.val hl⟩

/-- Every lane is laid out with the width and the speed limit of a description. -/
theorem exists_description (d : NetworkDescription α) (r : LaneRef (lay d)) :
    ∃ e ∈ d.edges, ∃ lane ∈ e.lanes, ((lay d).lane r).width = lane.width ∧
      ((lay d).lane r).speedLimit = lane.speedLimit.getD e.speedLimit := by
  obtain ⟨i, l⟩ := r
  obtain ⟨e, he, heq⟩ := edgeAt_lay d i
  have hl := l.isLt
  simp only [lane, Fin.getElem_fin, heq] at hl ⊢
  simp only [layEdge, List.getElem_toArray, List.getElem_mapIdx]
  exact ⟨e, he, _, (List.of_mem_zip (List.getElem_mem _)).1, rfl, rfl⟩

theorem lane_pos {d : NetworkDescription α} (accepted : d.Accepted) (r : LaneRef (lay d)) :
    (0.0 : α) < ((lay d).lane r).width ∧ (0.0 : α) < ((lay d).lane r).speedLimit := by
  obtain ⟨e, he, lane, hlane, width, limit⟩ := exists_description d r
  rw [width, limit]
  exact accepted.lane he hlane

theorem nodup_ids_lay {d : NetworkDescription α} (accepted : d.Accepted) :
    ((lay d).edges.toList.map (·.id)).Nodup := by
  obtain ⟨-, -, hnodup, -⟩ := NetworkDescription.accepted_iff.1 accepted
  have hperm := (List.mergeSort_perm d.edges fun a b => decide (a.id ≤ b.id)).map (·.id)
  have hids : (lay d).edges.toList.map (·.id) =
      (d.edges.mergeSort fun a b => decide (a.id ≤ b.id)).map (·.id) := by
    simp only [lay, List.map_map]
    rfl
  rw [hids]
  exact hperm.nodup_iff.2 hnodup

theorem wellFormed_lay {d : NetworkDescription α} (accepted : d.Accepted) :
    (lay d).WellFormed where
  edge_ext := by
    intro i j hid
    have hnodup := nodup_ids_lay accepted
    have hi : i.val < ((lay d).edges.toList.map (·.id)).length := by simp
    have hj : j.val < ((lay d).edges.toList.map (·.id)).length := by simp
    apply Fin.ext
    have hinj := (@List.getElem_inj _ i.val j.val _ hi hj hnodup).1
    apply hinj
    simpa [edgeAt] using hid
  edgeId_lane := by
    rintro ⟨i, l⟩
    obtain ⟨e, -, he⟩ := edgeAt_lay d i
    have hl := l.isLt
    simp only [lane, Fin.getElem_fin, he] at hl ⊢
    rw [edgeId_layEdge]
    rfl
  index_lane := by
    rintro ⟨i, l⟩
    obtain ⟨e, -, he⟩ := edgeAt_lay d i
    have hl := l.isLt
    simp only [lane, Fin.getElem_fin, he] at hl ⊢
    rw [index_layEdge]

/-- A description with its edges in order is laid out edge by edge. -/
theorem lay_of_sorted {d : NetworkDescription α}
    (sorted : d.edges.Pairwise fun a b => a.id ≤ b.id) :
    lay d = ⟨d.name, (d.edges.map layEdge).toArray, d.junctions⟩ := by
  rw [lay, List.mergeSort_of_pairwise (sorted.imp fun le => decide_eq_true le)]

/-- Edges are laid out in ascending order of their ids. -/
theorem sorted_edges_lay {d : NetworkDescription α} (accepted : d.Accepted)
    {i j : Fin (lay d).edges.size} (lt : i < j) :
    ((lay d).edgeAt i).id < ((lay d).edgeAt j).id := by
  have ascending : ((lay d).edges.toList.map (·.id)).Pairwise (· ≤ ·) := by
    let le : EdgeDescription α → EdgeDescription α → Bool := fun a b => decide (a.id ≤ b.id)
    have trans (a b c : EdgeDescription α) (hab : le a b = true) (hbc : le b c = true) :
        le a c = true :=
      decide_eq_true (String.le_trans (of_decide_eq_true hab) (of_decide_eq_true hbc))
    have total (a b : EdgeDescription α) : (le a b || le b a) = true := by
      simpa [le] using String.le_total a.id b.id
    have sorted : (d.edges.mergeSort le).Pairwise fun a b => le a b = true :=
      List.pairwise_mergeSort trans total d.edges
    simp only [lay, List.map_map, List.pairwise_map]
    exact sorted.imp fun h => of_decide_eq_true h
  have hj : j.val < ((lay d).edges.toList.map (·.id)).length := by simp
  have le := List.pairwise_iff_getElem.1 ascending i.val j.val (by omega) hj lt
  have ne := List.pairwise_iff_getElem.1 (nodup_ids_lay accepted) i.val j.val (by omega) hj lt
  simp only [List.getElem_map, Array.getElem_toList] at le ne
  exact Decidable.byContradiction fun nlt =>
    ne (String.le_antisymm le (String.not_lt.1 nlt))

/-- Lanes are listed in that order. -/
theorem sorted_laneRefs {d : NetworkDescription α} (accepted : d.Accepted) :
    (lay d).laneRefs.Pairwise fun a b => ((lay d).lane a).Before ((lay d).lane b) := by
  have wf := wellFormed_lay accepted
  refine (ascending_laneRefs _).imp fun {a b} lt => ?_
  rw [Lane.Before, wf.edgeId_lane, wf.edgeId_lane, wf.index_lane, wf.index_lane]
  rcases LaneRef.compare_eq_lt_iff.1 lt with edge | ⟨edge, lane⟩
  · exact .inl (sorted_edges_lay accepted edge)
  · exact .inr ⟨congrArg (fun i => ((lay d).edgeAt i).id) (Fin.ext edge), lane⟩

end Build
end Network

/-- A straight road of two lanes. -/
def NetworkDescription.road : NetworkDescription Float where
  name := "road"
  description := ""
  junctions := [⟨"A", ⟨0.0, 0.0⟩, 10.0⟩, ⟨"B", ⟨100.0, 0.0⟩, 10.0⟩]
  edges := [⟨"AB", "A", "B", [⟨0.0, 0.0⟩, ⟨100.0, 0.0⟩], 13.89, [.default, .default]⟩]

theorem NetworkDescription.accepted_road : road.Accepted := by decide +kernel

end Roadway
