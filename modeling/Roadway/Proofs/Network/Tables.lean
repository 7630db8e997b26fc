import Mathlib.Data.List.Nodup
import Mathlib.Data.String.Basic
import Mathlib.Order.Compare
import Roadway.Proofs.Network.Grid

/-!
# Names and positions

A network is asked for its edges, lanes and junctions by name, and for the edges that leave a
junction. Its answers are searched in the lists of edges and junctions. They can as well be
stored in tables that are filled in one pass over these lists. In the network of an accepted
description the ids tell edges apart and junctions apart, and the edges are in the order of
their ids. So both kinds of answers agree, positions stand for ids, and their order is that of
the ids.

## Main definitions

* `Network.Tables` — the stored answers.
* `Network.Tables.Agree` — tables that answer as a search does.
* `Network.Represents` — what the network of a description is asked for.
* `Network.represents_ofDescription` — accepted descriptions are represented.
-/
namespace Roadway
variable {α : Type}

namespace Network

/-- Where things are, by their names. -/
structure Tables where
  edges : Std.HashMap String Nat
  junctions : Std.HashMap String Nat
  /-- The edges that leave a junction. -/
  outgoing : Std.HashMap String (Array Nat)

namespace Tables

/-- The positions of names in a list. -/
def positions (names : List String) : Std.HashMap String Nat := .ofList names.zipIdx

/-- Adds a position at the end of the list under a name. -/
def file (listings : Std.HashMap String (Array Nat)) (entry : String × Nat) :
    Std.HashMap String (Array Nat) :=
  listings.insert entry.1 ((listings.getD entry.1 #[]).push entry.2)

def ofNetwork (net : Network α) : Tables where
  edges := positions (net.edges.toList.map (·.id))
  junctions := positions (net.junctions.map (·.id))
  outgoing := (net.edges.toList.map (·.fromJunction)).zipIdx.foldl file ∅

/-- A name that occurs once is stored with its position. -/
theorem getElem?_positions {names : List String} (nodup : names.Nodup) {name : String}
    {i : Nat} : (positions names)[name]? = some i ↔ names[i]? = some name := by
  have distinct : names.zipIdx.Pairwise fun a b => (a.1 == b.1) = false := by
    have firsts : names.zipIdx.map Prod.fst = names := List.zipIdx_map_fst 0 names
    rw [← firsts] at nodup
    exact (List.pairwise_map.1 nodup).imp fun apart => beq_eq_false_iff_ne.2 apart
  have stored {i : Nat} (listed : names[i]? = some name) : (positions names)[name]? = some i :=
    Std.HashMap.getElem?_ofList_of_mem BEq.rfl distinct (List.mem_zipIdx_iff_getElem?.2 listed)
  constructor
  · intro found
    have listed : name ∈ names := by
      by_contra unknown
      have none : (positions names)[name]? = none := by
        refine Std.HashMap.getElem?_ofList_of_contains_eq_false ?_
        simpa using unknown
      rw [none] at found
      cases found
    obtain ⟨j, listed⟩ := List.mem_iff_getElem?.1 listed
    rw [stored listed] at found
    exact Option.some.inj found ▸ listed
  · exact stored

/-- Under a name the positions of its entries are listed, in their order. -/
theorem toList_getD_foldl_file (listings : Std.HashMap String (Array Nat))
    (entries : List (String × Nat)) (name : String) :
    ((entries.foldl file listings).getD name #[]).toList =
      (listings.getD name #[]).toList ++
        (entries.filter fun entry => entry.1 == name).map Prod.snd := by
  induction entries generalizing listings with
  | nil => simp
  | cons entry rest ih =>
    rw [List.foldl_cons, ih, file, Std.HashMap.getD_insert]
    by_cases h : (entry.1 == name) = true
    · rw [beq_iff_eq] at h
      simp [h]
    · simp [h]

/-- Tables that answer as a search of the network does. -/
structure Agree (tables : Tables) (net : Network α) : Prop where
  edge : ∀ id, tables.edges[id]? = (net.edgeIndex? id).map Fin.val
  junction : ∀ id, (tables.junctions[id]?.bind fun i => net.junctions[i]?) = net.junction? id
  outgoing : ∀ i, (tables.outgoing.getD (net.edgeAt i).toJunction #[]).toList =
    (net.successors i).map Fin.val

end Tables

section Search
variable {net : Network α}

theorem junction?_eq_some_iff (nodup : (net.junctions.map (·.id)).Nodup) {id : String}
    {j : Junction α} : net.junction? id = some j ↔ j ∈ net.junctions ∧ j.id = id := by
  constructor
  · intro found
    exact ⟨List.mem_of_find?_eq_some found, by simpa using List.find?_some found⟩
  · rintro ⟨listed, rfl⟩
    obtain ⟨k, found⟩ := Option.isSome_iff_exists.1
      ((List.find?_isSome (p := fun k : Junction α => k.id == j.id)).2 ⟨j, listed, by simp⟩)
    have same : k.id = j.id := by simpa using List.find?_some found
    rw [junction?, found,
      List.inj_on_of_nodup_map nodup (List.mem_of_find?_eq_some found) listed same]

theorem isSome_laneRef?_iff (wf : net.WellFormed) {id : String} {index : Nat} :
    (net.laneRef? id index).isSome = true ↔
      ∃ i, (net.edgeAt i).id = id ∧ index < (net.edgeAt i).lanes.size := by
  rw [Option.isSome_iff_exists]
  constructor
  · rintro ⟨r, known⟩
    obtain ⟨edge, rfl⟩ := laneRef?_eq_some_iff.1 known
    exact ⟨r.edge, id_of_edgeIndex? edge, r.lane.isLt⟩
  · rintro ⟨i, rfl, lt⟩
    exact ⟨⟨i, index, lt⟩, laneRef?_eq_some_iff.2 ⟨edgeIndex?_id wf i, rfl⟩⟩

/-- The edges in a list are those at the positions. -/
theorem zipIdx_edges {β : Type} (f : Edge α → β) : (net.edges.toList.map f).zipIdx =
    (List.finRange net.edges.size).map fun i => (f (net.edgeAt i), i.val) := by
  apply List.ext_getElem
  · simp
  · intro i _ _
    simp [edgeAt]

/-- Tables answer as a search does if ids tell edges apart, and junctions. -/
theorem agree_ofNetwork (wf : net.WellFormed) (nodup : (net.edges.toList.map (·.id)).Nodup)
    (nodup' : (net.junctions.map (·.id)).Nodup) : (Tables.ofNetwork net).Agree net := by
  refine ⟨?_, ?_, ?_⟩
  · intro id
    ext i
    rw [Tables.ofNetwork, Tables.getElem?_positions nodup]
    constructor
    · intro listed
      obtain ⟨lt, same⟩ := List.getElem?_eq_some_iff.1 listed
      have lt : i < net.edges.size := by simpa using lt
      have found : net.edgeIndex? id = some ⟨i, lt⟩ :=
        (edgeIndex?_eq_some_iff wf).2 (by simpa [edgeAt] using same)
      rw [found]
      rfl
    · intro found
      obtain ⟨k, known, rfl⟩ := Option.map_eq_some_iff.1 found
      simpa [edgeAt] using id_of_edgeIndex? known
  · intro id
    ext j
    rw [junction?_eq_some_iff nodup', Option.bind_eq_some_iff]
    constructor
    · rintro ⟨i, stored, at_i⟩
      rw [Tables.ofNetwork, Tables.getElem?_positions nodup', List.getElem?_map, at_i] at stored
      exact ⟨List.mem_of_getElem? at_i, Option.some.inj stored⟩
    · rintro ⟨listed, rfl⟩
      obtain ⟨i, at_i⟩ := List.mem_iff_getElem?.1 listed
      refine ⟨i, ?_, at_i⟩
      rw [Tables.ofNetwork, Tables.getElem?_positions nodup', List.getElem?_map, at_i]
      rfl
  · intro i
    rw [Tables.ofNetwork, Tables.toList_getD_foldl_file, zipIdx_edges]
    simp only [Std.HashMap.getD_empty, List.nil_append, List.filter_map, List.map_map, successors]
    rfl

end Search

/-- What the network of a description is asked for. -/
structure Represents [Scalar α] (net : Network α) (d : NetworkDescription α) : Prop where
  name : net.name = d.name
  edges : net.edges.toList.Perm (d.edges.map layEdge)
  junctions : net.junctions = d.junctions
  /-- Edges are in ascending order of their ids. -/
  ascending : ∀ i j : Fin net.edges.size, i < j → (net.edgeAt i).id < (net.edgeAt j).id
  edgeIndex : ∀ id i, net.edgeIndex? id = some i ↔ (net.edgeAt i).id = id
  laneRef : ∀ id index, (net.laneRef? id index).isSome = true ↔
    ∃ i, (net.edgeAt i).id = id ∧ index < (net.edgeAt i).lanes.size
  lane : ∀ id index r, net.laneRef? id index = some r →
    (net.lane r).edgeId = id ∧ (net.lane r).index = index
  /-- Every lane is listed once. -/
  listed : ∀ r, net.laneRefs.count r = 1
  sorted : net.laneRefs.Pairwise fun a b => compare a b = .lt
  /-- Lanes are in the order of their edges' ids and their indices. -/
  compare : ∀ a b : LaneRef net, compare a b =
    (compare (net.lane a).edgeId (net.lane b).edgeId).then
      (compare (net.lane a).index (net.lane b).index)
  successors : ∀ i j, j ∈ net.successors i ↔
    (net.edgeAt j).fromJunction = (net.edgeAt i).toJunction
  onward : ∀ i, (net.successors i).Pairwise fun j k => (net.edgeAt j).id < (net.edgeAt k).id
  junction : ∀ id j, net.junction? id = some j ↔ j ∈ net.junctions ∧ j.id = id
  /-- Edges lead from a junction to a junction. -/
  ends : ∀ i, (∃ j, net.junction? (net.edgeAt i).fromJunction = some j) ∧
    ∃ j, net.junction? (net.edgeAt i).toJunction = some j

section Build
variable [Scalar α] {d : NetworkDescription α} (accepted : d.Accepted)
include accepted

theorem nodup_junctions_lay : ((lay d).junctions.map (·.id)).Nodup :=
  (Junction.firstFault?_eq_none_iff.1 (NetworkDescription.accepted_iff.1 accepted).2.1).1

/-- Positions of lanes are in the order of the names of the lanes. -/
theorem compare_lay (a b : LaneRef (lay d)) : compare a b =
    (compare ((lay d).lane a).edgeId ((lay d).lane b).edgeId).then
      (compare ((lay d).lane a).index ((lay d).lane b).index) := by
  have wf := wellFormed_lay accepted
  have mono : StrictMono fun i : Fin (lay d).edges.size => ((lay d).edgeAt i).id :=
    fun i j lt => sorted_edges_lay accepted lt
  have edges := mono.cmp_map_eq a.edge b.edge
  rw [cmp_eq_compare, cmp_eq_compare] at edges
  rw [wf.edgeId_lane, wf.edgeId_lane, wf.index_lane, wf.index_lane, edges]
  rfl

/-- The junctions at both ends of an edge are known. -/
theorem exists_ends_lay (i : Fin (lay d).edges.size) :
    (∃ j, (lay d).junction? ((lay d).edgeAt i).fromJunction = some j) ∧
      ∃ j, (lay d).junction? ((lay d).edgeAt i).toJunction = some j := by
  obtain ⟨e, he, laid⟩ := edgeAt_lay d i
  have known {id : String} (listed : id ∈ d.junctions.map (·.id)) :
      ∃ j, (lay d).junction? id = some j := by
    obtain ⟨j, hj, rfl⟩ := List.mem_map.1 listed
    exact ⟨j, (junction?_eq_some_iff (nodup_junctions_lay accepted)).2 ⟨hj, rfl⟩⟩
  obtain ⟨source, target⟩ := accepted.ends he
  rw [laid]
  exact ⟨known source, known target⟩

theorem represents_lay : (lay d).Represents d := by
  have wf := wellFormed_lay accepted
  refine ⟨rfl, ?_, rfl, fun i j lt => sorted_edges_lay accepted lt,
    fun id i => edgeIndex?_eq_some_iff wf, fun id index => isSome_laneRef?_iff wf,
    fun id index r known => names_of_laneRef? wf known, ?_, (lay d).ascending_laneRefs,
    compare_lay accepted,
    fun i j => by simp [Network.successors],
    fun i => ((lay d).ascending_successors i).imp fun lt => sorted_edges_lay accepted lt,
    fun id j => junction?_eq_some_iff (nodup_junctions_lay accepted), exists_ends_lay accepted⟩
  · exact (List.mergeSort_perm d.edges _).map layEdge
  · intro r
    exact List.count_eq_one_of_mem (nodup_laneRefs _) (mem_laneRefs r)

/-- An accepted description has a network that represents it, whether its answers are searched
or stored. -/
theorem represents_ofDescription : ∃ net, ofDescription d = .ok net ∧ net.Represents d ∧
    (Tables.ofNetwork net).Agree net := by
  refine ⟨lay d, ?_, represents_lay accepted, ?_⟩
  · rw [ofDescription, accepted]
  · exact agree_ofNetwork (wellFormed_lay accepted) (nodup_ids_lay accepted)
      (nodup_junctions_lay accepted)

end Build
end Network

/-- A road there and back, described against the order of the ids. -/
def NetworkDescription.thereAndBack : NetworkDescription Float where
  name := "there and back"
  description := ""
  junctions := [⟨"B", ⟨100.0, 0.0⟩, 10.0⟩, ⟨"A", ⟨0.0, 0.0⟩, 10.0⟩]
  edges := [⟨"BA", "B", "A", [⟨100.0, 5.0⟩, ⟨0.0, 5.0⟩], 13.89, [.default]⟩,
    ⟨"AB", "A", "B", [⟨0.0, 0.0⟩, ⟨100.0, 0.0⟩], 13.89, [.default, .default]⟩]

theorem Network.represents_thereAndBack : NetworkDescription.thereAndBack.Accepted ∧
    ∃ net, ofDescription .thereAndBack = .ok net ∧ net.Represents .thereAndBack ∧
      (Tables.ofNetwork net).Agree net := by
  have accepted : NetworkDescription.thereAndBack.Accepted := by decide +kernel
  exact ⟨accepted, represents_ofDescription accepted⟩

end Roadway
