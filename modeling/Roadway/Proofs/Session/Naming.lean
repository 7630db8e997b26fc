import Mathlib.Data.List.Basic
import Roadway.Proofs.Session.Snapshot
import Std.Data.String.ToNat

/-!
# Names of lanes

A lane is named by the id of its edge, an underscore and its index. Nothing is escaped, and ids
of edges may contain underscores and end with digits. The last underscore of a name is still the
one in front of the index, since a numeral has none. So different lanes have different names, and
a snapshot, searched for the first view with a name, answers the view of the lane that has it.

## Main definitions

* `Lane.id_inj` — a name tells the edge and the index.
* `Network.WellFormed.lane_ext` — names tell lanes apart.
* `Session.lane?_snapshot` — snapshots answer by names.
-/
namespace Roadway
variable {α : Type}

section Names

/-- A separator that does not occur behind it is found again. -/
theorem append_separator_inj {χ : Type} {separator : χ} {as bs ds es : List χ}
    (hds : separator ∉ ds) (hes : separator ∉ es)
    (h : as ++ separator :: ds = bs ++ separator :: es) : as = bs ∧ ds = es := by
  rcases List.append_eq_append_iff.1 h with ⟨more, rfl, rest⟩ | ⟨more, rfl, rest⟩
  · cases more with
    | nil => exact ⟨(List.append_nil _).symm, (List.cons.inj rest).2⟩
    | cons c more =>
      rw [(List.cons.inj rest).2] at hds
      exact absurd (List.mem_append_right _ List.mem_cons_self) hds
  · cases more with
    | nil => exact ⟨List.append_nil _, (List.cons.inj rest).2.symm⟩
    | cons c more =>
      rw [(List.cons.inj rest).2] at hes
      exact absurd (List.mem_append_right _ List.mem_cons_self) hes

theorem underscore_notMem_toString (n : Nat) : '_' ∉ (toString n).toList := by
  rw [Nat.toString_eq_repr, Nat.toList_repr]
  intro listed
  have digit := Nat.isDigit_of_mem_toDigits (by decide) (by decide) listed
  exact absurd digit (by decide)

namespace Lane

theorem toList_id (lane : Lane α) :
    lane.id.toList = lane.edgeId.toList ++ '_' :: (toString lane.index).toList := by
  rw [id, String.toList_append, String.toList_append, List.append_assoc]
  rfl

/-- The name of a lane tells its edge and its index. -/
theorem id_inj {a b : Lane α} : a.id = b.id ↔ a.edgeId = b.edgeId ∧ a.index = b.index := by
  constructor
  · intro same
    have texts := congrArg String.toList same
    rw [toList_id, toList_id] at texts
    obtain ⟨edge, index⟩ := append_separator_inj (underscore_notMem_toString _)
      (underscore_notMem_toString _) texts
    exact ⟨String.toList_inj.1 edge, Nat.repr_injective (String.toList_inj.1 index)⟩
  · rintro ⟨edge, index⟩
    rw [id, id, edge, index]

end Lane

namespace Network
variable {net : Network α}

/-- Names tell lanes apart. -/
theorem WellFormed.lane_ext (wf : net.WellFormed) {a b : LaneRef net}
    (same : (net.lane a).id = (net.lane b).id) : a = b := by
  obtain ⟨edge, index⟩ := Lane.id_inj.1 same
  have found := laneRef?_lane wf a
  rw [edge, index, laneRef?_lane wf b] at found
  exact (Option.some.inj found).symm

/-- A lane is the first one with its name. -/
theorem WellFormed.find?_id (wf : net.WellFormed) (r : LaneRef net) :
    net.laneRefs.find? (fun other => (net.lane other).id == (net.lane r).id) = some r := by
  have listed : ∃ other ∈ net.laneRefs, ((net.lane other).id == (net.lane r).id) = true :=
    ⟨r, mem_laneRefs r, BEq.rfl⟩
  obtain ⟨other, found⟩ := Option.isSome_iff_exists.1 (List.find?_isSome.2 listed)
  have same : (net.lane other).id = (net.lane r).id := by simpa using List.find?_some found
  rw [found, wf.lane_ext same]

end Network
end Names

namespace Session
variable [Scalar α] {s : Session α} {d : NetworkDescription α}

/-- On an accepted network names tell lanes apart. A snapshot of a session on it, whatever
entities there are, answers the view of a lane under the name of the lane, and nothing under any
other text. -/
theorem lane?_snapshot (accepted : d.Accepted) (net : s.network = .lay d)
    (live : s.closed = false) :
    (∀ a b : LaneRef (Network.lay d),
      ((Network.lay d).lane a).id = ((Network.lay d).lane b).id → a = b) ∧
    ∃ shot, s.snapshot = .ok shot ∧
      (∀ r, ∃ view, shot.lane? (s.network.lane r).id = some view ∧
        view.Tallies s.roster (s.network.lane r)) ∧
      ∀ id, (∀ r, (s.network.lane r).id ≠ id) → shot.lane? id = none := by
  have laid := Network.wellFormed_lay accepted
  have wf : s.network.WellFormed := net ▸ laid
  refine ⟨fun a b same => laid.lane_ext same, _, by rw [snapshot, live]; rfl, fun r => ?_,
    fun id other => ?_⟩
  · refine ⟨_, ?_, Snapshot.tallies_viewLane wf s.roster r⟩
    rw [Snapshot.lane?, List.find?_map]
    have first := wf.find?_id r
    exact congrArg (Option.map _) first
  · rw [Snapshot.lane?, List.find?_eq_none]
    intro view listed
    obtain ⟨r, -, rfl⟩ := List.mem_map.1 listed
    exact fun same => other r (eq_of_beq same)

end Session

/-! Two roads, one of which has the name of a lane of the other. -/
section Namesakes

def NetworkDescription.namesakes : NetworkDescription Float where
  name := "namesakes"
  description := ""
  junctions := [⟨"A", ⟨0.0, 0.0⟩, 10.0⟩, ⟨"B", ⟨100.0, 0.0⟩, 10.0⟩]
  edges := [⟨"a", "A", "B", [⟨0.0, 0.0⟩, ⟨100.0, 0.0⟩], 13.89, [.default, .default]⟩,
    ⟨"a_1", "B", "A", [⟨100.0, 9.0⟩, ⟨0.0, 9.0⟩], 13.89, [.default, .default]⟩]

theorem NetworkDescription.accepted_namesakes : namesakes.Accepted := by decide +kernel

def Network.namesakes : Network Float :=
  ⟨"namesakes", (NetworkDescription.namesakes.edges.map layEdge).toArray,
    NetworkDescription.namesakes.junctions⟩

theorem Network.lay_namesakes : lay .namesakes = .namesakes := lay_of_sorted (by decide)

/-- A car on the left lane of one road, none on the other road. -/
def Session.namesakes : Session Float :=
  (fresh (.ofNetwork .namesakes 50.0) .default (.ofDraws fun _ => 0.0)).operate
    (.insert "car" ⟨.vehicle, "a", 1, 20.0, 6.0, [], none⟩)

theorem Session.lane?_namesakes : ∃ shot, namesakes.snapshot = .ok shot ∧
    (∀ r, ∃ view, shot.lane? (namesakes.network.lane r).id = some view ∧
      view.Tallies namesakes.roster (namesakes.network.lane r)) ∧
    shot.lane? "a_1" = some ⟨"a_1", 1, 6.0⟩ ∧ shot.lane? "a_1_0" = some ⟨"a_1_0", 0, 0.0⟩ ∧
    shot.lane? "a_01" = none := by
  have reached : Reachable (fresh (.ofNetwork .namesakes 50.0) .default (.ofDraws fun _ => 0.0))
      namesakes := .operate .start _
  have net : namesakes.network = .lay .namesakes := by
    rw [network, reached.frame.1, Network.lay_namesakes]
    rfl
  obtain ⟨-, shot, taken, views, others⟩ :=
    lane?_snapshot NetworkDescription.accepted_namesakes net (by decide +kernel)
  have shown : (namesakes.snapshot.toOption.map fun shot =>
      (shot.lane? "a_1", shot.lane? "a_1_0")) =
      some (some ⟨"a_1", 1, 6.0⟩, some ⟨"a_1_0", 0, 0.0⟩) := by decide +kernel
  rw [taken] at shown
  obtain ⟨left, right⟩ := Prod.mk.inj (Option.some.inj shown)
  refine ⟨shot, taken, views, left, right, others _ fun r same => ?_⟩
  have names : (namesakes.network.laneRefs.map fun r => (namesakes.network.lane r).id) =
      ["a_0", "a_1", "a_1_0", "a_1_1"] := by decide +kernel
  have listed : (namesakes.network.lane r).id ∈
      namesakes.network.laneRefs.map fun r => (namesakes.network.lane r).id :=
    List.mem_map_of_mem (Network.mem_laneRefs r)
  rw [names, same] at listed
  exact absurd listed (by decide)

end Namesakes
end Roadway
