import Roadway.Document.Configuration
import Roadway.Proofs.Network.Tables
import Roadway.Session.Command

/-!
# The order of a description

A description is accepted for what its edges are and for their ids, which may occur in any
order. Its network holds the edges in the order of these ids, so that it is the same one for
every order of the description, and sessions on it cannot tell how the edges were listed.

## Main definitions

* `NetworkDescription.Reordered` — descriptions with the same edges in another order.
* `Network.Represents.unique` — they have the same network.
* `Session.run_reordered` — sessions on their networks answer alike.
* `Configuration.openSession_reordered` — so do sessions that are opened from documents.
-/
namespace Roadway

section Scalar
variable {α : Type} [Scalar α]

/-- Descriptions that differ in nothing but the order of their edges. -/
structure NetworkDescription.Reordered (d d' : NetworkDescription α) : Prop where
  name : d.name = d'.name
  description : d.description = d'.description
  junctions : d.junctions = d'.junctions
  edges : d.edges.Perm d'.edges

namespace Network

/-- The edges of a network that represents a description are sorted by their ids. -/
theorem Represents.sorted_edges {net : Network α} {d : NetworkDescription α}
    (h : net.Represents d) : net.edges.toList.Pairwise fun a b => a.id < b.id := by
  rw [List.pairwise_iff_getElem]
  intro i j hi hj lt
  exact h.ascending ⟨i, by simpa using hi⟩ ⟨j, by simpa using hj⟩ lt

/-- One network represents a description, in whatever order its edges are. -/
theorem Represents.unique {net net' : Network α} {d d' : NetworkDescription α}
    (h : net.Represents d) (h' : net'.Represents d') (same : d.Reordered d') : net = net' := by
  have perm : net.edges.toList.Perm net'.edges.toList :=
    h.edges.trans ((same.edges.map layEdge).trans h'.edges.symm)
  have edges : net.edges = net'.edges := by
    refine Array.toList_inj.1 (perm.eq_of_pairwise ?_ h.sorted_edges h'.sorted_edges)
    intro a b _ _ lt gt
    exact absurd gt lt.asymm
  have name : net.name = net'.name := by rw [h.name, h'.name, same.name]
  have junctions : net.junctions = net'.junctions := by
    rw [h.junctions, h'.junctions, same.junctions]
  cases net
  cases net'
  rw [Network.mk.injEq]
  exact ⟨name, edges, junctions⟩

end Network

namespace NetworkDescription.Reordered
variable {d d' : NetworkDescription α} (same : d.Reordered d')
include same

/-- What is checked of edges does not depend on their order. -/
theorem accepted_iff : d.Accepted ↔ d'.Accepted := by
  have some : d.edges ≠ [] ↔ d'.edges ≠ [] := by
    rw [← List.length_pos_iff, ← List.length_pos_iff, same.edges.length_eq]
  rw [NetworkDescription.accepted_iff, NetworkDescription.accepted_iff, same.junctions, some,
    (same.edges.map _).nodup_iff]
  simp only [same.edges.mem_iff]

theorem lay_eq (accepted : d.Accepted) : Network.lay d = Network.lay d' :=
  (Network.represents_lay accepted).unique (Network.represents_lay (same.accepted_iff.1 accepted))
    same

end NetworkDescription.Reordered

/-- Descriptions that differ in the order of their edges are accepted together, have the same
network, and sessions on it answer alike. -/
theorem Session.run_reordered {d d' : NetworkDescription α} (same : d.Reordered d') :
    (d.Accepted ↔ d'.Accepted) ∧
    (d.Accepted → ∃ net, Network.ofDescription d = .ok net ∧ Network.ofDescription d' = .ok net) ∧
    ∀ net net', Network.ofDescription d = .ok net → Network.ofDescription d' = .ok net' →
      ∀ cellSize settings deviates commands,
        (fresh (.ofNetwork net cellSize) settings deviates).run commands =
          (fresh (.ofNetwork net' cellSize) settings deviates).run commands := by
  have built (accepted : d.Accepted) : Network.ofDescription d = .ok (.lay d) ∧
      Network.ofDescription d' = .ok (.lay d) := by
    have accepted' := same.accepted_iff.1 accepted
    rw [Network.ofDescription, Network.ofDescription, accepted, accepted', same.lay_eq accepted]
    exact ⟨rfl, rfl⟩
  refine ⟨same.accepted_iff, fun accepted => ⟨_, built accepted⟩, ?_⟩
  intro net net' ok ok' cellSize settings deviates commands
  have accepted : d.Accepted := by
    rw [Network.ofDescription] at ok
    split at ok
    · cases ok
    · next none => exact none
  obtain ⟨here, there⟩ := built accepted
  obtain rfl := Except.ok.inj (ok.symm.trans here)
  obtain rfl := Except.ok.inj (ok'.symm.trans there)
  rfl

end Scalar

/-- The same road described in the order of the ids. -/
def NetworkDescription.backAndThere : NetworkDescription Float :=
  { thereAndBack with edges := thereAndBack.edges.reverse }

theorem Session.run_thereAndBack :
    NetworkDescription.thereAndBack.Reordered .backAndThere ∧
    NetworkDescription.thereAndBack.Accepted ∧ NetworkDescription.backAndThere.Accepted ∧
    ∃ net, Network.ofDescription .thereAndBack = .ok net ∧
      Network.ofDescription .backAndThere = .ok net := by
  have same : NetworkDescription.thereAndBack.Reordered .backAndThere :=
    ⟨rfl, rfl, rfl, (List.reverse_perm _).symm⟩
  obtain ⟨together, built, -⟩ := run_reordered same
  have accepted : NetworkDescription.thereAndBack.Accepted := by decide +kernel
  exact ⟨same, accepted, together.1 accepted, built accepted⟩

/-- Documents that list the same edges in another order open the same session. -/
theorem Configuration.openSession_reordered {network network' session : String}
    {d d' : NetworkDescription Float} (read : NetworkDescription.read? network = some d)
    (read' : NetworkDescription.read? network' = some d') (same : d.Reordered d')
    (deviates : DeviateStream Float) :
    (ofDocuments network session).toOption.map (·.openSession deviates) =
      (ofDocuments network' session).toOption.map (·.openSession deviates) := by
  rw [ofDocuments, ofDocuments, read, read']
  cases SessionSettings.read? session with
  | none => rfl
  | some settings =>
    by_cases accepted : d.Accepted
    · have accepted' := same.accepted_iff.1 accepted
      dsimp only [fault?]
      rw [accepted, accepted']
      cases settings.fault? with
      | none =>
        simp [Except.toOption, openSession, same.lay_eq accepted]
      | some fault => rfl
    · have refused' := mt same.accepted_iff.2 accepted
      obtain ⟨fault, refused⟩ := Option.ne_none_iff_exists'.1 accepted
      obtain ⟨fault', refused'⟩ := Option.ne_none_iff_exists'.1 refused'
      dsimp only [fault?]
      rw [refused, refused']
      rfl

end Roadway
