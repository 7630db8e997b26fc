import Mathlib.Tactic.ByContra
import Roadway.Proofs.Network.Layout
import Roadway.Traffic.Route

/-!
# Routes without a fault

The links of a route are examined before its ids, and a link with an unknown end is passed over.
An unknown id is found later, when no link is broken. So the two passes together accept the
lists of ids that are routes and no others, and report the first broken link or else the first
unknown id.

## Main definitions

* `Network.Continues` — an edge begins where another ends.
* `Network.IsRoute` — edges of which each begins where the one before it ends.
* `Network.FirstFault` — what is reported of a list of ids that is no route.
* `Network.routeFault?_eq_none_iff`, `Network.routeFault?_eq_some_iff` — where edges are told
  apart by their ids, that is what is found.
* `Network.routeFault?_lay` — so it is on accepted networks.
-/
namespace Roadway
variable {α : Type}

namespace Network

/-- An edge begins where another ends. -/
def Continues (net : Network α) (edge next : Fin net.edges.size) : Prop :=
  (net.edgeAt next).fromJunction = (net.edgeAt edge).toJunction

/-- Whether an id is that of an edge. -/
def Knows (net : Network α) (id : String) : Prop := ∃ i, (net.edgeAt i).id = id

/-- A list of ids of edges of which each begins where the one before it ends. -/
structure IsRoute (net : Network α) (route : List String) : Prop where
  known : ∀ id ∈ route, net.Knows id
  continues : ∀ place edge next, route[place]? = some (net.edgeAt edge).id →
    route[place + 1]? = some (net.edgeAt next).id → net.Continues edge next

/-- Two edges that follow each other in a list of ids, though the second does not begin where the
first ends. -/
structure BrokenAt (net : Network α) (route : List String) (place : Nat)
    (edge next : Fin net.edges.size) : Prop where
  here : route[place]? = some (net.edgeAt edge).id
  ahead : route[place + 1]? = some (net.edgeAt next).id
  apart : ¬ net.Continues edge next

/-- What is reported of a list of ids that is no route. -/
inductive FirstFault (net : Network α) (route : List String) : RouteFault → Prop
  /-- The first broken link, whether or not there are unknown ids. -/
  | disconnected {place : Nat} {edge next : Fin net.edges.size}
      (broken : net.BrokenAt route place edge next)
      (first : ∀ before < place, ∀ edge next, ¬ net.BrokenAt route before edge next) :
      FirstFault net route (.disconnected (net.edgeAt next).id (net.edgeAt edge).id)
  /-- The first unknown id, if no link is broken. -/
  | unknownEdge {place : Nat} {id : String}
      (linked : ∀ place edge next, ¬ net.BrokenAt route place edge next)
      (here : route[place]? = some id) (unknown : ¬ net.Knows id)
      (first : ∀ before < place, ∀ id, route[before]? = some id → net.Knows id) :
      FirstFault net route (.unknownEdge id)

section Links
variable {net : Network α} {route : List String}

/-- The fault of the link at a place of a route. -/
def linkFaultAt? (net : Network α) (route : List String) (place : Nat) : Option RouteFault :=
  match route[place]?, route[place + 1]? with
  | some first, some second => net.linkFault? first second
  | _, _ => none

theorem brokenLink?_cons (first : String) (rest : List String) :
    net.brokenLink? (first :: rest) =
      (net.linkFaultAt? (first :: rest) 0).or (net.brokenLink? rest) := by
  cases rest with
  | nil => rfl
  | cons second rest => rw [brokenLink?, Option.orElse_eq_orElse, Option.orElse_eq_or]; rfl

/-- No link is broken if none has a fault, wherever it is. -/
theorem brokenLink?_eq_none_iff :
    net.brokenLink? route = none ↔ ∀ place, net.linkFaultAt? route place = none := by
  induction route with
  | nil => exact ⟨fun _ _ => rfl, fun _ => rfl⟩
  | cons first rest ih =>
    rw [brokenLink?_cons, Option.or_eq_none_iff, ih]
    constructor
    · rintro ⟨head, tail⟩ place
      cases place with
      | zero => exact head
      | succ place => exact tail place
    · intro all
      exact ⟨all 0, fun place => all (place + 1)⟩

/-- The broken link found is the first one. -/
theorem brokenLink?_eq_some_iff {fault : RouteFault} :
    net.brokenLink? route = some fault ↔ ∃ place, net.linkFaultAt? route place = some fault ∧
      ∀ before < place, net.linkFaultAt? route before = none := by
  induction route with
  | nil => exact ⟨nofun, nofun⟩
  | cons first rest ih =>
    rw [brokenLink?_cons, Option.or_eq_some_iff, ih]
    constructor
    · rintro (head | ⟨sound, place, broken, earlier⟩)
      · exact ⟨0, head, nofun⟩
      · refine ⟨place + 1, broken, fun before lt => ?_⟩
        cases before with
        | zero => exact sound
        | succ before => exact earlier before (Nat.lt_of_succ_lt_succ lt)
    · rintro ⟨place, broken, earlier⟩
      cases place with
      | zero => exact .inl broken
      | succ place =>
        exact .inr ⟨earlier 0 (Nat.succ_pos _), place, broken,
          fun before lt => earlier (before + 1) (Nat.succ_lt_succ lt)⟩

/-- A link with an unknown end has no fault. -/
theorem linkFault?_eq_some_iff (wf : net.WellFormed) {first second : String}
    {fault : RouteFault} : net.linkFault? first second = some fault ↔
      ∃ edge next, first = (net.edgeAt edge).id ∧ second = (net.edgeAt next).id ∧
        ¬ net.Continues edge next ∧ .disconnected second first = fault := by
  constructor
  · intro found
    unfold linkFault? at found
    split at found
    · next a b ha hb =>
      obtain ⟨edge, hedge, rfl⟩ := Option.map_eq_some_iff.1 ha
      obtain ⟨next, hnext, rfl⟩ := Option.map_eq_some_iff.1 hb
      obtain rfl := id_of_edgeIndex? hedge
      obtain rfl := id_of_edgeIndex? hnext
      split at found
      · cases found
      · next apart => exact ⟨edge, next, rfl, rfl, Ne.symm apart, Option.some.inj found⟩
    · cases found
  · rintro ⟨edge, next, rfl, rfl, apart, rfl⟩
    rw [linkFault?, edge?, edge?, edgeIndex?_id wf, edgeIndex?_id wf]
    exact if_neg (Ne.symm apart)

theorem linkFaultAt?_eq_some_iff (wf : net.WellFormed) {place : Nat} {fault : RouteFault} :
    net.linkFaultAt? route place = some fault ↔ ∃ edge next, net.BrokenAt route place edge next ∧
      .disconnected (net.edgeAt next).id (net.edgeAt edge).id = fault := by
  constructor
  · intro found
    unfold linkFaultAt? at found
    split at found
    · next first second here ahead =>
      obtain ⟨edge, next, rfl, rfl, apart, names⟩ := (linkFault?_eq_some_iff wf).1 found
      exact ⟨edge, next, ⟨here, ahead, apart⟩, names⟩
    · cases found
  · rintro ⟨edge, next, ⟨here, ahead, apart⟩, names⟩
    rw [linkFaultAt?, here, ahead]
    exact (linkFault?_eq_some_iff wf).2 ⟨edge, next, rfl, rfl, apart, names⟩

theorem linkFaultAt?_eq_none_iff (wf : net.WellFormed) {place : Nat} :
    net.linkFaultAt? route place = none ↔ ∀ edge next, ¬ net.BrokenAt route place edge next := by
  simp only [Option.eq_none_iff_forall_ne_some, ne_eq, linkFaultAt?_eq_some_iff wf]
  constructor
  · intro sound edge next broken
    exact sound _ ⟨edge, next, broken, rfl⟩
  · rintro linked _ ⟨edge, next, broken, -⟩
    exact linked edge next broken

end Links

section Verdict
variable {net : Network α} {route : List String}

/-- Both passes over a route find nothing. -/
theorem routeFault?_eq_none_iff_forall : net.routeFault? route = none ↔
    (∀ place, net.linkFaultAt? route place = none) ∧
      ∀ id ∈ route, ∃ i, net.edgeIndex? id = some i := by
  rw [routeFault?, Option.orElse_eq_orElse, Option.orElse_eq_or, Option.or_eq_none_iff,
    brokenLink?_eq_none_iff, Option.map_eq_none_iff, List.find?_eq_none]
  simp only [Option.isNone_iff_eq_none, ← ne_eq, Option.ne_none_iff_exists']

/-- All edges of a route without a fault are known. -/
theorem edgeIndex?_of_route (valid : net.routeFault? route = none) {id : String}
    (h : id ∈ route) : ∃ i, net.edgeIndex? id = some i :=
  (routeFault?_eq_none_iff_forall.1 valid).2 id h

theorem isNone_edgeIndex?_iff (wf : net.WellFormed) {id : String} :
    (net.edgeIndex? id).isNone = true ↔ ¬ net.Knows id := by
  simp only [Knows, ← edgeIndex?_eq_some_iff wf, Option.isNone_iff_eq_none,
    Option.eq_none_iff_forall_ne_some, not_exists, ne_eq]

/-- The unknown id found is the first one. -/
theorem find?_isNone_edgeIndex?_iff (wf : net.WellFormed) {id : String} :
    (route.find? fun id => (net.edgeIndex? id).isNone) = some id ↔ ∃ place : Nat,
      route[place]? = some id ∧ ¬ net.Knows id ∧
        ∀ before < place, ∀ other, route[before]? = some other → net.Knows other := by
  rw [List.find?_eq_some_iff_getElem, isNone_edgeIndex?_iff wf]
  simp only [Bool.not_eq_true', ← Bool.not_eq_true, isNone_edgeIndex?_iff wf, not_not]
  constructor
  · rintro ⟨unknown, place, lt, here, first⟩
    refine ⟨place, List.getElem?_eq_some_iff.2 ⟨lt, here⟩, unknown, ?_⟩
    intro before early other there
    obtain ⟨_, rfl⟩ := List.getElem?_eq_some_iff.1 there
    exact first before early
  · rintro ⟨place, at_place, unknown, first⟩
    obtain ⟨lt, here⟩ := List.getElem?_eq_some_iff.1 at_place
    exact ⟨unknown, place, lt, here, fun before early =>
      first before early _ (List.getElem?_eq_getElem (Nat.lt_trans early lt))⟩

theorem routeFault?_eq_none_iff (wf : net.WellFormed) :
    net.routeFault? route = none ↔ net.IsRoute route := by
  rw [routeFault?_eq_none_iff_forall]
  simp only [linkFaultAt?_eq_none_iff wf, edgeIndex?_eq_some_iff wf]
  constructor
  · rintro ⟨linked, known⟩
    refine ⟨known, fun place edge next here ahead => ?_⟩
    by_contra apart
    exact linked place edge next ⟨here, ahead, apart⟩
  · rintro ⟨known, continues⟩
    exact ⟨fun place edge next broken =>
      broken.apart (continues place edge next broken.here broken.ahead), known⟩

theorem routeFault?_eq_some_iff (wf : net.WellFormed) {fault : RouteFault} :
    net.routeFault? route = some fault ↔ net.FirstFault route fault := by
  rw [routeFault?, Option.orElse_eq_orElse, Option.orElse_eq_or, Option.or_eq_some_iff,
    brokenLink?_eq_some_iff, brokenLink?_eq_none_iff, Option.map_eq_some_iff]
  simp only [linkFaultAt?_eq_some_iff wf, linkFaultAt?_eq_none_iff wf,
    find?_isNone_edgeIndex?_iff wf]
  constructor
  · rintro (⟨place, ⟨edge, next, broken, rfl⟩, first⟩ |
      ⟨linked, id, ⟨place, here, unknown, first⟩, rfl⟩)
    · exact .disconnected broken first
    · exact .unknownEdge linked here unknown first
  · intro verdict
    cases verdict with
    | disconnected broken first => exact .inl ⟨_, ⟨_, _, broken, rfl⟩, first⟩
    | unknownEdge linked here unknown first =>
      exact .inr ⟨linked, _, ⟨_, here, unknown, first⟩, rfl⟩

end Verdict

/-- On an accepted network a list of ids has no fault exactly if it is a route, and any other list
has exactly its first fault. -/
theorem routeFault?_lay [Scalar α] {d : NetworkDescription α} (accepted : d.Accepted)
    (route : List String) :
    ((lay d).routeFault? route = none ↔ (lay d).IsRoute route) ∧
      ∀ fault, (lay d).routeFault? route = some fault ↔ (lay d).FirstFault route fault := by
  have wf := wellFormed_lay accepted
  exact ⟨routeFault?_eq_none_iff wf, fun fault => routeFault?_eq_some_iff wf⟩

end Network

/-- Three roads round a block, one way. -/
def NetworkDescription.block : NetworkDescription Float where
  name := "block"
  description := ""
  junctions := [⟨"A", ⟨0.0, 0.0⟩, 10.0⟩, ⟨"B", ⟨100.0, 0.0⟩, 10.0⟩, ⟨"C", ⟨0.0, 100.0⟩, 10.0⟩]
  edges := [⟨"AB", "A", "B", [⟨0.0, 0.0⟩, ⟨100.0, 0.0⟩], 13.89, [.default]⟩,
    ⟨"BC", "B", "C", [⟨100.0, 0.0⟩, ⟨0.0, 100.0⟩], 13.89, [.default]⟩,
    ⟨"CA", "C", "A", [⟨0.0, 100.0⟩, ⟨0.0, 0.0⟩], 13.89, [.default]⟩]

/-- Round the block there is a route, but not against the direction. A link that is broken is
reported even if an unknown id comes before it. -/
theorem Network.routeFault?_block : NetworkDescription.block.Accepted ∧
    (lay .block).IsRoute ["BC", "CA", "AB", "BC"] ∧
    (lay .block).FirstFault ["DE", "AB", "CA", "BC"] (.disconnected "CA" "AB") ∧
    (lay .block).FirstFault ["AB", "DE", "AB", "FG"] (.unknownEdge "DE") := by
  have accepted : NetworkDescription.block.Accepted := by decide +kernel
  have laid : lay .block = ⟨"block", (NetworkDescription.block.edges.map layEdge).toArray,
      NetworkDescription.block.junctions⟩ := lay_of_sorted (by decide)
  refine ⟨accepted, ?_, ?_, ?_⟩
  · exact (routeFault?_lay accepted _).1.1 (by rw [laid]; decide +kernel)
  · exact ((routeFault?_lay accepted _).2 _).1 (by rw [laid]; decide +kernel)
  · exact ((routeFault?_lay accepted _).2 _).1 (by rw [laid]; decide +kernel)

end Roadway
