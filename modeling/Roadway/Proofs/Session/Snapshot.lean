import Roadway.Proofs.Entity.Roster
import Roadway.Proofs.Network.Grid
import Roadway.Proofs.Session.Bounds
import Roadway.Proofs.Session.Heading

/-!
# Snapshots and queries

A snapshot and the queries read the same session by different ways: queries find one entity
under its id, while a snapshot passes over all entities, leaves out those without a point in
the plane, and tallies the others by lane. On an accepted network every entity that
operations lead to has a point in the plane and a lane that exists, so the snapshot leaves
nothing out, answers what the queries do, and counts every entity on the lane it names.

## Main definitions

* `Placement.laneName?`, `Roster.onLane` — the lane that a placement names, and the
  entities that are on a lane by their names.
* `LaneView.Tallies` — a view that counts the entities on a lane and averages their speeds.
* `Snapshot.Shows` — a snapshot that agrees with the queries of a session.
* `Session.snapshot_of_reachable` — snapshots of sessions reached do.
-/
namespace Roadway
variable {α : Type}

/-- The id of the edge and the index of the lane that a placement names. -/
def Placement.laneName? : Placement α → Option (String × Nat)
  | onLane edge lane _ _ => some (edge, lane)
  | _ => none

/-- The entities on a lane, in ascending order of their ids. -/
def Roster.onLane (r : Roster α) (lane : Lane α) : List (Entity α) :=
  r.entities.filter fun e => e.placement.laneName? == some (lane.edgeId, lane.index)

/-- Arithmetic in which a quotient by a count gives the dividend back. -/
structure Scalar.DividesExactly (α : Type) [Scalar α] : Prop where
  div_mul : ∀ (x : α) (n : Nat), 0 < n → x / ofNat n * ofNat n = x
  zero_mul : (0.0 : α) * ofNat 0 = 0.0

theorem Exact.dividesExactly : Scalar.DividesExactly Exact where
  div_mul := by
    intro x n pos
    have hn : (0 : ℝ) < n := Nat.cast_pos.2 pos
    change x / real n * real n = x
    cases x with
    | real x => rw [real_div x hn.ne', real_mul, div_mul_cancel₀ x hn.ne']
    | infinite s =>
      rw [infinite_div s hn]
      change scaleInfinity s n = infinite s
      rw [scaleInfinity, if_neg hn.ne', decide_eq_false hn.le.not_gt, Bool.xor_false]
    | notANumber => rfl
  zero_mul := by
    change (0.0 : Exact) * real (0 : ℕ) = 0.0
    simp

section Views
variable [Scalar α]

/-- A view that counts the entities on a lane and averages their speeds. -/
structure LaneView.Tallies (roster : Roster α) (lane : Lane α) (view : LaneView α) : Prop where
  id : view.id = lane.id
  occupancy : view.occupancy = (roster.onLane lane).length
  empty : view.occupancy = 0 → view.meanSpeed = 0.0
  meanSpeed : view.occupancy ≠ 0 → view.meanSpeed =
    ((roster.onLane lane).map (·.speed)).foldl (· + ·) 0.0 / Scalar.ofNat view.occupancy
  /-- Without rounding the mean is the sum of the speeds over their number. -/
  total : Scalar.DividesExactly α → view.meanSpeed * Scalar.ofNat view.occupancy =
    ((roster.onLane lane).map (·.speed)).foldl (· + ·) 0.0

/-- What the queries of a session answer for the entity that a view shows. -/
structure EntityView.Shows (s : Session α) (view : EntityView α) : Prop where
  kind : (s.entity view.id).map (·.kind) = .ok view.kind
  placement : s.placement view.id = .ok view.placement
  position : s.position view.id = .ok view.position
  heading : s.heading view.id = .ok view.heading
  speed : s.speed view.id = .ok view.speed

/-- A snapshot that agrees with the queries of a session. -/
structure Snapshot.Shows (s : Session α) (shot : Snapshot α) : Prop where
  network : shot.network = s.network.name
  tick : shot.tick = s.tick
  time : shot.time = s.time
  /-- Every entity is listed. -/
  ids : shot.entities.map (·.id) = s.roster.ids
  /-- None is listed twice. -/
  ascending : (shot.entities.map (·.id)).Pairwise (· < ·)
  entities : ∀ view ∈ shot.entities, view.Shows s
  /-- The views of the lanes are those of all lanes, one each. -/
  lanes : List.Forall₂ (fun r view => view.Tallies s.roster (s.network.lane r))
    s.network.laneRefs shot.lanes
  everyLane : ∀ r, r ∈ s.network.laneRefs
  laneOrder : s.network.laneRefs.Pairwise fun a b =>
    (s.network.lane a).Before (s.network.lane b)
  /-- Every entity on a lane is counted on exactly one. -/
  counted : (shot.lanes.map (·.occupancy)).sum =
    s.roster.entities.countP fun e => e.placement.laneName?.isSome

section Entities
variable {net : Network α}

/-- An entity that heads where its placement does has a point in the plane. -/
theorem Entity.Aligned.viewed {e : Entity α} (aligned : e.Aligned net) :
    ∃ p, e.placement.position? net = some p ∧ Snapshot.viewEntity? net e =
      some ⟨e.id, e.kind, e.placement, p, e.heading, e.speed⟩ := by
  have located : ∃ p, e.placement.position? net = some p := by
    rw [Entity.Aligned] at aligned
    cases placed : e.placement with
    | onLane edge lane offset lateral =>
      rw [placed, Placement.heading?] at aligned
      obtain ⟨r, known, -⟩ := Option.map_eq_some_iff.1 aligned
      exact ⟨_, Placement.position?_onLane known _ _⟩
    | free position heading => exact ⟨position, rfl⟩
    | undetermined => simp [placed, Placement.heading?] at aligned
  obtain ⟨p, located⟩ := located
  exact ⟨p, located, by rw [Snapshot.viewEntity?, located, Option.map_some]⟩

omit [Scalar α] in
/-- A placement is on a lane if it names that lane. -/
theorem Placement.laneRef?_eq_some_iff (wf : net.WellFormed) {placement : Placement α}
    {r : LaneRef net} : placement.laneRef? net = some r ↔
      placement.laneName? = some ((net.lane r).edgeId, (net.lane r).index) := by
  cases placement with
  | onLane edge lane offset lateral =>
    simp only [laneRef?, laneName?, Option.some.injEq, Prod.mk.injEq]
    constructor
    · intro known
      obtain ⟨edge, index⟩ := Network.names_of_laneRef? wf known
      exact ⟨edge.symm, index.symm⟩
    · rintro ⟨rfl, rfl⟩
      exact Network.laneRef?_lane wf r
  | free | undetermined => simp [laneRef?, laneName?]

/-- A lane that an aligned entity names exists. -/
theorem Entity.Aligned.isSome_laneRef? {e : Entity α} (aligned : e.Aligned net) :
    (e.placement.laneRef? net).isSome = e.placement.laneName?.isSome := by
  rw [Entity.Aligned] at aligned
  cases placed : e.placement with
  | onLane edge lane offset lateral =>
    rw [placed, Placement.heading?] at aligned
    obtain ⟨r, known, -⟩ := Option.map_eq_some_iff.1 aligned
    simp [Placement.laneRef?, Placement.laneName?, known]
  | free | undetermined => rfl

end Entities

namespace Snapshot
variable {net : Network α}

omit [Scalar α] in
/-- The speeds that a lane tallies are those of the entities that name it. -/
theorem speeds_locate (wf : net.WellFormed) (roster : Roster α) (r : LaneRef net) :
    ((locate net roster.entities).filter (·.1 == r)).map (·.2) =
      (roster.onLane (net.lane r)).map (·.speed) := by
  rw [Roster.onLane, locate, List.filter_filterMap, List.map_filterMap]
  generalize roster.entities = entities
  induction entities with
  | nil => rfl
  | cons e rest ih =>
    rw [List.filterMap_cons, List.filter_cons, ih]
    by_cases named : e.placement.laneName? = some ((net.lane r).edgeId, (net.lane r).index)
    · have known := (Placement.laneRef?_eq_some_iff wf).2 named
      simp [known, named, Option.filter]
    · have elsewhere := mt (Placement.laneRef?_eq_some_iff wf).1 named
      cases known : e.placement.laneRef? net with
      | none => simp [named]
      | some other =>
        rw [known, Option.some.injEq] at elsewhere
        simp [named, elsewhere, Option.filter]

/-- The view of a lane tallies the entities that name it. -/
theorem tallies_viewLane (wf : net.WellFormed) (roster : Roster α) (r : LaneRef net) :
    (viewLane net (locate net roster.entities) r).Tallies roster (net.lane r) := by
  have speeds := speeds_locate wf roster r
  generalize hview : viewLane net (locate net roster.entities) r = view
  simp only [viewLane, speeds, List.length_map] at hview
  subst hview
  cases present : roster.onLane (net.lane r) with
  | nil =>
    refine ⟨rfl, by rw [present], fun _ => rfl, fun occupied => absurd rfl occupied, ?_⟩
    intro exact
    simpa [present] using exact.zero_mul
  | cons e rest =>
    refine ⟨rfl, by rw [present], fun empty => absurd empty (Nat.succ_ne_zero _), ?_, ?_⟩
    · intro _
      rw [present]
      rfl
    · intro exact
      rw [present]
      exact exact.div_mul _ _ (Nat.succ_pos _)

end Snapshot

/-- An indicator adds up to the number of places at which it is set. -/
theorem sum_indicator {κ : Type} (p : κ → Bool) (keys : List κ) :
    (keys.map fun k => if p k = true then 1 else 0).sum = keys.countP p := by
  induction keys with
  | nil => rfl
  | cons k rest ih => rw [List.map_cons, List.sum_cons, ih, List.countP_cons, Nat.add_comm]

/-- Tallies over all values that a key takes add up to what has a key. -/
theorem sum_countP_key {ι κ : Type} [DecidableEq κ] (key? : ι → Option κ) {keys : List κ}
    (once : keys.Nodup) (all : ∀ k, k ∈ keys) (xs : List ι) :
    (keys.map fun k => xs.countP fun x => key? x == some k).sum =
      xs.countP fun x => (key? x).isSome := by
  induction xs with
  | nil => simp
  | cons x rest ih =>
    -- the head is tallied under its own key and under no other
    have head : (keys.countP fun k => key? x == some k) =
        if (key? x).isSome = true then 1 else 0 := by
      cases key? x with
      | none => simp
      | some k =>
        have count := List.count_eq_one_of_mem once (all k)
        rw [List.count_eq_countP] at count
        simpa [Bool.beq_comm] using count
    simp only [List.countP_cons, List.sum_map_add, ih, sum_indicator, head]

namespace Session
variable {s : Session α}

/-- The tallies of all lanes add up to the entities on lanes. -/
theorem Aligned.sum_occupancy (aligned : s.Aligned) :
    (s.network.laneRefs.map fun r => (s.roster.onLane (s.network.lane r)).length).sum =
      s.roster.entities.countP fun e => e.placement.laneName?.isSome := by
  have wf := aligned.wellFormed
  have tally (r : LaneRef s.network) : (s.roster.onLane (s.network.lane r)).length =
      s.roster.entities.countP fun e => e.placement.laneRef? s.network == some r := by
    rw [Roster.onLane, ← List.countP_eq_length_filter]
    refine List.countP_congr fun e _ => ?_
    rw [beq_iff_eq, beq_iff_eq, Placement.laneRef?_eq_some_iff wf]
  simp only [tally]
  rw [sum_countP_key (fun e : Entity α => e.placement.laneRef? s.network)
    s.network.nodup_laneRefs Network.mem_laneRefs]
  refine List.countP_congr fun e present => ?_
  rw [(aligned.entities e present).isSome_laneRef?]

/-- The view of an entity shows what the queries answer. -/
theorem Aligned.shows_entity (aligned : s.Aligned) (live : s.closed = false) {e : Entity α}
    (present : e ∈ s.roster.entities) {view : EntityView α}
    (viewed : Snapshot.viewEntity? s.network e = some view) : view.Shows s := by
  obtain ⟨p, located, shown⟩ := (aligned.entities e present).viewed
  obtain rfl := Option.some.inj (viewed.symm.trans shown)
  have found : s.entity e.id = .ok e := by
    simp [entity, live, Roster.mem_entities_iff.1 present]
  refine ⟨?_, ?_, ?_, ?_, ?_⟩
  · rw [found]; rfl
  · rw [Session.placement, found]; rfl
  · rw [Session.position, found]; simp only [located]
  · rw [Session.heading, found]; rfl
  · rw [Session.speed, found]; rfl

/-- The snapshot of an open aligned session agrees with its queries. -/
theorem Aligned.shows (aligned : s.Aligned) (live : s.closed = false)
    (ordered : s.network.laneRefs.Pairwise fun a b =>
      (s.network.lane a).Before (s.network.lane b)) :
    ∃ shot, s.snapshot = .ok shot ∧ shot.Shows s := by
  refine ⟨_, by rw [snapshot, live]; rfl, ?_⟩
  have ids : (s.roster.entities.filterMap (Snapshot.viewEntity? s.network)).map (·.id) =
      s.roster.ids := by
    rw [List.map_filterMap, Roster.ids, ← List.filterMap_eq_map]
    refine List.filterMap_congr fun e present => ?_
    obtain ⟨p, -, shown⟩ := (aligned.entities e present).viewed
    rw [shown]
    rfl
  exact
    { network := rfl
      tick := rfl
      time := rfl
      ids := ids
      ascending := ids ▸ s.roster.sorted_ids
      entities := by
        intro view listed
        obtain ⟨e, present, viewed⟩ := List.mem_filterMap.1 listed
        exact aligned.shows_entity live present viewed
      lanes := by
        refine List.forall₂_map_right_iff.2 (List.forall₂_same.2 fun r _ => ?_)
        exact Snapshot.tallies_viewLane aligned.wellFormed s.roster r
      everyLane := Network.mem_laneRefs
      laneOrder := ordered
      counted := by
        rw [← aligned.sum_occupancy, List.map_map]
        congr 1
        refine List.map_congr_left fun r _ => ?_
        exact (Snapshot.tallies_viewLane aligned.wellFormed s.roster r).occupancy }

section Reached
variable {d : NetworkDescription α} {settings : SessionSettings α} {cellSize : α}
  {deviates : DeviateStream α}

/-- An open session reached on an accepted network answers a snapshot, which lists every
entity once with what the queries answer for it, and every lane once with the number and the
mean speed of the entities on it. -/
theorem snapshot_of_reachable (accepted : d.Accepted)
    (reached : Reachable (fresh (.ofNetwork (.lay d) cellSize) settings deviates) s)
    (live : s.closed = false) : ∃ shot, s.snapshot = .ok shot ∧ shot.Shows s := by
  refine (aligned_of_reachable accepted reached).shows live ?_
  have net : s.network = .lay d := by rw [network, reached.frame.1]; rfl
  rw [net]
  exact Network.sorted_laneRefs accepted

end Reached

/-- A session on a ring with one car halfway round. -/
noncomputable def circling : Session Exact :=
  (fresh (.ofNetwork (.lay .ring) (.real 1)) .default (.ofDraws fun _ => .real 0)).operate
    (.insert "car" halfway)

theorem snapshot_parting :
    (∃ shot, parting.snapshot = .ok shot ∧ shot.Shows parting ∧
      shot.entities.map (·.id) = ["ahead", "behind"] ∧
      shot.lanes.map (·.occupancy) = [0, 1]) ∧
    ∃ shot, circling.snapshot = .ok shot ∧ shot.Shows circling ∧
      List.Forall₂ (fun r view => view.meanSpeed * Scalar.ofNat view.occupancy =
        ((circling.roster.onLane (circling.network.lane r)).map (·.speed)).foldl (· + ·) 0.0)
        circling.network.laneRefs shot.lanes := by
  constructor
  · obtain ⟨shot, taken, shows⟩ := snapshot_of_reachable NetworkDescription.accepted_road
      (.operate (.operate (.operate .start _) _) _) (s := parting) (by decide +kernel)
    have lanes : (parting.snapshot.toOption.map fun shot => shot.lanes.map (·.occupancy)) =
        some [0, 1] := by decide +kernel
    have ids : parting.roster.ids = ["ahead", "behind"] := by decide +kernel
    rw [taken] at lanes
    exact ⟨shot, taken, shows, shows.ids.trans ids, Option.some.inj lanes⟩
  · obtain ⟨r, known⟩ := insertLane_halfway
    have start : startPosition (.lay .ring) halfway = .ok 0 := rfl
    have live : circling.closed = false :=
      (exists_of_insert (s := fresh (.ofNetwork (.lay .ring) (.real 1)) .default
        (.ofDraws fun _ => .real 0)) rfl (by decide) rfl known (insertFault?_halfway r) start).1
    obtain ⟨shot, taken, shows⟩ :=
      snapshot_of_reachable NetworkDescription.accepted_ring (.operate .start _) live
    exact ⟨shot, taken, shows, shows.lanes.imp fun _ _ tallies =>
      tallies.total Exact.dividesExactly⟩

end Session
end Views
end Roadway
