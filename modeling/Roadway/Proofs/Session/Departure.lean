import Roadway.Proofs.Entity.Roster
import Roadway.Proofs.Network.Layout
import Roadway.Proofs.Session.Operation
import Roadway.Proofs.Traffic.Collision

/-!
# Who leaves in a step

A step that succeeds accounts for every entity: it is still there, or it is reported
once as arrived, removed or exited. Entities leave in this order, so one that arrives
takes part in no collision, and one that is removed does not exit.

## Main definitions

* `Session.perm_evict`, `Session.mem_evict` — what an eviction takes out.
* `Session.Accounted` — what a report says of those who leave.
* `Session.accounted_step` — every step that succeeds is accounted for.
-/
namespace Roadway
namespace Session
variable {α : Type}

section Evict

/-- The ids evicted and those left are the ids before. -/
theorem perm_evict (names : List String) (r : Roster α) :
    r.ids.Perm ((evict names r).1 ++ (evict names r).2.ids) := by
  induction names generalizing r with
  | nil => exact .refl _
  | cons id rest ih =>
    rw [evict]
    split
    · next found =>
      obtain ⟨e, found⟩ := Option.isSome_iff_exists.1 found
      exact (Roster.perm_ids_erase found).trans ((ih (r.erase id)).cons id)
    · exact ih r

theorem find?_evict (names : List String) (r : Roster α) (id : String) :
    (evict names r).2.find? id = if id ∈ names then none else r.find? id := by
  induction names generalizing r with
  | nil => simp [evict]
  | cons name rest ih =>
    rw [evict]
    split
    · rw [ih, Roster.find?_erase]
      by_cases hname : id = name <;> simp [hname]
    · next unseen =>
      have unseen : r.find? name = none := by simpa using unseen
      rw [ih]
      by_cases hname : id = name <;> simp [hname, unseen]

/-- Those named are evicted, and nobody else. -/
theorem mem_evict {names : List String} {r : Roster α} {id : String} :
    id ∈ (evict names r).1 ↔ id ∈ names ∧ id ∈ r.ids := by
  have hperm := perm_evict names r
  have hnodup := hperm.nodup_iff.1 r.nodup_ids
  have hleft : id ∈ (evict names r).2.ids ↔ id ∉ names ∧ id ∈ r.ids := by
    rw [Roster.mem_ids, Roster.mem_ids, find?_evict]
    by_cases hname : id ∈ names <;> simp [hname]
  have hids : id ∈ r.ids ↔ id ∈ (evict names r).1 ∨ id ∈ (evict names r).2.ids := by
    rw [hperm.mem_iff, List.mem_append]
  constructor
  · intro h
    have hmem := hids.2 (.inl h)
    have hout : id ∉ (evict names r).2.ids := fun hin =>
      (List.nodup_append.1 hnodup).2.2 id h id hin rfl
    rw [hleft] at hout
    exact ⟨Decidable.byContradiction fun hname => hout ⟨hname, hmem⟩, hmem⟩
  · intro h
    obtain ⟨hname, hmem⟩ := h
    rcases hids.1 hmem with h | h
    · exact h
    · exact absurd hname (hleft.1 h).1

end Evict

variable [Scalar α]

theorem expired_iff {time : α} {e : Entity α} :
    expired time e = true ↔ ∃ t, e.exitTime = some t ∧ t ≤ time := by
  rw [expired, Option.any_eq_true]
  simp

/-- What a report says of those who leave in a step. -/
structure Accounted (s : Session α) (report : StepReport α) (after : Session α) : Prop where
  /-- Everybody is still there or has left in one way. -/
  conserved : s.roster.ids.Perm
    (after.roster.ids ++ report.arrived ++ report.removed ++ report.exited)
  distinct : (after.roster.ids ++ report.arrived ++ report.removed ++ report.exited).Nodup
  removed : ∀ id, id ∈ report.removed ↔
    s.settings.policy = .remove ∧ ∃ c ∈ report.collisions, id = c.entityA ∨ id = c.entityB
  exited : ∀ id, id ∈ report.exited ↔
    id ∉ report.arrived ∧ id ∉ report.removed ∧
      ∃ e t, s.roster.find? id = some e ∧ e.exitTime = some t ∧ t ≤ after.time
  remaining : ∀ e ∈ after.roster.entities, ∀ t, e.exitTime = some t → ¬ t ≤ after.time

section Commit
variable {s : Session α} {moves : List (Move α)} {collisions : List Collision}

/-- The ids that the policy evicts. -/
def culprits (s : Session α) (collisions : List Collision) : List String :=
  if s.settings.policy = .remove then collisions.flatMap fun c => [c.entityA, c.entityB] else []

/-- The roster after the moves, and what is evicted and left of it. -/
def evicted (s : Session α) (moves : List (Move α)) (collisions : List Collision) :
    List String × Roster α :=
  evict (s.culprits collisions) (Roster.ofList (Move.survivors moves))

omit [Scalar α] in
theorem mem_culprits {id : String} : id ∈ s.culprits collisions ↔
    s.settings.policy = .remove ∧ ∃ c ∈ collisions, id = c.entityA ∨ id = c.entityB := by
  rw [culprits]
  split
  · next remove => simp [remove]
  · next other => simp [other]

/-- A commit evicts the culprits among those that stay, and then those whose time has
come. -/
theorem commit_eq (s : Session α) (moves : List (Move α)) (collisions : List Collision) :
    (s.commit moves collisions).1.removed = (s.evicted moves collisions).1 ∧
      (s.commit moves collisions).1.exited =
        ((s.evicted moves collisions).2.filter fun e => expired s.clock.advance.time e).ids ∧
      (s.commit moves collisions).2.roster =
        (s.evicted moves collisions).2.filter fun e => !expired s.clock.advance.time e := by
  rw [commit, evicted, culprits, Move.survivors]
  by_cases remove : s.settings.policy = .remove
  · simp only [if_pos remove, and_self]
  · simp only [if_neg remove, evict, and_self]

omit [Scalar α] in
/-- Those that stay are the roster they make. -/
theorem entities_survivors (all : List.Forall₂ Move.Of s.roster.entities moves) :
    (Roster.ofList (Move.survivors moves)).entities = Move.survivors moves := by
  apply Roster.entities_ofList
  exact List.pairwise_map.1 (s.roster.sorted_ids.sublist (Move.ids_sublist all))

omit [Scalar α] in
/-- Ids tell those that stay apart. -/
theorem eq_of_survivors (all : List.Forall₂ Move.Of s.roster.entities moves) {e e' : Entity α}
    (he : e ∈ Move.survivors moves) (he' : e' ∈ Move.survivors moves) (same : e.id = e'.id) :
    e = e' := by
  rw [← entities_survivors all] at he he'
  have found := Roster.mem_entities_iff.1 he
  rw [same, Roster.mem_entities_iff.1 he'] at found
  exact (Option.some.inj found).symm

omit [Scalar α] in
/-- Those that stay had the same exit time before. -/
theorem find?_of_survivor (all : List.Forall₂ Move.Of s.roster.entities moves) {next : Entity α}
    (h : next ∈ Move.survivors moves) :
    ∃ e, s.roster.find? next.id = some e ∧ e.exitTime = next.exitTime := by
  obtain ⟨e, he, crossed, event, made⟩ := Move.exists_of_survivor all h
  cases made with
  | stays id _ _ exitTime => exact ⟨e, id ▸ Roster.mem_entities_iff.1 he, exitTime.symm⟩

omit [Scalar α] in
theorem survivor_of_evicted (all : List.Forall₂ Move.Of s.roster.entities moves)
    {e : Entity α} (h : e ∈ (s.evicted moves collisions).2.entities) :
    e ∈ Move.survivors moves := by
  have found := Roster.mem_entities_iff.1 h
  rw [evicted, find?_evict] at found
  split at found
  · cases found
  · rw [← entities_survivors all]
    exact Roster.mem_entities_iff.2 found

/-- A commit brings nobody in. -/
theorem survivor_of_commit (all : List.Forall₂ Move.Of s.roster.entities moves)
    {e : Entity α} (h : e ∈ (s.commit moves collisions).2.roster.entities) :
    e ∈ Move.survivors moves := by
  rw [(s.commit_eq moves collisions).2.2] at h
  exact survivor_of_evicted all (List.mem_filter.1 h).1

/-- Whoever stays is still there, if it is not evicted and its time has not come. -/
theorem find?_commit (all : List.Forall₂ Move.Of s.roster.entities moves) {e : Entity α}
    (survives : e ∈ Move.survivors moves) (innocent : e.id ∉ s.culprits collisions)
    (stays : expired s.clock.advance.time e = false) :
    (s.commit moves collisions).2.roster.find? e.id = some e := by
  rw [← entities_survivors all] at survives
  rw [(s.commit_eq moves collisions).2.2, Roster.find?_filter, evicted, find?_evict,
    if_neg innocent, Roster.mem_entities_iff.1 survives]
  simp [stays]

/-- Collisions are between entities that stay. -/
theorem mem_collisionsOf {c : Collision} (h : c ∈ s.collisionsOf moves) :
    c.entityA ∈ (Move.survivors moves).map (·.id) ∧
      c.entityB ∈ (Move.survivors moves).map (·.id) := by
  have named : ∀ o ∈ moves.filterMap (·.occupant? s.network),
      o.id ∈ (Move.survivors moves).map (·.id) := by
    intro o ho
    obtain ⟨move, hmove, hsome⟩ := List.mem_filterMap.1 ho
    cases move with
    | arrives => cases hsome
    | stays e crossed event =>
      obtain ⟨p, -, rfl⟩ := Option.map_eq_some_iff.1 hsome
      exact List.mem_map.2 ⟨e, List.mem_filterMap.2 ⟨_, hmove, rfl⟩, rfl⟩
  unfold collisionsOf at h
  split at h
  · cases h
  · obtain ⟨a, ha, b, hb, hA, hB⟩ := Occupant.mem_collisions h
    rw [hA, hB]
    exact ⟨named a ha, named b hb⟩

/-- After a commit everybody is still there or has left in one way. -/
theorem perm_commit (all : List.Forall₂ Move.Of s.roster.entities moves)
    (collisions : List Collision) :
    s.roster.ids.Perm ((s.commit moves collisions).2.roster.ids ++
      (s.commit moves collisions).1.arrived ++ (s.commit moves collisions).1.removed ++
      (s.commit moves collisions).1.exited) := by
  obtain ⟨removed, exited, roster⟩ := s.commit_eq moves collisions
  have arrived : (s.commit moves collisions).1.arrived = moves.filterMap (·.arrival?) := rfl
  have moved : s.roster.ids.Perm
      ((Roster.ofList (Move.survivors moves)).ids ++ moves.filterMap (·.arrival?)) := by
    rw [Roster.ids, Roster.ids, entities_survivors all]
    exact Move.ids_perm all
  have evicted : (Roster.ofList (Move.survivors moves)).ids.Perm
      ((s.evicted moves collisions).1 ++ (s.evicted moves collisions).2.ids) :=
    perm_evict (s.culprits collisions) _
  have left := (s.evicted moves collisions).2.perm_ids_filter
    fun e => !expired s.clock.advance.time e
  simp only [Bool.not_not, List.perm_iff_count, List.count_append] at moved evicted left
  rw [removed, exited, roster, arrived, List.perm_iff_count]
  -- Three splits in a row: each keeps the number of times that an id occurs.
  intro id
  simp only [List.count_append]
  have hmoved := moved id
  have hevicted := evicted id
  have hleft := left id
  omega

/-- Whoever the collisions name is evicted if the policy says so. -/
theorem mem_removed_commit (all : List.Forall₂ Move.Of s.roster.entities moves)
    (named : ∀ c ∈ collisions, c.entityA ∈ (Move.survivors moves).map (·.id) ∧
      c.entityB ∈ (Move.survivors moves).map (·.id)) {id : String} :
    id ∈ (s.commit moves collisions).1.removed ↔
      s.settings.policy = .remove ∧ ∃ c ∈ collisions, id = c.entityA ∨ id = c.entityB := by
  rw [(s.commit_eq moves collisions).1, evicted, mem_evict, mem_culprits, Roster.ids,
    entities_survivors all]
  constructor
  · exact And.left
  · intro h
    obtain ⟨remove, c, hc, hid⟩ := h
    refine ⟨⟨remove, c, hc, hid⟩, ?_⟩
    rcases hid with rfl | rfl
    · exact (named c hc).1
    · exact (named c hc).2

/-- Nobody stays past the exit time. -/
theorem not_expired_of_commit {e : Entity α}
    (h : e ∈ (s.commit moves collisions).2.roster.entities) :
    expired s.clock.advance.time e = false := by
  rw [(s.commit_eq moves collisions).2.2] at h
  simpa using (List.mem_filter.1 h).2

/-- Those exit whose time has come and who have not left in another way. -/
theorem mem_exited_commit (all : List.Forall₂ Move.Of s.roster.entities moves) {id : String} :
    id ∈ (s.commit moves collisions).1.exited ↔
      id ∉ (s.commit moves collisions).1.arrived ∧
        id ∉ (s.commit moves collisions).1.removed ∧
          ∃ e t, s.roster.find? id = some e ∧ e.exitTime = some t ∧
            t ≤ s.clock.advance.time := by
  have conserved := perm_commit all collisions
  have apart := (List.nodup_append.1 (conserved.nodup_iff.1 s.roster.nodup_ids)).2.2
  constructor
  · intro h
    refine ⟨fun harrived => ?_, fun hremoved => ?_, ?_⟩
    · exact apart id (by simp [harrived]) id h rfl
    · exact apart id (by simp [hremoved]) id h rfl
    · rw [(s.commit_eq moves collisions).2.1] at h
      obtain ⟨e, he, rfl⟩ := List.mem_map.1 h
      obtain ⟨hleft, hdue⟩ := List.mem_filter.1 he
      obtain ⟨x, hfind, htime⟩ := find?_of_survivor all (survivor_of_evicted all hleft)
      obtain ⟨t, ht, hle⟩ := expired_iff.1 hdue
      exact ⟨x, t, hfind, htime.trans ht, hle⟩
  · intro h
    obtain ⟨harrived, hremoved, e, t, hfind, ht, hle⟩ := h
    have before : id ∈ s.roster.ids := Roster.mem_ids.2 ⟨e, hfind⟩
    simp only [conserved.mem_iff, List.mem_append, harrived, hremoved, or_false] at before
    rcases before with hstill | hexited
    · obtain ⟨x, hx, rfl⟩ := List.mem_map.1 hstill
      obtain ⟨y, hy, htime⟩ := find?_of_survivor all (survivor_of_commit all hx)
      obtain rfl : e = y := Option.some.inj (hfind.symm.trans hy)
      have hdue := expired_iff.2 ⟨t, htime.symm.trans ht, hle⟩
      rw [not_expired_of_commit hx] at hdue
      cases hdue
    · exact hexited

/-- A commit accounts for everybody if the collisions are between entities that stay. -/
theorem accounted_commit (all : List.Forall₂ Move.Of s.roster.entities moves)
    (named : ∀ c ∈ collisions, c.entityA ∈ (Move.survivors moves).map (·.id) ∧
      c.entityB ∈ (Move.survivors moves).map (·.id)) :
    Accounted s (s.commit moves collisions).1 (s.commit moves collisions).2 := by
  have conserved := perm_commit all collisions
  refine ⟨conserved, conserved.nodup_iff.1 s.roster.nodup_ids,
    fun id => mem_removed_commit all named, fun id => mem_exited_commit all, ?_⟩
  intro e he t ht hle
  have hdue : expired s.clock.advance.time e = true := expired_iff.2 ⟨t, ht, hle⟩
  rw [not_expired_of_commit he] at hdue
  cases hdue

end Commit

/-- Every step that succeeds accounts for everybody. -/
theorem accounted_step {s : Session α} {report : StepReport α} (h : s.step.1 = .ok report) :
    Accounted s report s.step.2 := by
  have stepped := s.stepped
  generalize s.step = outcome at stepped h
  cases stepped with
  | closed | failed | undone => cases h
  | @committed _ moves moved =>
    cases h
    have all : List.Forall₂ Move.Of s.roster.entities moves := of_moves moved
    have accounted := accounted_commit (s := { s with timer := s.timer.start }) all
      fun c (hc : c ∈ s.collisionsOf moves) => mem_collisionsOf hc
    exact ⟨accounted.conserved, accounted.distinct, accounted.removed, accounted.exited,
      accounted.remaining⟩

/-- A session in which two cars meet at a junction and the time of a third has come. -/
def crowded : Session Float :=
  (((fresh (.ofNetwork (.lay .road) 50.0) { SessionSettings.default with policy := .remove }
    (.ofDraws fun _ => 0.0)).operate
      (.insert "a" ⟨.vehicle, "AB", 0, 1.0, 0.0, [], none⟩)).operate
      (.insert "b" ⟨.vehicle, "AB", 1, 1.0, 0.0, [], none⟩)).operate
      (.insert "c" ⟨.vehicle, "AB", 1, 50.0, 0.0, [], some 0.5⟩)

theorem accounted_crowded :
    ∃ report, crowded.step.1 = .ok report ∧ Accounted crowded report crowded.step.2 := by
  have ok : crowded.step.1.isOk = true := by decide +kernel
  cases h : crowded.step.1 with
  | error fault =>
    rw [h] at ok
    cases ok
  | ok report => exact ⟨report, rfl, accounted_step h⟩

end Session
end Roadway
