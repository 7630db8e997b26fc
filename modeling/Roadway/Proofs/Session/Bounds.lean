import Roadway.Proofs.Session.Legality
import Roadway.Proofs.Traffic.Bounds
import Roadway.Proofs.Traffic.Distance

/-!
# Where entities are on their lanes

Over exact numbers every entity on a lane stays between its ends and within its width,
vehicles on the centre line, and no speed is negative. Insertions check this, and
placements take it from the projection of the point, whose foot lies along the lane and
whose signed distance is clamped. Steps keep it as long as speed factors are positive, as
those of deviations below a half are.

## Main definitions

* `DeviateStream.Positive` — deviates of positive speed factors.
* `Placement.Within`, `Entity.Bounded` — where an entity is, and how it moves.
* `Session.Contained`, `Session.Bounded` — sessions of such entities.
* `Session.bounded_of_reachable` — sessions reached are bounded.
-/
namespace Roadway
open Exact

namespace DeviateStream

/-- All speed factors drawn for a deviation are positive. -/
def Positive {α : Type} [Scalar α] (stream : DeviateStream α) (deviation : α) : Prop :=
  ∀ used, (0.0 : α) < (sample { stream with used := used } deviation).1

theorem Positive.of_draw {α : Type} [Scalar α] {stream other : DeviateStream α} {deviation : α}
    (positive : stream.Positive deviation) (same : other.draw = stream.draw) :
    other.Positive deviation := by
  intro used
  rw [same]
  exact positive used

variable {stream : DeviateStream Exact} {deviation : Exact}

/-- A factor is one, or within two deviations of it. -/
theorem sample_cases (numbers : ∀ n, stream.draw n ≠ notANumber) (used : ℕ) :
    (sample { stream with used := used } deviation).1 = 1.0 ∨
      ∃ v, deviation = real v ∧
        real (1 - 2 * v) ≤ (sample { stream with used := used } deviation).1 ∧
        (sample { stream with used := used } deviation).1 ≤ real (1 + 2 * v) := by
  by_cases none : deviation ≤ 0.0
  · rw [sample, if_pos none]
    exact .inl rfl
  rw [sample, if_neg none]
  split
  · next finite =>
    obtain ⟨v, rfl⟩ := exists_real finite
    rw [zero_eq, real_le, not_le] at none
    have low : (1.0 : Exact) - 2.0 * real v = real (1 - 2 * v) := by simp
    have high : (1.0 : Exact) + 2.0 * real v = real (1 + 2 * v) := by simp
    have factor : (1.0 : Exact) + real v * stream.draw used ≠ notANumber := by
      rw [one_eq]
      exact real_add_ne 1 (real_mul_ne none.ne' (numbers used))
    have interval : real (1 - 2 * v) ≤ real (1 + 2 * v) := by
      rw [real_le]
      linarith
    rw [low, high]
    exact .inr ⟨v, rfl, clamp_mem factor interval⟩
  · exact .inl rfl

/-- Factors are positive if deviations are less than a half. -/
theorem positive_of_lt_half (numbers : ∀ n, stream.draw n ≠ notANumber)
    (small : deviation < 0.5) : stream.Positive deviation := by
  intro used
  rcases @sample_cases stream deviation numbers used with one | ⟨v, rfl, low, -⟩
  · rw [one]
    simp
  · refine Exact.lt_of_lt_of_le ?_ low
    rw [ofScientific_eq, real_lt] at small
    norm_num at small
    rw [zero_eq, real_lt]
    linarith

/-- Factors are real. -/
theorem isFinite_sample (numbers : ∀ n, stream.draw n ≠ notANumber) (used : ℕ) :
    Scalar.isFinite (sample { stream with used := used } deviation).1 = true := by
  rcases @sample_cases stream deviation numbers used with one | ⟨v, -, low, high⟩
  · rw [one]
    rfl
  · exact isFinite_of_mem low high

end DeviateStream

/-- Accepted limits of motion. -/
structure MotionProfile.Sound {α : Type} [Scalar α] (p : MotionProfile α) : Prop where
  maxSpeed : (0.0 : α) < p.maxSpeed
  accel : (0.0 : α) < p.accel
  speedDev : p.speedDev < (0.5 : α)

theorem MotionProfile.sound_of_fault? {α : Type} [Scalar α] {p : MotionProfile α} {kind : Kind}
    (h : p.fault? kind = none) : p.Sound := by
  simp only [fault?, Option.orElse_eq_orElse, Option.orElse_eq_or, Option.or_eq_none_iff,
    SettingsFault.unless_eq_none, Bool.and_eq_true, decide_eq_true_eq] at h
  obtain ⟨-, maxSpeed, ⟨accel, -⟩, -, speedDev⟩ := h
  exact ⟨maxSpeed, accel, speedDev⟩

theorem SessionSettings.Accepted.sound_profile {α : Type} [Scalar α]
    {settings : SessionSettings α} (accepted : settings.Accepted) (kind : Kind) :
    (settings.motion.profile kind).Sound := by
  simp only [Accepted, fault?, Option.orElse_eq_orElse, Option.orElse_eq_or,
    Option.or_eq_none_iff] at accepted
  obtain ⟨-, -, vehicle, person, -⟩ := accepted
  cases kind with
  | vehicle => exact MotionProfile.sound_of_fault? vehicle
  | person => exact MotionProfile.sound_of_fault? person

/-- With accepted settings all speed factors are positive, unless they come from what is not
a number. -/
theorem SessionSettings.Accepted.positive {settings : SessionSettings Exact}
    (accepted : settings.Accepted) {stream : DeviateStream Exact}
    (numbers : ∀ n, stream.draw n ≠ notANumber) (kind : Kind) :
    stream.Positive (settings.motion.profile kind).speedDev :=
  DeviateStream.positive_of_lt_half numbers (accepted.sound_profile kind).speedDev

/-- A placement on a lane that exists and holds an entity of a kind there, or a free one. -/
inductive Placement.Within {α : Type} [Scalar α] (net : Network α) (kind : Kind) :
    Placement α → Prop
  | onLane {edge : String} {lane : Nat} {offset lateral : α} {r : LaneRef net}
      (known : net.laneRef? edge lane = some r) (holds : (net.lane r).Holds kind offset lateral) :
      Within net kind (.onLane edge lane offset lateral)
  | free (position : Vec2 α) (heading : α) : Within net kind (.free position heading)

/-- An entity within its lane that does not move backwards. -/
structure Entity.Bounded {α : Type} [Scalar α] (net : Network α) (e : Entity α) : Prop where
  placed : e.placement.Within net e.kind
  speed : (0.0 : α) ≤ e.speed
  speedFactor : (0.0 : α) < e.speedFactor

section Network
variable {net : Network Exact} (wf : net.WellFormed) (sound : ∀ r, (net.lane r).Sound)
include wf sound

/-- A request resolves to a place within a lane, if it resolves to one on a lane. -/
theorem Placement.Within.of_resolve {q : PlacementRequest Exact} {index : LaneIndex Exact}
    (same : index.network = net) {tolerance : Exact} {current : Placement Exact}
    {lastHeading : Exact} {placement : Placement Exact}
    (h : q.resolve index tolerance current lastHeading = .ok placement) :
    placement.Within net q.kind := by
  subst same
  rcases PlacementRequest.candidate_of_resolve h with rfl | ⟨c, rfl, measured, -⟩
  · exact .free _ _
  · obtain ⟨start, stop, number⟩ := (sound c.lane).spaced.project_mem q.point
    have projection : c.projection = (index.network.lane c.lane).shape.project q.point :=
      congrArg Candidate.projection measured
    rw [← projection] at start stop number
    refine .onLane (Network.laneRef?_lane wf c.lane) ?_
    cases kind : q.kind with
    | vehicle => exact (sound c.lane).holds_centre start stop
    | person => exact (sound c.lane).holds_clampLateral start stop number nofun

/-- An entity that walks from a place within its lane ends within a lane, or free. -/
theorem Placement.Within.of_advance {e next : Entity Exact} {r : LaneRef net}
    {offset lateral : Exact} (holds : (net.lane r).Holds e.kind offset lateral)
    {speed distance : Exact} {crossed : List String} {event : Option BoundaryEvent}
    (h : Move.ofAdvance e lateral speed (net.advance e r offset distance) =
      .stays next crossed event) : next.placement.Within net next.kind := by
  cases advanced : net.advance e r offset distance with
  | arrived =>
    rw [advanced] at h
    cases h
  | onLane last stop position junctions =>
    rw [advanced] at h
    cases h
    obtain ⟨start, stop⟩ := Network.offset_of_advance sound holds.start advanced
    refine .onLane (Network.laneRef?_lane wf last) ?_
    exact (sound last).holds_clampLateral start stop holds.lateral_ne holds.centred
  | boundary last junctions =>
    rw [advanced] at h
    cases h
    exact .free _ _

omit wf sound in
/-- An entity walks at the speed of its motion, or stops. -/
theorem Entity.speed_of_advance {e next : Entity Exact} {lateral speed : Exact}
    (forward : 0.0 ≤ speed) {a : Advance net} {crossed : List String}
    {event : Option BoundaryEvent}
    (h : Move.ofAdvance e lateral speed a = .stays next crossed event) :
    0.0 ≤ next.speed ∧ next.speedFactor = e.speedFactor := by
  cases a with
  | arrived => cases h
  | onLane last stop position junctions =>
    cases h
    exact ⟨forward, rfl⟩
  | boundary last junctions =>
    cases h
    exact ⟨by simp, rfl⟩

end Network

namespace Session

/-- An insertion that is not refused starts within its lane, and forwards. -/
theorem holds_of_insertFault? {lane : Lane Exact} {args : InsertArgs Exact} (sound : lane.Sound)
    (fits : insertFault? lane args = none) :
    lane.Holds args.kind args.offset 0.0 ∧ 0.0 ≤ args.speed := by
  unfold insertFault? at fits
  split at fits
  · cases fits
  · split at fits
    · cases fits
    · next offset =>
      split at fits
      · cases fits
      · next speed =>
        simp only [Bool.or_eq_true, Bool.not_eq_true', decide_eq_true_eq, not_or,
          Bool.not_eq_false] at offset speed
        obtain ⟨⟨finite, start⟩, stop⟩ := offset
        have offset := ne_of_isFinite finite
        have length := ne_of_nonneg sound.length_nonneg
        have zero : (0.0 : Exact) ≠ notANumber := nofun
        refine ⟨sound.holds_centre ?_ ?_, ?_⟩
        · exact (not_lt_iff offset zero).1 start
        · exact (not_lt_iff length offset).1 stop
        · exact (not_lt_iff (ne_of_isFinite speed.1) zero).1 speed.2

/-- A session of entities within their lanes. -/
structure Contained (s : Session Exact) : Prop where
  wellFormed : s.network.WellFormed
  lanes : ∀ r, (s.network.lane r).Sound
  entities : ∀ e ∈ s.roster.entities, e.placement.Within s.network e.kind

namespace Contained
variable {s : Session Exact}

theorem moveOf (contained : s.Contained) {e next : Entity Exact}
    (within : e.placement.Within s.network e.kind) {crossed : List String}
    {event : Option BoundaryEvent} (h : s.moveOf e = .ok (.stays next crossed event)) :
    next.placement.Within s.network next.kind := by
  have moved := s.moved e
  rw [h] at moved
  generalize hmove : Move.stays next crossed event = move at moved
  cases moved with
  | rests =>
    cases hmove
    exact within
  | drives on known =>
    rw [on] at within
    cases within with
    | onLane known' holds =>
      cases known.symm.trans known'
      exact .of_advance contained.wellFormed contained.lanes holds hmove.symm

/-- An entity that comes from a contained session is within its lane. -/
theorem origin (contained : s.Contained) {e : Entity Exact} (origin : s.Origin e) :
    e.placement.Within s.network e.kind := by
  cases origin with
  | kept present => exact contained.entities e present
  | moved present made => exact contained.moveOf (contained.entities _ present) made
  | placed present resolved =>
    exact .of_resolve contained.wellFormed contained.lanes rfl resolved
  | created named resolved =>
    exact .of_resolve contained.wellFormed contained.lanes rfl resolved
  | inserted named known fits start =>
    exact .onLane (insertLane_eq_ok_iff.1 known)
      (holds_of_insertFault? (contained.lanes _) fits).1

end Contained

/-- Every operation keeps the entities within their lanes. -/
theorem Operated.contained {s after : Session Exact} {op : Operation Exact}
    (operated : Operated s op after) (contained : s.Contained) : after.Contained := by
  obtain ⟨index, -⟩ := operated.frame
  refine ⟨?_, ?_, ?_⟩
  · rw [network, index]
    exact contained.wellFormed
  · rw [network, index]
    exact contained.lanes
  · intro e present
    rw [network, index]
    exact contained.origin (operated.origin present)

/-- A session of bounded entities, on a network and with settings that keep them so. -/
structure Bounded (s : Session Exact) : Prop where
  wellFormed : s.network.WellFormed
  lanes : ∀ r, (s.network.lane r).Sound
  profiles : ∀ kind, (s.settings.motion.profile kind).Sound
  factors : ∀ kind, s.deviates.Positive (s.settings.motion.profile kind).speedDev
  entities : ∀ e ∈ s.roster.entities, e.Bounded s.network

namespace Bounded
variable {s : Session Exact}

theorem contained (bounded : s.Bounded) : s.Contained :=
  ⟨bounded.wellFormed, bounded.lanes, fun e present => (bounded.entities e present).placed⟩

theorem create (bounded : s.Bounded) (id : String) (kind : Kind) :
    0.0 ≤ (s.create id kind).1.speed ∧ 0.0 < (s.create id kind).1.speedFactor :=
  ⟨le_self_iff.2 nofun, bounded.factors kind s.deviates.used⟩

theorem moveOf (bounded : s.Bounded) {e next : Entity Exact} (entity : e.Bounded s.network)
    {crossed : List String} {event : Option BoundaryEvent}
    (h : s.moveOf e = .ok (.stays next crossed event)) : next.Bounded s.network := by
  have placed := bounded.contained.moveOf entity.placed h
  have moved := s.moved e
  rw [h] at moved
  generalize hmove : Move.stays next crossed event = move at moved
  cases moved with
  | rests =>
    cases hmove
    exact entity
  | @drives _ _ _ _ _ r _ _ moving =>
    have profile := bounded.profiles e.kind
    have forward := Motion.speed_nonneg profile.maxSpeed profile.accel entity.speedFactor
      (bounded.lanes r) entity.speed moving
    obtain ⟨speed, factor⟩ := Entity.speed_of_advance forward hmove.symm
    refine ⟨placed, speed, ?_⟩
    rw [factor]
    exact entity.speedFactor

/-- An entity that comes from a bounded session is bounded. -/
theorem origin (bounded : s.Bounded) {e : Entity Exact} (origin : s.Origin e) :
    e.Bounded s.network := by
  have within := bounded.contained.origin origin
  cases origin with
  | kept present => exact bounded.entities e present
  | moved present made => exact bounded.moveOf (bounded.entities _ present) made
  | placed present resolved =>
    have entity := bounded.entities _ present
    exact ⟨within, entity.speed, entity.speedFactor⟩
  | @created id _ args _ resolved =>
    obtain ⟨speed, factor⟩ := bounded.create id args.kind
    exact ⟨within, speed, factor⟩
  | @inserted id _ args r known fits _ _ =>
    have speed := (holds_of_insertFault? (bounded.lanes r) fits).2
    exact ⟨within, speed, (bounded.create id args.kind).2⟩

end Bounded

/-- Every operation keeps a session bounded. -/
theorem Operated.bounded {s after : Session Exact} {op : Operation Exact}
    (operated : Operated s op after) (bounded : s.Bounded) : after.Bounded := by
  obtain ⟨index, settings⟩ := operated.frame
  refine ⟨?_, ?_, ?_, ?_, ?_⟩
  · rw [network, index]
    exact bounded.wellFormed
  · rw [network, index]
    exact bounded.lanes
  · rw [settings]
    exact bounded.profiles
  · intro kind
    rw [settings]
    exact (bounded.factors kind).of_draw operated.draw
  · intro e present
    rw [network, index]
    exact bounded.origin (operated.origin present)

section Reached
variable {d : NetworkDescription Exact} {settings : SessionSettings Exact} {cellSize : Exact}
  {deviates : DeviateStream Exact} {s : Session Exact}

/-- On an accepted network entities stay within their lanes, whatever the settings. -/
theorem contained_of_reachable (accepted : d.Accepted)
    (reached : Reachable (fresh (.ofNetwork (.lay d) cellSize) settings deviates) s) :
    s.Contained := by
  refine reached.invariant (fun _ _ _ operated contained => operated.contained contained) ?_
  refine ⟨Network.wellFormed_lay accepted, Network.sound_lane accepted, ?_⟩
  intro e present
  cases present

/-- In a session reached with accepted settings on an accepted network, and with positive
speed factors, entities on lanes are between the ends of a lane that exists and within
its width, vehicles on its centre line, and no speed is negative. -/
theorem bounded_of_reachable (accepted : d.Accepted) (configured : settings.Accepted)
    (factors : ∀ kind, deviates.Positive (settings.motion.profile kind).speedDev)
    (reached : Reachable (fresh (.ofNetwork (.lay d) cellSize) settings deviates) s)
    {id : String} {e : Entity Exact} (known : s.roster.find? id = some e) :
    0.0 ≤ e.speed ∧ e.placement.Within (.lay d) e.kind := by
  have bounded : s.Bounded := by
    refine reached.invariant (fun _ _ _ operated bounded => operated.bounded bounded) ?_
    refine ⟨Network.wellFormed_lay accepted, Network.sound_lane accepted,
      configured.sound_profile, factors, ?_⟩
    intro e present
    cases present
  have entity := bounded.entities e (Roster.mem_entities_of_find? known)
  rw [network, reached.frame.1] at entity
  exact ⟨entity.speed, entity.placed⟩

end Reached

/-- A car halfway round. -/
noncomputable def halfway : InsertArgs Exact := ⟨.vehicle, "ring", 0, 5.0, 3.0, [], none⟩

theorem insertLane_halfway : ∃ r, insertLane (.lay .ring) halfway = .ok r := by
  obtain ⟨r⟩ := Network.nonempty_ring
  have known := Network.laneRef?_lane
    (Network.wellFormed_lay NetworkDescription.accepted_ring) r
  rw [Network.lane_eq_ring] at known
  exact ⟨r, insertLane_eq_ok_iff.2 known⟩

theorem insertFault?_halfway (r : LaneRef (.lay .ring)) :
    insertFault? ((Network.lay .ring).lane r) halfway = none := by
  obtain ⟨length, allows⟩ := Network.lane_ring r
  norm_num [insertFault?, halfway, length, allows, ofScientific_eq]

theorem accepted_default : (SessionSettings.default : SessionSettings Exact).Accepted := by
  simp only [SessionSettings.Accepted, SessionSettings.fault?, SessionSettings.default,
    MappingSettings.fault?, MotionProfile.fault?, MappingSettings.default,
    MotionSettings.default, Option.orElse_eq_orElse, Option.orElse_eq_or, Option.or_eq_none_iff,
    SettingsFault.unless_eq_none, ofScientific_eq, real_lt, real_le, Bool.and_eq_true,
    decide_eq_true_eq]
  norm_num

theorem bounded_halfway :
    let s := (fresh (.ofNetwork (.lay .ring) (real 50)) .default
      (.ofDraws fun _ => real 0)).operate (.insert "car" halfway)
    ∃ e, s.roster.find? "car" = some e ∧ e.placement = .onLane "ring" 0 5.0 0.0 ∧
      0.0 ≤ e.speed ∧ e.placement.Within (.lay .ring) e.kind := by
  intro s
  have present : ∃ e, s.roster.find? "car" = some e ∧
      e.placement = .onLane "ring" 0 5.0 0.0 := by
    obtain ⟨r, known⟩ := insertLane_halfway
    have ways := inserted (fresh (.ofNetwork (.lay .ring) (real 50)) .default
      (.ofDraws fun _ => real 0)) "car" halfway
    change ∃ e, (insert _ "car" halfway).2.roster.find? "car" = some e ∧ _
    generalize insert _ "car" halfway = outcome at ways ⊢
    cases ways with
    | closed shut => cases shut
    | emptyId _ empty => simp at empty
    | duplicate _ _ known => cases known
    | noLane _ _ _ missing => cases known.symm.trans missing
    | unfit _ _ _ _ outOfRange => cases (insertFault?_halfway _).symm.trans outOfRange
    | noRoute _ _ _ _ _ broken => cases broken
    | inserted => exact ⟨_, rfl, rfl⟩
  obtain ⟨e, found, placed⟩ := present
  obtain ⟨speed, within⟩ := bounded_of_reachable NetworkDescription.accepted_ring
    accepted_default (accepted_default.positive fun _ => ne_of_isFinite rfl)
    (.operate .start _) found
  exact ⟨e, found, placed, speed, within⟩

end Session
end Roadway
