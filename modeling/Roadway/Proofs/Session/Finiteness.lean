import Roadway.Proofs.Geometry.Along
import Roadway.Proofs.Session.Bounds
import Roadway.Proofs.Session.Course
import Roadway.Proofs.Session.Heading

/-!
# Finite answers

Accepted descriptions and settings may hold infinities: widths, speed limits, accelerations,
radii and the lengths of entities have to be positive, not finite. Over exact numbers only two
of them reach an answer. A lane of infinite width, or beside one, lies nowhere in the plane.
A speed grows beyond all bounds in one step if nothing holds it back: neither the limit of the
lane nor the greatest speed and the acceleration of the kind. Otherwise entities on lanes stay
at real places of their lane and free ones at real points, and so every answer is finite.

## Main definitions

* `Answer.Finite` — answers of which all numbers are finite.
* `NetworkDescription.Restrained` — what has to be finite of a description and of settings.
* `Motion.isFinite_speed` — a speed that is held back stays finite.
* `Session.Finite` — sessions of entities with finite numbers.
* `Session.finite_run` — such sessions give finite answers.
-/
namespace Roadway
open Exact

section Numbers
variable {α : Type} [Scalar α]

/-- All numbers of a placement are finite. -/
def Placement.Finite : Placement α → Prop
  | onLane _ _ offset lateral => Scalar.isFinite offset = true ∧ Scalar.isFinite lateral = true
  | free position heading => position.isFinite = true ∧ Scalar.isFinite heading = true
  | undetermined => True

structure EntityView.Finite (e : EntityView α) : Prop where
  placement : e.placement.Finite
  position : e.position.isFinite = true
  heading : Scalar.isFinite e.heading = true
  speed : Scalar.isFinite e.speed = true

structure Snapshot.Finite (s : Snapshot α) : Prop where
  time : Scalar.isFinite s.time = true
  entities : ∀ e ∈ s.entities, e.Finite
  meanSpeeds : ∀ l ∈ s.lanes, Scalar.isFinite l.meanSpeed = true

/-- All numbers in an answer are finite. -/
def Answer.Finite : Answer α → Prop
  | step report => Scalar.isFinite report.time = true
  | time _ elapsed => Scalar.isFinite elapsed = true
  | placement p => p.Finite
  | position p => p.isFinite = true
  | ok => True
  | snapshot s => s.Finite

instance (p : Placement α) : Decidable p.Finite :=
  match p with
  | .onLane .. | .free .. => inferInstanceAs (Decidable (_ ∧ _))
  | .undetermined => .isTrue trivial

instance (e : EntityView α) : Decidable e.Finite :=
  decidable_of_iff (e.placement.Finite ∧ e.position.isFinite = true ∧
      Scalar.isFinite e.heading = true ∧ Scalar.isFinite e.speed = true)
    ⟨fun ⟨placement, position, heading, speed⟩ => ⟨placement, position, heading, speed⟩,
      fun ⟨placement, position, heading, speed⟩ => ⟨placement, position, heading, speed⟩⟩

instance (s : Snapshot α) : Decidable s.Finite :=
  decidable_of_iff (Scalar.isFinite s.time = true ∧ (∀ e ∈ s.entities, e.Finite) ∧
      ∀ l ∈ s.lanes, Scalar.isFinite l.meanSpeed = true)
    ⟨fun ⟨time, entities, lanes⟩ => ⟨time, entities, lanes⟩,
      fun ⟨time, entities, lanes⟩ => ⟨time, entities, lanes⟩⟩

instance (a : Answer α) : Decidable a.Finite :=
  match a with
  | .step _ | .time .. | .position _ => inferInstanceAs (Decidable (_ = true))
  | .placement p => inferInstanceAs (Decidable p.Finite)
  | .ok => .isTrue trivial
  | .snapshot s => inferInstanceAs (Decidable s.Finite)

/-- All numbers by which an entity is known are finite. -/
structure Entity.Finite (e : Entity α) : Prop where
  placement : e.placement.Finite
  heading : Scalar.isFinite e.heading = true
  speed : Scalar.isFinite e.speed = true
  speedFactor : Scalar.isFinite e.speedFactor = true

/-- On a lane with a limit the speed, or what it gains in a time, is bounded. -/
def MotionProfile.Governs (p : MotionProfile α) (limit : α) : Prop :=
  Scalar.isFinite p.accel = true ∨ Scalar.isFinite p.maxSpeed = true ∨
    Scalar.isFinite limit = true

/-- Lanes of finite widths, on which every kind is held back. -/
structure NetworkDescription.Restrained (d : NetworkDescription α) (motion : MotionSettings α) :
    Prop where
  width : ∀ e ∈ d.edges, ∀ lane ∈ e.lanes, Scalar.isFinite lane.width = true
  governed : ∀ e ∈ d.edges, ∀ lane ∈ e.lanes, ∀ kind,
    (motion.profile kind).Governs (lane.speedLimit.getD e.speedLimit)

/-- A free placement is made of the point and the heading that are asked for, or of the last
known heading. -/
theorem PlacementRequest.finite_of_resolve {q : PlacementRequest α} {index : LaneIndex α}
    {tolerance lastHeading : α} {current : Placement α} {position : Vec2 α} {heading : α}
    (h : q.resolve index tolerance current lastHeading = .ok (.free position heading))
    (last : Scalar.isFinite lastHeading = true) :
    position.isFinite = true ∧ Scalar.isFinite heading = true := by
  rcases candidate_of_resolve h with free | ⟨c, onLane, -⟩
  · obtain ⟨rfl, rfl⟩ := Placement.free.inj free
    refine ⟨isFinite_of_resolve h, ?_⟩
    cases given : q.heading with
    | none => exact last
    | some heading => exact isFinite_heading_of_resolve h given
  · cases onLane

end Numbers

namespace Exact

theorem isFinite_smaller {x y : Exact} (hx : 0.0 < x) (hy : 0.0 < y)
    (either : Scalar.isFinite x = true ∨ Scalar.isFinite y = true) :
    Scalar.isFinite (Scalar.smaller x y) = true := by
  rcases pos_cases hx with ⟨a, -, rfl⟩ | rfl
  · rcases pos_cases hy with ⟨b, -, rfl⟩ | rfl
    · rw [smaller_real]
      rfl
    · rw [Scalar.smaller, if_pos (real_lt_infinite_iff.2 rfl)]
      rfl
  · obtain ⟨b, rfl⟩ := exists_real (either.resolve_left Bool.false_ne_true)
    have number : ¬ Scalar.isNaN (real b) = true := by simp [isNaN_real]
    have above : ¬ infinite false < real b := by simp [infinite_lt_real_iff]
    rw [Scalar.smaller, if_neg above, if_neg number]
    rfl

theorem isFinite_foldl_add {xs : List Exact} (finite : ∀ x ∈ xs, Scalar.isFinite x = true)
    {total : Exact} (start : Scalar.isFinite total = true) :
    Scalar.isFinite (xs.foldl (· + ·) total) = true := by
  induction xs generalizing total with
  | nil => exact start
  | cons x xs ih =>
    refine ih (fun y hy => finite y (List.mem_cons_of_mem x hy)) ?_
    rw [isFinite_add, start, finite x List.mem_cons_self]
    rfl

/-- What is lost of a real number does not matter beside another one. -/
theorem isFinite_larger_sub {x : Exact} (hx : 0.0 < x) (a b : ℝ) :
    Scalar.isFinite (Scalar.larger (real a - x) (real b)) = true := by
  rcases pos_cases hx with ⟨c, -, rfl⟩ | rfl
  · rw [real_sub, larger_real]
    rfl
  · have number : ¬ Scalar.isNaN (real b) = true := by simp [isNaN_real]
    have lost : real a - infinite false = infinite true := rfl
    have below : ¬ real b < infinite true := by simp [real_lt_infinite_iff]
    rw [lost, Scalar.larger, if_neg below, if_neg number]
    rfl

end Exact

namespace Motion
variable {profile : MotionProfile Exact} {speed target dt : Exact}

/-- A speed stays finite if what it is brought towards is finite, or what it gains. -/
theorem isFinite_approach (accel : 0.0 < profile.accel) (decel : 0.0 < profile.decel)
    (hdt : 0.0 < dt) (time : Scalar.isFinite dt = true) (hspeed : 0.0 ≤ speed)
    (finite : Scalar.isFinite speed = true) (htarget : 0.0 < target)
    (governed : Scalar.isFinite profile.accel = true ∨ Scalar.isFinite target = true) :
    Scalar.isFinite (approach profile speed target dt) = true := by
  obtain ⟨v, rfl⟩ := exists_real finite
  rw [approach]
  split
  · have gain := Exact.mul_pos accel hdt
    have faster : 0.0 < real v + profile.accel * dt := by
      rcases pos_cases gain with ⟨g, hg, hgain⟩ | hgain
      · rw [zero_eq, real_le] at hspeed
        rw [hgain, real_add, zero_eq, real_lt]
        linarith
      · rw [hgain, zero_eq]
        rfl
    refine isFinite_smaller faster htarget (governed.imp_left fun bounded => ?_)
    rw [isFinite_add, isFinite_mul, bounded, time]
    rfl
  · next slower =>
    obtain ⟨b, -, rfl⟩ := (pos_cases htarget).resolve_right fun unbounded =>
      slower (unbounded ▸ real_lt_infinite_iff.2 rfl)
    exact isFinite_larger_sub (Exact.mul_pos decel hdt) v b

/-- No backend makes a speed infinite that is held back. -/
theorem isFinite_speed {backend : Backend} {settings : MotionSettings Exact} {e : Entity Exact}
    {lane : Lane Exact} (sound : (settings.profile e.kind).Sound)
    (decel : 0.0 < (settings.profile e.kind).decel)
    (governed : (settings.profile e.kind).Governs lane.speedLimit) (limited : lane.Sound)
    (time : Scalar.isFinite dt = true) (hspeed : 0.0 ≤ e.speed) (hfactor : 0.0 < e.speedFactor)
    (finite : e.Finite) {motion : Motion Exact}
    (moving : advance? backend settings e lane dt = some motion) :
    Scalar.isFinite motion.speed = true := by
  cases backend with
  | stationary =>
    cases moving
    rfl
  | kinematic =>
    rw [advance?] at moving
    split at moving
    · next hdt =>
      cases moving
      refine isFinite_approach sound.accel decel hdt time hspeed finite.speed
        (targetSpeed_pos sound.maxSpeed hfactor limited) (governed.imp_right fun either => ?_)
      rw [targetSpeed, isFinite_mul, finite.speedFactor,
        isFinite_smaller limited.speedLimit sound.maxSpeed either.symm]
      rfl
    · cases moving

end Motion

theorem SessionSettings.Accepted.decel_pos {α : Type} [Scalar α] {settings : SessionSettings α}
    (accepted : settings.Accepted) (kind : Kind) :
    (0.0 : α) < (settings.motion.profile kind).decel := by
  simp only [Accepted, fault?, MotionProfile.fault?, Option.orElse_eq_orElse,
    Option.orElse_eq_or, Option.or_eq_none_iff, SettingsFault.unless_eq_none, Bool.and_eq_true,
    decide_eq_true_eq] at accepted
  obtain ⟨-, -, vehicle, person, -⟩ := accepted
  cases kind with
  | vehicle => exact vehicle.2.2.1.2
  | person => exact person.2.2.1.2

theorem SessionSettings.Accepted.isFinite_stepLength {α : Type} [Scalar α]
    {settings : SessionSettings α} (accepted : settings.Accepted) :
    Scalar.isFinite settings.stepLength = true := by
  simp only [Accepted, fault?, Option.orElse_eq_orElse, Option.orElse_eq_or,
    Option.or_eq_none_iff, SettingsFault.unless_eq_none, Bool.and_eq_true] at accepted
  exact accepted.1.2

namespace Session

/-- Insertions with an infinite speed are refused. -/
theorem isFinite_of_insertFault? {α : Type} [Scalar α] {lane : Lane α} {args : InsertArgs α}
    (fits : insertFault? lane args = none) : Scalar.isFinite args.speed = true := by
  unfold insertFault? at fits
  split at fits
  · cases fits
  · split at fits
    · cases fits
    · split at fits
      · cases fits
      · next speed =>
        simp only [Bool.or_eq_true, Bool.not_eq_true', not_or, Bool.not_eq_false] at speed
        exact speed.1

theorem ok_of_map {α β γ : Type} {f : β → γ} {answer : Except (ControlFault α) β} {b : γ}
    (h : answer.map f = .ok b) : ∃ a, answer = .ok a ∧ f a = b := by
  cases answer with
  | error _ => cases h
  | ok a => exact ⟨a, rfl, Except.ok.inj h⟩

/-- A position that is answered is the point of the placement. -/
theorem exists_of_position {α : Type} [Scalar α] {s : Session α} {id : String} {p : Vec2 α}
    (ok : s.position id = .ok p) :
    ∃ e, s.roster.find? id = some e ∧ e.placement.position? s.network = some p := by
  rw [Session.position, entity] at ok
  split at ok
  · cases ok
  · next e found =>
    split at found
    · cases found
    · split at found
      · next known =>
        cases found
        split at ok
        · next located =>
          cases ok
          exact ⟨e, known, located⟩
        · cases ok
      · cases found

/-- A session of finite entities, on a network and with settings that keep them so. -/
structure Finite (s : Session Exact) : Prop where
  bounded : s.Bounded
  aligned : s.Aligned
  lanes : ∀ r, (s.network.lane r).Planar
  stepLength : Scalar.isFinite s.clock.stepLength = true
  decel : ∀ kind, 0.0 < (s.settings.motion.profile kind).decel
  governed : ∀ kind r, (s.settings.motion.profile kind).Governs (s.network.lane r).speedLimit
  draws : ∀ n, s.deviates.draw n ≠ notANumber
  entities : ∀ e ∈ s.roster.entities, e.Finite

namespace Finite
variable {s : Session Exact} (finite : s.Finite)
include finite

/-- An entity on a lane takes its numbers from there, so only free ones bring their own. -/
theorem entity {e : Entity Exact} (bounded : e.Bounded s.network)
    (aligned : e.Aligned s.network)
    (free : ∀ position heading, e.placement = .free position heading →
      position.isFinite = true ∧ Scalar.isFinite heading = true)
    (speed : Scalar.isFinite e.speed = true)
    (speedFactor : Scalar.isFinite e.speedFactor = true) : e.Finite := by
  have placed := bounded.placed
  rw [Entity.Aligned] at aligned
  cases placement : e.placement with
  | undetermined =>
    rw [placement] at placed
    cases placed
  | free position heading =>
    rw [placement] at aligned
    have numbers := free position heading placement
    refine ⟨?_, ?_, speed, speedFactor⟩
    · rw [placement]
      exact numbers
    · rw [← Option.some.inj aligned]
      exact numbers.2
  | onLane edge lane offset lateral =>
    rw [placement] at placed aligned
    cases placed with
    | @onLane _ _ _ _ r known holds =>
      have numbers := (finite.lanes r).isFinite_of_holds holds
      rw [Placement.heading?_onLane known] at aligned
      refine ⟨?_, ?_, speed, speedFactor⟩
      · rw [placement]
        exact numbers
      · rw [← Option.some.inj aligned]
        exact (finite.lanes r).isFinite_headingAt numbers.1

/-- What a walk from a lane ends in has finite numbers of its own. -/
theorem advance {e next : Entity Exact} {a : Advance s.network} {lateral speed : Exact}
    (side : Scalar.isFinite lateral = true)
    (hspeed : Scalar.isFinite speed = true) {crossed : List String}
    {event : Option BoundaryEvent}
    (h : Move.ofAdvance e lateral speed a = .stays next crossed event) :
    (∀ position heading, next.placement = .free position heading →
      position.isFinite = true ∧ Scalar.isFinite heading = true) ∧
    Scalar.isFinite next.speed = true ∧ next.speedFactor = e.speedFactor := by
  cases a with
  | arrived => cases h
  | onLane last stop position junctions =>
    cases h
    exact ⟨nofun, hspeed, rfl⟩
  | boundary last junctions =>
    cases h
    refine ⟨?_, rfl, rfl⟩
    intro position heading free
    obtain ⟨rfl, rfl⟩ := Placement.free.inj free
    have planar := finite.lanes last
    have length := planar.isFinite_length
    exact ⟨planar.isFinite_positionAt length side, planar.isFinite_headingAt length⟩

theorem moveOf {e next : Entity Exact} (present : e ∈ s.roster.entities)
    {crossed : List String} {event : Option BoundaryEvent}
    (h : s.moveOf e = .ok (.stays next crossed event)) : next.Finite := by
  have entity := finite.entities e present
  have bounded := finite.bounded.entities e present
  have bounded' := finite.bounded.moveOf bounded h
  have aligned' := finite.aligned.moveOf (finite.aligned.entities e present) h
  have moved := s.moved e
  rw [h] at moved
  generalize hmove : Move.stays next crossed event = move at moved
  cases moved with
  | rests =>
    cases hmove
    exact entity
  | @drives _ _ _ lateral on r _ motion moving =>
    have side : Scalar.isFinite lateral = true := by
      have placement := entity.placement
      rw [on] at placement
      exact placement.2
    have speed := Motion.isFinite_speed (finite.bounded.profiles e.kind) (finite.decel e.kind)
      (finite.governed e.kind r) (finite.bounded.lanes r) finite.stepLength bounded.speed
      bounded.speedFactor entity moving
    obtain ⟨free, speed', factor⟩ := finite.advance side speed hmove.symm
    exact finite.entity bounded' aligned' free speed' (factor ▸ entity.speedFactor)

theorem create (id : String) (kind : Kind) :
    Scalar.isFinite (s.create id kind).1.speed = true ∧
      Scalar.isFinite (s.create id kind).1.speedFactor = true :=
  ⟨rfl, DeviateStream.isFinite_sample finite.draws s.deviates.used⟩

/-- An entity that comes from a finite session is finite. -/
theorem origin {e : Entity Exact} (origin : s.Origin e) : e.Finite := by
  have bounded := finite.bounded.origin origin
  have aligned := finite.aligned.origin origin
  cases origin with
  | kept present => exact finite.entities e present
  | moved present made => exact finite.moveOf present made
  | @placed _ present _ placement resolved =>
    have entity := finite.entities _ present
    refine finite.entity bounded aligned ?_ entity.speed entity.speedFactor
    intro position heading free
    obtain rfl : placement = .free position heading := free
    exact PlacementRequest.finite_of_resolve resolved entity.heading
  | @created id _ args placement resolved =>
    obtain ⟨speed, factor⟩ := finite.create id args.kind
    refine finite.entity bounded aligned ?_ speed factor
    intro position heading free
    obtain rfl : placement = .free position heading := free
    refine PlacementRequest.finite_of_resolve resolved ?_
    cases given : args.heading with
    | none => rfl
    | some heading => exact PlacementRequest.isFinite_heading_of_resolve resolved given
  | @inserted id _ args r known fits _ _ =>
    obtain ⟨-, factor⟩ := finite.create id args.kind
    exact finite.entity bounded aligned nofun (isFinite_of_insertFault? fits) factor

end Finite

/-- Every operation keeps a session finite. -/
theorem Operated.finite {s after : Session Exact} {op : Operation Exact}
    (operated : Operated s op after) (finite : s.Finite) : after.Finite := by
  obtain ⟨index, settings⟩ := operated.frame
  refine ⟨operated.bounded finite.bounded, operated.aligned finite.aligned, ?_, ?_, ?_, ?_, ?_,
    fun e present => finite.origin (operated.origin present)⟩
  · rw [network, index]
    exact finite.lanes
  · rw [operated.stepLength]
    exact finite.stepLength
  · rw [settings]
    exact finite.decel
  · rw [network, index, settings]
    exact finite.governed
  · rw [operated.draw]
    exact finite.draws

section Answers
variable {s : Session Exact} (finite : s.Finite)
include finite

theorem Finite.time : Scalar.isFinite s.time = true := by
  rw [Session.time, Clock.time, isFinite_mul, finite.stepLength]
  rfl

theorem Finite.position {e : Entity Exact} (present : e ∈ s.roster.entities) {p : Vec2 Exact}
    (located : e.placement.position? s.network = some p) : p.isFinite = true := by
  have numbers := (finite.entities e present).placement
  cases placement : e.placement with
  | undetermined =>
    rw [placement] at located
    cases located
  | free position heading =>
    rw [placement] at numbers located
    rw [← Option.some.inj located]
    exact numbers.1
  | onLane edge lane offset lateral =>
    rw [placement] at numbers located
    obtain ⟨r, -, rfl⟩ := Option.map_eq_some_iff.1 located
    exact (finite.lanes r).isFinite_positionAt numbers.1 numbers.2

/-- A step reports the time that it leads to. -/
theorem Finite.step {report : StepReport Exact} (ok : s.step.1 = .ok report) :
    Scalar.isFinite report.time = true := by
  rcases s.clock_step with ⟨told, answered, -, -, time⟩ | ⟨⟨fault, failed⟩, -⟩
  · obtain rfl := Except.ok.inj (answered.symm.trans ok)
    rw [time, isFinite_mul, finite.stepLength]
    rfl
  · cases failed.symm.trans ok

/-- A placement that is answered is that of an entity afterwards. -/
theorem Finite.place {id : String} {args : PlaceArgs Exact} {placement : Placement Exact}
    (ok : (s.place id args).1 = .ok placement) : placement.Finite := by
  have after := (s.operated (.place id args)).finite finite
  change (s.place id args).2.Finite at after
  have placed := s.placed id args
  generalize s.place id args = outcome at placed ok after
  cases placed with
  | closed | emptyId | unresolved => cases ok
  | moved | created =>
    cases ok
    exact (after.entities _ (Roster.mem_insert _ _)).placement

theorem Finite.insert {id : String} {args : InsertArgs Exact} {placement : Placement Exact}
    (ok : (s.insert id args).1 = .ok placement) : placement.Finite := by
  have after := (s.operated (.insert id args)).finite finite
  change (s.insert id args).2.Finite at after
  have inserted := s.inserted id args
  generalize s.insert id args = outcome at inserted ok after
  cases inserted with
  | closed | emptyId | duplicate | noLane | unfit | noRoute => cases ok
  | inserted =>
    cases ok
    exact (after.entities _ (Roster.mem_insert _ _)).placement

/-- The mean of finite speeds is finite. -/
theorem Finite.meanSpeed (r : LaneRef s.network) :
    Scalar.isFinite (Snapshot.viewLane s.network
      (Snapshot.locate s.network s.roster.entities) r).meanSpeed = true := by
  have speeds : ∀ v ∈ ((Snapshot.locate s.network s.roster.entities).filter (·.1 == r)).map (·.2),
      Scalar.isFinite v = true := by
    intro v listed
    obtain ⟨located, hlocated, rfl⟩ := List.mem_map.1 listed
    obtain ⟨e, present, found⟩ := List.mem_filterMap.1 (List.mem_filter.1 hlocated).1
    obtain ⟨lane, -, rfl⟩ := Option.map_eq_some_iff.1 found
    exact (finite.entities e present).speed
  rw [Snapshot.viewLane]
  generalize ((Snapshot.locate s.network s.roster.entities).filter (·.1 == r)).map (·.2) = vs
    at speeds ⊢
  dsimp only
  split
  · rfl
  · next nonempty =>
    obtain ⟨total, sum⟩ := exists_real (@isFinite_foldl_add vs speeds 0.0 rfl)
    have count : (vs.length : ℝ) ≠ 0 := by
      rw [List.isEmpty_iff] at nonempty
      exact Nat.cast_ne_zero.2 (mt List.eq_nil_of_length_eq_zero nonempty)
    rw [sum]
    exact congrArg Scalar.isFinite (real_div total count)

theorem Finite.snapshot {shot : Snapshot Exact} (ok : s.snapshot = .ok shot) : shot.Finite := by
  rw [Session.snapshot] at ok
  split at ok
  · cases ok
  · cases ok
    refine ⟨finite.time, ?_, ?_⟩
    · intro view listed
      obtain ⟨e, present, viewed⟩ := List.mem_filterMap.1 listed
      obtain ⟨p, located, rfl⟩ := Option.map_eq_some_iff.1 viewed
      have entity := finite.entities e present
      exact ⟨entity.placement, finite.position present located, entity.heading, entity.speed⟩
    · intro view listed
      obtain ⟨r, -, rfl⟩ := List.mem_map.1 listed
      exact finite.meanSpeed r

/-- A finite session gives finite answers. -/
theorem finite_dispatch {c : Command Exact} {answer : Answer Exact}
    (ok : (s.dispatch c).1 = .ok answer) : answer.Finite := by
  cases c with
  | step =>
    obtain ⟨report, answered, rfl⟩ := ok_of_map ok
    exact finite.step answered
  | place c =>
    obtain ⟨placement, answered, rfl⟩ := ok_of_map ok
    exact finite.place answered
  | insert c =>
    obtain ⟨placement, answered, rfl⟩ := ok_of_map ok
    exact finite.insert answered
  | remove id =>
    obtain ⟨_, -, rfl⟩ := ok_of_map ok
    trivial
  | snapshot =>
    obtain ⟨shot, answered, rfl⟩ := ok_of_map ok
    exact finite.snapshot answered
  | position id =>
    obtain ⟨p, answered, rfl⟩ := ok_of_map ok
    obtain ⟨e, found, located⟩ := exists_of_position answered
    exact finite.position (Roster.mem_entities_of_find? found) located
  | time =>
    simp only [dispatch] at ok
    split at ok
    · cases ok
    · cases ok
      exact finite.time
  | close =>
    simp only [dispatch] at ok
    split at ok
    · cases ok
    · cases ok
      trivial

/-- So does every session that commands lead to. -/
theorem finite_run (cs : List (Command Exact)) :
    ∀ answer, .ok answer ∈ (s.run cs).1 → answer.Finite := by
  induction cs generalizing s with
  | nil =>
    intro answer listed
    cases listed
  | cons c rest ih =>
    intro answer listed
    rcases List.mem_cons.1 listed with answered | later
    · exact finite_dispatch finite answered.symm
    · have next : (s.dispatch c).2.Finite := by
        rcases s.dispatch_operate c with same | ⟨op, same⟩
        · rw [same]
          exact finite
        · rw [same]
          exact (s.operated op).finite finite
      exact ih next answer later

end Answers

/-- Accepted settings on a restrained network start a finite session. -/
theorem finite_fresh {d : NetworkDescription Exact} (accepted : d.Accepted)
    {settings : SessionSettings Exact} (configured : settings.Accepted)
    (restrained : d.Restrained settings.motion) {deviates : DeviateStream Exact}
    (numbers : ∀ n, deviates.draw n ≠ notANumber) (cellSize : Exact) :
    (fresh (.ofNetwork (.lay d) cellSize) settings deviates).Finite := by
  have wellFormed := Network.wellFormed_lay accepted
  have unoccupied {P : Entity Exact → Prop} :
      ∀ e ∈ (fresh (.ofNetwork (.lay d) cellSize) settings deviates).roster.entities, P e := by
    intro e present
    cases present
  have bounded : (fresh (.ofNetwork (.lay d) cellSize) settings deviates).Bounded :=
    ⟨wellFormed, Network.sound_lane accepted, configured.sound_profile,
      configured.positive numbers, unoccupied⟩
  refine ⟨bounded, ⟨wellFormed, unoccupied⟩, Network.planar_of_widths accepted restrained.width,
    configured.isFinite_stepLength, configured.decel_pos, ?_, numbers, unoccupied⟩
  intro kind r
  obtain ⟨e, he, lane, hlane, -, limit⟩ := Network.exists_description d r
  have governed := restrained.governed e he lane hlane kind
  rw [← limit] at governed
  exact governed

end Session
end Roadway
