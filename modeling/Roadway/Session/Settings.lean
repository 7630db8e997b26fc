import Roadway.Entity.Kind
import Roadway.Number.Decimal

/-!
# Session settings

How time advances, how entities move, how points are matched to lanes, and what a
collision does to a step. `fault?` finds the first value that is out of range.

## Main definitions

* `SessionSettings` — all settings of a session.
* `SettingsFault` — why settings are refused, with its `message`.
* `SessionSettings.fault?` — the first fault of settings.
-/
namespace Roadway

/-- How entities on lanes move. -/
inductive Backend
  /-- Towards a target speed, within limits on acceleration. -/
  | kinematic
  /-- Not at all. -/
  | stationary
  deriving DecidableEq, Repr

namespace Backend

def name : Backend → String
  | kinematic => "kinematic"
  | stationary => "stationary"

def ofName? : String → Option Backend
  | "kinematic" => some kinematic
  | "stationary" => some stationary
  | _ => none

end Backend

inductive CollisionPolicy
  /-- Collisions are not looked for. -/
  | ignore
  /-- Collisions are reported. -/
  | warn
  /-- Collisions are reported, and their participants leave the session. -/
  | remove
  /-- A collision undoes the step and closes the session. -/
  | strict
  deriving DecidableEq, Repr

namespace CollisionPolicy

def name : CollisionPolicy → String
  | ignore => "none"
  | warn => "warn"
  | remove => "remove"
  | strict => "strict"

def ofName? : String → Option CollisionPolicy
  | "none" => some ignore
  | "warn" => some warn
  | "remove" => some remove
  | "strict" => some strict
  | _ => none

end CollisionPolicy

/-- The physical limits of a kind. -/
structure MotionProfile (α : Type) where
  length : α
  maxSpeed : α
  accel : α
  decel : α
  /-- The standard deviation of speed factors around one. -/
  speedDev : α
  deriving DecidableEq, Repr

structure MotionSettings (α : Type) where
  vehicle : MotionProfile α
  person : MotionProfile α
  deriving DecidableEq, Repr

def MotionSettings.profile {α : Type} (m : MotionSettings α) : Kind → MotionProfile α
  | .vehicle => m.vehicle
  | .person => m.person

structure MappingSettings (α : Type) where
  /-- The search radius of placements that bring none. -/
  defaultRadius : α
  /-- The greatest angle in degrees at which a vehicle matches a lane. -/
  angleTolerance : α
  indexCellSize : α
  deriving DecidableEq, Repr

structure SessionSettings (α : Type) where
  /-- Seconds per step. -/
  stepLength : α
  seed : Option Nat
  backend : Backend
  mapping : MappingSettings α
  policy : CollisionPolicy
  motion : MotionSettings α
  /-- How many step timings are kept. -/
  timingSamples : Nat
  deriving DecidableEq, Repr

section Defaults
variable {α : Type} [Scalar α]

def MotionSettings.default : MotionSettings α where
  vehicle := ⟨5.0, 13.89, 2.6, 4.5, 0.1⟩
  person := ⟨0.5, 1.39, 1.5, 2.0, 0.1⟩

def MappingSettings.default : MappingSettings α := ⟨100.0, 45.0, 50.0⟩

def SessionSettings.default : SessionSettings α where
  stepLength := 1.0
  seed := none
  backend := .kinematic
  mapping := MappingSettings.default
  policy := .warn
  motion := MotionSettings.default
  timingSamples := 100

end Defaults

/-- Why session settings are refused. -/
inductive SettingsFault (α : Type)
  | stepLength
  | defaultRadius
  | angleTolerance (value : α)
  | indexCellSize
  | profileLength (kind : Kind)
  | profileMaxSpeed (kind : Kind)
  | profileAcceleration (kind : Kind)
  | profileSpeedDev (kind : Kind)
  | timingSamples
  deriving DecidableEq, Repr

def SettingsFault.message : SettingsFault Float → String
  | stepLength => "Step length must be positive and finite"
  | defaultRadius => "Default search radius must be non-negative"
  | angleTolerance value =>
    "Angle tolerance " ++ Decimal.messageText value ++ " must be in range [0, 180]"
  | indexCellSize => "Index cell size must be positive and finite"
  | profileLength kind => "Length for '" ++ kind.name ++ "' must be positive"
  | profileMaxSpeed kind => "Max speed for '" ++ kind.name ++ "' must be positive"
  | profileAcceleration kind => "Acceleration values for '" ++ kind.name ++ "' must be positive"
  | profileSpeedDev kind => "Speed deviation for '" ++ kind.name ++ "' must be in range [0, 0.5)"
  | timingSamples => "Timing samples must be greater than zero"

section Faults
variable {α : Type} [Scalar α]

/-- A fault unless a condition holds. -/
def SettingsFault.unless (condition : Bool) (fault : SettingsFault α) :
    Option (SettingsFault α) :=
  if condition then none else some fault

def MotionProfile.fault? (kind : Kind) (p : MotionProfile α) : Option (SettingsFault α) :=
  SettingsFault.unless (decide (0.0 < p.length)) (.profileLength kind) <|>
  SettingsFault.unless (decide (0.0 < p.maxSpeed)) (.profileMaxSpeed kind) <|>
  SettingsFault.unless (decide (0.0 < p.accel) && decide (0.0 < p.decel))
    (.profileAcceleration kind) <|>
  SettingsFault.unless (decide (0.0 ≤ p.speedDev) && decide (p.speedDev < 0.5))
    (.profileSpeedDev kind)

def MappingSettings.fault? (m : MappingSettings α) : Option (SettingsFault α) :=
  SettingsFault.unless (decide (0.0 ≤ m.defaultRadius)) .defaultRadius <|>
  SettingsFault.unless (decide (0.0 ≤ m.angleTolerance) && decide (m.angleTolerance ≤ 180.0))
    (.angleTolerance m.angleTolerance) <|>
  SettingsFault.unless (decide (0.0 < m.indexCellSize) && Scalar.isFinite m.indexCellSize)
    .indexCellSize

namespace SessionSettings

/-- The first fault of the settings, or none if they are accepted. -/
def fault? (s : SessionSettings α) : Option (SettingsFault α) :=
  SettingsFault.unless (decide (0.0 < s.stepLength) && Scalar.isFinite s.stepLength)
    .stepLength <|>
  s.mapping.fault? <|>
  s.motion.vehicle.fault? .vehicle <|>
  s.motion.person.fault? .person <|>
  SettingsFault.unless (decide (0 < s.timingSamples)) .timingSamples

def Accepted (s : SessionSettings α) : Prop := s.fault? = none

end SessionSettings
end Faults
end Roadway
