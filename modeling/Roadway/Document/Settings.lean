import Roadway.Session.Settings
import Roadway.Toml.Record

/-!
# Settings documents

Session settings as a TOML document. The table `simulation` has to be there but may
be empty; the tables `mapping`, `motion` and `performance` are complete if they are
there, and `collision` may be empty.
-/
namespace Roadway
open Toml Record

def MotionProfile.ofToml? (t : Toml) : Option (MotionProfile Float) :=
  match t.fields? ["length", "max_speed", "accel", "decel", "speed_dev"] with
  | some [length, maxSpeed, accel, decel, speedDev] => do
    some
      { length := ← required double? length
        maxSpeed := ← required double? maxSpeed
        accel := ← required double? accel
        decel := ← required double? decel
        speedDev := ← required double? speedDev }
  | _ => none

def MotionSettings.ofToml? (t : Toml) : Option (MotionSettings Float) :=
  match t.fields? ["vehicle", "person"] with
  | some [vehicle, person] => do
    some ⟨← required MotionProfile.ofToml? vehicle, ← required MotionProfile.ofToml? person⟩
  | _ => none

def MappingSettings.ofToml? (t : Toml) : Option (MappingSettings Float) :=
  match t.fields? ["default_radius", "angle_tolerance", "index_cell_size"] with
  | some [defaultRadius, angleTolerance, indexCellSize] => do
    some
      { defaultRadius := ← required double? defaultRadius
        angleTolerance := ← required double? angleTolerance
        indexCellSize := ← required double? indexCellSize }
  | _ => none

namespace SessionSettings

/-- The step length, seed and backend of a simulation. -/
def simulation? (t : Toml) : Option (Float × Option Nat × Backend) :=
  match t.fields? ["step_length", "seed", "backend"] with
  | some [stepLength, seed, backend] => do
    let default : SessionSettings Float := SessionSettings.default
    some
      (← orElse double? default.stepLength stepLength,
        ← orElse (fun t => (natBelow? (twoPow 64) t).map some) default.seed seed,
        ← orElse (choice? Backend.ofName?) default.backend backend)
  | _ => none

def policy? (t : Toml) : Option CollisionPolicy :=
  match t.fields? ["policy"] with
  | some [policy] => orElse (choice? CollisionPolicy.ofName?) .warn policy
  | _ => none

def timingSamples? (t : Toml) : Option Nat :=
  match t.fields? ["timing_samples"] with
  | some [samples] => required (natBelow? (twoPow 32)) samples
  | _ => none

def ofToml? (t : Toml) : Option (SessionSettings Float) :=
  match t.fields? ["simulation", "mapping", "collision", "motion", "performance"] with
  | some [simulation, mapping, collision, motion, performance] => do
    let default : SessionSettings Float := SessionSettings.default
    let (stepLength, seed, backend) ← required simulation? simulation
    some
      { stepLength := stepLength
        seed := seed
        backend := backend
        mapping := ← orElse MappingSettings.ofToml? default.mapping mapping
        policy := ← orElse policy? default.policy collision
        motion := ← orElse MotionSettings.ofToml? default.motion motion
        timingSamples := ← orElse timingSamples? default.timingSamples performance }
  | _ => none

/-- The settings in a document, accepted or not. -/
def read? (document : String) : Option (SessionSettings Float) :=
  (Toml.read? document).bind ofToml?

end SessionSettings
end Roadway
