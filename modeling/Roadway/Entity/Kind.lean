/-!
# Kinds of road users

Lanes admit kinds, and each kind has its own motion profile.
-/
namespace Roadway

inductive Kind
  | vehicle
  | person
  deriving DecidableEq, Repr

namespace Kind

def name : Kind → String
  | vehicle => "vehicle"
  | person => "person"

/-- The kind of a name; names are case sensitive. -/
def ofName? : String → Option Kind
  | "vehicle" => some vehicle
  | "person" => some person
  | _ => none

@[simp] theorem ofName?_name (k : Kind) : ofName? k.name = some k := by cases k <;> rfl

end Kind
end Roadway
