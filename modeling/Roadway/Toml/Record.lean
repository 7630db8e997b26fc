import Roadway.Toml.Reader
import Roadway.Text.Scan

/-!
# Records in TOML

A record is a table with named members, or an array of their values in the declared
order of which trailing ones may be missing. Members of other names and further
items are ignored. A date counts as a table without declared members.
-/
namespace Roadway.Toml

/-- The values of the declared fields in order, none where a field is missing. -/
def fields? (names : List String) : Toml → Option (List (Option Toml))
  | table _ members => some (names.map fun name => members.lookup name)
  | array items => some (positional items)
  | tables items => some (positional (items.map (table .header)))
  | datetime => some (names.map fun _ => none)
  | _ => none
where
  positional (items : List Toml) : List (Option Toml) :=
    (items.take names.length).map some ++ List.replicate (names.length - items.length) none

def text? : Toml → Option String
  | string s => some s
  | _ => none

/-- A float, or an integer as the nearest double. -/
def double? : Toml → Option Float
  | float x => some x
  | integer n => some (Float.ofInt n)
  | _ => none

/-- A natural number below a bound. -/
def natBelow? (bound : Nat) : Toml → Option Nat
  | integer n => if 0 ≤ n ∧ n < bound then some n.toNat else none
  | _ => none

/-- The items of an array, also of one written as repeated tables. -/
def items? : Toml → Option (List Toml)
  | array items => some items
  | tables items => some (items.map (table .header))
  | _ => none

def list? {β : Type} (read : Toml → Option β) (t : Toml) : Option (List β) :=
  t.items?.bind fun items => items.mapM read

/-- Whether a value is a table or array without content. -/
def isVoid : Toml → Bool
  | table _ members => members.isEmpty
  | array items => items.isEmpty
  | tables items => items.isEmpty
  | _ => false

/-- One of a set of names, as a string or as the only member of a table with an
empty value. -/
def choice? {β : Type} (ofName? : String → Option β) : Toml → Option β
  | string s => ofName? s
  | table _ [(name, value)] => if value.isVoid then ofName? name else none
  | _ => none

end Roadway.Toml
