import Roadway.Json.Reader
import Roadway.Text.Scan

/-!
# Records in JSON

A record is an object with named members, or an array of their values in the
declared order of which trailing ones may be missing. Members of other names are
ignored, and a declared one must not occur twice. A tagged record says by a tag
which of several records it is; in an array the tag comes first.

## Main definitions

* `Json.fields?` — the declared fields of a record.
* `Json.tagged?` — the tag of a record and what is left.
-/
namespace Roadway.Json

/-- The values of the declared fields in order, none where a field is missing. -/
def fields? (names : List String) : Json → Option (List (Option Json))
  | object members =>
    if names.all fun name => decide (members.countP (·.1 == name) ≤ 1) then
      some (names.map fun name => members.lookup name)
    else none
  | array items =>
    if items.length ≤ names.length then
      some (items.map some ++ List.replicate (names.length - items.length) none)
    else none
  | _ => none

/-- The tag of a record, and the record without it. -/
def tagged? (tagName : String) : Json → Option (Json × Json)
  | object members =>
    match members.filter (·.1 == tagName) with
    | [(_, tag)] => some (tag, object (members.filter (·.1 != tagName)))
    | _ => none
  | array (tag :: items) => some (tag, array items)
  | _ => none

/-- A record without declared fields. -/
def noFields? (j : Json) : Option Unit := (j.fields? []).map fun _ => ()

def text? : Json → Option String
  | string s => some s
  | _ => none

def flag? : Json → Option Bool
  | bool b => some b
  | _ => none

/-- Any number as a double. -/
def double? : Json → Option Float
  | real x => some x
  | integer n => some (Float.ofInt n)
  | _ => none

/-- An integer within unsigned words of 64 bits. -/
def word? : Json → Option Nat
  | integer n => if 0 ≤ n then some n.toNat else none
  | _ => none

/-- An integer within signed words of 64 bits. -/
def signedWord? : Json → Option Int
  | integer n => if n < twoPow 63 then some n else none
  | _ => none

/-- A value, or none for `null`. -/
def optional? {β : Type} (read : Json → Option β) : Json → Option (Option β)
  | null => some none
  | j => (read j).map some

def list? {β : Type} (read : Json → Option β) : Json → Option (List β)
  | array items => items.mapM read
  | _ => none

/-- One of a set of names, as a string or as the only member of an object with an
empty value. -/
def choice? {β : Type} (ofName? : String → Option β) : Json → Option β
  | string s => ofName? s
  | object [(name, null)] => ofName? name
  | object [(name, object [])] => ofName? name
  | _ => none

def ofOption {β : Type} (write : β → Json) : Option β → Json
  | some x => write x
  | none => null

def ofNat (n : Nat) : Json := integer n

end Roadway.Json
