/-!
# TOML values

The values of a configuration document. A table remembers how it was written, since
that decides what may still be added to it: a table that only stands in front of
others may be given a header once, a table made by dotted keys may be extended by
dotted keys, and a table with a header or in braces is complete.
-/
namespace Roadway

namespace Toml

/-- How a table came to be. -/
inductive Origin
  /-- In braces. -/
  | inline
  /-- By a header of its own. -/
  | header
  /-- As the parent of a table with a header. -/
  | implied
  /-- By a dotted key. -/
  | dotted
  deriving DecidableEq, Repr

end Toml

inductive Toml
  | string (value : String)
  | integer (value : Int)
  | float (value : Float)
  | boolean (value : Bool)
  /-- A date, a time or both; no setting has such a value, so it is not kept. -/
  | datetime
  | array (items : List Toml)
  | table (origin : Toml.Origin) (members : List (String × Toml))
  /-- Tables with one repeated header. -/
  | tables (items : List (List (String × Toml)))
  deriving Inhabited

namespace Toml

abbrev Members := List (String × Toml)

namespace Members

/-- Gives a new value to the member with a name, or adds it at the end. -/
def set (name : String) (value : Toml) : Members → Members
  | [] => [(name, value)]
  | (other, old) :: rest =>
    if other = name then (name, value) :: rest else (other, old) :: set name value rest

/-- Adds a value under a dotted key, given as the path in front of its last part.
Only tables made by dotted keys are extended; on the way there the path may also
lead through implied tables and the last of repeated tables. -/
def insertAt (path : List String) (name : String) (value : Toml) (members : Members) :
    Option Members :=
  match path with
  | [] => if (members.lookup name).isSome then none else some (members.set name value)
  | first :: rest =>
    match members.lookup first with
    | none =>
      (insertAt rest name value []).map fun inner => members.set first (.table .dotted inner)
    | some (.table .dotted inner) =>
      (insertAt rest name value inner).map fun inner => members.set first (.table .dotted inner)
    | some (.table .implied inner) =>
      if rest.isEmpty then none
      else (insertAt rest name value inner).map fun inner =>
        members.set first (.table .implied inner)
    | some (.tables items) =>
      match rest.isEmpty, items.getLast? with
      | false, some inner =>
        (insertAt rest name value inner).map fun inner =>
          members.set first (.tables (items.dropLast ++ [inner]))
      | _, _ => none
    | some _ => none

/-- Changes the members that the path of a header leads to, adding implied tables
where there are none. Of repeated tables it leads into the last one. -/
def modifyAt (change : Members → Option Members) (path : List String) (members : Members) :
    Option Members :=
  match path with
  | [] => change members
  | first :: rest =>
    match members.lookup first with
    | none =>
      (modifyAt change rest []).map fun inner => members.set first (.table .implied inner)
    | some (.table .inline _) => none
    | some (.table origin inner) =>
      (modifyAt change rest inner).map fun inner => members.set first (.table origin inner)
    | some (.tables items) =>
      match items.getLast? with
      | some inner =>
        (modifyAt change rest inner).map fun inner =>
          members.set first (.tables (items.dropLast ++ [inner]))
      | none => none
    | some _ => none

end Members

/-- A dotted key, as the path in front of its last part and that part, with its
value. -/
structure Entry where
  path : List String
  name : String
  value : Toml

/-- Adds entries one after the other. -/
def Members.insertAll (members : Members) (entries : List Entry) : Option Members :=
  entries.foldlM (fun members e => members.insertAt e.path e.name e.value) members

/-- A header with the entries that follow it. -/
structure Section where
  /-- Whether the header may be repeated. -/
  repeated : Bool
  path : List String
  name : String
  entries : List Entry

/-- Adds the table of a section to the members that its header belongs to. -/
def Section.addTo (s : Section) (members : Members) : Option Members :=
  match s.repeated, members.lookup s.name with
  | true, none =>
    (Members.insertAll [] s.entries).map fun t => members.set s.name (.tables [t])
  | true, some (.tables items) =>
    (Members.insertAll [] s.entries).map fun t => members.set s.name (.tables (items ++ [t]))
  | false, none =>
    (Members.insertAll [] s.entries).map fun t => members.set s.name (.table .header t)
  | false, some (.table .implied inner) =>
    (Members.insertAll inner s.entries).map fun t => members.set s.name (.table .header t)
  | _, _ => none

/-- The table of a document from its leading entries and its sections. -/
def assemble (entries : List Entry) (sections : List Section) : Option Toml :=
  match Members.insertAll [] entries with
  | none => none
  | some top =>
    (sections.foldlM (fun members s => Members.modifyAt s.addTo s.path members) top).map
      (.table .header)

end Toml
end Roadway
