import Roadway.Text.Scan
import Roadway.Toml.Value

/-!
# Dates in TOML

Dates of the calendar, times of day and time zones. They are checked but their
values are not kept.
-/
namespace Roadway.Toml
open Scan

/-- Exactly so many digits, as a number. -/
def fixedDigits (size : Nat) : Scanner Nat := fun cs =>
  let ds := cs.take size
  if ds.length = size ∧ ds.all isDigit then some (natOf ds, cs.drop size) else none

/-- The text after a given character. -/
def after? (c : Char) : List Char → Option (List Char)
  | d :: rest => if d = c then some rest else none
  | [] => none

def daysIn (year month : Nat) : Nat :=
  if month = 2 then
    if year % 4 = 0 ∧ (year % 100 ≠ 0 ∨ year % 400 = 0) then 29 else 28
  else if month = 4 ∨ month = 6 ∨ month = 9 ∨ month = 11 then 30
  else 31

/-- The text after a date of the calendar. -/
def date? (cs : List Char) : Option (List Char) := do
  let (year, cs) ← fixedDigits 4 cs
  let cs ← after? '-' cs
  let (month, cs) ← fixedDigits 2 cs
  let cs ← after? '-' cs
  let (day, cs) ← fixedDigits 2 cs
  if 1 ≤ month ∧ month ≤ 12 ∧ 1 ≤ day ∧ day ≤ daysIn year month then some cs else none

/-- The text after a fraction of a second, if there is one. -/
def afterFraction (cs : List Char) : List Char :=
  match cs with
  | '.' :: rest =>
    match digits1 rest with
    | some (_, rest) => rest
    | none => cs
  | _ => cs

/-- The text after a time of day; a leap second is allowed. -/
def time? (cs : List Char) : Option (List Char) := do
  let (hour, cs) ← fixedDigits 2 cs
  let cs ← after? ':' cs
  let (minute, cs) ← fixedDigits 2 cs
  let cs ← after? ':' cs
  let (second, cs) ← fixedDigits 2 cs
  if hour ≤ 23 ∧ minute ≤ 59 ∧ second ≤ 60 then some (afterFraction cs) else none

/-- The text after hours and minutes of a time zone. -/
def zone? (cs : List Char) : Option (List Char) := do
  let (hour, cs) ← fixedDigits 2 cs
  let cs ← after? ':' cs
  let (minute, cs) ← fixedDigits 2 cs
  if hour ≤ 23 ∧ minute ≤ 59 then some cs else none

/-- The text after a time zone, if there is one. -/
def afterZone (cs : List Char) : List Char :=
  match cs with
  | 'Z' :: rest => rest
  | 'z' :: rest => rest
  | '+' :: rest => (zone? rest).getD cs
  | '-' :: rest => (zone? rest).getD cs
  | _ => cs

/-- A date, a date with a time, or a time. -/
def anyDatetime : Scanner Toml := fun cs =>
  match date? cs with
  | some rest =>
    let timed := match rest with
      | c :: tail => if c = 'T' ∨ c = 't' ∨ c = ' ' then (time? tail).map afterZone else none
      | [] => none
    some (.datetime, timed.getD rest)
  | none => (time? cs).map fun rest => (.datetime, rest)

end Roadway.Toml
