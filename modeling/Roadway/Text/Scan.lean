/-!
# Scanning text

A scanner takes a value off the front of a text and leaves the rest, or refuses.
Here are the scanners for runs of digits that the formats share, and the readers for
fields of the records that they scan: a field is a value or missing, and a missing field
is refused or takes its default.
-/
namespace Roadway

/-- Takes a value off the front of a text, if there is one. -/
abbrev Scanner (β : Type) := List Char → Option (β × List Char)

namespace Scan

def isDigit (c : Char) : Bool := decide ('0' ≤ c) && decide (c ≤ '9')

/-- The value of a hexadecimal digit. -/
def hexValue? (c : Char) : Option Nat :=
  if '0' ≤ c ∧ c ≤ '9' then some (c.toNat - 48)
  else if 'a' ≤ c ∧ c ≤ 'f' then some (c.toNat - 87)
  else if 'A' ≤ c ∧ c ≤ 'F' then some (c.toNat - 55)
  else none

/-- The number that decimal digits denote. -/
def natOf (digits : List Char) : Nat := digits.foldl (fun n c => 10 * n + (c.toNat - 48)) 0

/-- The number that digits of a base up to sixteen denote. -/
def natIn? (base : Nat) (digits : List Char) : Option Nat :=
  digits.foldlM
    (fun n c => (hexValue? c).bind fun v => if v < base then some (base * n + v) else none) 0

/-- One or more decimal digits. -/
def digits1 : Scanner (List Char) := fun cs =>
  match cs.span isDigit with
  | ([], _) => none
  | (digits, rest) => some (digits, rest)

end Scan

namespace Record

/-- The value of a field that must be there. -/
def required {ν β : Type} (read : ν → Option β) (field : Option ν) : Option β :=
  field.bind read

/-- The value of a field, or a default if it is missing. -/
def orElse {ν β : Type} (read : ν → Option β) (default : β) (field : Option ν) : Option β :=
  field.elim (some default) read

end Record
end Roadway
