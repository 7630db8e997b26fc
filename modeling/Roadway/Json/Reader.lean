import Roadway.Json.Value
import Roadway.Text.Scan

/-!
# Reading JSON

`Json.read?` accepts one JSON text with blanks around it. An integer within 64 bits
stays an integer, and every other number is the nearest double, which has to be
finite; a negative zero is a double too. Strings hold no raw control characters and
no lone surrogates, and values nest at most `maxDepth` deep.

## Main definitions

* `Json.read?` — the value of a JSON text.
-/
namespace Roadway.Json

namespace Reader
open Scan

def isBlank (c : Char) : Bool := c == ' ' || c == '\t' || c == '\n' || c == '\r'

/-- The text from its first character that is not blank on. -/
def skip (cs : List Char) : List Char := cs.dropWhile isBlank

/-- The digits of an integer without superfluous zeros. -/
def wholePart : Scanner (List Char) := fun cs =>
  match digits1 cs with
  | some ('0' :: _ :: _, _) => none
  | result => result

/-- The digits after a point, if there is one. -/
def fractionPart : Scanner (List Char) := fun cs =>
  match cs with
  | '.' :: rest => digits1 rest
  | _ => some ([], cs)

/-- The power of ten after an exponent mark, if there is one. -/
def exponentPart : Scanner (Option Int) := fun cs =>
  match cs with
  | c :: rest =>
    if c = 'e' ∨ c = 'E' then
      match rest with
      | '-' :: rest' => (digits1 rest').map fun (digits, r) => (some (-(natOf digits : Int)), r)
      | '+' :: rest' => (digits1 rest').map fun (digits, r) => (some (natOf digits : Int), r)
      | _ => (digits1 rest).map fun (digits, r) => (some (natOf digits : Int), r)
    else some (none, cs)
  | [] => some (none, cs)

/-- The value of a numeral: an integer if it has neither fraction nor exponent and
fits into 64 bits, else a double. -/
def numeral (negative : Bool) (whole fraction : List Char) (exponent : Option Int) :
    Option Json :=
  let n := natOf whole
  if fraction = [] ∧ exponent = none ∧
      (if negative then 0 < n ∧ n ≤ twoPow 63 else n < twoPow 64) then
    some (.integer (if negative then -(n : Int) else n))
  else
    let x := Decimal.toDouble negative
      ⟨natOf (whole ++ fraction), exponent.getD 0 - (fraction.length : Int)⟩
    if x.isFinite then some (.real x) else none

def number : Scanner Json := fun cs =>
  let (negative, unsigned) := match cs with
    | '-' :: rest => (true, rest)
    | _ => (false, cs)
  match wholePart unsigned with
  | none => none
  | some (whole, cs) =>
    match fractionPart cs with
    | none => none
    | some (fraction, cs) =>
      match exponentPart cs with
      | none => none
      | some (exponent, cs) => (numeral negative whole fraction exponent).map (·, cs)

/-- The number that four hexadecimal digits denote. -/
def hexWord : Scanner Nat
  | a :: b :: c :: d :: rest =>
    match hexValue? a, hexValue? b, hexValue? c, hexValue? d with
    | some a, some b, some c, some d => some (((a * 16 + b) * 16 + c) * 16 + d, rest)
    | _, _, _, _ => none
  | _ => none

def isHighSurrogate (n : Nat) : Bool := decide (0xD800 ≤ n) && decide (n < 0xDC00)

def isLowSurrogate (n : Nat) : Bool := decide (0xDC00 ≤ n) && decide (n < 0xE000)

/-- The character of a pair of surrogates. -/
def joinSurrogates (high low : Nat) : Char :=
  Char.ofNat (0x10000 + (high - 0xD800) * 1024 + (low - 0xDC00))

/-- The character of the second half of a pair of surrogates. -/
def lowSurrogate (high : Nat) : Scanner Char
  | '\\' :: 'u' :: rest =>
    match hexWord rest with
    | some (low, rest) => if isLowSurrogate low then some (joinSurrogates high low, rest) else none
    | none => none
  | _ => none

/-- The character of a code unit in hexadecimal digits, or of two of them. -/
def codedChar : Scanner Char := fun cs =>
  match hexWord cs with
  | none => none
  | some (n, rest) =>
    if isHighSurrogate n then lowSurrogate n rest
    else if isLowSurrogate n then none
    else some (Char.ofNat n, rest)

/-- The character that a letter stands for after a backslash. -/
def unescape? (c : Char) : Option Char :=
  match c with
  | '"' => some '"'
  | '\\' => some '\\'
  | '/' => some '/'
  | 'b' => some '\x08'
  | 'f' => some '\x0c'
  | 'n' => some '\n'
  | 'r' => some '\r'
  | 't' => some '\t'
  | _ => none

/-- The character that an escape stands for, after its backslash. -/
def escape : Scanner Char
  | [] => none
  | c :: rest => if c = 'u' then codedChar rest else (unescape? c).map (·, rest)

/-- The characters of a string up to its closing quote. The fuel bounds their
number. -/
def text : Nat → Scanner (List Char)
  | 0, _ => none
  | _ + 1, [] => none
  | fuel + 1, c :: rest =>
    if c = '"' then some ([], rest)
    else if c = '\\' then
      match escape rest with
      | some (x, rest) => (text fuel rest).map fun (cs, r) => (x :: cs, r)
      | none => none
    else if c.toNat < 32 then none
    else (text fuel rest).map fun (cs, r) => (c :: cs, r)

def string : Scanner String := fun cs =>
  match cs with
  | '"' :: rest => (text (rest.length + 1) rest).map fun (cs, r) => (String.ofList cs, r)
  | _ => none

/-- A value read from the text of a word. -/
def word (letters : List Char) (value : Json) : Scanner Json := fun cs =>
  if letters.isPrefixOf cs then some (value, cs.drop letters.length) else none

/-- Items with commas between them up to a closing bracket. The fuel bounds their
number. -/
def items {β : Type} (item : Scanner β) (close : Char) : Nat → Scanner (List β)
  | 0, _ => none
  | fuel + 1, cs =>
    match item cs with
    | none => none
    | some (x, rest) =>
      match skip rest with
      | [] => none
      | c :: rest =>
        if c = close then some ([x], rest)
        else if c = ',' then (items item close fuel rest).map fun (xs, r) => (x :: xs, r)
        else none

/-- Items up to a closing bracket, perhaps none at all. -/
def sequence {β : Type} (item : Scanner β) (close : Char) : Scanner (List β) := fun cs =>
  match skip cs with
  | [] => none
  | c :: rest => if c = close then some ([], rest) else items item close cs.length cs

/-- A name, a colon and a value. -/
def member (value : Scanner Json) : Scanner (String × Json) := fun cs =>
  match string (skip cs) with
  | none => none
  | some (name, rest) =>
    match skip rest with
    | ':' :: rest => (value rest).map fun (v, r) => ((name, v), r)
    | _ => none

/-- A value that is no array or object. -/
def scalar : Scanner Json := fun cs =>
  match cs with
  | '"' :: _ => (string cs).map fun (s, r) => (.string s, r)
  | 'n' :: _ => word ['n', 'u', 'l', 'l'] .null cs
  | 't' :: _ => word ['t', 'r', 'u', 'e'] (.bool true) cs
  | 'f' :: _ => word ['f', 'a', 'l', 's', 'e'] (.bool false) cs
  | _ => number cs

/-- A value that nests at most to a given depth, after blanks. -/
def value : Nat → Scanner Json
  | 0, cs => scalar (skip cs)
  | depth + 1, cs =>
    match skip cs with
    | '[' :: rest => (sequence (value depth) ']' rest).map fun (xs, r) => (.array xs, r)
    | '{' :: rest =>
      (sequence (member (value depth)) '}' rest).map fun (xs, r) => (.object xs, r)
    | other => scalar other

end Reader

/-- The greatest depth of nested arrays and objects. -/
def maxDepth : Nat := 127

/-- The value of a JSON text, if it is one. -/
def ofChars? (cs : List Char) : Option Json :=
  match Reader.value maxDepth cs with
  | some (j, rest) => if (Reader.skip rest).isEmpty then some j else none
  | none => none

def read? (s : String) : Option Json := ofChars? s.toList

end Roadway.Json
