import Roadway.Number.Decimal
import Roadway.Text.Scan
import Roadway.Toml.Value

/-!
# Text in TOML

Blanks, comments, line ends, strings and keys. Lines end with a line feed, perhaps
after a carriage return, and a carriage return stands nowhere else; of the other
control characters texts hold only the tab. A line end inside a string counts as a
line feed.
-/
namespace Roadway.Toml
open Scan

/-- Characters of comments and strings. -/
def isTextChar (c : Char) : Bool := c == '\t' || (decide (32 ≤ c.toNat) && c.toNat != 127)

def isBlank (c : Char) : Bool := c == ' ' || c == '\t'

/-- The text after blanks. -/
def skipBlanks (cs : List Char) : List Char := cs.dropWhile isBlank

/-- The text after a line end. -/
def lineEnd? : List Char → Option (List Char)
  | '\n' :: rest => some rest
  | '\r' :: '\n' :: rest => some rest
  | _ => none

/-- The text after blanks, comments and line ends. The fuel bounds their number. -/
def skipVoid : Nat → List Char → List Char
  | 0, cs => cs
  | fuel + 1, cs =>
    match cs with
    | '\n' :: rest => skipVoid fuel rest
    | '\r' :: '\n' :: rest => skipVoid fuel rest
    | '#' :: rest => skipVoid fuel (rest.dropWhile isTextChar)
    | c :: rest => if isBlank c then skipVoid fuel rest else cs
    | [] => []

/-- The character with a code point, unless it is a surrogate or out of range. -/
def charOf? (n : Nat) : Option Char := if n.isValidChar then some (Char.ofNat n) else none

/-- The character that an escape stands for, after the backslash. -/
def escape : Scanner Char
  | 'b' :: rest => some ('\x08', rest)
  | 't' :: rest => some ('\t', rest)
  | 'n' :: rest => some ('\n', rest)
  | 'f' :: rest => some ('\x0c', rest)
  | 'r' :: rest => some ('\r', rest)
  | '"' :: rest => some ('"', rest)
  | '\\' :: rest => some ('\\', rest)
  | 'u' :: rest => coded 4 rest
  | 'U' :: rest => coded 8 rest
  | _ => none
where
  /-- The character with a code point of so many hexadecimal digits. -/
  coded (size : Nat) (cs : List Char) : Option (Char × List Char) :=
    if cs.length < size then none
    else ((natIn? 16 (cs.take size)).bind charOf?).map (·, cs.drop size)

/-- The characters of a string in double quotes, up to its end. -/
def basicText : Nat → Scanner (List Char)
  | 0, _ => none
  | fuel + 1, cs =>
    match cs with
    | '"' :: rest => some ([], rest)
    | '\\' :: rest =>
      match escape rest with
      | some (c, rest) => (basicText fuel rest).map fun (text, r) => (c :: text, r)
      | none => none
    | c :: rest =>
      if isTextChar c then (basicText fuel rest).map fun (text, r) => (c :: text, r) else none
    | [] => none

/-- The characters of a string in single quotes, up to its end. -/
def literalText : Scanner (List Char)
  | [] => none
  | c :: rest =>
    if c = '\'' then some ([], rest)
    else if isTextChar c then (literalText rest).map fun (text, r) => (c :: text, r)
    else none

/-- A string on one line. -/
def lineString : Scanner String
  | '"' :: rest => (basicText (rest.length + 1) rest).map fun (cs, r) => (String.ofList cs, r)
  | '\'' :: rest => (literalText rest).map fun (cs, r) => (String.ofList cs, r)
  | _ => none

/-- The text after blanks and line ends. -/
def skipLines : List Char → List Char
  | '\n' :: rest => skipLines rest
  | '\r' :: '\n' :: rest => skipLines rest
  | c :: rest => if isBlank c then skipLines rest else c :: rest
  | [] => []

/-- The text after a backslash at the end of a line: the blanks and line ends that
follow it do not count. -/
def lineJoin? (cs : List Char) : Option (List Char) := (lineEnd? (skipBlanks cs)).map skipLines

/-- The characters of a string in triple quotes, up to its end. The quotes of its
end may follow up to two quotes that belong to it. -/
def blockText (quote : Char) : Nat → Scanner (List Char)
  | 0, _ => none
  | fuel + 1, cs =>
    let add (c : Char) (rest : List Char) : Option (List Char × List Char) :=
      (blockText quote fuel rest).map fun (text, r) => (c :: text, r)
    match cs with
    | [] => none
    | '\n' :: rest => add '\n' rest
    | '\r' :: '\n' :: rest => add '\n' rest
    | c :: rest =>
      if c = quote then
        let run := (cs.takeWhile (· == quote)).length
        if run < 3 then add c rest
        else
          let kept := min (run - 3) 2
          some (List.replicate kept quote, cs.drop (kept + 3))
      else if c = '\\' ∧ quote = '"' then
        match lineJoin? rest with
        | some rest => blockText quote fuel rest
        | none =>
          match escape rest with
          | some (x, rest) => add x rest
          | none => none
      else if isTextChar c then add c rest
      else none

/-- A string in triple quotes. A line end right after the opening quotes does not
count. -/
def blockString (quote : Char) (cs : List Char) : Option (String × List Char) :=
  let body := (lineEnd? cs).getD cs
  (blockText quote (body.length + 1) body).map fun (text, r) => (String.ofList text, r)

/-- A string of any form. -/
def anyString : Scanner String
  | '"' :: '"' :: '"' :: rest => blockString '"' rest
  | '\'' :: '\'' :: '\'' :: rest => blockString '\'' rest
  | cs => lineString cs

def isBareChar (c : Char) : Bool :=
  c.isAlphanum || c == '-' || c == '_'

def simpleKey : Scanner String := fun cs =>
  match cs with
  | '"' :: _ => lineString cs
  | '\'' :: _ => lineString cs
  | _ =>
    match cs.span isBareChar with
    | ([], _) => none
    | (bare, rest) => some (String.ofList bare, rest)

/-- The parts of a dotted key, with blanks around each. The fuel bounds their
number. -/
def keyParts : Nat → Scanner (List String)
  | 0, _ => none
  | fuel + 1, cs =>
    match simpleKey (skipBlanks cs) with
    | none => none
    | some (part, rest) =>
      match skipBlanks rest with
      | '.' :: rest => (keyParts fuel rest).map fun (parts, r) => (part :: parts, r)
      | rest => some ([part], rest)

/-- One more than the number of parts that a key may have, and than the depth to
which arrays and inline tables may nest. -/
def nestingLimit : Nat := 80

/-- A dotted key as the path in front of its last part and that part. -/
def key : Scanner (List String × String) := fun cs =>
  match keyParts (nestingLimit - 1) cs with
  | some (parts, rest) => parts.getLast?.map fun last => ((parts.dropLast, last), rest)
  | none => none

end Roadway.Toml
