import Roadway.Toml.Date
import Roadway.Toml.Number
import Roadway.Toml.Text

/-!
# Reading TOML

A document is a sequence of lines, each a member, a header or void. `Toml.read?`
assembles the table that they describe, or refuses the document as a whole.

## Main definitions

* `Line` — a line of a document.
* `Toml.read?` — the table of a document.
-/
namespace Roadway.Toml

/-- The items of an array up to its closing bracket, with commas between them and
perhaps one after the last. The fuel bounds their number. -/
def arrayItems (value : Scanner Toml) : Nat → Scanner (List Toml)
  | 0, _ => none
  | fuel + 1, cs =>
    match skipVoid cs.length cs with
    | ']' :: rest => some ([], rest)
    | cs =>
      match value cs with
      | none => none
      | some (item, rest) =>
        match skipVoid rest.length rest with
        | ',' :: rest => (arrayItems value fuel rest).map fun (items, r) => (item :: items, r)
        | ']' :: rest => some ([item], rest)
        | _ => none

/-- A dotted key, an equals sign and a value. -/
def entry (value : Scanner Toml) : Scanner Entry := fun cs =>
  match key cs with
  | some ((path, name), '=' :: rest) =>
    (value (skipBlanks rest)).map fun (v, r) => (⟨path, name, v⟩, r)
  | _ => none

/-- The entries of a table in braces, on one line and with commas between them. -/
def inlineEntries (value : Scanner Toml) : Nat → Scanner (List Entry)
  | 0, _ => none
  | fuel + 1, cs =>
    match entry value cs with
    | none => none
    | some (e, rest) =>
      match skipBlanks rest with
      | ',' :: rest => (inlineEntries value fuel rest).map fun (es, r) => (e :: es, r)
      | '}' :: rest => some ([e], rest)
      | _ => none

/-- A table after its opening brace. -/
def inlineTable (value : Scanner Toml) : Scanner Toml := fun cs =>
  match skipBlanks cs with
  | '}' :: rest => some (.table .inline [], rest)
  | cs =>
    match inlineEntries value cs.length cs with
    | some (es, rest) => (Members.insertAll [] es).map fun ms => (.table .inline ms, rest)
    | none => none

/-- A value that is no array or table in braces. -/
def scalar : Scanner Toml := fun cs =>
  match cs with
  | '"' :: _ => (anyString cs).map fun (s, r) => (.string s, r)
  | '\'' :: _ => (anyString cs).map fun (s, r) => (.string s, r)
  | 't' :: 'r' :: 'u' :: 'e' :: rest => some (.boolean true, rest)
  | 'f' :: 'a' :: 'l' :: 's' :: 'e' :: rest => some (.boolean false, rest)
  | _ => (anyDatetime cs).or (number cs)

/-- A value in which arrays and tables in braces nest to a given depth. -/
def value : Nat → Scanner Toml
  | 0, cs => scalar cs
  | depth + 1, cs =>
    match cs with
    | '[' :: rest =>
      (arrayItems (value depth) (rest.length + 1) rest).map fun (xs, r) => (.array xs, r)
    | '{' :: rest => inlineTable (value depth) rest
    | cs => scalar cs

/-- A line of a document. -/
inductive Line
  | void
  | member (entry : Entry)
  | header (repeated : Bool) (path : List String) (name : String)

/-- What stands at the start of a line. -/
def lineContent : Scanner Line := fun cs =>
  match cs with
  | '[' :: '[' :: rest =>
    match key rest with
    | some ((path, name), ']' :: ']' :: rest) => some (.header true path name, rest)
    | _ => none
  | '[' :: rest =>
    match key rest with
    | some ((path, name), ']' :: rest) => some (.header false path name, rest)
    | _ => none
  | [] => some (.void, [])
  | c :: _ =>
    if c = '#' ∨ c = '\n' ∨ c = '\r' then some (.void, cs)
    else (entry (value (nestingLimit - 1)) cs).map fun (e, r) => (.member e, r)

/-- The text after blanks and perhaps a comment. -/
def afterComment (cs : List Char) : List Char :=
  match skipBlanks cs with
  | '#' :: rest => rest.dropWhile isTextChar
  | cs => cs

/-- The lines of a document. The fuel bounds their number. -/
def lines? : Nat → List Char → Option (List Line)
  | 0, _ => none
  | fuel + 1, cs =>
    match lineContent (skipBlanks cs) with
    | none => none
    | some (line, rest) =>
      match afterComment rest with
      | [] => some [line]
      | rest =>
        match lineEnd? rest with
        | some rest => (lines? fuel rest).map (line :: ·)
        | none => none

/-- The entries in front of the first header, and the sections. -/
def sections (lines : List Line) : List Entry × List Section :=
  lines.foldr
    (fun line (entries, rest) =>
      match line with
      | .void => (entries, rest)
      | .member e => (e :: entries, rest)
      | .header repeated path name => ([], ⟨repeated, path, name, entries⟩ :: rest))
    ([], [])

/-- The table of a document; a byte order mark may stand in front of it. -/
def ofChars? (cs : List Char) : Option Toml :=
  let body := match cs with
    | '\uFEFF' :: rest => rest
    | cs => cs
  match lines? (body.length + 1) body with
  | some lines =>
    let (entries, sections) := sections lines
    assemble entries sections
  | none => none

def read? (s : String) : Option Toml := ofChars? s.toList

end Roadway.Toml
