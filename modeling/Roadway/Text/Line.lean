/-!
# Lines of text

Lines end at line feeds, and trimming takes off all white space of Unicode.
-/
namespace Roadway.Text

/-- The code points of white space, as ranges. -/
def whiteSpace : List (Nat × Nat) :=
  [(0x9, 0xD), (0x20, 0x20), (0x85, 0x85), (0xA0, 0xA0), (0x1680, 0x1680), (0x2000, 0x200A),
    (0x2028, 0x2029), (0x202F, 0x202F), (0x205F, 0x205F), (0x3000, 0x3000)]

def isWhiteSpace (c : Char) : Bool :=
  whiteSpace.any fun (low, high) => decide (low ≤ c.toNat) && decide (c.toNat ≤ high)

/-- A text without the white space at both ends. -/
def trim (cs : List Char) : List Char :=
  ((cs.dropWhile isWhiteSpace).reverse.dropWhile isWhiteSpace).reverse

/-- The lines of a text behind the characters `current` of a line, last one first.
A last line without a line feed counts unless it is empty. -/
def linesFrom (current : List Char) : List Char → List (List Char)
  | [] => if current.isEmpty then [] else [current.reverse]
  | c :: rest =>
    if c = '\n' then current.reverse :: linesFrom [] rest else linesFrom (c :: current) rest

/-- The lines of a text, without their line feeds. -/
def lines (text : String) : List String := (linesFrom [] text.toList).map String.ofList

end Roadway.Text
