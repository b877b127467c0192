/-!
# Tables of code points

Sets of code points are written as lines of text: hexadecimal numbers and ranges such as `41-5a`,
in increasing order, with a blank between any two of a line.
-/

namespace TrigramSearch.Regex.Property

/-- A set of code points under its names. -/
structure Entry where
  names : List String
  lines : List String

def hexValue (c : Char) : Nat := if c.toNat < 58 then c.toNat - 48 else c.toNat - 87

/-- Reads ranges: `first` holds the start of the current range once its hyphen has been read,
`n` the number being read. The text is one line. -/
def readRanges (first : Option Nat) (n : Nat) : List Char → List (Nat × Nat)
  | [] => [(first.getD n, n)]
  | c :: rest =>
    if c = ' ' then (first.getD n, n) :: readRanges none 0 rest
    else if c = '-' then readRanges (some n) 0 rest
    else readRanges first (n * 16 + hexValue c) rest

/-- The ranges on several lines. -/
def rangesOfLines (lines : List String) : List (Nat × Nat) :=
  lines.flatMap fun s => readRanges none 0 s.toList

def Entry.ranges (e : Entry) : List (Nat × Nat) := rangesOfLines e.lines

/-- The entry of a name. -/
def find? (table : List Entry) (name : String) : Option Entry :=
  table.find? fun e => e.names.contains name

end TrigramSearch.Regex.Property
