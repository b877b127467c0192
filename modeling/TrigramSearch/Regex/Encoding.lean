import TrigramSearch.Regex.CharSet

/-!
# Encodings of sets

A set of characters as a set of byte sequences: the encodings of its members. They are given by
sequences of byte ranges, in increasing order, or by the tree of these sequences.

## Main definitions

* `encodeCode`: the bytes of a code point.
* `CharSet.sequences`: the byte sequences of a set.
* `ByteTree.ofSet`: the tree of the sequences of a set.
-/

namespace TrigramSearch.Regex

/-- A range of bytes. -/
abbrev ByteRange := Nat × Nat

/-- The encoding of a code point as bytes. -/
def encodeCode (n : Nat) : List Nat :=
  if n < 0x80 then [n]
  else if n < 0x800 then [0xc0 + n / 64, 0x80 + n % 64]
  else if n < 0x10000 then [0xe0 + n / 4096, 0x80 + n / 64 % 64, 0x80 + n % 64]
  else [0xf0 + n / 262144, 0x80 + n / 4096 % 64, 0x80 + n / 64 % 64, 0x80 + n % 64]

/-- The ends of the ranges in which all encodings have one length, and of the code points before
those that are no characters. -/
def lengthBounds : List Nat := [0x7f, 0x7ff, 0xd7ff, 0xffff]

/-- Where to cut a range so that its parts are ranges in every byte: the last code point of the
first part. -/
def cut? (lo hi : Nat) : Option Nat :=
  match lengthBounds.find? fun b => lo ≤ b && b < hi with
  | some b => some b
  | none =>
    if hi < 0x80 then none
    else
      [64, 4096, 262144].findSome? fun m =>
        if lo / m = hi / m then none
        else if lo % m ≠ 0 then some (lo / m * m + m - 1)
        else if hi % m ≠ m - 1 then some (hi / m * m - 1)
        else none

/-- The byte sequences that encode a range of code points, in order. -/
def sequencesOfRange : Nat → Nat → Nat → List (List ByteRange)
  | 0, _, _ => []
  | fuel + 1, lo, hi =>
    if 0xd800 ≤ lo && lo ≤ 0xdfff then
      if hi ≤ 0xdfff then [] else sequencesOfRange fuel 0xe000 hi
    else
      match cut? lo hi with
      | some m => sequencesOfRange fuel lo m ++ sequencesOfRange fuel (m + 1) hi
      | none => [(encodeCode lo).zip (encodeCode hi)]

/-- The byte sequences that encode the members of a set. -/
def CharSet.sequences (s : CharSet) : List (List ByteRange) :=
  s.ranges.flatMap fun r => sequencesOfRange 32 r.1 r.2

/-- A tree of byte sequences; a leaf is the end of a sequence. -/
inductive ByteTree where
  | node (edges : List (ByteRange × ByteTree))
deriving Inhabited

namespace ByteTree

/-- The edges of a node, the last one first. -/
def edges : ByteTree → List (ByteRange × ByteTree)
  | node es => es

/-- Puts a sequence into a tree whose last branch may begin with the same ranges. -/
def insert : List ByteRange → ByteTree → ByteTree
  | [], t => t
  | r :: rest, node ((q, t) :: es) =>
    if q = r then node ((q, insert rest t) :: es)
    else node ((r, insert rest (node [])) :: (q, t) :: es)
  | r :: rest, node [] => node [(r, insert rest (node []))]

/-- The tree of the encodings of a set. -/
def ofSet (s : CharSet) : ByteTree := s.sequences.foldl (fun t q => insert q t) (node [])

end ByteTree
end TrigramSearch.Regex
