import TrigramSearch.Text.LetterCase

/-!
# Sets of characters

A set of characters is a list of ranges of code points, in increasing order and with a gap
between any two of them. Union adds ranges one by one; every other operation is made from union
and complement.

## Main definitions

* `CharSet.contains`: membership.
* `CharSet.ofRanges`, `union`, `complement`, `intersection`, `difference`,
  `symmetricDifference`.
* `CharSet.closeUnderCase`: the case variants of all members.
-/

namespace TrigramSearch.Regex

/-- A set of code points, given by increasing ranges with gaps between them. -/
structure CharSet where
  ranges : List (Nat × Nat)
deriving DecidableEq, Inhabited

namespace CharSet

/-- Membership in a list of increasing ranges. -/
def containedIn (n : Nat) : List (Nat × Nat) → Bool
  | [] => false
  | (lo, hi) :: rest => if n < lo then false else if n ≤ hi then true else containedIn n rest

def containsCode (s : CharSet) (n : Nat) : Bool := containedIn n s.ranges

def contains (s : CharSet) (c : Char) : Bool := s.containsCode c.toNat

/-- The greatest code point. -/
def lastCode : Nat := 0x10ffff

/-- Adds a range; ranges that it meets or touches are merged with it. -/
def insertRange (lo hi : Nat) : List (Nat × Nat) → List (Nat × Nat)
  | [] => [(lo, hi)]
  | (a, b) :: rest =>
    if hi + 1 < a then (lo, hi) :: (a, b) :: rest
    else if b + 1 < lo then (a, b) :: insertRange lo hi rest
    else insertRange (min lo a) (max hi b) rest

def empty : CharSet := ⟨[]⟩

def ofRanges (rs : List (Nat × Nat)) : CharSet :=
  ⟨rs.foldl (fun acc r => insertRange r.1 r.2 acc) []⟩

def singleton (c : Char) : CharSet := ⟨[(c.toNat, c.toNat)]⟩

def union (s t : CharSet) : CharSet :=
  ⟨t.ranges.foldl (fun acc r => insertRange r.1 r.2 acc) s.ranges⟩

/-- The gaps between ranges, from `start` up to `last`. -/
def gaps (last : Nat) : Nat → List (Nat × Nat) → List (Nat × Nat)
  | start, [] => if start ≤ last then [(start, last)] else []
  | start, (lo, hi) :: rest =>
    if start < lo then (start, lo - 1) :: gaps last (hi + 1) rest else gaps last (hi + 1) rest

/-- All code points up to `last` outside of the set. -/
def complementUpTo (last : Nat) (s : CharSet) : CharSet := ⟨gaps last 0 s.ranges⟩

def complement (s : CharSet) : CharSet := s.complementUpTo lastCode

def intersection (s t : CharSet) : CharSet := (s.complement.union t.complement).complement

def difference (s t : CharSet) : CharSet := (s.complement.union t).complement

def symmetricDifference (s t : CharSet) : CharSet :=
  (s.union t).difference (s.intersection t)

/-- Whether all members are ASCII characters. -/
def isAscii (s : CharSet) : Bool := s.ranges.all fun r => r.2 < 128

/-- Adds the representative of every member. -/
def addRepresentatives (s : CharSet) : CharSet :=
  LetterCase.foldTable.foldl (fun acc r =>
    r.members.foldl (fun acc c =>
      let f := r.move c
      if s.containsCode c && !acc.containsCode f then ⟨insertRange f f acc.ranges⟩ else acc) acc) s

/-- Adds every code point whose representative is a member. -/
def addRepresented (s : CharSet) : CharSet :=
  LetterCase.foldTable.foldl (fun acc r =>
    r.members.foldl (fun acc c =>
      if s.containsCode (r.move c) && !acc.containsCode c then ⟨insertRange c c acc.ranges⟩
      else acc) acc) s

/-- All case variants of the members. -/
def closeUnderCase (s : CharSet) : CharSet := s.addRepresentatives.addRepresented

/-- The case variants of one character. -/
def variantsOf (c : Char) : CharSet := ofRanges ((LetterCase.variants c.toNat).map fun n => (n, n))

/-- Adds the other case of every ASCII letter, and nothing else. -/
def closeUnderAsciiCase (s : CharSet) : CharSet :=
  (List.range 26).foldl (fun acc i =>
    let upper := 0x41 + i
    let lower := 0x61 + i
    if s.containsCode upper || s.containsCode lower then
      ⟨insertRange lower lower (insertRange upper upper acc.ranges)⟩
    else acc) s

end CharSet
end TrigramSearch.Regex
