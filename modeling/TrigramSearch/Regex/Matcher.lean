import TrigramSearch.Regex.Expr

/-!
# Matching by sets of positions

Whether a text contains a match is decided for all positions at once. A set of positions is a
natural number whose bit `i` stands for position `i`. An expression maps the positions where a
match may start to those where it may end; a set of characters is a mask followed by a shift, and
a repetition goes on until no new position is found, which takes no more rounds than there are
positions.

## Main definitions

* `Program`: an expression with its masks for one text.
* `Program.ends`: from start positions to end positions.
* `Expr.isMatch`: whether a text contains a match.
-/

namespace TrigramSearch.Regex

/-- An expression prepared for one text: sets of characters and assertions have become masks of
positions. -/
inductive Program where
  | empty
  | step (mask : Nat)
  | guard (mask : Nat)
  | concat (first second : Program)
  | either (first second : Program)
  | repeated (least : Nat) (most : Option Nat) (body : Program)

namespace Program

/-- The positions before a character of a set. -/
def charMask (set : CharSet) : List Char → Nat
  | [] => 0
  | c :: rest => (charMask set rest <<< 1) ||| (if set.contains c then 1 else 0)

/-- The positions, from the one after `before` on, where an assertion holds. -/
def lookMask (l : Look) (before : Option Char) : List Char → Nat
  | [] => if l.holds before none then 1 else 0
  | c :: rest =>
    (lookMask l (some c) rest <<< 1) ||| (if l.holds before (some c) then 1 else 0)

/-- The program of an expression for a text. -/
def ofExpr (text : List Char) : Expr → Program
  | .empty => empty
  | .chars set => step (charMask set text)
  | .look l => guard (lookMask l none text)
  | .concat a b => concat (ofExpr text a) (ofExpr text b)
  | .either a b => either (ofExpr text a) (ofExpr text b)
  | .repeated least most body => repeated least most (ofExpr text body)
  | .group body => ofExpr text body

/-- Applies a function a number of times, or until nothing changes. -/
def iterate (f : Nat → Nat) : Nat → Nat → Nat
  | 0, s => s
  | n + 1, s =>
    let next := f s
    if next = s then s else iterate f n next

/-- The positions reached from the starts by a program. The second argument bounds the number of
positions. -/
def ends (bound : Nat) : Program → Nat → Nat
  | empty, s => s
  | step mask, s => (s &&& mask) <<< 1
  | guard mask, s => s &&& mask
  | concat a b, s => ends bound b (ends bound a s)
  | either a b, s => ends bound a s ||| ends bound b s
  | repeated least most body, s =>
    let start := iterate (ends bound body) least s
    let rounds := match most with
      | some m => m - least
      | none => bound
    iterate (fun t => start ||| ends bound body t) rounds start

end Program

namespace Expr

/-- Whether some part of a text matches. -/
def isMatch (e : Expr) (text : List Char) : Bool :=
  (Program.ofExpr text e).ends (text.length + 1) ((1 <<< (text.length + 1)) - 1) != 0

end Expr
end TrigramSearch.Regex
