import TrigramSearch.Regex.CharSet
import TrigramSearch.Regex.Ast
import TrigramSearch.Regex.Property.Word

/-!
# Regular expressions and what they match

An expression is a pattern with its flags applied: each place matches one character out of a set,
or makes an assertion about a position. `Expr.Matches` says, by recursion on the expression, from
which position of a text to which position an expression matches; a position is the number of
characters before it.

Where several ways to match exist, none is preferred: only whether a text contains a match is of
interest.
-/

namespace TrigramSearch.Regex

/-- An assertion about a position, with the flags it was written under. -/
inductive Look where
  | textStart
  | textEnd
  /-- The start of a line; with `crlf`, a carriage return ends a line too. -/
  | lineStart (crlf : Bool)
  | lineEnd (crlf : Bool)
  /-- A word assertion, with the word characters of Unicode or of ASCII. -/
  | word (unicode : Bool) (kind : WordAssertion)
deriving DecidableEq, Inhabited

/-- Word characters: those of Unicode, or ASCII letters, digits and the underscore. -/
def isWordChar (unicode : Bool) (c : Char) : Bool :=
  if unicode then Property.isWordChar c else c.isAlphanum || c = '_'

/-- Whether an assertion holds between two characters; at the ends of the text one is missing. -/
def Look.holds (before after : Option Char) : Look → Bool
  | textStart => before.isNone
  | textEnd => after.isNone
  | lineStart false => before.isNone || before == some '\n'
  | lineStart true =>
    before.isNone || before == some '\n' || (before == some '\r' && after != some '\n')
  | lineEnd false => after.isNone || after == some '\n'
  | lineEnd true =>
    after.isNone || after == some '\r' || (after == some '\n' && before != some '\r')
  | word unicode kind =>
    let left := before.any (isWordChar unicode)
    let right := after.any (isWordChar unicode)
    match kind with
    | .boundary => left != right
    | .noBoundary => left == right
    | .start => !left && right
    | .finish => left && !right
    | .startHalf => !left
    | .finishHalf => !right

/-- A regular expression. -/
inductive Expr where
  | empty
  | chars (set : CharSet)
  | look (l : Look)
  | concat (first second : Expr)
  | either (first second : Expr)
  /-- At least `least` times in a row, and at most `most` times if that is given. -/
  | repeated (least : Nat) (most : Option Nat) (body : Expr)
  /-- A capturing group; it matches what its body matches. -/
  | group (body : Expr)
deriving DecidableEq, Inhabited

namespace Expr

/-- The character before a position. -/
def charBefore (text : List Char) (i : Nat) : Option Char := if i = 0 then none else text[i - 1]?

/-- A relation between positions, applied a number of times in a row. -/
def times (step : Nat → Nat → Prop) : Nat → Nat → Nat → Prop
  | 0, i, j => i = j
  | n + 1, i, j => ∃ k, step i k ∧ times step n k j

/-- `e.Matches text i j`: the part of the text from position `i` to position `j` matches. -/
def Matches (text : List Char) : Expr → Nat → Nat → Prop
  | empty, i, j => i = j ∧ i ≤ text.length
  | chars set, i, j => j = i + 1 ∧ ∃ c, text[i]? = some c ∧ set.contains c = true
  | look l, i, j => i = j ∧ i ≤ text.length ∧ l.holds (charBefore text i) text[i]? = true
  | concat a b, i, j => ∃ k, Matches text a i k ∧ Matches text b k j
  | either a b, i, j => Matches text a i j ∨ Matches text b i j
  | repeated least most body, i, j =>
    i ≤ text.length ∧
      ∃ n, least ≤ n ∧ (∀ m ∈ most, n ≤ m) ∧ times (Matches text body) n i j
  | group body, i, j => Matches text body i j

/-- A text matches if some part of it does. -/
def Accepts (e : Expr) (text : List Char) : Prop := ∃ i j, e.Matches text i j

/-- Expressions one after the other. -/
def ofList : List Expr → Expr
  | [] => empty
  | [e] => e
  | e :: rest => concat e (ofList rest)

/-- Any one of several expressions. -/
def anyOf : List Expr → Expr
  | [] => chars CharSet.empty
  | [e] => e
  | e :: rest => either e (anyOf rest)

end Expr
end TrigramSearch.Regex
