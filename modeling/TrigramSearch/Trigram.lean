import Std.Data.TreeSet.Basic
import TrigramSearch.Text.Fold

/-!
# Trigrams

A trigram is a window of three consecutive characters of a folded text. A text that contains a
literal contains every trigram of the literal, so the absence of one trigram proves that the
literal does not occur.

## Main definitions

* `Trigram.windows`: every window of a folded text, from left to right, with repetitions.
* `Trigram.ofText`: the distinct trigrams of a text, in the order in which they first occur.
* `Trigram.ofTexts`: the distinct trigrams of several texts; no trigram spans two of them.
-/

namespace TrigramSearch

/-- Three consecutive characters of a folded text. -/
structure Trigram where
  first : Char
  second : Char
  third : Char
deriving DecidableEq, Inhabited

namespace Trigram

def toList (g : Trigram) : List Char := [g.first, g.second, g.third]

def toString (g : Trigram) : String := String.ofList g.toList

/-- The windows of a text that is already folded. -/
def windowsOf : List Char → List Trigram
  | a :: b :: c :: rest => ⟨a, b, c⟩ :: windowsOf (b :: c :: rest)
  | _ => []

/-- Every window of the folded text, from left to right. -/
def windows (text : List Char) : List Trigram := windowsOf (Text.fold text)

/-- A number that tells trigrams apart: code points have fewer than 21 bits. -/
def code (g : Trigram) : Nat := (g.first.toNat <<< 21 + g.second.toNat) <<< 21 + g.third.toNat

/-- The members of a list whose codes are not in `seen`, each at its first occurrence. -/
def distinctFrom (seen : Std.TreeSet Nat) : List Trigram → List Trigram
  | [] => []
  | g :: gs =>
    if seen.contains g.code then distinctFrom seen gs
    else g :: distinctFrom (seen.insert g.code) gs

/-- Keeps the first occurrence of every member. -/
def distinct (gs : List Trigram) : List Trigram := distinctFrom ∅ gs

/-- The distinct trigrams of a text, in first-seen order. A text that folds to fewer than three
characters has none. -/
def ofText (text : List Char) : List Trigram := distinct (windows text)

/-- The distinct trigrams of several texts, in first-seen order. -/
def ofTexts (texts : List (List Char)) : List Trigram := distinct (texts.flatMap ofText)

/-- The length in which literals are measured: that of the folded text. -/
def foldedLength (text : List Char) : Nat := (Text.fold text).length

end Trigram
end TrigramSearch
