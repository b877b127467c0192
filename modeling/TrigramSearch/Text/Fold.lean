import TrigramSearch.Text.LetterCase

/-!
# Folding of text

Texts and literals are compared through their fold, in which letter case is lost. The fold goes
character by character and looks at nothing else, so it turns a contiguous part of a text into a
contiguous part of the folded text (`fold_append`): whatever is contained before folding is
contained after it.
-/

namespace TrigramSearch.Text

/-- The fold of one character: its lower case, except that the long s becomes an `s`, whose case
variant it is although its lower case is itself. -/
def foldChar (c : Char) : List Char :=
  if c.toNat = 0x17f then ['s'] else LetterCase.lowerCase c

/-- The fold of a text. -/
def fold (text : List Char) : List Char := text.flatMap foldChar

@[simp] theorem fold_nil : fold [] = [] := rfl

@[simp] theorem fold_cons (c : Char) (cs : List Char) :
    fold (c :: cs) = foldChar c ++ fold cs := rfl

@[simp] theorem fold_append (s t : List Char) : fold (s ++ t) = fold s ++ fold t := by
  simp [fold]

end TrigramSearch.Text
