import TrigramSearch.Regex.Expr

/-!
# Normal forms of expressions

Patterns that are written differently can have one normal form: adjacent texts are joined,
sequences and choices that stand in each other are merged, a choice between single characters is a
set, a beginning that all branches of a choice have in common stands in front of it, and a
repetition of what is always empty occurs at most once. The size of a pattern is that of its
normal form.

The constructors of `NormalForm` do not keep these rules; the functions `NormalForm.ofSet`,
`concatAll`, `eitherOf` and `repeatOf` do.
-/

namespace TrigramSearch.Regex

/-- An expression in normal form. -/
inductive NormalForm where
  | empty
  /-- A text, given by the code points of its characters; it has at least one. -/
  | text (codes : List Nat)
  /-- A set of characters, or of bytes; it has no member or more than one. -/
  | chars (set : CharSet) (asBytes : Bool)
  | look (l : Look)
  | repeated (r : Repetition) (body : NormalForm)
  /-- A capturing group. -/
  | group (body : NormalForm)
  /-- At least two parts, none of which is empty or has parts. -/
  | concat (parts : List NormalForm)
  /-- At least two branches, none of which has branches. -/
  | either (branches : List NormalForm)
deriving Inhabited

namespace NormalForm

mutual

/-- Whether two forms are the same. No two groups are: each captures a text of its own. -/
def same : NormalForm → NormalForm → Bool
  | empty, empty => true
  | text a, text b => a == b
  | chars s a, chars t b => s == t && a == b
  | look l, look m => l == m
  | repeated r a, repeated q b => r == q && same a b
  | concat ps, concat qs => sameAll ps qs
  | either ps, either qs => sameAll ps qs
  | _, _ => false

def sameAll : List NormalForm → List NormalForm → Bool
  | [], [] => true
  | p :: ps, q :: qs => same p q && sameAll ps qs
  | _, _ => false

end

mutual

/-- The number of constructors in a form. -/
def size : NormalForm → Nat
  | repeated _ body => body.size + 1
  | group body => body.size + 1
  | concat parts => sizeAll parts + 1
  | either branches => sizeAll branches + 1
  | _ => 1

def sizeAll : List NormalForm → Nat
  | [] => 0
  | p :: ps => p.size + sizeAll ps

end

/-! ## Lengths of matches -/

mutual

/-- Whether all matches are empty, and there may be some. -/
def isZeroWidth : NormalForm → Bool
  | empty => true
  | look _ => true
  | text _ => false
  | chars _ _ => false
  | repeated r body => r.most.isSome && body.isZeroWidth
  | group body => body.isZeroWidth
  | concat parts => allZeroWidth parts
  | either branches => allZeroWidth branches

def allZeroWidth : List NormalForm → Bool
  | [] => true
  | p :: ps => p.isZeroWidth && allZeroWidth ps

end

mutual

/-- A lower bound for the lengths of matches, which is zero only if there may be an empty one;
`none` if some part of the form never matches. -/
def leastLength? : NormalForm → Option Nat
  | empty => some 0
  | look _ => some 0
  | text codes => some codes.length
  | chars s _ => if s.ranges.isEmpty then none else some 1
  | repeated r body => body.leastLength?.map (r.least * ·)
  | group body => body.leastLength?
  | concat parts => (leastLengths? parts).map (·.foldl (· + ·) 0)
  | either branches => (leastLengths? branches).map fun ns => ns.min?.getD 0

def leastLengths? : List NormalForm → Option (List Nat)
  | [] => some []
  | p :: ps =>
    match p.leastLength?, leastLengths? ps with
    | some n, some ns => some (n :: ns)
    | _, _ => none

end

/-- Whether there is a match, and none is empty. -/
def hasWidth (n : NormalForm) : Bool := n.leastLength?.any (0 < ·)

/-! ## Anchors -/

mutual

/-- Whether every match has to begin at the start of the text: an assertion of this stands before
everything that may have a width. -/
def isAnchoredAtStart : NormalForm → Bool
  | look l => l == .textStart
  | repeated r body => 0 < r.least && body.isAnchoredAtStart
  | group body => body.isAnchoredAtStart
  | concat parts => firstAnchoredAtStart parts
  | either branches => allAnchoredAtStart branches
  | _ => false

def firstAnchoredAtStart : List NormalForm → Bool
  | [] => false
  | p :: ps => p.isAnchoredAtStart || (p.isZeroWidth && firstAnchoredAtStart ps)

def allAnchoredAtStart : List NormalForm → Bool
  | [] => true
  | p :: ps => p.isAnchoredAtStart && allAnchoredAtStart ps

end

mutual

/-- Whether every match has to finish at the end of the text. -/
def isAnchoredAtEnd : NormalForm → Bool
  | look l => l == .textEnd
  | repeated r body => 0 < r.least && body.isAnchoredAtEnd
  | group body => body.isAnchoredAtEnd
  | concat parts => lastAnchoredAtEnd parts
  | either branches => allAnchoredAtEnd branches
  | _ => false

def lastAnchoredAtEnd : List NormalForm → Bool
  | [] => false
  | p :: ps => lastAnchoredAtEnd ps || (allZeroWidth ps && p.isAnchoredAtEnd)

def allAnchoredAtEnd : List NormalForm → Bool
  | [] => true
  | p :: ps => p.isAnchoredAtEnd && allAnchoredAtEnd ps

end

/-! ## Constructors that keep the rules -/

/-- A form without matches. -/
def fail : NormalForm := chars CharSet.empty true

/-- A set of characters; a single member is a text. -/
def ofSet (s : CharSet) (asBytes : Bool) : NormalForm :=
  match s.ranges with
  | [] => fail
  | [(lo, hi)] => if lo = hi then text [lo] else chars s asBytes
  | _ => chars s asBytes

/-- The parts of a sequence. -/
def parts : NormalForm → List NormalForm
  | empty => []
  | concat ps => ps
  | n => [n]

/-- Joins adjacent texts. -/
def joinTexts : List NormalForm → List NormalForm
  | [] => []
  | text a :: rest =>
    match joinTexts rest with
    | text b :: more => text (a ++ b) :: more
    | more => text a :: more
  | n :: rest => n :: joinTexts rest

/-- A sequence. -/
def concatAll (ns : List NormalForm) : NormalForm :=
  match joinTexts (ns.flatMap parts) with
  | [] => empty
  | [n] => n
  | ps => concat ps

/-- A repetition. -/
def repeatOf (r : Repetition) (body : NormalForm) : NormalForm :=
  let r : Repetition :=
    if body.isZeroWidth then
      { r with least := min r.least 1, most := some (r.most.elim 1 (min · 1)) }
    else r
  if r.most = some 0 then empty
  else if r.least = 1 && r.most = some 1 then body
  else repeated r body

/-- The branches of a choice. -/
def branches : NormalForm → List NormalForm
  | either bs => bs
  | n => [n]

/-- The set of characters that a form stands for, if it is one. -/
def set? : NormalForm → Option CharSet
  | text [n] => some ⟨[(n, n)]⟩
  | chars s _ => some s
  | _ => none

/-- The parts of a sequence of at least two. -/
def parts? : NormalForm → Option (List NormalForm)
  | concat ps => some ps
  | _ => none

/-- The number of forms with which two sequences begin in the same way. -/
def commonLength : List NormalForm → List NormalForm → Nat
  | p :: ps, q :: qs => if same p q then commonLength ps qs + 1 else 0
  | _, _ => 0

/-- A choice, in which common beginnings are drawn out at most `fuel` times. -/
def eitherWithin : Nat → List NormalForm → NormalForm
  | fuel, ns =>
    match ns.flatMap branches with
    | [] => fail
    | [n] => n
    | bs =>
      match bs.mapM set? with
      | some sets => ofSet (sets.foldl CharSet.union CharSet.empty) false
      | none =>
        match fuel, bs.mapM parts? with
        | fuel + 1, some (ps :: others) =>
          let n := others.foldl (fun n qs => min n (commonLength ps qs)) ps.length
          if n = 0 then either bs
          else
            let rests := (ps :: others).map fun qs => concatAll (qs.drop n)
            concatAll (ps.take n ++ [eitherWithin fuel rests])
        | _, _ => either bs

/-- A choice. Each common beginning that is drawn out makes the branches smaller. -/
def eitherOf (ns : List NormalForm) : NormalForm := eitherWithin (sizeAll ns) ns

end NormalForm
end TrigramSearch.Regex
