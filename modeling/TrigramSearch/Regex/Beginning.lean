import TrigramSearch.Regex.Encoding
import TrigramSearch.Regex.NormalForm

/-!
# Beginnings of matches

A search first looks for the texts with which matches can begin. If each of them is a whole match,
to find one of them is to find a match, and the pattern needs no automaton. The texts are gathered
from the parts of the pattern as long as they are few. Long ones may be shortened, because shorter
ones are found faster, and then they are no longer whole matches.

## Main definitions

* `NormalForm.beginnings?`: the texts with which matches of a form begin.
* `Beginning.findMatches`: whether a search for some beginnings finds whole matches.
* `NormalForm.isFoundByTexts`: whether a pattern needs no automaton.
-/

namespace TrigramSearch.Regex

/-- A text, in bytes, with which matches begin. -/
structure Beginning where
  bytes : List Nat
  /-- Whether the text is a whole match. -/
  isMatch : Bool
deriving DecidableEq, Inhabited

namespace Beginning

/-! ## Limits -/

/-- The number of beginnings that are gathered at most. -/
def mostBeginnings : Nat := 250

/-- The length to which beginnings are gathered. -/
def mostBytes : Nat := 100

/-- The length to which beginnings are shortened when there are too many. -/
def fewBytes : Nat := 4

/-- The number of members up to which each member of a set is a beginning. -/
def mostMembers : Nat := 10

/-- The number of copies up to which a repetition is followed. -/
def mostCopies : Nat := 10

/-! ## Lists of beginnings -/

/-- The beginning of an empty match. -/
def ofEmpty : Beginning := ⟨[], true⟩

/-- The same text as a beginning of longer matches. -/
def continued (b : Beginning) : Beginning := { b with isMatch := false }

/-- The first bytes of a beginning. -/
def take (n : Nat) (b : Beginning) : Beginning :=
  if b.bytes.length ≤ n then b else ⟨b.bytes.take n, false⟩

/-- Makes neighbours with the same text one. -/
def merge : List Beginning → List Beginning
  | [] => []
  | b :: bs =>
    match merge bs with
    | [] => [b]
    | c :: cs =>
      if b.bytes = c.bytes then ⟨b.bytes, b.isMatch && c.isMatch⟩ :: cs else b :: c :: cs

/-- The beginnings of a sequence of two parts, given those of the parts; `none` stands for too
many. -/
def both? (bs cs : Option (List Beginning)) : Option (List Beginning) :=
  bs.bind fun bs =>
    match cs.filter (bs.length * ·.length ≤ mostBeginnings) with
    | none => if bs.any (·.bytes.isEmpty) then none else some (bs.map continued)
    | some cs =>
      let joined := bs.flatMap fun b =>
        if b.isMatch then cs.map fun c => ⟨b.bytes ++ c.bytes, c.isMatch⟩ else [b]
      some ((merge joined).map (take mostBytes))

/-- The beginnings of a choice of two branches, given those of the branches. -/
def either? : Option (List Beginning) → Option (List Beginning) → Option (List Beginning)
  | some bs, some cs =>
    if bs.length + cs.length ≤ mostBeginnings then some (merge (bs ++ cs))
    else
      let bs := merge (bs.map (take fewBytes))
      let cs := merge (cs.map (take fewBytes))
      if bs.length + cs.length ≤ mostBeginnings then some (merge (bs ++ cs)) else none
  | _, _ => none

/-- Whether no whole match is among the beginnings, so that what follows does not matter. -/
def areContinued : Option (List Beginning) → Bool
  | some bs => bs.all (!·.isMatch)
  | none => true

/-- The beginnings of some copies in a row. -/
def copies? (bs : Option (List Beginning)) : Nat → Option (List Beginning)
  | 0 => some [ofEmpty]
  | n + 1 =>
    let before := copies? bs n
    if areContinued before then before else both? before bs

/-- The beginnings of a repetition, given those of its body. -/
def repetition? (r : Repetition) (bs : Option (List Beginning)) : Option (List Beginning) :=
  if r.least = 0 then
    let bs := if r.most = some 1 then bs else bs.map (·.map continued)
    if r.greedy then either? bs (some [ofEmpty]) else either? (some [ofEmpty]) bs
  else
    let copies := copies? bs (min r.least mostCopies)
    if r.most = some r.least && r.least ≤ mostCopies then copies
    else copies.map (·.map continued)

/-! ## Searches for beginnings -/

/-- Leaves out beginnings that begin with an earlier one, which is preferred to them. -/
def preferred (bs : List Beginning) : List Beginning :=
  bs.foldl (fun kept b =>
    if kept.any (·.bytes.isPrefixOf b.bytes) then kept else kept ++ [b]) []

/-- The bytes with which all beginnings begin. -/
def common : List Beginning → List Nat
  | [] => []
  | b :: bs =>
    bs.foldl (fun shared c =>
      ((shared.zip c.bytes).takeWhile fun p => p.1 == p.2).map (·.1)) b.bytes

/-- The ASCII characters that occur in texts so often that a search for one of them alone is of
no use. -/
def frequent : List Char := "\n\r (),-./0129:_abcdefghilmnoprstuvxy|".toList

/-- Whether a search for a first byte alone is of use. -/
def isRare (byte : Nat) : Bool := byte < 0x80 && !(frequent.map Char.toNat).contains byte

/-- Lengths to which beginnings are shortened, each with the number of beginnings from which on
this is done. -/
def shortenings : List (Nat × Nat) := [(5, 10), (4, 10), (3, 64), (2, 64), (1, 10)]

/-- Shortens beginnings until they are few. -/
def shorten (bs : List Beginning) : List (Nat × Nat) → List Beginning
  | [] => bs
  | (length, few) :: more =>
    if bs.length ≤ few then bs else shorten (preferred (bs.map (take length))) more

/-- Whether beginnings that are all matches are searched for as they are. -/
def areKept (bs : List Beginning) : Bool :=
  let short := shorten bs shortenings
  short.all (·.isMatch) || short.any (·.bytes.length ≤ 2) || 64 < short.length

/-- Whether a search for some beginnings finds whole matches. A common beginning of several is
searched for instead of them if its first byte is rare, if it is long or if they are many. -/
def findMatches (bs : List Beginning) : Bool :=
  let kept := preferred bs
  let shared := common kept
  let isShort := 1 ≤ shared.length && shared.length ≤ 3
  !kept.isEmpty && kept.all (·.isMatch) && !bs.any (·.bytes.isEmpty) &&
    if 1 < bs.length && isShort && (shared.head?.any isRare) then kept.all (·.bytes.length = 1)
    else if 4 < shared.length || (1 < shared.length && 16 < kept.length) then kept.length = 1
    else areKept kept

end Beginning

namespace NormalForm

mutual

/-- Whether a form has a group or an assertion. -/
def hasGroupOrLook : NormalForm → Bool
  | group _ => true
  | look _ => true
  | repeated _ body => body.hasGroupOrLook
  | concat parts => anyGroupOrLook parts
  | either branches => anyGroupOrLook branches
  | _ => false

def anyGroupOrLook : List NormalForm → Bool
  | [] => false
  | p :: ps => p.hasGroupOrLook || anyGroupOrLook ps

end

/-- The beginnings of the members of a set. -/
def memberBeginnings? (s : CharSet) : Option (List Beginning) :=
  if s.ranges.foldl (fun n r => n + (r.2 + 1 - r.1)) 0 ≤ Beginning.mostMembers then
    some (s.ranges.flatMap fun r =>
      (List.range' r.1 (r.2 + 1 - r.1)).map fun n => ⟨encodeCode n, true⟩)
  else none

mutual

/-- The texts with which matches of a form begin, in order of preference; `none` if there are too
many. -/
def beginnings? : NormalForm → Option (List Beginning)
  | empty => some [.ofEmpty]
  | look _ => some [.ofEmpty]
  | text codes => some [.take Beginning.mostBytes ⟨codes.flatMap encodeCode, true⟩]
  | chars s _ => memberBeginnings? s
  | repeated r body => Beginning.repetition? r body.beginnings?
  | group body => body.beginnings?
  | concat parts => sequenceBeginnings? (some [.ofEmpty]) parts
  | either branches => choiceBeginnings? (some []) branches

/-- The beginnings of a sequence, given those of the parts before. -/
def sequenceBeginnings? (before : Option (List Beginning)) :
    List NormalForm → Option (List Beginning)
  | [] => before
  | p :: ps =>
    if Beginning.areContinued before then before
    else sequenceBeginnings? (Beginning.both? before p.beginnings?) ps

/-- The beginnings of a choice, given those of the branches before. -/
def choiceBeginnings? (before : Option (List Beginning)) :
    List NormalForm → Option (List Beginning)
  | [] => before
  | p :: ps => choiceBeginnings? (Beginning.either? before p.beginnings?) ps

end

/-- Whether a pattern needs no automaton, because a search for some texts finds its matches. -/
def isFoundByTexts (n : NormalForm) : Bool :=
  !n.hasGroupOrLook && (n.beginnings?.any fun bs => Beginning.findMatches (Beginning.merge bs))

end NormalForm
end TrigramSearch.Regex
