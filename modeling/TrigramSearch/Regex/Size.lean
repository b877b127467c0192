import TrigramSearch.Regex.Beginning
import TrigramSearch.Regex.Construction

/-!
# The size of patterns

A pattern is limited in size: its automaton is built once for reading forwards and once for
reading backwards, and neither may take too much memory.

A character is one state for each byte of its encoding, and a counted repetition is as many
copies of its body. Choices and loops have a state with a list of alternatives; an alternative is
also added wherever the state at the end of a part is such a state and another part follows. A
choice between texts is a tree in which common beginnings are built once; only the reading
forwards has states for capturing groups. A pattern whose matches are found by a search for texts
alone needs no automaton.

## Main definitions

* `NormalForm.construction`: how the automaton of a form is built.
* `NormalForm.isTooLarge`: whether a pattern exceeds the limit.
-/

namespace TrigramSearch.Regex

/-! ## Choices between texts -/

/-- Byte sequences up to each place where a sequence ends, in order; what follows the last end
comes last. -/
def splitAtEnds : List (List Nat) → List (List (List Nat))
  | [] => [[]]
  | w :: ws =>
    match splitAtEnds ws with
    | chunk :: chunks => if w.isEmpty then [] :: chunk :: chunks else (w :: chunk) :: chunks
    | [] => []

/-- A sequence that ends where another has ended counts only if there is a longer one before it. -/
def dropRepeatedEnds : List (List Nat) → List (List Nat)
  | [] :: rest => [] :: rest.dropWhile List.isEmpty
  | ws => ws

/-- The memory of the tree of byte sequences of at most the given length. The sequences come in
order of preference; the end of one separates those before it from those after it. -/
def textTreeMemory : Nat → List (List Nat) → Memory
  | 0, _ => ⟨0, 0⟩
  | length + 1, ws =>
    let chunks := splitAtEnds (dropRepeatedEnds ws)
    let alternatives := (chunks.filter (!·.isEmpty)).length + (chunks.length - 1)
    let ofChunk (chunk : List (List Nat)) : Memory :=
      let bytes := (chunk.filterMap List.head?).eraseDups
      let own : Memory :=
        ⟨if bytes.isEmpty then 0 else 1,
          if bytes.length ≤ 1 then 0 else bytes.length * Memory.transitionBytes⟩
      bytes.foldl (fun m b =>
        let rests := (chunk.filter (·.head? = some b)).map List.tail
        if rests.all List.isEmpty then m else m.add (textTreeMemory length rests)) own
    chunks.foldl (fun m chunk => m.add (ofChunk chunk))
      ⟨1, alternatives * Memory.alternativeBytes⟩

namespace NormalForm

/-- The bytes of a text. -/
def bytesOf (codes : List Nat) : List Nat := codes.flatMap encodeCode

/-- The bytes of a text. -/
def text? : NormalForm → Option (List Nat)
  | text codes => some (bytesOf codes)
  | _ => none

/-- A choice between texts; its last state comes first. -/
def textsConstruction (backwards : Bool) (texts : List (List Nat)) : Construction :=
  let ws := if backwards then texts.map List.reverse else texts
  let longest := ws.foldl (fun n w => max n w.length) 0
  .fixed (Memory.add ⟨1, 0⟩ (textTreeMemory longest ws))

/-! ## Sets -/

/-- A set of ASCII characters is one list of transitions. -/
def setConstruction (backwards : Bool) (s : CharSet) : Construction :=
  if s.isAscii then .states 2 (s.ranges.length * Memory.transitionBytes)
  else if backwards then .chains s.sequences
  else .tree (ByteTree.ofSet s)

/-! ## Links -/

mutual

/-- Whether the last state of a form is one with a list of alternatives. -/
def endsInChoice (backwards : Bool) : NormalForm → Bool
  | repeated r body =>
    match r.most with
    | none => 0 < r.least || body.hasWidth
    | some m => r.least = m && body.endsInChoice backwards
  | group body => backwards && body.endsInChoice backwards
  | concat parts => if backwards then firstEndsInChoice parts else lastEndsInChoice parts
  | _ => false

def firstEndsInChoice : List NormalForm → Bool
  | [] => false
  | p :: _ => p.endsInChoice true

def lastEndsInChoice : List NormalForm → Bool
  | [] => false
  | p :: ps => if ps.isEmpty then p.endsInChoice false else lastEndsInChoice ps

end

/-- The bytes by which a link from the end of a form extends its list of alternatives. -/
def linkBytes (backwards : Bool) (n : NormalForm) : Nat :=
  if n.endsInChoice backwards then Memory.alternativeBytes else 0

/-- The links from each part of a sequence to the next one. -/
def innerLinkBytes (backwards : Bool) (parts : List NormalForm) : Nat :=
  let inOrder := if backwards then parts.reverse else parts
  inOrder.dropLast.foldl (fun n part => n + part.linkBytes backwards) 0

/-! ## Constructions -/

/-- The same form a number of times in a row. -/
def copiesOf (count link : Nat) (body : Construction) : Construction :=
  if count = 0 then .states 1
  else (body.copies count).before (.states 0 ((count - 1) * link))

/-- A repetition of a form, given its construction and the bytes of a link from its end. -/
def repetitionConstruction (r : Repetition) (hasWidth : Bool) (link : Nat)
    (body : Construction) : Construction :=
  let alternative := Memory.alternativeBytes
  match r.most with
  | none =>
    if r.least = 0 then
      if hasWidth then .sequence [.states 1, body, .states 0 (alternative + link)]
      else .sequence [body, .states 3 (4 * alternative + link)]
    else (copiesOf r.least link body).before (.states 1 (alternative + link))
  | some m =>
    if r.least = 0 && m = 1 then
      .sequence [.states 1, body, .states 1 (2 * alternative + link)]
    else if r.least = m then copiesOf m link body
    else
      let optional := Construction.before (.states 1 (2 * alternative + link)) body
      let first := if r.least = 0 then 0 else link
      .sequence [copiesOf r.least link body, .states 1 first, optional.copies (m - r.least)]

/-- A choice between forms, given their constructions. Its own states come after the first two
branches. -/
def choiceConstruction (links : Nat) (branches : List Construction) : Construction :=
  .sequence (branches.take 2 ++
    .states 2 (branches.length * Memory.alternativeBytes + links) :: branches.drop 2)

mutual

/-- How the automaton of a form is built. -/
def construction (backwards : Bool) : NormalForm → Construction
  | empty => .states 1
  | text codes => .states (bytesOf codes).length
  | chars s _ => setConstruction backwards s
  | look _ => .states 1
  | repeated r body =>
    repetitionConstruction r body.hasWidth (body.linkBytes backwards) (body.construction backwards)
  | group body =>
    if backwards then body.construction backwards
    else
      .sequence [.states 1, body.construction backwards, .states 1 (body.linkBytes backwards)]
  | concat parts =>
    let cs := constructions backwards parts
    (Construction.sequence (if backwards then cs.reverse else cs)).before
      (.states 0 (innerLinkBytes backwards parts))
  | either branches =>
    match branches.mapM text? with
    | some texts => textsConstruction backwards texts
    | none =>
      choiceConstruction (branches.foldl (fun n branch => n + branch.linkBytes backwards) 0)
        (constructions backwards branches)

def constructions (backwards : Bool) : List NormalForm → List Construction
  | [] => []
  | p :: ps => p.construction backwards :: constructions backwards ps

end

/-! ## Patterns -/

/-- The automaton of a whole pattern. Unless matches are anchored, a loop over all bytes comes
first; a final state comes last. Forwards, the whole match is a group. -/
def wholeConstruction (backwards : Bool) (n : NormalForm) : Construction :=
  let anchored := if backwards then n.isAnchoredAtEnd else n.isAnchoredAtStart
  let prelude :=
    if anchored then Construction.states 1
    else .states 3 (Memory.transitionBytes + 2 * Memory.alternativeBytes)
  let link := n.linkBytes backwards
  if backwards then .sequence [prelude, n.construction backwards, .states 1 link]
  else .sequence [prelude, .states 1, n.construction backwards, .states 2 link]

/-- The memory that the automaton of a pattern takes. -/
def memory (backwards : Bool) (n : NormalForm) : Memory :=
  (n.wholeConstruction backwards).run ⟨0, 0⟩

/-- A choice between so many texts is searched for without an automaton. -/
def manyTexts : Nat := 3000

/-- Whether a form is a choice between many texts. -/
def isManyTexts : NormalForm → Bool
  | either branches => manyTexts ≤ branches.length && branches.all fun b => b.text?.isSome
  | _ => false

/-- Whether a pattern needs an automaton, and one of its two automata takes too much memory. -/
def isTooLarge (n : NormalForm) : Bool :=
  ((n.memory false).isTooLarge || (n.memory true).isTooLarge) &&
    !n.isManyTexts && !n.isFoundByTexts

end NormalForm
end TrigramSearch.Regex
