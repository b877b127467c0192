import TrigramSearch.Pattern.Options
import TrigramSearch.Trigram

/-!
# Literal runs of a pattern

A literal run is a part of the pattern that stands for itself in every match. Runs are found in
one pass from left to right that knows much less than the regex parser: whatever it cannot take
for mandatory text ends the current run.

* `|` outside of groups makes everything optional, so there are no literals at all.
* Groups and classes are skipped whole.
* `*`, `?` and counted repetitions drop the character before them; `+` keeps it.
* Escaped punctuation is text; other escapes end a run, together with what belongs to them.
* Groups that set flags, and the extended syntax, can change what text means: no literals.

The pass never fails; a malformed pattern has no literals. Every step consumes at least one
character, so as many steps as there are characters are enough.

## Main definitions

* `Literals.scan?`: the runs in pattern order, `none` where nothing is certain.
* `Literals.ofPattern`: the distinct literals of a pattern under match options, and the
  complexity of the pattern.
-/

namespace TrigramSearch

/-- The characters that have a meaning of their own in a pattern. -/
def metacharacters : List Char :=
  ['.', '*', '+', '?', '^', '$', '\x7b', '\x7d', '(', ')', '|', '[', ']', '\\']

/-- The complexity of a pattern: its length, where metacharacters count twice. -/
def patternComplexity (pattern : List Char) : Nat :=
  pattern.length + pattern.countP (metacharacters.contains ·)

/-- What is known about the mandatory text of a pattern. -/
structure Literals where
  /-- The distinct literals, in pattern order. -/
  literals : List (List Char)
  complexity : Nat
deriving DecidableEq, Inhabited

namespace Literals

/-! ## Collecting runs -/

/-- Finished runs and the current one, all in reverse. -/
structure Runs where
  current : List Char
  finished : List (List Char)

namespace Runs

def none : Runs := ⟨[], []⟩

/-- Ends the current run. -/
def flush (r : Runs) : Runs :=
  if r.current.isEmpty then r else ⟨[], r.current.reverse :: r.finished⟩

/-- Adds a character to the current run. Where case is ignored, a character outside of ASCII may
stand for texts of other lengths, and ends the run. -/
def push (asciiOnly : Bool) (r : Runs) (c : Char) : Runs :=
  if asciiOnly && 128 ≤ c.toNat then r.flush else { r with current := c :: r.current }

/-- The last character may be missing from a match: forgets it and ends the run. -/
def dropLast (r : Runs) : Runs := { r with current := r.current.tail }.flush

/-- All runs, in pattern order. -/
def toList (r : Runs) : List (List Char) := r.flush.finished.reverse

end Runs

/-! ## Skipping -/

/-- The characters after the first `stop`; none if there is no `stop`. -/
def skipPast (stop : Char) : List Char → List Char
  | [] => []
  | c :: rest => if c = stop then rest else skipPast stop rest

/-- What follows the bracket that opens a class and is no closing bracket yet: a `^`, and a `]`
that stands for itself. -/
def skipClassHead (s : List Char) : List Char :=
  let s := match s with
    | '^' :: rest => rest
    | _ => s
  match s with
  | ']' :: rest => rest
  | _ => s

/-- The characters after the bracket that closes a class. Classes nest; after `[:` everything up
to the next bracket belongs to the name of a class. -/
def skipClassBody : Nat → List Char → Option (List Char)
  | 0, _ => none
  | _ + 1, [] => none
  | fuel + 1, c :: rest =>
    if c = '\\' then
      match rest with
      | [] => none
      | _ :: rest => skipClassBody fuel rest
    else if c = '[' then
      match rest with
      | ':' :: _ => skipClassBody fuel (skipPast ']' rest)
      | _ =>
        match skipClassBody fuel (skipClassHead rest) with
        | some rest => skipClassBody fuel rest
        | none => none
    else if c = ']' then some rest
    else skipClassBody fuel rest

/-- The characters after a class whose opening bracket has been read. -/
def skipClass (s : List Char) : Option (List Char) := skipClassBody s.length (skipClassHead s)

/-- The characters after the parenthesis that closes the group; `depth` further groups are
open. -/
def skipGroupBody : Nat → Nat → List Char → Option (List Char)
  | 0, _, _ => none
  | _ + 1, _, [] => none
  | fuel + 1, depth, c :: rest =>
    if c = '\\' then
      match rest with
      | [] => none
      | _ :: rest => skipGroupBody fuel depth rest
    else if c = '[' then
      match skipClass rest with
      | some rest => skipGroupBody fuel depth rest
      | none => none
    else if c = '(' then skipGroupBody fuel (depth + 1) rest
    else if c = ')' then
      match depth with
      | 0 => some rest
      | depth + 1 => skipGroupBody fuel depth rest
    else skipGroupBody fuel depth rest

def isAsciiLetter (c : Char) : Bool := ('a' ≤ c && c ≤ 'z') || ('A' ≤ c && c ≤ 'Z')

/-- Whether a group, after its parenthesis, starts in a way that rules literals out: with flags,
or with the pattern ending after `?`. Names and `(?:` are harmless. -/
def groupIsUncertain : List Char → Bool
  | '?' :: [] => true
  | '?' :: 'P' :: '<' :: _ => false
  | '?' :: flag :: _ => isAsciiLetter flag || flag = '-'
  | _ => false

/-- The characters after a group whose parenthesis has been read. -/
def skipGroup (s : List Char) : Option (List Char) :=
  if groupIsUncertain s then none else skipGroupBody s.length 0 s

/-- How many characters belong to an escape with this letter when no brace follows. -/
def payloadLength (kind : Char) : Nat :=
  if kind = 'x' then 2
  else if kind = 'u' then 4
  else if kind = 'U' then 8
  else if kind = 'p' || kind = 'P' then 1
  else 0

/-- The characters after what belongs to an escape with this letter. -/
def skipPayload (kind : Char) (s : List Char) : List Char :=
  if payloadLength kind = 0 then s
  else
    match s with
    | '\x7b' :: rest => skipPast '\x7d' rest
    | _ => s.drop (payloadLength kind)

def isAsciiPunctuation (c : Char) : Bool :=
  let n := c.toNat
  (33 ≤ n && n ≤ 47) || (58 ≤ n && n ≤ 64) || (91 ≤ n && n ≤ 96) || (123 ≤ n && n ≤ 126)

/-- Whether an escaped character stands for itself; `\<` and `\>` are word boundaries. -/
def escapeIsText (c : Char) : Bool := isAsciiPunctuation c && c != '<' && c != '>'

/-! ## The pass -/

/-- The pass over what is left of a pattern, at most `fuel` steps. -/
def scanFrom (asciiOnly : Bool) : Nat → Runs → List Char → Option (List (List Char))
  | _, runs, [] => some runs.toList
  | 0, _, _ :: _ => none
  | fuel + 1, runs, c :: rest =>
    if c = '|' || c = ')' then none
    else if c = '(' then
      match skipGroup rest with
      | some rest => scanFrom asciiOnly fuel runs.flush rest
      | none => none
    else if c = '[' then
      match skipClass rest with
      | some rest => scanFrom asciiOnly fuel runs.flush rest
      | none => none
    else if c = '\\' then
      match rest with
      | [] => none
      | e :: rest =>
        if escapeIsText e then scanFrom asciiOnly fuel (runs.push asciiOnly e) rest
        else scanFrom asciiOnly fuel runs.flush (skipPayload e rest)
    else if c = '*' || c = '?' then scanFrom asciiOnly fuel runs.dropLast rest
    else if c = '\x7b' then scanFrom asciiOnly fuel runs.dropLast (skipPast '\x7d' rest)
    else if c = '+' || c = '.' || c = '^' || c = '$' then scanFrom asciiOnly fuel runs.flush rest
    else scanFrom asciiOnly fuel (runs.push asciiOnly c) rest

/-- The literal runs of a pattern, in pattern order; `none` if the pattern is malformed or
nothing in it is certain. -/
def scan? (asciiOnly : Bool) (pattern : List Char) : Option (List (List Char)) :=
  scanFrom asciiOnly pattern.length Runs.none pattern

/-- The literals that every match of a pattern is taken to contain, and its complexity. -/
def ofPattern (pattern : List Char) (options : MatchOptions) : Literals where
  literals :=
    if options.extended then [] else ((scan? options.caseInsensitive pattern).getD []).eraseDups
  complexity := patternComplexity pattern

/-! ## Selecting literals -/

/-- The literals whose fold has at least `floor` characters. -/
def usable (l : Literals) (floor : Nat) : List (List Char) :=
  l.literals.filter fun s => floor ≤ Trigram.foldedLength s

/-- The longest literal; of several, the last. -/
def longest? (l : Literals) : Option (List Char) :=
  l.literals.foldl (fun best s =>
    match best with
    | some b => if b.length ≤ s.length then some s else best
    | none => some s) none

end Literals
end TrigramSearch
