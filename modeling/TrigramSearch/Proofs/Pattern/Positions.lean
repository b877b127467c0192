import TrigramSearch.Proofs.Pattern.Skipping

/-!
# The pass, position by position

`Literals.scan?` works on what is left of a pattern.  Here the same pass goes over
the pattern with a position: it reads one character after the other, looks ahead,
and jumps where it has seen that it can.  Nothing in it makes sure that it stops.
So each routine is watched for a number of steps, one for each round of a loop,
and `none` says that it has not stopped within these.

A routine that stops has an `Ending`: its result, the position at which it leaves
the pattern even where it fails, and a record of what it did on the way.  Every
round of a loop is recorded with the position of the character that it began
with, and so is every call that a round makes, be it for a class inside of a
class.  A loop that finds no character to begin a round with is over.

That a routine stops and has done no harm is `Ends`: however long it is watched,
if only for as many steps as there are unread characters, it has one and the same
ending.  There is one rule for each thing that a round can do, so a loop is dealt
with by going through its branches.

## Main definitions

* `Ending`: how a routine stops.
* `skipPastAt`, `skipPayloadAt`, `skipClassAt`, `skipGroupAt`: the routines.
* `passAt`: the pass from a position on.
* `Rising`, `Advances`: positions in order, and what a routine may do to them.
* `EndsWithin`, `Ends`: a routine stops, advances, and has a certain result.

## Main results

* `Rising.length_le`: how many positions there can be.
* `Ends.of_read`: what a loop does is what its next round does.
* `Ends.round`, `Ends.call`, `Ends.callOrFail`: the rules for a round.
-/

namespace TrigramSearch.Literals

/-! ## Endings -/

/-- How a routine of the pass stops. -/
structure Ending (α : Type) where
  /-- Nothing where the pattern is malformed, or nothing in it is certain. -/
  result : Option α
  /-- Where the next character would be read. -/
  position : Nat
  /-- Where the rounds of loops began, in order; a loop begins a round by reading a character. -/
  rounds : List Nat
  /-- Where the rounds began that called another routine, in order. -/
  calls : List Nat

namespace Ending

variable {α β : Type}

def done (a : α) (p : Nat) : Ending α := ⟨some a, p, [], []⟩

def failed (p : Nat) : Ending α := ⟨none, p, [], []⟩

/-- What a loop does from a round on that began at a position. -/
def round (p : Nat) (e : Ending α) : Ending α := { e with rounds := p :: e.rounds }

/-- What is done by a round that began at a position and called the routine. -/
def called (p : Nat) (e : Ending α) : Ending α :=
  { e with rounds := p :: e.rounds, calls := p :: e.calls }

/-- Something was done before. -/
def after (first : Ending α) (e : Ending β) : Ending β :=
  { e with rounds := first.rounds ++ e.rounds, calls := first.calls ++ e.calls }

/-- The caller fails too. -/
def fails (e : Ending α) : Ending β := { e with result := none }

end Ending

/-! ## Routines -/

section
variable (chars : List Char)

/-- Reads the next character. -/
def bump (p : Nat) : Option Char × Nat :=
  match chars[p]? with
  | some c => (some c, p + 1)
  | none => (none, p)

/-- Goes on behind the first `stop`, or to the end. -/
def skipPastAt (stop : Char) (p steps : Nat) : Option (Ending Unit) :=
  match bump chars p, steps with
  | (none, q), _ => some (.done () q)
  | (some _, _), 0 => none
  | (some c, q), steps + 1 =>
    if c = stop then some ((Ending.done () q).round p)
    else do return (← skipPastAt stop q steps).round p

/-- Goes on by a number of characters, or to the end. -/
def skipCharsAt : Nat → Nat → Ending Unit
  | 0, p => .done () p
  | n + 1, p =>
    match bump chars p with
    | (none, q) => .done () q
    | (some _, q) => (skipCharsAt n q).round p

/-- Goes over what belongs to an escape with a letter. -/
def skipPayloadAt (kind : Char) (p steps : Nat) : Option (Ending Unit) :=
  if payloadLength kind = 0 then some (.done () p)
  else if chars[p]? = some '\x7b' then skipPastAt chars '\x7d' (p + 1) steps
  else some (skipCharsAt chars (payloadLength kind) p)

/-- Moves the position behind a character, if it is the next one. -/
def jumpAt (c : Char) (p : Nat) : Nat := if chars[p]? = some c then p + 1 else p

/-- Moves it behind what may stand first in a class and is no closing bracket yet. -/
def skipClassHeadAt (p : Nat) : Nat := jumpAt chars ']' (jumpAt chars '^' p)

/-- Goes on behind the bracket that closes a class. -/
def skipClassBodyAt (p steps : Nat) : Option (Ending Unit) :=
  match bump chars p, steps with
  | (none, q), _ => some (.failed q)
  | (some _, _), 0 => none
  | (some c, q), steps + 1 =>
    if c = '\\' then
      match bump chars q with
      | (none, q) => some ((Ending.failed q).round p)
      | (some _, q) => do return (← skipClassBodyAt q steps).round p
    else if c = '[' then
      if chars[q]? = some ':' then do
        let name ← skipPastAt chars ']' q steps
        return (name.called p).after (← skipClassBodyAt name.position steps)
      else do
        let inner ← skipClassBodyAt (skipClassHeadAt chars q) steps
        if inner.result.isNone then return (inner.called p).fails
        else return (inner.called p).after (← skipClassBodyAt inner.position steps)
    else if c = ']' then some ((Ending.done () q).round p)
    else do return (← skipClassBodyAt q steps).round p

/-- Skips a class whose opening bracket has been read. -/
def skipClassAt (p : Nat) : Nat → Option (Ending Unit) :=
  skipClassBodyAt chars (skipClassHeadAt chars p)

/-- Goes on behind the parenthesis that closes a group; `depth` further groups are open. -/
def skipGroupBodyAt (depth p steps : Nat) : Option (Ending Unit) :=
  match bump chars p, steps with
  | (none, q), _ => some (.failed q)
  | (some _, _), 0 => none
  | (some c, q), steps + 1 =>
    if c = '\\' then
      match bump chars q with
      | (none, q) => some ((Ending.failed q).round p)
      | (some _, q) => do return (← skipGroupBodyAt depth q steps).round p
    else if c = '[' then do
      let inner ← skipClassAt chars q steps
      if inner.result.isNone then return (inner.called p).fails
      else return (inner.called p).after (← skipGroupBodyAt depth inner.position steps)
    else if c = '(' then do return (← skipGroupBodyAt (depth + 1) q steps).round p
    else if c = ')' then
      match depth with
      | 0 => some ((Ending.done () q).round p)
      | depth + 1 => do return (← skipGroupBodyAt depth q steps).round p
    else do return (← skipGroupBodyAt depth q steps).round p

/-- Whether a group, from behind its parenthesis on, rules literals out. -/
def groupIsUncertainAt (p : Nat) : Bool :=
  chars[p]? == some '?' &&
    match chars[p + 1]? with
    | none => true
    | some flag =>
      (isAsciiLetter flag || flag == '-') && !(flag == 'P' && chars[p + 2]? == some '<')

/-- Skips a group whose parenthesis has been read. -/
def skipGroupAt (p steps : Nat) : Option (Ending Unit) :=
  if groupIsUncertainAt chars p then some (.failed p) else skipGroupBodyAt chars 0 p steps

/-- The pass from a position on, with the runs that it has found. -/
def passAt (asciiOnly : Bool) (runs : Runs) (p steps : Nat) : Option (Ending (List (List Char))) :=
  match bump chars p, steps with
  | (none, q), _ => some (.done runs.toList q)
  | (some _, _), 0 => none
  | (some c, q), steps + 1 =>
    if c = '|' || c = ')' then some ((Ending.failed q).round p)
    else if c = '(' then do
      let group ← skipGroupAt chars q steps
      if group.result.isNone then return (group.called p).fails
      else return (group.called p).after (← passAt asciiOnly runs.flush group.position steps)
    else if c = '[' then do
      let inner ← skipClassAt chars q steps
      if inner.result.isNone then return (inner.called p).fails
      else return (inner.called p).after (← passAt asciiOnly runs.flush inner.position steps)
    else if c = '\\' then
      match bump chars q with
      | (none, q) => some ((Ending.failed q).round p)
      | (some e, q) =>
        if escapeIsText e then do
          return (← passAt asciiOnly (runs.push asciiOnly e) q steps).round p
        else do
          let payload ← skipPayloadAt chars e q steps
          return (payload.called p).after (← passAt asciiOnly runs.flush payload.position steps)
    else if c = '*' || c = '?' then do
      return (← passAt asciiOnly runs.dropLast q steps).round p
    else if c = '\x7b' then do
      let counts ← skipPastAt chars '\x7d' q steps
      return (counts.called p).after (← passAt asciiOnly runs.dropLast counts.position steps)
    else if c = '+' || c = '.' || c = '^' || c = '$' then do
      return (← passAt asciiOnly runs.flush q steps).round p
    else do return (← passAt asciiOnly (runs.push asciiOnly c) q steps).round p

end

/-! ## Records in order -/

/-- Positions in increasing order, from `start` on and before `stop`. -/
structure Rising (start stop : Nat) (ps : List Nat) : Prop where
  increasing : ps.Pairwise (· < ·)
  le : ∀ p ∈ ps, start ≤ p
  lt : ∀ p ∈ ps, p < stop

namespace Rising

variable {start mid stop : Nat} {ps qs : List Nat}

theorem nil (start stop : Nat) : Rising start stop [] := ⟨.nil, nofun, nofun⟩

theorem mono (h : Rising mid stop ps) (hle : start ≤ mid) : Rising start stop ps where
  increasing := h.increasing
  le p hp := Nat.le_trans hle (h.le p hp)
  lt := h.lt

theorem cons (h : Rising mid stop ps) (hlt : start < mid) (hle : mid ≤ stop) :
    Rising start stop (start :: ps) where
  increasing := List.pairwise_cons.mpr
    ⟨fun p hp => Nat.lt_of_lt_of_le hlt (h.le p hp), h.increasing⟩
  le := by
    intro p hp
    rcases List.mem_cons.mp hp with rfl | hp
    · exact Nat.le_refl p
    · have hmid := h.le p hp
      omega
  lt := by
    intro p hp
    rcases List.mem_cons.mp hp with rfl | hp
    · omega
    · exact h.lt p hp

theorem append (h : Rising start mid ps) (h' : Rising mid stop qs) (hstart : start ≤ mid)
    (hstop : mid ≤ stop) : Rising start stop (ps ++ qs) where
  increasing := List.pairwise_append.mpr ⟨h.increasing, h'.increasing, fun p hp q hq =>
    Nat.lt_of_lt_of_le (h.lt p hp) (h'.le q hq)⟩
  le := by
    intro p hp
    rcases List.mem_append.mp hp with hp | hp
    · exact h.le p hp
    · exact Nat.le_trans hstart (h'.le p hp)
  lt := by
    intro p hp
    rcases List.mem_append.mp hp with hp | hp
    · exact Nat.lt_of_lt_of_le (h.lt p hp) hstop
    · exact h'.lt p hp

/-- There are no more positions than characters between the bounds. -/
theorem length_le (h : Rising start stop ps) : ps.length ≤ stop - start := by
  induction ps generalizing start with
  | nil => exact Nat.zero_le _
  | cons p ps ih =>
      have hstart := h.le p List.mem_cons_self
      have hstop := h.lt p List.mem_cons_self
      have htail : Rising (p + 1) stop ps :=
        ⟨h.increasing.tail, (List.pairwise_cons.mp h.increasing).1,
          fun q hq => h.lt q (List.mem_cons_of_mem p hq)⟩
      have hle := ih htail
      rw [List.length_cons]
      omega

end Rising

/-! ## What a routine may do -/

variable {α β : Type} {chars : List Char}

/-- A routine called at a position goes on and stays within the pattern. Every round and every
call has a character of its own among those that it goes over. -/
structure Advances (chars : List Char) (start : Nat) (e : Ending α) : Prop where
  forward : start ≤ e.position
  inside : e.position ≤ chars.length
  rounds : Rising start e.position e.rounds
  calls : Rising start e.position e.calls

/-- From a number of steps on, a routine has stopped. It advances, and has a result at a position
as a condition says. -/
def EndsWithin (chars : List Char) (n start : Nat) (run : Nat → Option (Ending α))
    (post : Option α → Nat → Prop) : Prop :=
  ∃ e, (∀ steps, n ≤ steps → run steps = some e) ∧ Advances chars start e ∧
    post e.result e.position

/-- A routine called at a position stops within as many steps as there are characters to read. -/
def Ends (chars : List Char) (start : Nat) (run : Nat → Option (Ending α))
    (post : Option α → Nat → Prop) : Prop :=
  EndsWithin chars (chars.length - start) start run post

namespace Advances

variable {start mid : Nat}

theorem done (a : α) (hle : start ≤ chars.length) : Advances chars start (.done a start) :=
  ⟨Nat.le_refl _, hle, .nil _ _, .nil _ _⟩

theorem failed (hle : start ≤ chars.length) : Advances chars start (.failed start : Ending α) :=
  ⟨Nat.le_refl _, hle, .nil _ _, .nil _ _⟩

theorem round {e : Ending α} (h : Advances chars mid e) (hlt : start < mid) :
    Advances chars start (e.round start) where
  forward := Nat.le_trans (Nat.le_of_lt hlt) h.forward
  inside := h.inside
  rounds := h.rounds.cons hlt h.forward
  calls := h.calls.mono (Nat.le_of_lt hlt)

theorem called {e : Ending α} (h : Advances chars mid e) (hlt : start < mid) :
    Advances chars start (e.called start) where
  forward := Nat.le_trans (Nat.le_of_lt hlt) h.forward
  inside := h.inside
  rounds := h.rounds.cons hlt h.forward
  calls := h.calls.cons hlt h.forward

theorem after {first : Ending α} {e : Ending β} (h : Advances chars start first)
    (he : Advances chars first.position e) : Advances chars start (first.after e) where
  forward := Nat.le_trans h.forward he.forward
  inside := he.inside
  rounds := h.rounds.append he.rounds h.forward he.forward
  calls := h.calls.append he.calls h.forward he.forward

theorem fails {e : Ending α} (h : Advances chars start e) :
    Advances chars start (e.fails : Ending β) :=
  ⟨h.forward, h.inside, h.rounds, h.calls⟩

end Advances

namespace Ends

variable {start mid : Nat} {run : Nat → Option (Ending α)} {first : Nat → Option (Ending β)}
  {post : Option α → Nat → Prop} {post' : Option β → Nat → Prop}

theorem of_eq {e : Ending α} (hrun : ∀ steps, run steps = some e) (h : Advances chars start e)
    (hpost : post e.result e.position) : Ends chars start run post :=
  ⟨e, fun steps _ => hrun steps, h, hpost⟩

theorem done {a : α} (hle : start ≤ chars.length) (hpost : post (some a) start) :
    Ends chars start (fun _ => some (.done a start)) post :=
  of_eq (fun _ => rfl) (.done a hle) hpost

theorem failed (hle : start ≤ chars.length) (hpost : post none start) :
    Ends chars start (fun _ => some (.failed start)) post :=
  of_eq (fun _ => rfl) (.failed hle) hpost

/-- A loop that reads a character has one step less for this round and what comes after it. -/
theorem of_read {body : Nat → Option (Ending α)} (hlt : start + 1 ≤ chars.length)
    (hrun : ∀ steps, run (steps + 1) = body steps)
    (h : EndsWithin chars (chars.length - (start + 1)) start body post) :
    Ends chars start run post := by
  obtain ⟨e, hbody, hrest⟩ := h
  refine ⟨e, ?_, hrest⟩
  intro steps hsteps
  obtain ⟨steps, rfl⟩ := Nat.exists_eq_succ_of_ne_zero (show steps ≠ 0 by omega)
  exact (hrun steps).trans (hbody steps (by omega))

/-- A round that calls no routine. -/
theorem round (h : Ends chars mid run post) (hlt : start < mid) :
    EndsWithin chars (chars.length - (start + 1)) start
      (fun steps => do return (← run steps).round start) post := by
  obtain ⟨e, hrun, hadvances, hpost⟩ := h
  refine ⟨e.round start, ?_, hadvances.round hlt, hpost⟩
  intro steps hsteps
  simp [hrun steps (by omega)]

/-- A round that calls a routine and goes on where it stops. -/
theorem call (next : Nat → Nat → Option (Ending α)) (h : Ends chars mid first post')
    (hlt : start < mid)
    (hnext : ∀ r q, mid ≤ q → q ≤ chars.length → post' r q → Ends chars q (next q) post) :
    EndsWithin chars (chars.length - (start + 1)) start (fun steps => do
      let e ← first steps
      return (e.called start).after (← next e.position steps)) post := by
  obtain ⟨e, hfirst, hadvances, hpost⟩ := h
  obtain ⟨e', hrest, hrest', hpost'⟩ := hnext _ _ hadvances.forward hadvances.inside hpost
  refine ⟨(e.called start).after e', ?_, (hadvances.called hlt).after hrest', hpost'⟩
  intro steps hsteps
  have hforward := hadvances.forward
  simp [hfirst steps (by omega), hrest steps (by omega)]

/-- A round that calls a routine, and fails if this fails. -/
theorem callOrFail (next : Nat → Nat → Option (Ending α)) (h : Ends chars mid first post')
    (hlt : start < mid) (hfails : ∀ q, post' none q → post none q)
    (hnext : ∀ b q, mid ≤ q → q ≤ chars.length → post' (some b) q → Ends chars q (next q) post) :
    EndsWithin chars (chars.length - (start + 1)) start (fun steps => do
      let e ← first steps
      if e.result.isNone then return (e.called start).fails
      else return (e.called start).after (← next e.position steps)) post := by
  obtain ⟨e, hfirst, hadvances, hpost⟩ := h
  have hforward := hadvances.forward
  cases hresult : e.result with
  | none =>
      rw [hresult] at hpost
      refine ⟨(e.called start).fails, ?_, (hadvances.called hlt).fails, hfails _ hpost⟩
      intro steps hsteps
      simp [hfirst steps (by omega), hresult]
  | some b =>
      rw [hresult] at hpost
      obtain ⟨e', hrest, hrest', hpost'⟩ := hnext b _ hadvances.forward hadvances.inside hpost
      refine ⟨(e.called start).after e', ?_, (hadvances.called hlt).after hrest', hpost'⟩
      intro steps hsteps
      simp [hfirst steps (by omega), hresult, hrest steps (by omega)]

/-- A routine that moves the position before it does anything else. -/
theorem jump (h : Ends chars mid run post) (hle : start ≤ mid) : Ends chars start run post := by
  obtain ⟨e, hrun, hadvances, hpost⟩ := h
  refine ⟨e, ?_, ⟨Nat.le_trans hle hadvances.forward, hadvances.inside,
    hadvances.rounds.mono hle, hadvances.calls.mono hle⟩, hpost⟩
  intro steps hsteps
  exact hrun steps (by omega)

theorem imp {post₁ post₂ : Option α → Nat → Prop} (h : Ends chars start run post₁)
    (himp : ∀ r q, post₁ r q → post₂ r q) : Ends chars start run post₂ := by
  obtain ⟨e, hrun, hadvances, hpost⟩ := h
  exact ⟨e, hrun, hadvances, himp _ _ hpost⟩

end Ends

end TrigramSearch.Literals
