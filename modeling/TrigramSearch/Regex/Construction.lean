import Std.Data.TreeMap.Basic
import TrigramSearch.Regex.Encoding

/-!
# The memory of an automaton under construction

The states of an automaton over bytes are built one after the other and numbered in this order.
All states take the same memory; lists of transitions come on top of it. A `Construction` says
what is built; running it counts the memory without building anything.

A set of characters beyond ASCII is built from the byte sequences of its members. Forwards, its
tree is built from the leaves to the root, and a node that is equal to an earlier one is built
only once. Backwards, the sequences are chains that meet in the first byte, and the beginnings
that they share with earlier ones are built only once. What was built before is looked up in a
table with a limited number of places: each entry has one place, given by a hash of its numbers,
and loses it to the next entry with the same place.

## Main definitions

* `Memory`: a number of states and of further bytes.
* `Construction.run`: the memory after a construction.
-/

namespace TrigramSearch.Regex

/-- Memory taken so far. The number of states is also the number of the next state. -/
structure Memory where
  states : Nat
  /-- The bytes of all lists of transitions. -/
  extra : Nat
deriving DecidableEq, Inhabited

namespace Memory

/-- The bytes of one state. -/
def stateBytes : Nat := 32

/-- The bytes of a transition in a list. -/
def transitionBytes : Nat := 8

/-- The bytes of an alternative in a list. -/
def alternativeBytes : Nat := 4

/-- The bytes that an automaton may take. -/
def limit : Nat := 10485760

def bytes (m : Memory) : Nat := m.states * stateBytes + m.extra

def isTooLarge (m : Memory) : Bool := limit < m.bytes

def add (m n : Memory) : Memory := ⟨m.states + n.states, m.extra + n.extra⟩

def scale (count : Nat) (m : Memory) : Memory := ⟨count * m.states, count * m.extra⟩

end Memory

/-! ## Tables -/

/-- Adds a number to a hash. -/
def mix (hash : UInt64) (n : Nat) : UInt64 := (hash ^^^ UInt64.ofNat n) * 1099511628211

/-- The place of an entry with the given numbers in a table of the given size. -/
def placeOf (size : Nat) (numbers : List Nat) : Nat :=
  (numbers.foldl mix 14695981039346656037).toNat % size

/-- A table of states that were built before, by their places; each entry with its numbers. -/
abbrev StateTable := Std.TreeMap Nat (List Nat × Nat)

/-- The state with the given numbers at a place, if it still has the place. -/
def StateTable.find? (t : StateTable) (place : Nat) (numbers : List Nat) : Option Nat :=
  match t[place]? with
  | some (found, state) => if found = numbers then some state else none
  | none => none

/-- What has been built of a set. -/
structure SetWork where
  memory : Memory
  table : StateTable

/-- The number of the state with the given numbers: an earlier one if there is one in the table,
and a new one with a list of transitions otherwise. -/
def SetWork.state (w : SetWork) (size transitions : Nat) (numbers : List Nat) : SetWork × Nat :=
  let place := placeOf size numbers
  match w.table.find? place numbers with
  | some state => (w, state)
  | none =>
    let state := w.memory.states
    ({ memory := w.memory.add ⟨1, transitions * Memory.transitionBytes⟩
       table := w.table.insert place (numbers, state) }, state)

/-! ## Sets forwards -/

/-- The places of the table for nodes of trees. -/
def treePlaces : Nat := 10000

/-- Builds the nodes of a tree of at most the given height; a leaf is the state `final`. -/
def buildNode (final : Nat) : Nat → ByteTree → SetWork → SetWork × Nat
  | 0, _, w => (w, final)
  | height + 1, t, w =>
    if t.edges.isEmpty then (w, final)
    else
      let (w, numbers) := t.edges.foldr (fun e (w, numbers) =>
        let (w, state) := buildNode final height e.2 w
        (w, state :: e.1.2 :: e.1.1 :: numbers)) (w, [])
      w.state treePlaces t.edges.length numbers.reverse

/-- The memory after a set has been built forwards: its final state comes first. -/
def buildTree (t : ByteTree) (m : Memory) : Memory :=
  (buildNode m.states 4 t ⟨m.add ⟨1, 0⟩, ∅⟩).1.memory

/-! ## Sets backwards -/

/-- The places of the table for links of chains. -/
def chainPlaces : Nat := 1000

/-- Builds the links of a chain, from the final state on. -/
def buildChain (w : SetWork) (final : Nat) (sequence : List ByteRange) : SetWork :=
  (sequence.foldl (fun (w, state) r => w.state chainPlaces 0 [state, r.1, r.2]) (w, final)).1

/-- The memory after a set has been built backwards: a choice between its chains and the final
state come first. -/
def buildChains (sequences : List (List ByteRange)) (m : Memory) : Memory :=
  let final := m.states + 1
  let choice : Memory := ⟨2, sequences.length * Memory.alternativeBytes⟩
  (sequences.foldl (fun w s => buildChain w final s) ⟨m.add choice, ∅⟩).memory

/-! ## Constructions -/

/-- What is built. -/
inductive Construction where
  /-- States that take the same memory wherever they stand. -/
  | fixed (m : Memory)
  /-- A set, forwards. -/
  | tree (t : ByteTree)
  /-- A set, backwards. -/
  | chains (sequences : List (List ByteRange))
  | followedBy (first second : Construction)
  | times (count : Nat) (body : Construction)

namespace Construction

/-- States and further bytes. -/
def states (count : Nat) (extra : Nat := 0) : Construction := fixed ⟨count, extra⟩

def nothing : Construction := states 0

/-- One construction after the other. -/
def before : Construction → Construction → Construction
  | fixed m, fixed n => fixed (m.add n)
  | a, b => followedBy a b

/-- Several constructions one after the other. -/
def sequence (cs : List Construction) : Construction := cs.foldr before nothing

/-- The same construction a number of times. -/
def copies (count : Nat) : Construction → Construction
  | fixed m => fixed (m.scale count)
  | c => times count c

/-- Applies a function a number of times, unless the memory has become too large. -/
def iterate (f : Memory → Memory) : Nat → Memory → Memory
  | 0, m => m
  | n + 1, m => if m.isTooLarge then m else iterate f n (f m)

/-- The memory after a construction, given that before it. It is exact unless it is too large. -/
def run : Construction → Memory → Memory
  | fixed n, m => m.add n
  | tree t, m => buildTree t m
  | chains ss, m => buildChains ss m
  | followedBy a b, m => b.run (a.run m)
  | times n c, m => iterate c.run n m

end Construction
end TrigramSearch.Regex
