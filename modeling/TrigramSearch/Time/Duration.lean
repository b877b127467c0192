import TrigramSearch.Number.Binary64

/-!
# Lengths of time

A length of time is a number of nanoseconds. There is a longest one, so a sum may fail.
-/

namespace TrigramSearch

/-- A length of time. -/
structure Duration where
  nanoseconds : Nat
deriving DecidableEq, Inhabited

namespace Duration

def zero : Duration := ⟨0⟩

/-- The nanoseconds of a second. -/
def nanosPerSecond : Nat := 1000000000

/-- The first length that is too long: `2 ^ 64` seconds. -/
def limit : Nat := nanosPerSecond <<< 64

def ofParts (seconds nanos : Nat) : Duration := ⟨seconds * nanosPerSecond + nanos⟩

/-- The sum, unless it is too long. -/
def add? (a b : Duration) : Option Duration :=
  let n := a.nanoseconds + b.nanoseconds
  if n < limit then some ⟨n⟩ else none

/-- The length in seconds; whole seconds and their fraction are rounded separately. -/
def seconds (d : Duration) : Binary64 :=
  (Binary64.ofNat (d.nanoseconds / nanosPerSecond)).add
    ((Binary64.ofNat (d.nanoseconds % nanosPerSecond)).div (Binary64.ofNat nanosPerSecond))

/-- The nanoseconds as a word; a longer time counts as the greatest word. -/
def word (d : Duration) : UInt64 := UInt64.ofNat (min d.nanoseconds (1 <<< 64 - 1))

end Duration
end TrigramSearch
