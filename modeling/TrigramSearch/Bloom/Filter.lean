import TrigramSearch.Trigram
import TrigramSearch.Number.Binary64

/-!
# Document filters

A document filter is a Bloom filter over the trigrams of one document: an array of 64-bit words
in which every inserted trigram sets one bit per hash function. A trigram with a clear bit was
never inserted; a trigram whose bits are all set may be a coincidence.

Bit `i` of the filter is bit `i % 64` of word `i / 64` (`DocumentFilter.bit`). All operations are
described by this view: an insertion sets the positions of the trigram and changes nothing else,
so the filter depends only on the set of inserted trigrams.

Sizes are counted without a limit here. The program computes the number of bits in words of 64
bits, so a filter is what is said of it only if that number fits into a word
(`DocumentFilter.Fits`). From `2 ^ 61` bytes on the product wraps around: the filter is too small,
or has no bits at all and the program stops.

## Main definitions

* `DocumentFilter.Fits`: the sizes of which this is a description.
* `Trigram.hash64`: the hash of a trigram under a seed.
* `DocumentFilter.position`: the bit that a trigram uses under a seed.
* `DocumentFilter.insert`, `insertText`, `contains`.
* `fillRatio`, `falsePositiveRate`: the share of set bits, and its power by the hash count.
-/

namespace TrigramSearch

/-- One round of the hash: add a number and multiply, both modulo `2 ^ 64`. -/
def hashRound (h : UInt64) (v : Nat) : UInt64 := (h + UInt64.ofNat v) * 0xf1357aea2e62a9c5

/-- The hash of a trigram under a seed: the seed, the number of characters and the three code
points go through one round each; at the end the word is rotated left by 26 bits. -/
def Trigram.hash64 (g : Trigram) (seed : Nat) : UInt64 :=
  let h := [seed, 3, g.first.toNat, g.second.toNat, g.third.toNat].foldl hashRound 0
  (h <<< 26) ||| (h >>> 38)

/-- The bit array of one document. -/
structure DocumentFilter where
  words : Array UInt64
  bitCount : Nat
  hashCount : Nat
deriving DecidableEq, Inhabited

namespace DocumentFilter

/-- The number of bits of a filter of `sizeBytes` bytes fits into a word. -/
def Fits (sizeBytes : Nat) : Prop := sizeBytes * 8 < UInt64.size

instance (sizeBytes : Nat) : Decidable (Fits sizeBytes) :=
  inferInstanceAs (Decidable (sizeBytes * 8 < UInt64.size))

/-- A filter of `sizeBytes` bytes without any bit set. A size or hash count of zero counts as
one. The size has to be one that `Fits`. -/
def empty (sizeBytes hashCount : Nat) : DocumentFilter :=
  let bits := max sizeBytes 1 * 8
  ⟨Array.replicate ((bits + 63) / 64) 0, bits, max hashCount 1⟩

/-- Bit `i` of the filter. -/
def bit (f : DocumentFilter) (i : Nat) : Bool := ((f.words[i / 64]?).getD 0).toNat.testBit (i % 64)

/-- Sets bit `i`. -/
def setBit (f : DocumentFilter) (i : Nat) : DocumentFilter :=
  { f with words := f.words.modify (i / 64) (· ||| (1 <<< UInt64.ofNat (i % 64))) }

/-- The bit that a trigram uses under a seed. -/
def position (f : DocumentFilter) (g : Trigram) (seed : Nat) : Nat :=
  (g.hash64 seed).toNat % f.bitCount

/-- The bits of a trigram, one per hash function. -/
def positions (f : DocumentFilter) (g : Trigram) : List Nat :=
  (List.range f.hashCount).map (f.position g)

/-- Sets the bits of a trigram. -/
def insert (f : DocumentFilter) (g : Trigram) : DocumentFilter :=
  (f.positions g).foldl setBit f

/-- Inserts every trigram of a text. -/
def insertText (f : DocumentFilter) (text : List Char) : DocumentFilter :=
  (Trigram.windows text).foldl insert f

/-- Whether the bits of a trigram under `count` seeds, from `seed` on, are all set. It stops at
the first clear bit. -/
def containsFrom (f : DocumentFilter) (g : Trigram) : Nat → Nat → Bool
  | 0, _ => true
  | count + 1, seed => f.bit (f.position g seed) && containsFrom f g count (seed + 1)

/-- Whether all bits of a trigram are set; if not, the trigram was never inserted. -/
def contains (f : DocumentFilter) (g : Trigram) : Bool := f.containsFrom g f.hashCount 0

/-- The number of set bits of a word. -/
def onesOfWord (w : UInt64) : Nat :=
  if w = 0 then 0 else (List.range 64).countP fun i => w.toNat.testBit i

/-- The number of set bits. -/
def ones (f : DocumentFilter) : Nat := f.words.foldl (fun n w => n + onesOfWord w) 0

/-- The share of set bits. -/
def fillRatio (f : DocumentFilter) : Binary64 :=
  (Binary64.ofNat f.ones).div (Binary64.ofNat f.bitCount)

/-- The probability that as many random bits as there are hash functions are all set. The hash
count is taken as a signed 32-bit number. -/
def falsePositiveRate (f : DocumentFilter) : Binary64 :=
  f.fillRatio.pow (Int.bmod f.hashCount (1 <<< 32))

/-- The bytes of the bit array. -/
def memoryBytes (f : DocumentFilter) : Nat := f.words.size * 8

end DocumentFilter
end TrigramSearch
