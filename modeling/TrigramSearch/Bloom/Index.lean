import TrigramSearch.Bloom.Filter
import TrigramSearch.Document.Id

/-!
# Filters by document

One document filter for each document identity, all of one size. Texts inserted under the same
identity share a filter. A document without an entry was never indexed.

## Main definitions

* `BloomIndex.insert`: records the trigrams of a text under an identity.
* `probe`, `probeAll?`: whether a document may contain a trigram, or all of several.
-/

namespace TrigramSearch

/-- Document filters by document identity. -/
structure BloomIndex where
  filters : List (DocumentId × DocumentFilter)
  sizeBytes : Nat
  hashCount : Nat
deriving DecidableEq, Inhabited

namespace BloomIndex

/-- An index without documents. A size or hash count of zero counts as one. -/
def empty (sizeBytes hashCount : Nat) : BloomIndex := ⟨[], max sizeBytes 1, max hashCount 1⟩

/-- The number of documents. -/
def size (x : BloomIndex) : Nat := x.filters.length

def isEmpty (x : BloomIndex) : Bool := x.filters.isEmpty

/-- The filter of a document. -/
def filter? (x : BloomIndex) (id : DocumentId) : Option DocumentFilter := x.filters.lookup id

/-- Inserts a text into the filter of an identity, starting from `new` if there is none. -/
def insertInto (new : DocumentFilter) (id : DocumentId) (text : List Char) :
    List (DocumentId × DocumentFilter) → List (DocumentId × DocumentFilter)
  | [] => [(id, new.insertText text)]
  | (k, f) :: rest =>
    if k = id then (k, f.insertText text) :: rest else (k, f) :: insertInto new id text rest

/-- Records every trigram of a text for a document. -/
def insert (x : BloomIndex) (id : DocumentId) (text : List Char) : BloomIndex :=
  { x with filters :=
      insertInto (DocumentFilter.empty x.sizeBytes x.hashCount) id text x.filters }

/-- Whether a document has an entry. -/
def contains (x : BloomIndex) (id : DocumentId) : Bool := (x.filter? id).isSome

/-- Whether a document may contain a trigram; a document without an entry does not. -/
def probe (x : BloomIndex) (id : DocumentId) (g : Trigram) : Bool :=
  (x.filter? id).any (·.contains g)

/-- Whether a document may contain all of several trigrams; `none` without an entry. -/
def probeAll? (x : BloomIndex) (id : DocumentId) (grams : List Trigram) : Option Bool :=
  (x.filter? id).map fun f => grams.all f.contains

/-- The mean of a ratio over all documents, zero if there are none. -/
def mean (x : BloomIndex) (ratio : DocumentFilter → Binary64) : Binary64 :=
  if x.filters.isEmpty then Binary64.zero
  else
    let total := x.filters.foldl (fun sum e => sum.add (ratio e.2)) Binary64.zero
    total.div (Binary64.ofNat x.size)

def fillRatio (x : BloomIndex) : Binary64 := x.mean DocumentFilter.fillRatio

def falsePositiveRate (x : BloomIndex) : Binary64 := x.mean DocumentFilter.falsePositiveRate

/-- The bytes of all bit arrays. -/
def memoryBytes (x : BloomIndex) : Nat := x.filters.foldl (fun n e => n + e.2.memoryBytes) 0

def clear (x : BloomIndex) : BloomIndex := { x with filters := [] }

end BloomIndex
end TrigramSearch
