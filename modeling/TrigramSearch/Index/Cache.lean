import TrigramSearch.Bloom.Index
import TrigramSearch.Collection

/-!
# Built indexes and their cache

An index is built for a field of a collection and remembers from which collection, which
generation and which identity field it was built. The cache keeps one index for each collection,
field and sizing, and serves it as long as generation and identity field are the current ones;
otherwise it builds a new one. Whenever it builds, it first drops the indexes of collections that
no longer exist.

Which collections exist is not known here; it is given as a predicate on identities.

## Main definitions

* `BuiltIndex.build`: the index of the documents of a collection.
* `IndexCache.ensure`: an index that is current, from the cache or newly built.
-/

namespace TrigramSearch

/-- The size of the filters of an index, of which the bytes have to be a number that
`DocumentFilter.Fits`. -/
structure Sizing where
  sizeBytes : Nat
  hashFunctions : Nat
deriving DecidableEq, Inhabited

/-- What a cached index is found by. -/
structure IndexKey where
  collection : CollectionId
  field : String
  sizing : Sizing
deriving DecidableEq, Inhabited

/-- An index, with what it was built from. -/
structure BuiltIndex where
  bloom : BloomIndex
  generation : Nat
  field : String
  idField : String
  /-- The number of documents with text at the field. -/
  indexedDocuments : Nat
  owner : CollectionId
deriving DecidableEq, Inhabited

namespace BuiltIndex

/-- Adds a document, if it has text at the field. -/
def addDocument (x : BuiltIndex) (document : Json.Value) (position : Nat) : BuiltIndex :=
  match Document.text? document x.field with
  | some text =>
    { x with
      bloom := x.bloom.insert (DocumentId.resolve document position x.idField) text.toList
      indexedDocuments := x.indexedDocuments + 1 }
  | none => x

/-- The index of all documents of a collection. -/
def build (c : Collection) (field idField : String) (sizing : Sizing) : BuiltIndex :=
  c.enumerate.foldl (fun x d => x.addDocument d.1 d.2)
    { bloom := BloomIndex.empty sizing.sizeBytes sizing.hashFunctions
      generation := c.generation
      field
      idField
      indexedDocuments := 0
      owner := c.id }

/-- Whether an index can be served for a collection in its current state. -/
def isCurrent (x : BuiltIndex) (c : Collection) (idField : String) : Bool :=
  x.generation == c.generation && x.idField == idField

end BuiltIndex

/-- The indexes built so far, by key, and the number of builds. -/
structure IndexCache where
  entries : List (IndexKey × BuiltIndex)
  builds : Nat
deriving DecidableEq, Inhabited

namespace IndexCache

def empty : IndexCache := ⟨[], 0⟩

def size (k : IndexCache) : Nat := k.entries.length

def isEmpty (k : IndexCache) : Bool := k.entries.isEmpty

def get? (k : IndexCache) (key : IndexKey) : Option BuiltIndex := k.entries.lookup key

/-- Keeps the entries whose key and index satisfy a condition. -/
def keep (k : IndexCache) (p : IndexKey → BuiltIndex → Bool) : IndexCache :=
  { k with entries := k.entries.filter fun e => p e.1 e.2 }

/-- Drops the indexes of collections that no longer exist. -/
def prune (k : IndexCache) (isLive : CollectionId → Bool) : IndexCache :=
  k.keep fun _ x => isLive x.owner

/-- `prune`, with the number of indexes that are dropped. -/
def pruneCounted (k : IndexCache) (isLive : CollectionId → Bool) : Nat × IndexCache :=
  let kept := k.prune isLive
  (k.size - kept.size, kept)

/-- Drops the indexes of a collection. -/
def invalidate (k : IndexCache) (id : CollectionId) : IndexCache :=
  k.keep fun key _ => key.collection != id

def clear (k : IndexCache) : IndexCache := { k with entries := [] }

/-- Puts an index under a key, in the place of one that may be there. -/
def insert (k : IndexCache) (key : IndexKey) (x : BuiltIndex) : IndexCache :=
  { k with entries := (key, x) :: k.entries.filter fun e => e.1 != key }

/-- Builds an index without keeping it. -/
def build (k : IndexCache) (c : Collection) (field idField : String) (sizing : Sizing) :
    BuiltIndex × IndexCache :=
  (BuiltIndex.build c field idField sizing, { k with builds := k.builds + 1 })

/-- What `ensure` gives: the index, whether it was built for this call, and the cache. -/
structure Ensured where
  index : BuiltIndex
  built : Bool
  cache : IndexCache

/-- An index for the current state of a collection: a cached one if it is current, otherwise a
new one, which is kept. -/
def ensure (k : IndexCache) (isLive : CollectionId → Bool) (c : Collection)
    (field idField : String) (sizing : Sizing) : Ensured :=
  let key : IndexKey := ⟨c.id, field, sizing⟩
  let rebuild (_ : Unit) : Ensured :=
    let (x, k) := k.build c field idField sizing
    ⟨x, true, (k.prune isLive).insert key x⟩
  match k.get? key with
  | some x => if x.isCurrent c idField then ⟨x, false, k⟩ else rebuild ()
  | none => rebuild ()

/-- The bytes of all bit arrays. -/
def memoryBytes (k : IndexCache) : Nat := k.entries.foldl (fun n e => n + e.2.bloom.memoryBytes) 0

end IndexCache
end TrigramSearch
