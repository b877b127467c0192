import TrigramSearch.Document.Id
import TrigramSearch.Json.Reader
import TrigramSearch.Error

/-!
# Collections

A collection is an ordered list of documents with an identity and a generation. The identity is
never used twice, and the generation counts the changes made to the documents, so identity and
generation together determine the documents: an index built for them can be recognised as
current without looking at a document.

## Main definitions

* `Collection`: identity, generation and documents, with the operations that change them.
* `Collection.readDocuments`: the documents of a JSON array.
* `Store`: the collections that exist, by name; it hands out identities and knows which
  collections still exist.
-/

namespace TrigramSearch

/-- The identity of a collection; a copy of a collection has an identity of its own. -/
structure CollectionId where
  number : Nat
deriving DecidableEq, Inhabited

/-- An ordered list of documents that can be told apart from every other state of every other
collection. -/
structure Collection where
  id : CollectionId
  generation : Nat
  documents : List Json.Value
deriving Inhabited

namespace Collection

def length (c : Collection) : Nat := c.documents.length

def isEmpty (c : Collection) : Bool := c.documents.isEmpty

def get? (c : Collection) (position : Nat) : Option Json.Value := c.documents[position]?

/-- Each document with its position. -/
def enumerate (c : Collection) : List (Json.Value × Nat) := c.documents.zipIdx

/-- New documents in the next generation. -/
def update (c : Collection) (documents : List Json.Value) : Collection :=
  { c with generation := c.generation + 1, documents }

/-- Adds a document at the end. -/
def push (c : Collection) (document : Json.Value) : Collection :=
  c.update (c.documents ++ [document])

/-- Adds documents at the end; this is a change even when there are none to add. -/
def extend (c : Collection) (documents : List Json.Value) : Collection :=
  c.update (c.documents ++ documents)

/-- Removes all documents; this is a change even when there are none. -/
def clear (c : Collection) : Collection := c.update []

/-- Puts another document at a position and returns the old one. A position outside of the
collection changes nothing. -/
def replace (c : Collection) (position : Nat) (document : Json.Value) :
    Option Json.Value × Collection :=
  match c.get? position with
  | some old => (some old, c.update (c.documents.set position document))
  | none => (none, c)

/-- Takes the document at a position out. A position outside of the collection changes nothing. -/
def remove (c : Collection) (position : Nat) : Option Json.Value × Collection :=
  match c.get? position with
  | some old => (some old, c.update (c.documents.eraseIdx position))
  | none => (none, c)

/-- The identity of the document at a position. -/
def documentId? (c : Collection) (position : Nat) (idField : String) : Option DocumentId :=
  (c.get? position).map fun d => DocumentId.resolve d position idField

/-- The documents of a JSON text, which has to be an array. -/
def readDocuments (text : String) : Except Error (List Json.Value) :=
  match Json.read text with
  | .error e => .error (.invalidDocuments e.message)
  | .ok (.array documents) => .ok documents
  | .ok v => .error (.invalidDocuments ("expected a JSON array, found " ++ v.kindName))

end Collection

/-- The collections that exist, each under a name. -/
structure Store where
  nextId : Nat
  collections : List (String × Collection)
deriving Inhabited

namespace Store

def empty : Store := ⟨1, []⟩

def get? (s : Store) (name : String) : Option Collection := s.collections.lookup name

/-- Whether a collection of this identity still exists. -/
def isLive (s : Store) (id : CollectionId) : Bool := s.collections.any fun entry => entry.2.id == id

/-- Drops the collection of a name. -/
def drop (s : Store) (name : String) : Store :=
  { s with collections := s.collections.filter fun entry => entry.1 != name }

/-- Creates a collection under a name; a collection that had the name is dropped. -/
def create (s : Store) (name : String) (documents : List Json.Value) : Store :=
  { nextId := s.nextId + 1
    collections := (name, ⟨⟨s.nextId⟩, 0, documents⟩) :: (s.drop name).collections }

/-- Puts a changed collection in the place of the one of that name. -/
def set (s : Store) (name : String) (c : Collection) : Store :=
  { s with collections := s.collections.map fun entry =>
      if entry.1 == name then (name, c) else entry }

end Store
end TrigramSearch
