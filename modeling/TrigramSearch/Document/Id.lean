import TrigramSearch.Document.Path
import TrigramSearch.Json.Printer

/-!
# Document identities

A document is indexed under its identity: the value of the identity field if that is a string, a
number or a boolean, and its position in the collection otherwise. Two documents may share an
identity.
-/

namespace TrigramSearch

/-- What a document is indexed under. -/
inductive DocumentId where
  | explicit (name : String)
  | position (index : Nat)
deriving DecidableEq, Inhabited

namespace DocumentId

/-- The identity of the document at a position. Strings are used as they are, numbers and
booleans by their JSON text. -/
def resolve (document : Json.Value) (position : Nat) (idField : String) : DocumentId :=
  match Document.field? document idField with
  | some (.string s) => .explicit s
  | some (.number n) => .explicit n.text
  | some (.bool b) => .explicit (Json.Value.bool b).compact
  | _ => .position position

def display : DocumentId → String
  | .explicit name => name
  | .position index => "#" ++ toString index

end DocumentId
end TrigramSearch
