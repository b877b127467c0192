import TrigramSearch.Json.Value

/-!
# Field paths

A field of a document is named by a dotted path: each segment is the name of a member of the
object reached so far. An empty segment names nothing, and neither does a segment applied to
anything but an object; so a member with an empty name, or with a dot in its name, cannot be
reached.
-/

namespace TrigramSearch.Document

open Json

/-- The segments of a path. There is one more of them than there are dots. -/
def segments : List Char → List (List Char)
  | [] => [[]]
  | c :: rest =>
    if c = '.' then [] :: segments rest
    else
      match segments rest with
      | s :: more => (c :: s) :: more
      | [] => [[c]]

/-- The value of a member named by one segment. -/
def child? (document : Value) (segment : List Char) : Option Value :=
  if segment.isEmpty then none
  else
    match document with
    | .object members => Value.member? (String.ofList segment) members
    | _ => none

/-- The value at a path given by its characters. -/
def atPath? (document : Value) (path : List Char) : Option Value :=
  (segments path).foldlM child? document

/-- The value at a path. -/
def field? (document : Value) (path : String) : Option Value := atPath? document path.toList

/-- The string at a path, if the value there is a string. -/
def text? (document : Value) (path : String) : Option String :=
  match field? document path with
  | some (.string s) => some s
  | _ => none

end TrigramSearch.Document
