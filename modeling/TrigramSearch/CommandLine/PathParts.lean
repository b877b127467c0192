/-!
# Parts of paths

A path is a text with slashes; between them stand its parts. A part that is empty or a single dot
leads nowhere, and two dots lead one directory up. Which directory a path names can only be told
by walking along it; the directory in which a path stands, however, is read off its text.

## Main definitions

* `parts`: the parts of a path, one more than it has slashes.
* `significantParts`: those that lead somewhere.
* `directoryOf?`: the parts of the directory in which a path stands.
-/

namespace TrigramSearch.CommandLine

/-- Splits a text at its slashes. -/
def splitSlashes : List Char → List (List Char)
  | [] => [[]]
  | c :: rest =>
    if c = '/' then [] :: splitSlashes rest
    else
      match splitSlashes rest with
      | part :: parts => (c :: part) :: parts
      | [] => [[c]]

/-- The parts of a path between its slashes. The first is empty in an absolute path, the last in a
path that ends in a slash. -/
def parts (path : String) : List String := (splitSlashes path.toList).map String.ofList

/-- Whether a part leads to the directory in which it stands. -/
def leadsNowhere (part : String) : Bool := part = "" || part = "."

/-- The parts of a path that lead somewhere, and the first one in any case. -/
def significantParts : List String → List String
  | [] => []
  | first :: rest => first :: rest.filter (!leadsNowhere ·)

/-- The parts of the directory in which a path stands: none for a path of a single part, and
nothing if no directory holds it. -/
def directoryOf? (path : String) : Option (List String) :=
  match significantParts (parts path) with
  | [] | [""] => none
  | ps => some ps.dropLast

/-- A name below a directory. -/
def below (directory name : String) : String :=
  if directory.endsWith "/" then directory ++ name else directory ++ "/" ++ name

end TrigramSearch.CommandLine
