import TrigramSearch.Collection
import TrigramSearch.CommandLine.System
import TrigramSearch.Text.WhiteSpace

/-!
# Documents of a file

A file of documents is either a JSON array or has a JSON value on every line. It is an array if
the first character that is not white space is an opening bracket. Lines of white space hold no
document.
-/

namespace TrigramSearch.CommandLine

/-- The lines of a text; what follows the last line break is a line unless it is empty. A carriage
return in front of a line feed belongs to the line break. -/
def linesOf : List Char → List (List Char)
  | [] => []
  | '\r' :: '\n' :: rest => [] :: linesOf rest
  | c :: rest =>
    if c = '\n' then [] :: linesOf rest
    else
      match linesOf rest with
      | [] => [[c]]
      | line :: lines => (c :: line) :: lines

def isBlank (line : List Char) : Bool := line.all Text.isWhiteSpace

/-- The document of each line that is not blank. -/
def readLines (text : List Char) : Except Failure (List Json.Value) :=
  ((linesOf text).zipIdx.filter fun l => !isBlank l.1).mapM fun l =>
    match Json.readChars l.1 with
    | .ok v => .ok v
    | .error e => .error ⟨"line " ++ toString (l.2 + 1), [e.message]⟩

/-- The documents of a text in either form. -/
def readDocuments (text : String) : Except Failure (List Json.Value) :=
  match text.toList.dropWhile Text.isWhiteSpace with
  | '[' :: _ =>
    match Collection.readDocuments text with
    | .ok documents => .ok documents
    | .error e => .error (Failure.ofError e)
  | _ => readLines text.toList

/-- The documents of a file at a path. -/
def loadDocuments (path : String) (state : FileState) : Except Failure (List Json.Value) :=
  match state.read with
  | .error fault => .error ⟨"Failed to read " ++ path, [fault.message]⟩
  | .ok text =>
    match readDocuments text with
    | .ok documents => .ok documents
    | .error f => .error ⟨"Failed to parse " ++ path, f.message :: f.causes⟩

end TrigramSearch.CommandLine
