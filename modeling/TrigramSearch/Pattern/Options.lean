/-!
# Match options

The options of a search are given as letters; letters without a meaning are ignored.
-/

namespace TrigramSearch

/-- How a pattern is to be read and matched. -/
structure MatchOptions where
  /-- Letters match their case variants (`i`). -/
  caseInsensitive : Bool := false
  /-- The line anchors match at every line (`m`). -/
  multiLine : Bool := false
  /-- The dot matches line breaks too (`s`). -/
  dotMatchesNewLine : Bool := false
  /-- Blanks and comments in the pattern are ignored (`x`). -/
  extended : Bool := false
deriving DecidableEq, Inhabited

namespace MatchOptions

/-- Turns on the option of a letter. -/
def enable (o : MatchOptions) (letter : Char) : MatchOptions :=
  if letter = 'i' then { o with caseInsensitive := true }
  else if letter = 'm' then { o with multiLine := true }
  else if letter = 's' then { o with dotMatchesNewLine := true }
  else if letter = 'x' then { o with extended := true }
  else o

def ofChars (letters : List Char) : MatchOptions := letters.foldl enable {}

def ofString (letters : String) : MatchOptions := ofChars letters.toList

end MatchOptions
end TrigramSearch
