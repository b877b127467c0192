/-!
# Errors

What can go wrong outside of a search itself. A search never fails: a pattern that does not
compile is an outcome of the search. Reading documents, compiling a pattern on its own, and
reading or writing settings do fail, with one of these errors.
-/

namespace TrigramSearch

/-- The kinds of failure, each with the text that explains it. -/
inductive Error where
  /-- The pattern could not be compiled. -/
  | invalidPattern (pattern reason : String)
  /-- Settings could not be read, written or used. -/
  | configuration (reason : String)
  /-- The input is not a JSON array of documents. -/
  | invalidDocuments (reason : String)
  /-- A file could not be read or written. -/
  | inputOutput (reason : String)
  /-- Something that should not happen. -/
  | internal (reason : String)
deriving DecidableEq, Inhabited

namespace Error

def message : Error → String
  | invalidPattern pattern reason => "invalid search pattern: " ++ pattern ++ ": " ++ reason
  | configuration reason => "configuration error: " ++ reason
  | invalidDocuments reason => "invalid documents: " ++ reason
  | inputOutput reason => "I/O error: " ++ reason
  | internal reason => "internal error: " ++ reason

/-- The fault lies with the query, which has to be changed. -/
def isQueryError : Error → Bool
  | invalidPattern _ _ => true
  | _ => false

/-- A second attempt may succeed. -/
def isRecoverable : Error → Bool
  | inputOutput _ => true
  | _ => false

end Error
end TrigramSearch
