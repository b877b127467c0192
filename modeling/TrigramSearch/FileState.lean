/-!
# States of files

What is found at a path, as far as readers and writers of text files can tell.
-/

namespace TrigramSearch

/-- Why a file cannot be read or written. -/
inductive FileFault where
  | notFound
  /-- A file stands where a directory was expected. -/
  | notDirectory
  | isDirectory
  | alreadyExists
  | permissionDenied
  /-- The content is no text. -/
  | notText
  | other (reason : String)
deriving DecidableEq, Inhabited

def FileFault.message : FileFault → String
  | notFound => "No such file or directory (os error 2)"
  | notDirectory => "Not a directory (os error 20)"
  | isDirectory => "Is a directory (os error 21)"
  | alreadyExists => "File exists (os error 17)"
  | permissionDenied => "Permission denied (os error 13)"
  | notText => "stream did not contain valid UTF-8"
  | other reason => reason

/-- What is found at a path. -/
inductive FileState where
  /-- Nothing is there. -/
  | missing (fault : FileFault)
  /-- Something is there that cannot be read as a text. -/
  | unreadable (fault : FileFault)
  | text (content : String)
deriving DecidableEq, Inhabited

namespace FileState

def exists? : FileState → Bool
  | missing _ => false
  | _ => true

/-- The content, or why there is none. -/
def read : FileState → Except FileFault String
  | text content => .ok content
  | missing fault | unreadable fault => .error fault

end FileState
end TrigramSearch
