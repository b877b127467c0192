import TrigramSearch.CommandLine.System

/-!
# Trees of files in memory

A tree of text files below one directory, in which commands can be carried out without a disk.
Paths are walked part by part: every part but the last has to be a directory when it is passed,
also if two dots lead back out of it. No time passes here.

## Main definitions

* `FileTree.walk`: the place to which the parts of a path lead.
* `FileTree.state`: what is found at a path.
* `FileTree.write`: writes a file, and the directories in which it stands.
-/

namespace TrigramSearch.CommandLine

/-- Text files below a directory, each with the names on the way to it. -/
structure FileTree where
  /-- The path of the directory. -/
  root : String
  files : List (List String × String)
  /-- Directories that exist even if no file stands in them. -/
  directories : List (List String) := []
deriving DecidableEq, Inhabited

/-- A place that a path may lead to. -/
inductive Place where
  | inside (names : List String)
  /-- A directory around the tree. -/
  | around
  /-- A place about which nothing is known: it stands in a directory around the tree. -/
  | beyond
deriving DecidableEq, Inhabited

/-- What stands at a place. -/
inductive Occupant where
  | file (content : String)
  | directory
  | nothing
  | unknown
deriving DecidableEq, Inhabited

namespace FileTree

def isDirectory (t : FileTree) (names : List String) : Bool :=
  names.isEmpty || t.directories.contains names ||
    t.files.any fun f => names.isPrefixOf f.1 && names ≠ f.1

def occupant (t : FileTree) : Place → Occupant
  | .around => .directory
  | .beyond => .unknown
  | .inside names =>
    match t.files.lookup names with
    | some content => .file content
    | none => if t.isDirectory names then .directory else .nothing

/-- The place to which one part of a path leads from a directory. -/
def Place.next (part : String) : Place → Place
  | .inside names =>
    if leadsNowhere part then .inside names
    else if part = ".." then if names.isEmpty then .around else .inside names.dropLast
    else .inside (names ++ [part])
  | .around => if leadsNowhere part || part = ".." then .around else .beyond
  | .beyond => .beyond

/-- Walks along the parts of a path; every part has to start from a directory. -/
def walk (t : FileTree) : Place → List String → Except FileFault Place
  | place, [] => .ok place
  | place, part :: rest =>
    match t.occupant place with
    | .nothing => .error .notFound
    | .file _ => .error .notDirectory
    | .directory | .unknown => t.walk (Place.next part place) rest

/-- Where a path begins, and the parts that follow. -/
def start (t : FileTree) (path : List String) : Place × List String :=
  if (parts t.root).isPrefixOf path then (.inside [], path.drop (parts t.root).length)
  else if path.head? = some "" then (.around, path.drop 1)
  else (.inside [], path)

/-- The place to which the parts of a path lead. -/
def locate (t : FileTree) (path : List String) : Except FileFault Place :=
  let (place, rest) := t.start path
  t.walk place rest

/-! ## Reading -/

/-- What is found at a path. -/
def state (t : FileTree) (path : String) : FileState :=
  if path = "" then .missing .notFound
  else
    match t.locate (parts path) with
    | .error fault => .missing fault
    | .ok place =>
      match t.occupant place with
      | .file content => .text content
      | .directory => .unreadable .isDirectory
      | .nothing | .unknown => .missing .notFound

/-! ## Writing -/

def isDirectoryPath (t : FileTree) (path : List String) : Bool :=
  match t.locate path with
  | .ok place => t.occupant place = .directory
  | .error _ => false

/-- Whether a part stands for a directory that the walk has passed already. -/
def leadsBack (part : String) : Bool := leadsNowhere part || part = ".."

/-- Makes one directory in a directory that exists. -/
def makeDirectory (t : FileTree) (path : List String) : Except FileFault FileTree :=
  match t.locate (path.dropLast ++ ["."]), path.getLast? with
  | .error fault, _ => .error fault
  | .ok _, none => .error .alreadyExists
  | .ok place, some part =>
    if leadsBack part then .error .alreadyExists
    else
      match Place.next part place with
      | .inside names =>
        if t.occupant (.inside names) = .nothing then
          .ok { t with directories := names :: t.directories }
        else .error .alreadyExists
      | _ => .ok t

/-- Makes a directory, and those in which it stands, as far as they do not exist. The parts of
the path are given in reverse. -/
def makeDirectories (t : FileTree) : List String → Except FileFault FileTree
  | [] => .ok t
  | part :: before =>
    let path := (part :: before).reverse
    match t.makeDirectory path with
    | .ok u => .ok u
    | .error .notFound => do
      let u ← t.makeDirectories before
      match u.makeDirectory path with
      | .ok v => .ok v
      | .error fault => if u.isDirectoryPath path then .ok u else .error fault
    | .error fault => if t.isDirectoryPath path then .ok t else .error fault

/-- Creates a file, or replaces its content. A path that ends in a slash names a directory, even
if none is there. What is written beyond the tree is not kept. -/
def create (t : FileTree) (path : List String) (content : String) : Except FileFault FileTree :=
  let trailing := (path.reverse.takeWhile (· = "")).length
  let path := path.take (path.length - trailing)
  match t.locate (path.dropLast ++ ["."]), path.getLast? with
  | .error fault, _ => .error fault
  | .ok _, none => .error .isDirectory
  | .ok place, some part =>
    if leadsBack part || 0 < trailing then .error .isDirectory
    else
      match Place.next part place with
      | .inside names =>
        if t.isDirectory names then .error .isDirectory
        else .ok { t with files := (names, content) :: t.files.filter fun f => f.1 ≠ names }
      | _ => .ok t

/-- Writes a file, and the directories in which it stands. -/
def write (t : FileTree) (path content : String) : Except FileFault FileTree :=
  if path = "" then .error .notFound
  else do
    let t ← t.makeDirectories ((directoryOf? path).getD []).reverse
    t.create (parts path) content

/-- The operations on a tree, in which the settings have their place at a path. A file that
cannot be written leaves the tree as it was. -/
def system (settingsPath : String) : System (StateM FileTree) where
  settingsPath := some settingsPath
  read path := do return (← get).state path
  write path content := do
    match (← get).write path content with
    | .ok t => set t; return none
    | .error fault => return some fault
  timed compute := return (compute (), Duration.zero)
  now := return ⟨0⟩

end FileTree
end TrigramSearch.CommandLine
