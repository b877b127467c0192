import TrigramSearch.Number.Binary64

/-!
# TOML documents

The values of a TOML document, and the rules by which keys and headers build its tables. A table
may be written in several places: a header or a dotted key creates the tables on its way, and such
a table may later be completed; a table that has been written out may not.

## Main definitions

* `Toml.Node`: a value.
* `Table.descend`: changes the table at the end of a path, creating what is missing.
* `Table.addEntry`: adds a value under a dotted key.
-/

namespace TrigramSearch.Toml

/-- A TOML value. A table is `implicit` while only the way to other tables has created it, and
`dotted` if that way was a dotted key. -/
inductive Node where
  | string (s : String)
  | integer (i : Int)
  | float (x : Binary64)
  | boolean (b : Bool)
  /-- A date, a time or both; which one does not matter here. -/
  | datetime
  | array (items : List Node)
  /-- A table in braces, complete where it is written. -/
  | inlineTable (members : List (String × Node))
  | table (implicit dotted : Bool) (members : List (String × Node))
  /-- The tables of a header in double brackets, the last one first. -/
  | tables (items : List (List (String × Node)))
deriving Inhabited

/-- A table that is being built. -/
structure Table where
  implicit : Bool
  dotted : Bool
  members : List (String × Node)
deriving Inhabited

namespace Table

def empty : Table := ⟨false, false, []⟩

def node (t : Table) : Node := .table t.implicit t.dotted t.members

def get? (t : Table) (key : String) : Option Node := t.members.lookup key

def remove (t : Table) (key : String) : Table :=
  { t with members := t.members.filter fun m => m.1 != key }

/-- Puts a value under a key; a value that was there gives way. -/
def set (t : Table) (key : String) (n : Node) : Table :=
  { t with members := (t.remove key).members ++ [(key, n)] }

/-- Changes the table at the end of a path. A list of tables is passed through its last one. A
dotted key may not pass through a table that has been written out, unless it stands in a list;
nothing passes through a value. -/
def descend (dotted : Bool) : List String → (Table → Option Table) → Table → Option Table
  | [], f, t => f t
  | key :: path, f, t =>
    match t.get? key with
    | none => (descend dotted path f ⟨true, dotted, []⟩).map fun u => t.set key u.node
    | some (.table i d ms) =>
      if dotted && !i then none
      else (descend dotted path f ⟨i, d, ms⟩).map fun u => t.set key u.node
    | some (.tables (ms :: more)) =>
      (descend dotted path f ⟨false, false, ms⟩).map fun u =>
        t.set key (.tables (u.members :: more))
    | some _ => none

/-- Adds a value under a dotted key, of which `path` is all but the last part. -/
def addEntry (t : Table) (path : List String) (key : String) (n : Node) : Option Table :=
  t.descend true path fun u =>
    if u.dotted == path.isEmpty then none
    else if (u.get? key).isSome then none
    else some (u.set key n)

end Table
end TrigramSearch.Toml
