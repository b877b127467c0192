import TrigramSearch.Toml.Scalar

/-!
# Reading TOML

A document is a sequence of lines, each an entry, a header, or blank; values may extend over
several lines. The reader works on what is left of the text and gives `none` for a text that is
no TOML document; which fault it has is not told.

## Main definitions

* `Toml.read?`: the table of a whole document.
-/

namespace TrigramSearch.Toml

/-- A value together with the characters after it. -/
abbrev Step (α : Type) := Option (α × List Char)

/-- Arrays and tables may be nested to less than this depth, and keys have fewer parts. -/
def depthLimit : Nat := 80

/-! ## Blanks, comments and line breaks -/

def isBlank (c : Char) : Bool := c = ' ' || c = '\t'

def skipBlanks (s : List Char) : List Char := s.dropWhile isBlank

/-- Whether a character may stand in a comment. -/
def isCommentChar (c : Char) : Bool := c = '\t' || (0x20 ≤ c.toNat && c.toNat ≠ 0x7f)

/-- The characters after a line break, if there is one. -/
def newline? : List Char → Option (List Char)
  | '\n' :: rest => some rest
  | '\r' :: '\n' :: rest => some rest
  | _ => none

/-- Skips blanks and a comment up to the end of the line, which has to follow. -/
def endOfLine? (s : List Char) : Option (List Char) :=
  let s := skipBlanks s
  let s := match s with
    | '#' :: rest => rest.dropWhile isCommentChar
    | _ => s
  match s with
  | [] => some []
  | _ => newline? s

/-- Skips blanks, comments and line breaks. -/
def skipLines : Nat → List Char → List Char
  | 0, s => s
  | fuel + 1, s =>
    match skipBlanks s with
    | '#' :: rest => skipLines fuel (rest.dropWhile isCommentChar)
    | s =>
      match newline? s with
      | some rest => skipLines fuel rest
      | none => s

/-! ## Strings -/

/-- Whether a character may stand for itself in a string. -/
def isStringChar (c : Char) : Bool := c = '\t' || (0x20 ≤ c.toNat && c.toNat ≠ 0x7f)

/-- A character by its code point, given by a number of hexadecimal digits. -/
def codeEscape (count : Nat) (s : List Char) : Step Char :=
  let ds := s.take count
  if ds.length = count && ds.all isHex then
    let n := valueOf 16 ds
    if n.isValidChar then some (Char.ofNat n, s.drop count) else none
  else none

/-- An escape, after its backslash. -/
def escape : List Char → Step Char
  | [] => none
  | c :: rest =>
    if c = 'b' then some (Char.ofNat 8, rest)
    else if c = 't' then some ('\t', rest)
    else if c = 'n' then some ('\n', rest)
    else if c = 'f' then some (Char.ofNat 12, rest)
    else if c = 'r' then some ('\r', rest)
    else if c = '"' || c = '\\' then some (c, rest)
    else if c = 'u' then codeEscape 4 rest
    else if c = 'U' then codeEscape 8 rest
    else none

/-- A string in double quotes, after the first; `read` holds its characters in reverse. -/
def basicString : Nat → List Char → List Char → Step String
  | 0, _, _ => none
  | fuel + 1, read, s =>
    match s with
    | [] => none
    | c :: rest =>
      if c = '"' then some (String.ofList read.reverse, rest)
      else if c = '\\' then (escape rest).bind fun (e, rest) => basicString fuel (e :: read) rest
      else if isStringChar c then basicString fuel (c :: read) rest
      else none

/-- A string in single quotes, after the first. -/
def literalString : List Char → List Char → Step String
  | _, [] => none
  | read, c :: rest =>
    if c = '\'' then some (String.ofList read.reverse, rest)
    else if isStringChar c then literalString (c :: read) rest
    else none

/-- Skips blanks and line breaks. -/
def skipBlankLines : List Char → List Char
  | '\r' :: '\n' :: rest => skipBlankLines rest
  | c :: rest => if isBlank c || c = '\n' then skipBlankLines rest else c :: rest
  | [] => []

/-- The end of a line within a string: after a backslash, the line break and all blanks and
line breaks that follow are left out. -/
def lineEscape? (s : List Char) : Option (List Char) :=
  (newline? (skipBlanks s)).map skipBlankLines

/-- A string in three quotes, after the first three. Up to two quotes more may stand before the
last three. -/
def longString (quote : Char) (escapes : Bool) : Nat → List Char → List Char → Step String
  | 0, _, _ => none
  | fuel + 1, read, s =>
    match s with
    | [] => none
    | c :: rest =>
      if c = quote then
        let quotes := s.takeWhile (· = quote)
        let n := quotes.length
        let after := s.dropWhile (· = quote)
        if n < 3 then longString quote escapes fuel (quotes ++ read) after
        else if n ≤ 5 then
          some (String.ofList ((List.replicate (n - 3) quote ++ read).reverse), after)
        else none
      else if escapes && c = '\\' then
        match lineEscape? rest with
        | some rest => longString quote escapes fuel read rest
        | none => (escape rest).bind fun (e, rest) => longString quote escapes fuel (e :: read) rest
      else
        match newline? s with
        | some rest => longString quote escapes fuel ('\n' :: read) rest
        | none => if isStringChar c then longString quote escapes fuel (c :: read) rest else none

/-- A line break right after the opening quotes does not count. -/
def skipFirstNewline (s : List Char) : List Char := (newline? s).getD s

/-- A string of any kind. -/
def string (s : List Char) : Step String :=
  match s with
  | '"' :: '"' :: '"' :: rest => longString '"' true (s.length + 1) [] (skipFirstNewline rest)
  | '\'' :: '\'' :: '\'' :: rest => longString '\'' false (s.length + 1) [] (skipFirstNewline rest)
  | '"' :: rest => basicString (s.length + 1) [] rest
  | '\'' :: rest => literalString [] rest
  | _ => none

/-! ## Keys -/

def isBareChar (c : Char) : Bool := c.isAlphanum || c = '-' || c = '_'

/-- One part of a key. -/
def keyPart (s : List Char) : Step String :=
  match s with
  | '"' :: rest => basicString (s.length + 1) [] rest
  | '\'' :: rest => literalString [] rest
  | _ =>
    let name := s.takeWhile isBareChar
    if name.isEmpty then none else some (String.ofList name, s.dropWhile isBareChar)

/-- A dotted key, with the blanks around it; its parts in reverse. -/
def keyParts : Nat → List String → List Char → Step (List String)
  | 0, _, _ => none
  | fuel + 1, read, s =>
    (keyPart (skipBlanks s)).bind fun (part, s) =>
      match skipBlanks s with
      | '.' :: rest => keyParts fuel (part :: read) rest
      | s => some (part :: read, s)

/-- A dotted key as its path and its last part. -/
def key (s : List Char) : Step (List String × String) :=
  match keyParts (s.length + 1) [] s with
  | some (last :: path, s) =>
    if path.length + 1 < depthLimit then some ((path.reverse, last), s) else none
  | _ => none

/-! ## Values -/

mutual

/-- A value; `depth` is the number of arrays and tables around it. -/
def value : Nat → Nat → List Char → Step Node
  | 0, _, _ => none
  | fuel + 1, depth, s =>
    match s with
    | [] => none
    | c :: rest =>
      if c = '"' || c = '\'' then (string s).map fun (t, s) => (.string t, s)
      else if c = '[' then
        if depth + 1 < depthLimit then
          match skipLines (rest.length + 1) rest with
          | ']' :: rest => some (.array [], rest)
          | s => items fuel (depth + 1) [] s
        else none
      else if c = '\x7b' then
        if depth + 1 < depthLimit then
          match skipBlanks rest with
          | '\x7d' :: rest => some (.inlineTable [], rest)
          | s => entries fuel (depth + 1) Table.empty s
        else none
      else
        let (token, rest) := splitToken s
        (scalar? token).map fun n => (n, rest)

/-- The items of an array up to its bracket; `read` holds those read so far, in reverse. -/
def items : Nat → Nat → List Node → List Char → Step Node
  | 0, _, _, _ => none
  | fuel + 1, depth, read, s =>
    match value fuel depth s with
    | none => none
    | some (n, s) =>
      match skipLines (s.length + 1) s with
      | ']' :: rest => some (.array (n :: read).reverse, rest)
      | ',' :: rest =>
        match skipLines (rest.length + 1) rest with
        | ']' :: rest => some (.array (n :: read).reverse, rest)
        | s => items fuel depth (n :: read) s
      | _ => none

/-- The entries of a table in braces up to the closing one. -/
def entries : Nat → Nat → Table → List Char → Step Node
  | 0, _, _, _ => none
  | fuel + 1, depth, t, s =>
    match key s with
    | some ((path, last), '=' :: rest) =>
      match value fuel depth (skipBlanks rest) with
      | none => none
      | some (n, s) =>
        match t.addEntry path last n with
        | none => none
        | some t =>
          match skipBlanks s with
          | '\x7d' :: rest => some (.inlineTable t.members, rest)
          | ',' :: rest => entries fuel depth t rest
          | _ => none
    | _ => none

end

/-! ## Documents -/

/-- The state of reading a document: the tables finished so far, and the one whose entries are
being read, with the header it stands under. -/
structure State where
  root : Table
  current : Table
  path : List String
  isElement : Bool

namespace State

def start : State := ⟨Table.empty, Table.empty, [], false⟩

/-- Puts the current table into its place. -/
def finish (st : State) : Option Table :=
  match st.path.reverse with
  | [] => some st.current
  | last :: before =>
    st.root.descend false before.reverse fun t =>
      if st.isElement then
        match t.get? last with
        | some (.tables items) => some (t.set last (.tables (st.current.members :: items)))
        | none => some (t.set last (.tables [st.current.members]))
        | some _ => none
      else some (t.set last st.current.node)

/-- A header of a table. A table that exists is continued only if nothing but the way to others
has created it. -/
def openTable (st : State) (path : List String) (last : String) : Option State :=
  st.finish.bind fun root =>
    let existing := (root.descend false path some).bind fun root => (findTable root path).get? last
    match existing with
    | none => some ⟨root, Table.empty, path ++ [last], false⟩
    | some (.table true false ms) =>
      (root.descend false path fun t => some (t.remove last)).map fun root =>
        ⟨root, ⟨false, false, ms⟩, path ++ [last], false⟩
    | some _ => none
where
  /-- The table at the end of a path that exists. -/
  findTable (t : Table) : List String → Table
    | [] => t
    | key :: path =>
      match t.get? key with
      | some (.table i d ms) => findTable ⟨i, d, ms⟩ path
      | some (.tables (ms :: _)) => findTable ⟨false, false, ms⟩ path
      | _ => Table.empty

/-- A header in double brackets: one more table in a list of tables. -/
def openElement (st : State) (path : List String) (last : String) : Option State :=
  st.finish.bind fun root =>
    (root.descend false path fun t =>
      match t.get? last with
      | none => some (t.set last (.tables []))
      | some (.tables _) => some t
      | some _ => none).map fun root => ⟨root, Table.empty, path ++ [last], true⟩

/-- An entry of the current table. -/
def addEntry (st : State) (path : List String) (last : String) (n : Node) : Option State :=
  (st.current.addEntry path last n).map fun t => { st with current := t }

end State

/-- Reads lines up to the end of the text. -/
def lines : Nat → State → List Char → Option State
  | 0, _, _ => none
  | fuel + 1, st, s =>
    match skipBlanks s with
    | [] => some st
    | '[' :: '[' :: rest =>
      match key rest with
      | some ((path, last), ']' :: ']' :: rest) =>
        (st.openElement path last).bind fun st => (endOfLine? rest).bind fun s => lines fuel st s
      | _ => none
    | '[' :: rest =>
      match key rest with
      | some ((path, last), ']' :: rest) =>
        (st.openTable path last).bind fun st => (endOfLine? rest).bind fun s => lines fuel st s
      | _ => none
    | c :: rest =>
      if c = '#' || c = '\n' || c = '\r' then
        (endOfLine? (c :: rest)).bind fun s => lines fuel st s
      else
        match key (c :: rest) with
        | some ((path, last), '=' :: rest) =>
          match value (2 * rest.length + 2) 0 (skipBlanks rest) with
          | some (n, s) =>
            (st.addEntry path last n).bind fun st => (endOfLine? s).bind fun s => lines fuel st s
          | none => none
        | _ => none

/-- A mark of the byte order at the beginning of a text does not count. -/
def skipByteOrderMark : List Char → List Char
  | c :: rest => if c.toNat = 0xfeff then rest else c :: rest
  | [] => []

/-- The table of a document. -/
def readChars? (s : List Char) : Option Table :=
  let s := skipByteOrderMark s
  (lines (s.length + 1) State.start s).bind State.finish

def read? (text : String) : Option Table := readChars? text.toList

end TrigramSearch.Toml
