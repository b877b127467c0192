import TrigramSearch.Regex.Property
import TrigramSearch.Text.WhiteSpace

/-!
# Parsing patterns

A pattern is read from left to right. Every function takes what is left of the pattern and
returns what it has read together with the rest, or the first error. In the extended syntax,
given by a flag that can change within the pattern, blanks and comments between the parts of a
pattern are skipped.

The parser keeps a stack of open groups (`Parser.State`); each step reads at least one character
and shifts it into the innermost open group, opens one, or closes one. Bracketed classes are read
by a machine of the same kind (`ClassState`).

## Main definitions

* `Ast.parse`: the tree of a pattern, or the first error in it.
-/

namespace TrigramSearch.Regex

namespace Parser

/-- What has been read, with the rest of the pattern. -/
abbrev Step (α : Type) := Except SyntaxError (α × List Char)

/-! ## Blanks -/

/-- Skips blanks and comments; a comment goes from `#` to the end of the line. -/
def skipBlanksFrom (inComment : Bool) : List Char → List Char
  | [] => []
  | c :: rest =>
    if inComment then skipBlanksFrom (c != '\n') rest
    else if Text.isWhiteSpace c then skipBlanksFrom false rest
    else if c = '#' then skipBlanksFrom true rest
    else c :: rest

/-- Skips blanks where the syntax is extended. -/
def skipBlanks (extended : Bool) (s : List Char) : List Char :=
  if extended then skipBlanksFrom false s else s

/-- The next character that is no blank, where the syntax is extended; a comment hides only its
sign. -/
def peekFrom (inComment : Bool) : List Char → Option Char
  | [] => none
  | c :: rest =>
    if Text.isWhiteSpace c then peekFrom inComment rest
    else if !inComment && c = '#' then peekFrom true rest
    else some c

def peek (extended : Bool) (s : List Char) : Option Char :=
  if extended then (peekFrom false s).or s.head? else s.head?

/-! ## Numbers -/

def decimalDigits (extended : Bool) : Nat → List Char → List Char → List Char × List Char
  | 0, read, s => (read.reverse, s)
  | fuel + 1, read, s =>
    match s with
    | c :: rest =>
      if c.isDigit then decimalDigits extended fuel (c :: read) (skipBlanks extended rest)
      else (read.reverse, s)
    | [] => (read.reverse, [])

/-- Skips white space, and in the extended syntax the comments after it. -/
def skipSpaces (extended : Bool) : Nat → List Char → List Char
  | 0, s => s
  | fuel + 1, s =>
    match s with
    | c :: rest =>
      if Text.isWhiteSpace c then skipSpaces extended fuel (skipBlanks extended rest) else s
    | [] => []

def digitsValue (base : Nat) (value : Char → Nat) (ds : List Char) : Nat :=
  ds.foldl (fun n c => n * base + value c) 0

/-- A decimal number of 32 bits with white space around it, and the rest, whether there is a
number or not. -/
def decimal (extended : Bool) (s : List Char) : Except SyntaxError Nat × List Char :=
  let s := s.dropWhile Text.isWhiteSpace
  let (ds, s) := decimalDigits extended (s.length + 1) [] s
  let s := skipSpaces extended (s.length + 1) s
  let n := digitsValue 10 (fun c => c.toNat - 48) ds
  if ds.isEmpty then (.error .repetitionCountEmpty, s)
  else if 1 <<< 32 ≤ n then (.error .decimalInvalid, s)
  else (.ok n, s)

/-- The sign that makes a repetition lazy, if it comes next: whether the repetition is greedy. -/
def greediness : List Char → Bool × List Char
  | '?' :: rest => (false, rest)
  | s => (true, s)

/-- The counts of a repetition, after its opening brace, and the rest after the closing one. -/
def repetitionCounts (extended : Bool) (s : List Char) : Step Repetition :=
  let close (least : Nat) (most : Option Nat) (s : List Char) : Step Repetition :=
    match s with
    | '\x7d' :: rest =>
      let (greedy, rest) := greediness (skipBlanks extended rest)
      match most with
      | some n =>
        if n < least then .error .repetitionCountInvalid else .ok (⟨least, most, greedy⟩, rest)
      | none => .ok (⟨least, none, greedy⟩, rest)
    | _ => .error .repetitionCountUnclosed
  match skipBlanks extended s with
  | [] => .error .repetitionCountUnclosed
  | s =>
    let (first, s) := decimal extended s
    match s with
    | [] => .error .repetitionCountUnclosed
    | ',' :: rest =>
      match skipBlanks extended rest with
      | [] => .error .repetitionCountUnclosed
      | '\x7d' :: rest =>
        match first with
        | .ok n => close n none ('\x7d' :: rest)
        | .error e => .error e
      | s =>
        match first with
        | .error e => .error e
        | .ok n =>
          match decimal extended s with
          | (.ok m, s) => close n (some m) s
          | (.error e, _) => .error e
    | s =>
      match first with
      | .ok n => close n (some n) s
      | .error e => .error e

/-! ## Escapes -/

/-- One part of a pattern that is not made of other parts. -/
inductive Primitive where
  | literal (l : Literal)
  | assertion (a : Assertion)
  | dot
  | shorthand (kind : ShorthandClass) (negated : Bool)
  | property (query : PropertyQuery) (negated : Bool)

def Primitive.ast : Primitive → Ast
  | literal l => .literal l
  | assertion a => .assertion a
  | dot => .dot
  | shorthand k n => .shorthand k n
  | property q n => .property q n

def isHexDigit (c : Char) : Bool :=
  c.isDigit || ('a' ≤ c && c ≤ 'f') || ('A' ≤ c && c ≤ 'F')

def hexDigitValue (c : Char) : Nat :=
  if c.isDigit then c.toNat - 48 else if 'a' ≤ c then c.toNat - 87 else c.toNat - 55

/-- The character with a code point given by hexadecimal digits. -/
def hexLiteral (isByte : Bool) (ds : List Char) (rest : List Char) : Step Primitive :=
  let n := digitsValue 16 hexDigitValue ds
  if n.isValidChar then .ok (.literal ⟨Char.ofNat n, isByte⟩, rest) else .error .hexInvalid

/-- A fixed number of hexadecimal digits. -/
def hexDigits (extended : Bool) : Nat → List Char → List Char → Step (List Char)
  | 0, read, s => .ok (read.reverse, s)
  | count + 1, read, s =>
    match s with
    | [] => .error .escapeEnd
    | c :: rest =>
      if isHexDigit c then hexDigits extended count (c :: read) (skipBlanks extended rest)
      else .error .hexInvalidDigit

/-- Hexadecimal digits up to a closing brace. -/
def hexUntilBrace (extended : Bool) : Nat → List Char → List Char → Step (List Char)
  | 0, _, _ => .error .escapeEnd
  | fuel + 1, read, s =>
    match s with
    | [] => .error .escapeEnd
    | c :: rest =>
      let rest := skipBlanks extended rest
      if c = '\x7d' then .ok (read.reverse, rest)
      else if isHexDigit c then hexUntilBrace extended fuel (c :: read) rest
      else .error .hexInvalidDigit

/-- A character by its code point, after the letter `x`, `u` or `U`. -/
def hexEscape (extended : Bool) (kind : Char) (s : List Char) : Step Primitive :=
  match skipBlanks extended s with
  | [] => .error .escapeEnd
  | '\x7b' :: rest =>
    let rest := skipBlanks extended rest
    match hexUntilBrace extended (rest.length + 1) [] rest with
    | .error e => .error e
    | .ok ([], _) => .error .hexEmpty
    | .ok (ds, rest) => hexLiteral false ds rest
  | s =>
    let count := if kind = 'x' then 2 else if kind = 'u' then 4 else 8
    match hexDigits extended count [] s with
    | .error e => .error e
    | .ok (ds, rest) => hexLiteral (kind = 'x') ds rest

/-- Splits a list at the first occurrence of another. -/
def splitAt? (mark : List Char) : List Char → Option (List Char × List Char)
  | [] => none
  | c :: rest =>
    if mark.isPrefixOf (c :: rest) then some ([], (c :: rest).drop mark.length)
    else (splitAt? mark rest).map fun (before, after) => (c :: before, after)

/-- The query in the braces of a property escape. -/
def propertyQuery (text : List Char) : PropertyQuery :=
  match splitAt? ['!', '='] text with
  | some (p, v) => .value p v
  | none =>
    match splitAt? [':'] text with
    | some (p, v) => .value p v
    | none =>
      match splitAt? ['='] text with
      | some (p, v) => .value p v
      | none => .name text

/-- The text up to a closing brace. -/
def textUntilBrace (extended : Bool) : Nat → List Char → List Char → Step (List Char)
  | 0, _, _ => .error .escapeEnd
  | fuel + 1, read, s =>
    match s with
    | [] => .error .escapeEnd
    | c :: rest =>
      if c = '\x7d' then .ok (read.reverse, rest)
      else textUntilBrace extended fuel (c :: read) (skipBlanks extended rest)

/-- A property, after the letter `p` or `P`. -/
def propertyEscape (extended negated : Bool) (s : List Char) : Step Primitive :=
  match skipBlanks extended s with
  | [] => .error .escapeEnd
  | '\x7b' :: rest =>
    let rest := skipBlanks extended rest
    match textUntilBrace extended (rest.length + 1) [] rest with
    | .error e => .error e
    | .ok (text, rest) => .ok (.property (propertyQuery text) negated, rest)
  | c :: rest =>
    if c = '\\' then .error .unicodeClassInvalid
    else .ok (.property (.name [c]) negated, skipBlanks extended rest)

def isBoundaryChar (c : Char) : Bool := c.isAlpha || c = '-'

def boundaryName (extended : Bool) : Nat → List Char → List Char → List Char × List Char
  | 0, read, s => (read.reverse, s)
  | fuel + 1, read, s =>
    match s with
    | c :: rest =>
      if isBoundaryChar c then boundaryName extended fuel (c :: read) (skipBlanks extended rest)
      else (read.reverse, s)
    | [] => (read.reverse, [])

/-- A word assertion, after the letter `b`. A brace may hold the name of a special one; if no
name starts there, the brace is left for a repetition. -/
def wordEscape (extended : Bool) (s : List Char) : Step Primitive :=
  let plain : Step Primitive := .ok (.assertion (.word .boundary), s)
  match s with
  | '\x7b' :: rest =>
    match skipBlanks extended rest with
    | [] => .error .wordBoundaryEnd
    | c :: rest =>
      if !isBoundaryChar c then plain
      else
        let (name, s) := boundaryName extended (rest.length + 2) [] (c :: rest)
        match s with
        | '\x7d' :: rest =>
          match String.ofList name with
          | "start" => .ok (.assertion (.word .start), rest)
          | "end" => .ok (.assertion (.word .finish), rest)
          | "start-half" => .ok (.assertion (.word .startHalf), rest)
          | "end-half" => .ok (.assertion (.word .finishHalf), rest)
          | _ => .error .wordBoundaryUnrecognized
        | _ => .error .wordBoundaryUnclosed
  | _ => plain

/-- Whether an escaped character stands for itself. -/
def isEscapable (c : Char) : Bool :=
  c.toNat < 128 && !c.isAlphanum && c != '<' && c != '>'

/-- What an escaped letter stands for, if it stands for a character. -/
def letterEscape? (c : Char) : Option Char :=
  if c = 'a' then some (Char.ofNat 7)
  else if c = 'f' then some (Char.ofNat 12)
  else if c = 't' then some '\t'
  else if c = 'n' then some '\n'
  else if c = 'r' then some '\r'
  else if c = 'v' then some (Char.ofNat 11)
  else none

/-- The class of an escaped letter, and whether it is negated. -/
def shorthand? (c : Char) : Option (ShorthandClass × Bool) :=
  if c = 'd' then some (.digit, false)
  else if c = 's' then some (.space, false)
  else if c = 'w' then some (.word, false)
  else if c = 'D' then some (.digit, true)
  else if c = 'S' then some (.space, true)
  else if c = 'W' then some (.word, true)
  else none

/-- The assertion of an escaped letter or sign. -/
def assertion? (c : Char) : Option Assertion :=
  if c = 'A' then some .textStart
  else if c = 'z' then some .textEnd
  else if c = 'B' then some (.word .noBoundary)
  else if c = '<' then some (.word .start)
  else if c = '>' then some (.word .finish)
  else none

/-- An escape, after its backslash. -/
def escape (extended : Bool) (s : List Char) : Step Primitive :=
  match s with
  | [] => .error .escapeEnd
  | c :: rest =>
    if c.isDigit then .error .backreferenceUnsupported
    else if c = 'x' || c = 'u' || c = 'U' then hexEscape extended c rest
    else if c = 'p' || c = 'P' then propertyEscape extended (c = 'P') rest
    else if isEscapable c then .ok (.literal ⟨c, false⟩, rest)
    else if c = 'b' then wordEscape extended rest
    else
      match shorthand? c with
      | some (kind, negated) => .ok (.shorthand kind negated, rest)
      | none =>
        match letterEscape? c with
        | some l => .ok (.literal ⟨l, false⟩, rest)
        | none =>
          match assertion? c with
          | some a => .ok (.assertion a, rest)
          | none => .error .escapeUnrecognized

/-! ## Bracketed classes -/

/-- What is waiting for the current part of a class. -/
inductive ClassFrame where
  /-- An open bracket; `parent` are the items read before it, in reverse. -/
  | bracket (parent : List ClassSet) (negated : Bool)
  /-- An operator with its left operand. -/
  | operator (op : SetOperator) (left : ClassSet)

/-- The state of the machine that reads classes: the items of the current union, in reverse, and
what is waiting. -/
structure ClassState where
  items : List ClassSet
  stack : List ClassFrame

/-- Items as one set. -/
def unionOf : List ClassSet → ClassSet
  | [] => .empty
  | [s] => s
  | items => .union items.reverse

/-- Applies the operator that waits for a right operand, if there is one. -/
def applyOperator (right : ClassSet) : List ClassFrame → ClassSet × List ClassFrame
  | .operator op left :: rest => (.operation op left right, rest)
  | stack => (right, stack)

/-- Puts an operator on the stack; what has been read so far becomes its left operand. -/
def ClassState.operator (st : ClassState) (op : SetOperator) : ClassState :=
  let (left, stack) := applyOperator (unionOf st.items) st.stack
  ⟨[], .operator op left :: stack⟩

def posixClass? : String → Option PosixClass
  | "alnum" => some .alnum
  | "alpha" => some .alpha
  | "ascii" => some .ascii
  | "blank" => some .blank
  | "cntrl" => some .cntrl
  | "digit" => some .digit
  | "graph" => some .graph
  | "lower" => some .lower
  | "print" => some .print
  | "punct" => some .punct
  | "space" => some .space
  | "upper" => some .upper
  | "word" => some .word
  | "xdigit" => some .xdigit
  | _ => none

/-- A class such as `[:alpha:]`, after its bracket; `none` if this is not one. -/
def posix? (s : List Char) : Option (ClassSet × List Char) :=
  match s with
  | ':' :: rest =>
    let (negated, rest) := match rest with
      | '^' :: rest => (true, rest)
      | _ => (false, rest)
    let name := rest.takeWhile (· != ':')
    match rest.dropWhile (· != ':') with
    | ':' :: ']' :: rest =>
      (posixClass? (String.ofList name)).map fun kind => (.posix kind negated, rest)
    | _ => none
  | _ => none

/-- Hyphens at the start of a class stand for themselves. -/
def leadingHyphens (extended : Bool) : Nat → List ClassSet → List Char → Step (List ClassSet)
  | 0, _, _ => .error .classUnclosed
  | fuel + 1, items, s =>
    match s with
    | [] => .error .classUnclosed
    | '-' :: rest =>
      leadingHyphens extended fuel (.literal ⟨'-', false⟩ :: items) (skipBlanks extended rest)
    | _ => .ok (items, s)

/-- The start of a class, after its bracket: whether it is negated, and the items that stand for
themselves only there. -/
def openClass (extended : Bool) (s : List Char) : Step (Bool × List ClassSet) :=
  let s := skipBlanks extended s
  let (negated, s) := match s with
    | '^' :: rest => (true, skipBlanks extended rest)
    | _ => (false, s)
  match leadingHyphens extended (s.length + 1) [] s with
  | .error e => .error e
  | .ok (items, s) =>
    match items, s with
    | [], ']' :: rest =>
      match skipBlanks extended rest with
      | [] => .error .classUnclosed
      | rest => .ok ((negated, [.literal ⟨']', false⟩]), rest)
    | _, _ => .ok ((negated, items), s)

/-- One character or escape of a class. -/
def classPrimitive (extended : Bool) : List Char → Step Primitive
  | [] => .error .classUnclosed
  | c :: rest =>
    if c = '\\' then escape extended rest else .ok (.literal ⟨c, false⟩, rest)

/-- A primitive as an item of a class. -/
def Primitive.item : Primitive → Except SyntaxError ClassSet
  | literal l => .ok (.literal l)
  | shorthand k n => .ok (.shorthand k n)
  | property q n => .ok (.property q n)
  | _ => .error .classEscapeInvalid

/-- A primitive as an end of a range. -/
def Primitive.boundary : Primitive → Except SyntaxError Literal
  | literal l => .ok l
  | _ => .error .classRangeLiteral

/-- A single item of a class, or a range. A hyphen before a bracket or before another hyphen does
not make a range. -/
def classRange (extended : Bool) (s : List Char) : Step ClassSet :=
  match classPrimitive extended s with
  | .error e => .error e
  | .ok (p, s) =>
    let single (s : List Char) : Step ClassSet := p.item.map fun i => (i, s)
    match skipBlanks extended s with
    | [] => .error .classUnclosed
    | '-' :: rest =>
      let next := peek extended rest
      if next = some ']' || next = some '-' then single ('-' :: rest)
      else
        match skipBlanks extended rest with
        | [] => .error .classUnclosed
        | s =>
          match classPrimitive extended s with
          | .error e => .error e
          | .ok (q, s) =>
            match p.boundary, q.boundary with
            | .error e, _ => .error e
            | _, .error e => .error e
            | .ok a, .ok b =>
              if b.char < a.char then .error .classRangeInvalid else .ok (.range a b, s)
    | s => single s

/-- Reads a class up to the bracket that closes it; the first step is to open it. -/
def classLoop (extended : Bool) : Nat → ClassState → List Char → Step Ast
  | 0, _, _ => .error .classUnclosed
  | fuel + 1, st, s =>
    match skipBlanks extended s with
    | [] => .error .classUnclosed
    | c :: rest =>
      if c = '[' then
        match (if st.stack.isEmpty then none else posix? rest) with
        | some (item, rest) => classLoop extended fuel { st with items := item :: st.items } rest
        | none =>
          match openClass extended rest with
          | .error e => .error e
          | .ok ((negated, items), rest) =>
            classLoop extended fuel ⟨items, .bracket st.items negated :: st.stack⟩ rest
      else if c = ']' then
        match applyOperator (unionOf st.items) st.stack with
        | (set, [.bracket _ negated]) => .ok (.charClass negated set, rest)
        | (set, .bracket parent negated :: stack) =>
          classLoop extended fuel ⟨.bracketed negated set :: parent, stack⟩ rest
        | _ => .error .classUnclosed
      else
        match c, rest with
        | '&', '&' :: rest => classLoop extended fuel (st.operator .intersection) rest
        | '-', '-' :: rest => classLoop extended fuel (st.operator .difference) rest
        | '~', '~' :: rest => classLoop extended fuel (st.operator .symmetricDifference) rest
        | _, _ =>
          match classRange extended (c :: rest) with
          | .error e => .error e
          | .ok (item, rest) => classLoop extended fuel { st with items := item :: st.items } rest

/-- A bracketed class; the text starts with its bracket. -/
def bracketedClass (extended : Bool) (s : List Char) : Step Ast :=
  classLoop extended (s.length + 1) ⟨[], []⟩ s

/-! ## Groups -/

def flag? (c : Char) : Option Flag :=
  if c = 'i' then some .caseInsensitive
  else if c = 'm' then some .multiLine
  else if c = 's' then some .dotMatchesNewLine
  else if c = 'U' then some .swapGreed
  else if c = 'u' then some .unicode
  else if c = 'R' then some .crlf
  else if c = 'x' then some .extended
  else none

/-- Flags up to a colon or a closing parenthesis, which is part of the result. -/
def flags : List FlagItem → List Char → Step (List FlagItem × Char)
  | _, [] => .error .flagEnd
  | items, c :: rest =>
    if c = ':' || c = ')' then
      if items.getLast? = some .negation then .error .flagDanglingNegation
      else .ok ((items, c), rest)
    else if c = '-' then
      if items.contains .negation then .error .flagRepeatedNegation
      else flags (items ++ [.negation]) rest
    else
      match flag? c with
      | none => .error .flagUnrecognized
      | some f =>
        if items.contains (.flag f) then .error .flagDuplicate
        else flags (items ++ [.flag f]) rest

/-- Whether a character may stand in the name of a group. -/
def isNameChar (first : Bool) (c : Char) : Bool :=
  if first then c = '_' || Property.isNameLetter c
  else c = '_' || c = '.' || c = '[' || c = ']' || Property.isNameCharacter c

/-- The name of a group, up to its closing angle. -/
def groupName : List Char → List Char → Step (List Char)
  | _, [] => .error .groupNameUnclosed
  | read, c :: rest =>
    if c = '>' then
      if read.isEmpty then .error .groupNameEmpty else .ok (read.reverse, rest)
    else if isNameChar read.isEmpty c then groupName (c :: read) rest
    else .error .groupNameInvalid

/-- How a group starts. -/
inductive GroupStart where
  | capture
  | named (name : List Char)
  | plain (flags : List FlagItem)
  /-- No group, but flags for what follows. -/
  | setFlags (flags : List FlagItem)

/-- The start of a group, after its parenthesis. -/
def groupStart (extended : Bool) (s : List Char) : Step GroupStart :=
  let named (s : List Char) : Step GroupStart := (groupName [] s).map fun (n, s) => (.named n, s)
  match skipBlanks extended s with
  | '?' :: '=' :: _ => .error .lookAroundUnsupported
  | '?' :: '!' :: _ => .error .lookAroundUnsupported
  | '?' :: '<' :: '=' :: _ => .error .lookAroundUnsupported
  | '?' :: '<' :: '!' :: _ => .error .lookAroundUnsupported
  | '?' :: 'P' :: '<' :: rest => named rest
  | '?' :: '<' :: rest => named rest
  | '?' :: [] => .error .groupUnclosed
  | '?' :: rest =>
    match flags [] rest with
    | .error e => .error e
    | .ok ((items, last), rest) =>
      if last = ':' then .ok (.plain items, rest)
      else if items.isEmpty then .error .repetitionMissing
      else .ok (.setFlags items, rest)
  | s => .ok (.capture, s)

/-! ## The parser -/

/-- An open group: what has been read before it in the enclosing group, in reverse, and the
syntax to go back to. -/
structure OpenGroup where
  capturing : Bool
  flags : List FlagItem
  extendedBefore : Bool
  branches : List Ast
  parts : List Ast

/-- The state of the parser: finished branches and the parts of the current branch of the
innermost open group, in reverse. -/
structure State where
  extended : Bool
  branches : List Ast
  parts : List Ast
  groups : List OpenGroup
  names : List (List Char)

/-- Parts in reverse as one tree. -/
def sequence : List Ast → Ast
  | [] => .empty
  | [a] => a
  | parts => .concat parts.reverse

/-- The tree of a group from its finished branches and its last one. -/
def alternatives (branches : List Ast) (last : Ast) : Ast :=
  if branches.isEmpty then last else .alternation (last :: branches).reverse

def State.tree (st : State) : Ast := alternatives st.branches (sequence st.parts)

def State.push (st : State) (a : Ast) : State := { st with parts := a :: st.parts }

/-- Repeats the last part; there has to be one that is an expression. -/
def State.repeatLast (st : State) (r : Repetition) : Except SyntaxError State :=
  match st.parts with
  | [] => .error .repetitionMissing
  | .empty :: _ => .error .repetitionMissing
  | .flags _ :: _ => .error .repetitionMissing
  | a :: parts => .ok { st with parts := .repetition r a :: parts }

/-- The counts of a repetition sign. -/
def signCounts (c : Char) (greedy : Bool) : Repetition :=
  if c = '?' then ⟨0, some 1, greedy⟩ else if c = '*' then ⟨0, none, greedy⟩ else ⟨1, none, greedy⟩

/-- Opens a group, or sets flags, after a parenthesis. -/
def State.openGroup (st : State) (s : List Char) : Step State :=
  match groupStart st.extended s with
  | .error e => .error e
  | .ok (start, rest) =>
    let enter (capturing : Bool) (flags : List FlagItem) (names : List (List Char)) : State :=
      { extended := (FlagItem.state? .extended flags true).getD st.extended
        branches := []
        parts := []
        groups := ⟨capturing, flags, st.extended, st.branches, st.parts⟩ :: st.groups
        names }
    match start with
    | .capture => .ok (enter true [] st.names, rest)
    | .named n =>
      if st.names.contains n then .error .groupNameDuplicate
      else .ok (enter true [] (n :: st.names), rest)
    | .plain flags => .ok (enter false flags st.names, rest)
    | .setFlags flags =>
      let st := st.push (.flags flags)
      .ok ({ st with
        extended := (FlagItem.state? .extended flags true).getD st.extended }, rest)

/-- Closes the innermost group. -/
def State.closeGroup (st : State) : Except SyntaxError State :=
  match st.groups with
  | [] => .error .groupUnopened
  | g :: groups =>
    .ok { st with
      extended := g.extendedBefore
      branches := g.branches
      parts := .group g.capturing g.flags st.tree :: g.parts
      groups }

/-- A primitive that starts with the given character. -/
def primitive (extended : Bool) (c : Char) (rest : List Char) : Step Primitive :=
  if c = '\\' then escape extended rest
  else if c = '.' then .ok (.dot, rest)
  else if c = '^' then .ok (.assertion .lineStart, rest)
  else if c = '$' then .ok (.assertion .lineEnd, rest)
  else .ok (.literal ⟨c, false⟩, rest)

/-- Reads the part that starts with the given character. -/
def State.step (st : State) (c : Char) (rest : List Char) : Step State :=
  if c = '(' then st.openGroup rest
  else if c = ')' then st.closeGroup.map fun st => (st, rest)
  else if c = '|' then
    .ok ({ st with branches := sequence st.parts :: st.branches, parts := [] }, rest)
  else if c = '[' then
    (bracketedClass st.extended (c :: rest)).map fun (a, rest) => (st.push a, rest)
  else if c = '?' || c = '*' || c = '+' then
    let (greedy, rest) := greediness rest
    (st.repeatLast (signCounts c greedy)).map fun st => (st, rest)
  else if c = '\x7b' then
    match st.repeatLast ⟨0, none, true⟩ with
    | .error e => .error e
    | .ok _ =>
      match repetitionCounts st.extended rest with
      | .error e => .error e
      | .ok (r, rest) => (st.repeatLast r).map fun st => (st, rest)
  else (primitive st.extended c rest).map fun (p, rest) => (st.push p.ast, rest)

/-- Reads what is left of a pattern. -/
def loop : Nat → State → List Char → Except SyntaxError Ast
  | fuel, st, s =>
    match skipBlanks st.extended s with
    | [] => if st.groups.isEmpty then .ok st.tree else .error .groupUnclosed
    | c :: rest =>
      match fuel with
      | 0 => .error .groupUnclosed
      | fuel + 1 =>
        match st.step c rest with
        | .error e => .error e
        | .ok (st, rest) => loop fuel st rest

/-- How deeply the parts of a pattern may be nested. -/
def nestLimit : Nat := 250

end Parser

/-- The tree of a pattern. -/
def Ast.parse (extended : Bool) (pattern : List Char) : Except SyntaxError Ast :=
  match Parser.loop pattern.length ⟨extended, [], [], [], []⟩ pattern with
  | .error e => .error e
  | .ok a =>
    if Parser.nestLimit < a.depth then .error (.nestLimitExceeded Parser.nestLimit) else .ok a

end TrigramSearch.Regex
