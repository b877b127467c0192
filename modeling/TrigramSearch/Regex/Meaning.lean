import TrigramSearch.Regex.NormalForm
import TrigramSearch.Regex.Property
import TrigramSearch.Pattern.Options
import TrigramSearch.Text.WhiteSpace

/-!
# The meaning of trees

A tree becomes an expression, and the normal form of it: flags are applied and names of properties
are looked up. Flags set in a group hold to its end, also in the branches after them.

Where the Unicode flag is off, classes consist of bytes. A class or a dot that could match a part
of a character is refused; what is left has ASCII members only, so matching by characters is
exact.

## Main definitions

* `Ast.interpret`: the expression of a pattern under match options, and its normal form.
* `Ast.toExpr`: the expression alone.
-/

namespace TrigramSearch.Regex

/-- The flags that matter for the meaning of a tree. -/
structure Flags where
  caseInsensitive : Bool
  multiLine : Bool
  dotMatchesNewLine : Bool
  crlf : Bool
  unicode : Bool
  /-- Whether the lazy sign makes a repetition greedy, and greedy ones are lazy. -/
  swapGreed : Bool
deriving DecidableEq, Inhabited

namespace Flags

def ofOptions (o : MatchOptions) : Flags :=
  ⟨o.caseInsensitive, o.multiLine, o.dotMatchesNewLine, false, true, false⟩

/-- Applies a list of flag items. -/
def apply (f : Flags) (items : List FlagItem) : Flags where
  caseInsensitive := (FlagItem.state? .caseInsensitive items true).getD f.caseInsensitive
  multiLine := (FlagItem.state? .multiLine items true).getD f.multiLine
  dotMatchesNewLine := (FlagItem.state? .dotMatchesNewLine items true).getD f.dotMatchesNewLine
  crlf := (FlagItem.state? .crlf items true).getD f.crlf
  unicode := (FlagItem.state? .unicode items true).getD f.unicode
  swapGreed := (FlagItem.state? .swapGreed items true).getD f.swapGreed

end Flags

/-! ## Classes -/

/-- The ranges of a class with a name in brackets. -/
def PosixClass.ranges : PosixClass → List (Nat × Nat)
  | alnum => [(0x30, 0x39), (0x41, 0x5a), (0x61, 0x7a)]
  | alpha => [(0x41, 0x5a), (0x61, 0x7a)]
  | ascii => [(0, 0x7f)]
  | blank => [(0x9, 0x9), (0x20, 0x20)]
  | cntrl => [(0, 0x1f), (0x7f, 0x7f)]
  | digit => [(0x30, 0x39)]
  | graph => [(0x21, 0x7e)]
  | lower => [(0x61, 0x7a)]
  | print => [(0x20, 0x7e)]
  | punct => [(0x21, 0x2f), (0x3a, 0x40), (0x5b, 0x60), (0x7b, 0x7e)]
  | space => [(0x9, 0xd), (0x20, 0x20)]
  | upper => [(0x41, 0x5a)]
  | word => [(0x30, 0x39), (0x41, 0x5a), (0x5f, 0x5f), (0x61, 0x7a)]
  | xdigit => [(0x30, 0x39), (0x41, 0x46), (0x61, 0x66)]

/-- A shorthand class in Unicode. -/
def ShorthandClass.unicodeSet : ShorthandClass → CharSet
  | digit => Property.digitChars
  | space => ⟨Text.whiteSpaceRanges⟩
  | word => Property.wordChars

/-- A shorthand class in ASCII. -/
def ShorthandClass.asciiSet : ShorthandClass → CharSet
  | digit => ⟨PosixClass.digit.ranges⟩
  | space => ⟨PosixClass.space.ranges⟩
  | word => ⟨PosixClass.word.ranges⟩

namespace Meaning

/-- The complement: of all characters, or of all bytes. -/
def complementIn (f : Flags) (s : CharSet) : CharSet :=
  if f.unicode then s.complement else s.complementUpTo 0xff

/-- Closes a set under case where case is ignored. -/
def fold (f : Flags) (s : CharSet) : CharSet :=
  if !f.caseInsensitive then s
  else if f.unicode then s.closeUnderCase
  else s.closeUnderAsciiCase

/-- Refuses bytes that are only parts of characters. -/
def requireText (f : Flags) (s : CharSet) : Except SyntaxError CharSet :=
  if f.unicode || s.isAscii then .ok s else .error .invalidUtf8

/-- A set closed under case, then negated; in this order. -/
def foldAndNegate (f : Flags) (negated : Bool) (s : CharSet) : Except SyntaxError CharSet :=
  let s := fold f s
  requireText f (if negated then complementIn f s else s)

def posixSet (f : Flags) (kind : PosixClass) (negated : Bool) : Except SyntaxError CharSet :=
  foldAndNegate f negated ⟨kind.ranges⟩

/-- A shorthand class contains all case variants of its members already. -/
def shorthandSet (f : Flags) (kind : ShorthandClass) (negated : Bool) :
    Except SyntaxError CharSet :=
  let s := if f.unicode then kind.unicodeSet else kind.asciiSet
  requireText f (if negated then complementIn f s else s)

def propertySet (f : Flags) (query : PropertyQuery) (negated : Bool) :
    Except SyntaxError CharSet :=
  if !f.unicode then .error .unicodeNotAllowed
  else
    match Property.lookup query with
    | .ok s => foldAndNegate f negated s
    | .error e => .error e

/-- A literal inside of a class, as a code point or a byte. -/
def classCode (f : Flags) (l : Literal) : Except SyntaxError Nat :=
  if f.unicode then .ok l.char.toNat
  else if l.char.toNat < 128 then .ok l.char.toNat
  else if l.isByte then .error .invalidUtf8
  else .error .unicodeNotAllowed

def applyOperation (f : Flags) (op : SetOperator) (left right : CharSet) : CharSet :=
  let right := fold f right
  let left := fold f left
  match op with
  | .intersection => left.intersection right
  | .difference => left.difference right
  | .symmetricDifference => left.symmetricDifference right

mutual

/-- The characters of the contents of a class. -/
def classSet (f : Flags) : ClassSet → Except SyntaxError CharSet
  | .empty => .ok CharSet.empty
  | .literal l => (classCode f l).map fun n => ⟨[(n, n)]⟩
  | .range a b =>
    match classCode f a with
    | .error e => .error e
    | .ok m => (classCode f b).map fun n => ⟨[(m, n)]⟩
  | .posix kind negated => posixSet f kind negated
  | .shorthand kind negated => shorthandSet f kind negated
  | .property query negated => propertySet f query negated
  | .bracketed negated set =>
    match classSet f set with
    | .error e => .error e
    | .ok s => foldAndNegate f negated s
  | .union items => classUnion f CharSet.empty items
  | .operation op left right =>
    match classSet f left with
    | .error e => .error e
    | .ok l =>
      match classSet f right with
      | .error e => .error e
      | .ok r => .ok (applyOperation f op l r)

def classUnion (f : Flags) (s : CharSet) : List ClassSet → Except SyntaxError CharSet
  | [] => .ok s
  | item :: rest =>
    match classSet f item with
    | .error e => .error e
    | .ok t => classUnion f (s.union t) rest

end

/-! ## Characters, dots and assertions -/

/-- The set that a literal matches: its case variants where case is ignored. -/
def literalSet (f : Flags) (l : Literal) : Except SyntaxError CharSet :=
  let c := l.char
  if !f.unicode && l.isByte && 128 ≤ c.toNat then .error .invalidUtf8
  else if !f.caseInsensitive then .ok (CharSet.singleton c)
  else if f.unicode then .ok (CharSet.variantsOf c)
  else .ok (CharSet.singleton c).closeUnderAsciiCase

/-- What the dot matches: everything but line breaks, or everything. -/
def dotSet (f : Flags) : Except SyntaxError CharSet :=
  if !f.unicode then .error .invalidUtf8
  else if f.dotMatchesNewLine then .ok CharSet.empty.complement
  else if f.crlf then .ok (CharSet.ofRanges [(0xa, 0xa), (0xd, 0xd)]).complement
  else .ok (CharSet.singleton '\n').complement

def lookOf (f : Flags) : Assertion → Look
  | .lineStart => if f.multiLine then .lineStart f.crlf else .textStart
  | .lineEnd => if f.multiLine then .lineEnd f.crlf else .textEnd
  | .textStart => .textStart
  | .textEnd => .textEnd
  | .word kind => .word f.unicode kind

end Meaning

/-! ## Patterns -/

/-- What a tree means. -/
structure Interpretation where
  expr : Expr
  form : NormalForm
deriving Inhabited

namespace Interpretation

def empty : Interpretation := ⟨.empty, .empty⟩

/-- One character of a set. -/
def chars (f : Flags) (s : CharSet) : Interpretation := ⟨.chars s, .ofSet s (!f.unicode)⟩

def look (l : Look) : Interpretation := ⟨.look l, .look l⟩

def repeated (f : Flags) (r : Repetition) (body : Interpretation) : Interpretation where
  expr := .repeated r.least r.most body.expr
  form := .repeatOf { r with greedy := r.greedy != f.swapGreed } body.form

def group (body : Interpretation) : Interpretation := ⟨.group body.expr, .group body.form⟩

def concat (parts : List Interpretation) : Interpretation :=
  ⟨Expr.ofList (parts.map expr), .concatAll (parts.map form)⟩

def either (branches : List Interpretation) : Interpretation :=
  ⟨Expr.anyOf (branches.map expr), .eitherOf (branches.map form)⟩

end Interpretation

namespace Meaning

/-- A set that stands for one of its members, unless it is refused. -/
def oneOf (f : Flags) (s : Except SyntaxError CharSet) :
    Except SyntaxError (Interpretation × Flags) :=
  s.map fun s => (.chars f s, f)

mutual

/-- The meaning of a tree, and the flags for what follows it. -/
def interpret (f : Flags) : Ast → Except SyntaxError (Interpretation × Flags)
  | .empty => .ok (.empty, f)
  | .flags items => .ok (.empty, f.apply items)
  | .literal l => oneOf f (literalSet f l)
  | .dot => oneOf f (dotSet f)
  | .assertion a => .ok (.look (lookOf f a), f)
  | .shorthand kind negated => oneOf f (shorthandSet f kind negated)
  | .property query negated => oneOf f (propertySet f query negated)
  | .charClass negated set =>
    match classSet f set with
    | .error e => .error e
    | .ok s => oneOf f (foldAndNegate f negated s)
  | .repetition r body =>
    match interpret f body with
    | .error e => .error e
    | .ok (i, g) => .ok (.repeated g r i, g)
  | .group capturing items body =>
    match interpret (f.apply items) body with
    | .error e => .error e
    | .ok (i, _) => .ok (if capturing then .group i else i, f)
  | .concat parts =>
    match interpretAll f parts with
    | .error e => .error e
    | .ok (is, g) => .ok (.concat is, g)
  | .alternation branches =>
    match interpretAll f branches with
    | .error e => .error e
    | .ok (is, g) => .ok (.either is, g)

/-- The meanings of several trees from left to right. -/
def interpretAll (f : Flags) : List Ast → Except SyntaxError (List Interpretation × Flags)
  | [] => .ok ([], f)
  | a :: rest =>
    match interpret f a with
    | .error e => .error e
    | .ok (i, g) =>
      match interpretAll g rest with
      | .error e => .error e
      | .ok (is, h) => .ok (i :: is, h)

end

end Meaning

/-- The meaning of a pattern under match options. -/
def Ast.interpret (a : Ast) (options : MatchOptions) : Except SyntaxError Interpretation :=
  (Meaning.interpret (Flags.ofOptions options) a).map Prod.fst

/-- The expression of a pattern under match options. -/
def Ast.toExpr (a : Ast) (options : MatchOptions) : Except SyntaxError Expr :=
  (a.interpret options).map Interpretation.expr

end TrigramSearch.Regex
