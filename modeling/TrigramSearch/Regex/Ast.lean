/-!
# Syntax trees of patterns

The tree of a pattern as it is written, before flags are applied and names of properties are
looked up. Whether a repetition is greedy has no influence on whether a text matches; it is kept
because it tells otherwise equal parts of a pattern apart.
-/

namespace TrigramSearch.Regex

/-- Flags that can be set inside of a pattern. -/
inductive Flag where
  | caseInsensitive
  | multiLine
  | dotMatchesNewLine
  | swapGreed
  | unicode
  | crlf
  | extended
deriving DecidableEq, Inhabited

/-- A flag, or the sign after which flags are cleared. -/
inductive FlagItem where
  | negation
  | flag (f : Flag)
deriving DecidableEq, Inhabited

/-- What a list of flag items says about a flag. -/
def FlagItem.state? (f : Flag) : List FlagItem → Bool → Option Bool
  | [], _ => none
  | .negation :: rest, _ => FlagItem.state? f rest false
  | .flag g :: rest, value => if g = f then some value else FlagItem.state? f rest value

/-- One character of a pattern. A character written as `\xHH` stands for a byte where Unicode is
off. -/
structure Literal where
  char : Char
  isByte : Bool := false
deriving DecidableEq, Inhabited

/-- The classes `\d`, `\s` and `\w`. -/
inductive ShorthandClass where
  | digit
  | space
  | word
deriving DecidableEq, Inhabited

/-- The classes with a name in brackets, such as `[:alpha:]`. -/
inductive PosixClass where
  | alnum
  | alpha
  | ascii
  | blank
  | cntrl
  | digit
  | graph
  | lower
  | print
  | punct
  | space
  | upper
  | word
  | xdigit
deriving DecidableEq, Inhabited

/-- What stands after `\p`. -/
inductive PropertyQuery where
  | name (s : List Char)
  | value (property value : List Char)
deriving DecidableEq, Inhabited

/-- Operators between the parts of a class. -/
inductive SetOperator where
  | intersection
  | difference
  | symmetricDifference
deriving DecidableEq, Inhabited

/-- The contents of a bracketed class. -/
inductive ClassSet where
  | empty
  | literal (l : Literal)
  | range (first last : Literal)
  | posix (kind : PosixClass) (negated : Bool)
  | shorthand (kind : ShorthandClass) (negated : Bool)
  | property (query : PropertyQuery) (negated : Bool)
  | bracketed (negated : Bool) (set : ClassSet)
  | union (items : List ClassSet)
  | operation (op : SetOperator) (left right : ClassSet)
deriving Inhabited

/-- The kinds of word assertions. -/
inductive WordAssertion where
  | boundary
  | noBoundary
  | start
  | finish
  | startHalf
  | finishHalf
deriving DecidableEq, Inhabited

/-- Assertions about a position. -/
inductive Assertion where
  | lineStart
  | lineEnd
  | textStart
  | textEnd
  | word (kind : WordAssertion)
deriving DecidableEq, Inhabited

/-- How often something occurs in a row, and whether more often is preferred. -/
structure Repetition where
  least : Nat
  /-- The greatest number, if there is one. -/
  most : Option Nat
  greedy : Bool := true
deriving DecidableEq, Inhabited

/-- A pattern as it is written. -/
inductive Ast where
  | empty
  | flags (items : List FlagItem)
  | literal (l : Literal)
  | dot
  | assertion (a : Assertion)
  | shorthand (kind : ShorthandClass) (negated : Bool)
  | property (query : PropertyQuery) (negated : Bool)
  | charClass (negated : Bool) (set : ClassSet)
  | repetition (r : Repetition) (body : Ast)
  | group (capturing : Bool) (flags : List FlagItem) (body : Ast)
  | concat (parts : List Ast)
  | alternation (branches : List Ast)
deriving Inhabited

/-! ## Nesting depth -/

namespace ClassSet

mutual

/-- How deeply brackets, unions and operators are nested. -/
def depth : ClassSet → Nat
  | .bracketed _ set => set.depth + 1
  | .union items => unionDepth items + 1
  | .operation _ l r => max l.depth r.depth + 1
  | _ => 0

def unionDepth : List ClassSet → Nat
  | [] => 0
  | s :: rest => max s.depth (unionDepth rest)

end

end ClassSet

namespace Ast

mutual

/-- How deeply groups, repetitions, classes and sequences are nested. -/
def depth : Ast → Nat
  | .charClass _ set => set.depth + 1
  | .repetition _ body => body.depth + 1
  | .group _ _ body => body.depth + 1
  | .concat parts => listDepth parts + 1
  | .alternation branches => listDepth branches + 1
  | _ => 0

def listDepth : List Ast → Nat
  | [] => 0
  | a :: rest => max a.depth (listDepth rest)

end

end Ast
end TrigramSearch.Regex
