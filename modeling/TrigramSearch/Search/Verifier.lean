import TrigramSearch.Collection
import TrigramSearch.Regex.Compile

/-!
# Verification

A verifier decides exactly which documents match: it holds a compiled pattern and the field to
apply it to. Documents without text at the field never match.
-/

namespace TrigramSearch

/-- A compiled pattern for a field. -/
structure Verifier where
  expr : Regex.Expr
  field : String
deriving DecidableEq, Inhabited

namespace Verifier

/-- Compiles a pattern for a field. -/
def compile (pattern : List Char) (options : MatchOptions) (field : String) :
    Except Error Verifier :=
  match Regex.compile pattern options with
  | .ok expr => .ok ⟨expr, field⟩
  | .error fault => .error (.invalidPattern (String.ofList pattern) fault.message)

/-- Whether a document matches. -/
def isMatch (v : Verifier) (document : Json.Value) : Bool :=
  match Document.text? document v.field with
  | some text => v.expr.isMatch text.toList
  | none => false

/-- The positions of all matching documents, in increasing order. -/
def verifyAll (v : Verifier) (c : Collection) : List Nat :=
  (c.enumerate.filter fun d => v.isMatch d.1).map Prod.snd

/-- Those of the given positions whose documents match. -/
def verifyOnly (v : Verifier) (c : Collection) (positions : List Nat) : List Nat :=
  positions.filter fun p => (c.get? p).any v.isMatch

end Verifier
end TrigramSearch
