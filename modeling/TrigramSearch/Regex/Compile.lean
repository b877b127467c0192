import TrigramSearch.Regex.Parser
import TrigramSearch.Regex.Meaning
import TrigramSearch.Regex.Matcher
import TrigramSearch.Regex.Size
import TrigramSearch.Error

/-!
# Compiling patterns

A pattern is parsed, its tree becomes an expression, and the normal form of this is measured; the
first of these steps that fails decides the error.
-/

namespace TrigramSearch.Regex

/-- Why a pattern is not accepted. -/
inductive PatternFault where
  | malformed (e : SyntaxError)
  | tooLarge
deriving DecidableEq, Inhabited

def PatternFault.message : PatternFault → String
  | malformed e => "error: " ++ e.message
  | tooLarge =>
    "Compiled regex exceeds size limit of " ++ toString Memory.limit ++ " bytes."

/-- The expression of a pattern under match options. -/
def compile (pattern : List Char) (options : MatchOptions) : Except PatternFault Expr :=
  match Ast.parse options.extended pattern with
  | .error e => .error (.malformed e)
  | .ok a =>
    match a.interpret options with
    | .error e => .error (.malformed e)
    | .ok i => if i.form.isTooLarge then .error .tooLarge else .ok i.expr

end TrigramSearch.Regex
