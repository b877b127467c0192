import TrigramSearch.Pattern.Literals
import TrigramSearch.Settings

/-!
# Eligibility of patterns

Before any index is touched, a pattern is judged by itself: it has to be simple enough, and at
least one of its literals has to be long enough to be looked for.
-/

namespace TrigramSearch

/-- Why a pattern cannot be filtered for. -/
inductive Ineligibility where
  /-- The pattern, or each of its literals, is too short. -/
  | tooShort
  /-- The complexity is above the limit. -/
  | tooComplex
  /-- There is no literal, although the pattern is long enough. -/
  | noLiterals
deriving DecidableEq, Inhabited

namespace Ineligibility

def isShort : Ineligibility → Bool
  | tooShort => true
  | _ => false

def message : Ineligibility → String
  | tooShort => "no literal reaches the minimum length"
  | tooComplex => "pattern complexity over ceiling"
  | noLiterals => "no extractable literal"

end Ineligibility

/-- The judgement on a pattern. -/
structure Eligibility where
  extracted : Literals
  /-- The literals that are long enough. -/
  usable : List (List Char)
  /-- The distinct trigrams of the usable literals. -/
  trigrams : List Trigram
  /-- Why the pattern is not eligible; `none` if it is. -/
  obstacle : Option Ineligibility
deriving DecidableEq, Inhabited

namespace Eligibility

def isEligible (e : Eligibility) : Bool := e.obstacle.isNone

/-- Judges a pattern under settings. -/
def assess (pattern : List Char) (options : MatchOptions) (settings : SearchSettings) :
    Eligibility :=
  let extracted := Literals.ofPattern pattern options
  let floor := settings.literalFloor
  let usable := extracted.usable floor
  { extracted
    usable
    trigrams := Trigram.ofTexts usable
    obstacle :=
      if settings.maxPatternComplexity < extracted.complexity then some .tooComplex
      else if !usable.isEmpty then none
      else if extracted.literals.isEmpty && floor ≤ pattern.length then some .noLiterals
      else some .tooShort }

end Eligibility

/-- What a user is told about a pattern. -/
structure PatternAnalysis where
  pattern : List Char
  literals : List (List Char)
  trigrams : List Trigram
  suitable : Bool
  complexity : Nat
  reason : Option Ineligibility
deriving DecidableEq, Inhabited

namespace PatternAnalysis

/-- Explains how a pattern would be treated under settings. -/
def ofPattern (pattern : List Char) (options : MatchOptions) (settings : SearchSettings) :
    PatternAnalysis :=
  let e := Eligibility.assess pattern options settings
  { pattern
    literals := e.extracted.literals
    trigrams := e.trigrams
    suitable := e.isEligible && settings.useFilters
    complexity := e.extracted.complexity
    reason := e.obstacle }

end PatternAnalysis
end TrigramSearch
