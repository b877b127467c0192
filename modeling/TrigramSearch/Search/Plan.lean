import TrigramSearch.Index.Cache
import TrigramSearch.Pattern.Eligibility

/-!
# Plans

For every query it is decided which documents have to be verified. Either the filters leave a
candidate set that is small enough, or all documents are verified; the plan says which, and why.

## Main definitions

* `candidates`: the positions whose documents may contain all of several trigrams.
* `Plan.make`: the plan of a query.
-/

namespace TrigramSearch

/-- Whether the document at a position may contain all of several trigrams. A document that has
text but no entry in the index is a candidate, for nothing is known about it. -/
def isCandidate (bloom : BloomIndex) (field idField : String) (grams : List Trigram)
    (document : Json.Value) (position : Nat) : Bool :=
  match bloom.probeAll? (DocumentId.resolve document position idField) grams with
  | some hit => hit
  | none => (Document.text? document field).isSome

/-- The positions of the candidates, in increasing order. -/
def candidates (bloom : BloomIndex) (c : Collection) (field idField : String)
    (grams : List Trigram) : List Nat :=
  (c.enumerate.filter fun d => isCandidate bloom field idField grams d.1 d.2).map Prod.snd

/-- Which documents a query has to verify. -/
inductive Plan where
  /-- Filters are turned off: all documents. -/
  | disabled
  /-- The pattern cannot be filtered for: all documents. -/
  | ineligible (reason : Ineligibility)
  /-- The filters leave too many candidates: all documents. -/
  | ineffective (count : Nat)
  /-- Only the documents at these positions. -/
  | candidates (positions : List Nat)
deriving DecidableEq, Inhabited

namespace Plan

/-- Whether so many candidates are too many for a collection. -/
def isTooMany (count total : Nat) (threshold : Binary64) : Bool :=
  ((Binary64.ofNat total).mul threshold).lt (Binary64.ofNat count)

/-- The plan that follows from the candidates. -/
def ofCandidates (positions : List Nat) (total : Nat) (threshold : Binary64) : Plan :=
  if isTooMany positions.length total threshold then .ineffective positions.length
  else .candidates positions

/-- What planning gives: the plan, whether an index was built, and the cache. -/
structure Made where
  plan : Plan
  built : Bool
  cache : IndexCache

/-- The sizing of filters under settings. -/
def sizing (s : SearchSettings) : Sizing := ⟨s.filterSizeBytes, s.hashFunctions⟩

/-- Plans a query. An index is looked for or built only if the pattern is eligible. -/
def make (settings : SearchSettings) (cache : IndexCache) (isLive : CollectionId → Bool)
    (c : Collection) (field : String) (pattern : List Char) (options : MatchOptions) : Made :=
  if !settings.useFilters then ⟨.disabled, false, cache⟩
  else
    let e := Eligibility.assess pattern options settings
    match e.obstacle with
    | some reason => ⟨.ineligible reason, false, cache⟩
    | none =>
      let r := cache.ensure isLive c field settings.idField (sizing settings)
      let positions := TrigramSearch.candidates r.index.bloom c field settings.idField e.trigrams
      ⟨ofCandidates positions c.length settings.effectivenessThreshold, r.built, r.cache⟩

end Plan
end TrigramSearch
