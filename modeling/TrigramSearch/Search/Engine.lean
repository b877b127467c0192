import TrigramSearch.Search.Plan
import TrigramSearch.Search.Statistics
import TrigramSearch.Search.Verifier

/-!
# The search engine

An engine holds settings, the cache of indexes and the statistics. A search compiles the pattern,
plans, verifies the candidates or all documents, and records what it did. It never fails: a
pattern that does not compile matches nothing.

## Main definitions

* `Engine.search`: one search; it gives its result and the engine after it. It consists of
  `Engine.plan`, `Query.positions` and `Engine.finish`, so that the phases can be timed.
* `Engine.configure`: new settings, if they can be used.
* `Engine.analyze`: what the engine would do with a pattern.
-/

namespace TrigramSearch

/-- Why all documents were verified. -/
inductive FullScanReason where
  | disabled
  | ineligible (reason : Ineligibility)
  | ineffective (candidates : Nat)
deriving DecidableEq, Inhabited

/-- How a search was executed. -/
inductive Strategy where
  /-- Only the candidates were verified. -/
  | accelerated (candidates : Nat)
  /-- All documents were verified. -/
  | fullScan (reason : FullScanReason)
  /-- The pattern does not compile. -/
  | invalidPattern (reason : String)
deriving DecidableEq, Inhabited

namespace Strategy

def isAccelerated : Strategy → Bool
  | accelerated _ => true
  | _ => false

end Strategy

/-- The result of a search. -/
structure SearchResult where
  /-- The matching documents, in the order of the collection. -/
  documents : List Json.Value
  positions : List Nat
  strategy : Strategy
deriving Inhabited

/-- How long the phases of a search took. -/
structure Timing where
  filterTime : Duration
  verifyTime : Duration
deriving DecidableEq, Inhabited

namespace Timing

/-- Phases that took no measurable time. -/
def none : Timing := ⟨Duration.zero, Duration.zero⟩

end Timing

/-- The state of a search engine. -/
structure Engine where
  settings : SearchSettings
  cache : IndexCache
  tally : Tally
deriving DecidableEq, Inhabited

namespace Engine

/-- An engine that has not searched yet. -/
def new (settings : SearchSettings) : Engine := ⟨settings, IndexCache.empty, Tally.empty⟩

/-- Takes other settings, if they can be used. Indexes are dropped if the other settings make
them useless. -/
def configure (g : Engine) (settings : SearchSettings) : Except Error Engine :=
  match settings.check with
  | .error e => .error e
  | .ok () =>
    .ok { g with
      settings
      cache := if g.settings.invalidatesIndexes settings then g.cache.clear else g.cache }

/-- Counts a new index, if one was built. -/
def countBuild (t : Tally) (built : Bool) : Tally := if built then t.recordBuild else t

/-- What is observed about a search with a plan. -/
def observe (plan : Plan) (size found : Nat) (timing : Timing) : Observation where
  kind := match plan with
    | .disabled => .disabled
    | .ineligible reason => if reason.isShort then .tooShort else .unsupported
    | .ineffective _ => .ineffective
    | .candidates _ => .accelerated
  collectionSize := size
  candidates := match plan with
    | .candidates positions => some positions.length
    | _ => none
  found
  filterTime := timing.filterTime
  verifyTime := timing.verifyTime

/-- The strategy that a plan stands for. -/
def strategyOf : Plan → Strategy
  | .disabled => .fullScan .disabled
  | .ineligible reason => .fullScan (.ineligible reason)
  | .ineffective n => .fullScan (.ineffective n)
  | .candidates positions => .accelerated positions.length

/-- The matching positions under a plan. -/
def positionsOf (v : Verifier) (c : Collection) : Plan → List Nat
  | .candidates positions => v.verifyOnly c positions
  | _ => v.verifyAll c

/-- A query as it is before any document is looked at. -/
inductive Query where
  /-- The pattern does not compile. -/
  | invalid (fault : Error)
  | planned (verifier : Verifier) (made : Plan.Made)

namespace Query

/-- The matching positions. -/
def positions (c : Collection) : Query → List Nat
  | invalid _ => []
  | planned v made => positionsOf v c made.plan

end Query

/-- Compiles and plans a query. -/
def plan (g : Engine) (isLive : CollectionId → Bool) (c : Collection) (field : String)
    (pattern options : List Char) (overrides : Option Overrides) : Query :=
  let options := MatchOptions.ofChars options
  match Verifier.compile pattern options field with
  | .error e => .invalid e
  | .ok v =>
    let settings := g.settings.withOverrides overrides
    .planned v (Plan.make settings g.cache isLive c field pattern options)

/-- The result of a query with these matching positions, and the engine that has recorded it. -/
def finish (g : Engine) (timing : Timing) (c : Collection) (query : Query)
    (positions : List Nat) : SearchResult × Engine :=
  match query with
  | .invalid e =>
    let seen : Observation := ⟨.invalidPattern, c.length, none, 0, Duration.zero, timing.verifyTime⟩
    (⟨[], [], .invalidPattern e.message⟩, { g with tally := (g.tally.record seen).tally })
  | .planned _ made =>
    let seen := observe made.plan c.length positions.length timing
    (⟨positions.filterMap c.get?, positions, strategyOf made.plan⟩,
      { g with
        cache := made.cache
        tally := ((countBuild g.tally made.built).record seen).tally })

/-- Searches a field of the documents of a collection. -/
def search (g : Engine) (isLive : CollectionId → Bool) (timing : Timing) (c : Collection)
    (field : String) (pattern : List Char) (options : List Char) (overrides : Option Overrides) :
    SearchResult × Engine :=
  let query := g.plan isLive c field pattern options overrides
  g.finish timing c query (query.positions c)

/-- Explains how a pattern would be treated. -/
def analyze (g : Engine) (pattern options : List Char) : PatternAnalysis :=
  PatternAnalysis.ofPattern pattern (MatchOptions.ofChars options) g.settings

def statistics (g : Engine) : Statistics := g.tally.snapshot

/-- Forgets the statistics. -/
def reset (g : Engine) : Engine := { g with tally := Tally.empty }

/-- Drops all indexes. -/
def clear (g : Engine) : Engine := { g with cache := g.cache.clear }

/-- Drops the indexes of a collection. -/
def invalidate (g : Engine) (id : CollectionId) : Engine :=
  { g with cache := g.cache.invalidate id }

end Engine
end TrigramSearch
