import TrigramSearch.Number.Decimal
import TrigramSearch.Time.Duration

/-!
# Statistics of queries

Every query is observed once: how it was executed, how many documents there were, how many
candidates were left and how many matched, and how long its two phases took. A tally adds up
observations. Its counters are 64-bit words and wrap around; the time of one phase counts at most
`2 ^ 64 - 1` nanoseconds.

The speedup of a query is estimated from the time of both phases together. That sum may be more
than a duration can hold; recording then stops, after the counters have been updated.

## Main definitions

* `Observation.estimateSpeedup`: the estimated gain of one query.
* `Tally.record`: adds an observation.
* `Tally.snapshot`: counters and ratios at one moment.
* `Statistics.display`: their summary in one line.
-/

namespace TrigramSearch

/-- How a query was executed. -/
inductive QueryKind where
  /-- Only candidates were verified. -/
  | accelerated
  /-- The filters left too many candidates. -/
  | ineffective
  /-- The filters are turned off. -/
  | disabled
  /-- No literal is long enough. -/
  | tooShort
  /-- There is no literal, or the pattern is too complex. -/
  | unsupported
  /-- The pattern does not compile. -/
  | invalidPattern
deriving DecidableEq, Inhabited

/-- What is recorded about one query. -/
structure Observation where
  kind : QueryKind
  collectionSize : Nat
  /-- The number of candidates, if there was a candidate set. -/
  candidates : Option Nat
  found : Nat
  filterTime : Duration
  verifyTime : Duration
deriving DecidableEq, Inhabited

/-- The estimated speedup of a query. -/
inductive Speedup where
  /-- There is nothing to estimate from. -/
  | unknown
  | factor (x : Binary64)
  /-- The times add up to more than a duration can hold. -/
  | overflow
deriving DecidableEq, Inhabited

namespace Observation

/-- The time that verifying all documents would have taken, from the time of one candidate,
divided by the time that was taken. -/
def estimateSpeedup (o : Observation) : Speedup :=
  if o.kind ≠ .accelerated then .unknown
  else
    match o.candidates with
    | none => .unknown
    | some 0 => .unknown
    | some n =>
      match o.filterTime.add? o.verifyTime with
      | none => .overflow
      | some total =>
        let elapsed := total.seconds
        if elapsed.le Binary64.zero then .unknown
        else
          let perCandidate := o.verifyTime.seconds.div (Binary64.ofNat n)
          .factor ((perCandidate.mul (Binary64.ofNat o.collectionSize)).div elapsed)

end Observation

/-- Counters and ratios at one moment. -/
structure Statistics where
  totalQueries : UInt64
  prefilterHits : UInt64
  ineffectivePrefilters : UInt64
  disabledScans : UInt64
  shortPatterns : UInt64
  unsupportedPatterns : UInt64
  invalidPatterns : UInt64
  indexBuilds : UInt64
  candidatesBefore : UInt64
  candidatesAfter : UInt64
  verifiedCandidates : UInt64
  totalMatches : UInt64
  prefilterTimeMs : Binary64
  verifyTimeMs : Binary64
  averageSpeedup : Binary64
  falsePositiveRate : Binary64
  reductionRatio : Binary64
deriving DecidableEq, Inhabited

namespace Statistics

def percent (x : Binary64) : Binary64 := x.mul (Binary64.ofNat 100)

/-- The summary in one line. -/
def display (s : Statistics) : String :=
  let count (n : UInt64) : String := toString n.toNat
  count s.totalQueries ++ " queries, " ++ count s.prefilterHits ++ " accelerated (" ++
    count s.ineffectivePrefilters ++ " ineffective, " ++ count s.shortPatterns ++ " short, " ++
    count s.unsupportedPatterns ++ " unsupported, " ++ count s.invalidPatterns ++
    " invalid), reduction " ++ (percent s.reductionRatio).toFixed 1 ++ "%, fpr " ++
    (percent s.falsePositiveRate).toFixed 2 ++ "%, avg speedup " ++
    s.averageSpeedup.toFixed 2 ++ "x"

end Statistics

/-- Sums over the observations since the last reset. -/
structure Tally where
  totalQueries : UInt64 := 0
  prefilterHits : UInt64 := 0
  ineffectivePrefilters : UInt64 := 0
  disabledScans : UInt64 := 0
  shortPatterns : UInt64 := 0
  unsupportedPatterns : UInt64 := 0
  invalidPatterns : UInt64 := 0
  indexBuilds : UInt64 := 0
  candidatesBefore : UInt64 := 0
  candidatesAfter : UInt64 := 0
  verifiedCandidates : UInt64 := 0
  totalMatches : UInt64 := 0
  filterNanos : UInt64 := 0
  verifyNanos : UInt64 := 0
  speedupSum : Binary64 := Binary64.zero
  speedupSamples : UInt64 := 0
deriving DecidableEq, Inhabited

namespace Tally

def empty : Tally := {}

/-- Counts a query under its kind. -/
def countKind (t : Tally) : QueryKind → Tally
  | .accelerated => { t with prefilterHits := t.prefilterHits + 1 }
  | .ineffective => { t with ineffectivePrefilters := t.ineffectivePrefilters + 1 }
  | .disabled => { t with disabledScans := t.disabledScans + 1 }
  | .tooShort => { t with shortPatterns := t.shortPatterns + 1 }
  | .unsupported => { t with unsupportedPatterns := t.unsupportedPatterns + 1 }
  | .invalidPattern => { t with invalidPatterns := t.invalidPatterns + 1 }

/-- Adds what concerns accelerated queries only. -/
def countCandidates (t : Tally) (o : Observation) : Tally :=
  if o.kind = .accelerated then
    { t with
      candidatesBefore := t.candidatesBefore + UInt64.ofNat o.collectionSize
      candidatesAfter := t.candidatesAfter + UInt64.ofNat (o.candidates.getD 0)
      verifiedCandidates := t.verifiedCandidates + UInt64.ofNat o.found }
  else t

/-- Adds everything but the speedup. -/
def count (t : Tally) (o : Observation) : Tally :=
  let t := { t with
    totalQueries := t.totalQueries + 1
    totalMatches := t.totalMatches + UInt64.ofNat o.found
    filterNanos := t.filterNanos + o.filterTime.word
    verifyNanos := t.verifyNanos + o.verifyTime.word }
  (t.countKind o.kind).countCandidates o

/-- A tally after a recording, and whether the recording came to its end. -/
structure Recorded where
  tally : Tally
  finished : Bool

/-- Records a query. -/
def record (t : Tally) (o : Observation) : Recorded :=
  let t := t.count o
  match o.estimateSpeedup with
  | .unknown => ⟨t, true⟩
  | .factor x =>
    ⟨{ t with speedupSum := t.speedupSum.add x, speedupSamples := t.speedupSamples + 1 }, true⟩
  | .overflow => ⟨t, false⟩

/-- Counts an index that was built. -/
def recordBuild (t : Tally) : Tally := { t with indexBuilds := t.indexBuilds + 1 }

/-- A quotient, zero unless the denominator is positive. -/
def ratio (num den : Binary64) : Binary64 :=
  if Binary64.zero.lt den then num.div den else Binary64.zero

def ofWord (w : UInt64) : Binary64 := Binary64.ofNat w.toNat

/-- The share that is missing from a whole, zero if nothing is missing. -/
def missingShare (part whole : UInt64) : Binary64 :=
  ratio (Binary64.ofNat (whole.toNat - part.toNat)) (ofWord whole)

/-- Nanoseconds in milliseconds. -/
def milliseconds (nanos : UInt64) : Binary64 := (ofWord nanos).div (Binary64.ofNat 1000000)

/-- Counters and ratios at this moment. -/
def snapshot (t : Tally) : Statistics where
  totalQueries := t.totalQueries
  prefilterHits := t.prefilterHits
  ineffectivePrefilters := t.ineffectivePrefilters
  disabledScans := t.disabledScans
  shortPatterns := t.shortPatterns
  unsupportedPatterns := t.unsupportedPatterns
  invalidPatterns := t.invalidPatterns
  indexBuilds := t.indexBuilds
  candidatesBefore := t.candidatesBefore
  candidatesAfter := t.candidatesAfter
  verifiedCandidates := t.verifiedCandidates
  totalMatches := t.totalMatches
  prefilterTimeMs := milliseconds t.filterNanos
  verifyTimeMs := milliseconds t.verifyNanos
  averageSpeedup := ratio t.speedupSum (ofWord t.speedupSamples)
  falsePositiveRate := missingShare t.verifiedCandidates t.candidatesAfter
  reductionRatio := missingShare t.candidatesAfter t.candidatesBefore

end Tally
end TrigramSearch
