import TrigramSearch.Json.Value
import TrigramSearch.Search.Statistics
import TrigramSearch.Settings

/-!
# Settings, overrides and statistics in JSON

Records are read from objects, whose unknown members are ignored, or from arrays of their values
in order. Each reader gives `none` for a value of the wrong type and for a number that is out of
range.
-/

namespace TrigramSearch

namespace Json.Value

def bool? : Value → Option Bool
  | .bool b => some b
  | _ => none

/-- A natural number below a limit. -/
def natBelow? (limit : Nat) : Value → Option Nat
  | .number (.integer i) => if 0 ≤ i && i.toNat < limit then some i.toNat else none
  | _ => none

/-- A number; an integer counts as one. -/
def number? : Value → Option Binary64
  | .number (.float x) => some x
  | .number (.integer i) => some (Binary64.ofInt i)
  | _ => none

def string? : Value → Option String
  | .string s => some s
  | _ => none

/-- A value that may be null. -/
def orNull? (decode : Value → Option α) : Value → Option (Option α)
  | .null => some none
  | v => (decode v).map some

/-- A word of 64 bits. -/
def word? (v : Value) : Option UInt64 := (v.natBelow? (1 <<< 64)).map UInt64.ofNat

/-- The fields of a record. -/
inductive Fields where
  | named (members : List (String × Value))
  | listed (items : List Value)

/-- The fields of a record with the given number of fields; an array may not have more. -/
def fields? (count : Nat) : Value → Option Fields
  | .object members => some (.named members)
  | .array items => if items.length ≤ count then some (.listed items) else none
  | _ => none

namespace Fields

def find? (f : Fields) (name : String) (position : Nat) : Option Value :=
  match f with
  | named members => member? name members
  | listed items => items[position]?

/-- A field, or its default if it is missing. -/
def getOr? (f : Fields) (name : String) (position : Nat) (decode : Value → Option α)
    (default : α) : Option α :=
  match f.find? name position with
  | none => some default
  | some v => decode v

/-- A field that may not be missing. -/
def get? (f : Fields) (name : String) (position : Nat) (decode : Value → Option α) : Option α :=
  (f.find? name position).bind decode

/-- A field that may be null, or missing from an object. -/
def optional? (f : Fields) (name : String) (position : Nat) (decode : Value → Option α) :
    Option (Option α) :=
  match f, f.find? name position with
  | named _, none => some none
  | listed _, none => none
  | _, some v => v.orNull? decode

end Fields
end Json.Value

open Json

def Overrides.ofJson? (v : Value) : Option Overrides := do
  let f ← v.fields? 4
  return {
    useFilters := ← f.optional? "enableBloomFilter" 0 Value.bool?
    filterSizeBytes := ← f.optional? "bloomFilterSizeBytes" 1 (Value.natBelow? (1 <<< 64))
    minLiteralLength := ← f.optional? "minLiteralLength" 2 (Value.natBelow? (1 <<< 64))
    maxPatternComplexity := ← f.optional? "maxPatternComplexity" 3 (Value.natBelow? (1 <<< 64)) }

/-- A threshold: a number, or one of the names of numbers that JSON cannot write. -/
def threshold? : Value → Option Binary64
  | .string "nan" => some Binary64.nan
  | .string "inf" => some Binary64.infinity
  | .string "-inf" => some Binary64.infinity.neg
  | v => v.number?

/-- Settings in which the members of an object take the place of given ones. -/
def SearchSettings.patch? (base : SearchSettings) (v : Value) : Option SearchSettings :=
  match v with
  | .object members => do
    let f : Value.Fields := .named members
    return {
      useFilters := ← f.getOr? "enableBloomFilter" 0 Value.bool? base.useFilters
      filterSizeBytes :=
        ← f.getOr? "bloomFilterSizeBytes" 0 (Value.natBelow? (1 <<< 64)) base.filterSizeBytes
      hashFunctions := ← f.getOr? "hashFunctions" 0 (Value.natBelow? (1 <<< 32)) base.hashFunctions
      minLiteralLength :=
        ← f.getOr? "minLiteralLength" 0 (Value.natBelow? (1 <<< 64)) base.minLiteralLength
      maxPatternComplexity :=
        ← f.getOr? "maxPatternComplexity" 0 (Value.natBelow? (1 <<< 64)) base.maxPatternComplexity
      effectivenessThreshold :=
        ← f.getOr? "effectivenessThreshold" 0 threshold? base.effectivenessThreshold
      idField := ← f.getOr? "idField" 0 Value.string? base.idField
      parallelThreshold :=
        ← f.getOr? "parallelThreshold" 0 (Value.natBelow? (1 <<< 64)) base.parallelThreshold }
  | _ => none

def SearchSection.ofJson? (v : Value) : Option SearchSection := do
  let f ← v.fields? 5
  let d : SearchSection := {}
  return {
    enableBloomFilter := ← f.getOr? "enable_bloom_filter" 0 Value.bool? d.enableBloomFilter
    minLiteralLength :=
      ← f.getOr? "min_literal_length" 1 (Value.natBelow? (1 <<< 64)) d.minLiteralLength
    maxPatternComplexity :=
      ← f.getOr? "max_pattern_complexity" 2 (Value.natBelow? (1 <<< 64)) d.maxPatternComplexity
    effectivenessThreshold :=
      ← f.getOr? "effectiveness_threshold" 3 Value.number? d.effectivenessThreshold
    idField := ← f.getOr? "id_field" 4 Value.string? d.idField }

def IndexSection.ofJson? (v : Value) : Option IndexSection := do
  let f ← v.fields? 2
  let d : IndexSection := {}
  return {
    bloomFilterSizeBytes :=
      ← f.getOr? "bloom_filter_size_bytes" 0 (Value.natBelow? (1 <<< 64)) d.bloomFilterSizeBytes
    hashFunctions := ← f.getOr? "hash_functions" 1 (Value.natBelow? (1 <<< 32)) d.hashFunctions }

def PerformanceSection.ofJson? (v : Value) : Option PerformanceSection := do
  let f ← v.fields? 1
  let d : PerformanceSection := {}
  return {
    parallelThreshold :=
      ← f.getOr? "parallel_threshold" 0 (Value.natBelow? (1 <<< 64)) d.parallelThreshold }

/-- The sections of a settings file; missing ones have their defaults. -/
def SettingsFile.ofJson? (v : Value) : Option SettingsFile := do
  let f ← v.fields? 3
  return {
    search := ← f.getOr? "search" 0 SearchSection.ofJson? {}
    index := ← f.getOr? "index" 1 IndexSection.ofJson? {}
    performance := ← f.getOr? "performance" 2 PerformanceSection.ofJson? {} }

/-- Statistics with all their fields. -/
def Statistics.ofJson? (v : Value) : Option Statistics := do
  let f ← v.fields? 17
  return {
    totalQueries := ← f.get? "totalQueries" 0 Value.word?
    prefilterHits := ← f.get? "prefilterHits" 1 Value.word?
    ineffectivePrefilters := ← f.get? "ineffectivePrefilters" 2 Value.word?
    disabledScans := ← f.get? "disabledScans" 3 Value.word?
    shortPatterns := ← f.get? "shortPatterns" 4 Value.word?
    unsupportedPatterns := ← f.get? "unsupportedPatterns" 5 Value.word?
    invalidPatterns := ← f.get? "invalidPatterns" 6 Value.word?
    indexBuilds := ← f.get? "indexBuilds" 7 Value.word?
    candidatesBefore := ← f.get? "candidatesBefore" 8 Value.word?
    candidatesAfter := ← f.get? "candidatesAfter" 9 Value.word?
    verifiedCandidates := ← f.get? "verifiedCandidates" 10 Value.word?
    totalMatches := ← f.get? "totalMatches" 11 Value.word?
    prefilterTimeMs := ← f.get? "prefilterTimeMs" 12 Value.number?
    verifyTimeMs := ← f.get? "verifyTimeMs" 13 Value.number?
    averageSpeedup := ← f.get? "averageSpeedup" 14 Value.number?
    falsePositiveRate := ← f.get? "falsePositiveRate" 15 Value.number?
    reductionRatio := ← f.get? "reductionRatio" 16 Value.number? }

/-- Statistics with the names of their fields. The times are zero in a report without times. -/
def Statistics.toJson (s : Statistics) : Value :=
  let count (n : UInt64) : Value := Value.ofNat n.toNat
  let ratio (x : Binary64) : Value := .number (.float x)
  Value.ofMembers [
    ("totalQueries", count s.totalQueries), ("prefilterHits", count s.prefilterHits),
    ("ineffectivePrefilters", count s.ineffectivePrefilters),
    ("disabledScans", count s.disabledScans), ("shortPatterns", count s.shortPatterns),
    ("unsupportedPatterns", count s.unsupportedPatterns),
    ("invalidPatterns", count s.invalidPatterns), ("indexBuilds", count s.indexBuilds),
    ("candidatesBefore", count s.candidatesBefore), ("candidatesAfter", count s.candidatesAfter),
    ("verifiedCandidates", count s.verifiedCandidates), ("totalMatches", count s.totalMatches),
    ("prefilterTimeMs", ratio s.prefilterTimeMs), ("verifyTimeMs", ratio s.verifyTimeMs),
    ("averageSpeedup", ratio s.averageSpeedup), ("falsePositiveRate", ratio s.falsePositiveRate),
    ("reductionRatio", ratio s.reductionRatio)]

end TrigramSearch
