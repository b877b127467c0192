import TrigramSearch.Error
import TrigramSearch.Number.Decimal

/-!
# Settings

The settings of a search exist in two shapes: flat, as a search uses them (`SearchSettings`), and
in sections, as a settings file keeps them (`SettingsFile`). A single search may override some of
the flat ones.

## Main definitions

* `SearchSettings.check`: the first reason, if any, why settings cannot be used.
* `SearchSettings.override`: settings for one call.
* `SearchSettings.invalidatesIndexes`: whether indexes built under other settings are useless.
-/

namespace TrigramSearch

/-- The length below which a literal has no trigram. -/
def trigramLength : Nat := 3

/-- The settings of a search. -/
structure SearchSettings where
  /-- Whether documents are filtered before they are verified. -/
  useFilters : Bool := true
  /-- Every positive size can be set, but filters are described for sizes that fit only
  (`DocumentFilter.Fits`). -/
  filterSizeBytes : Nat := 256
  hashFunctions : Nat := 3
  minLiteralLength : Nat := trigramLength
  maxPatternComplexity : Nat := 200
  /-- The share of the collection above which a candidate set is not used. -/
  effectivenessThreshold : Binary64 := ⟨0x3fe6666666666666⟩
  idField : String := "_id"
  /-- The number of documents from which on work may be divided; no answer depends on it. -/
  parallelThreshold : Nat := 10000
deriving DecidableEq, Inhabited

/-- Why settings cannot be used. -/
inductive SettingsFault where
  | threshold (value : Binary64)
  | filterSize
  | hashFunctions
deriving DecidableEq

def SettingsFault.message : SettingsFault → String
  | threshold x => "effectiveness_threshold must be within 0.0..=1.0, got " ++ x.toPositional
  | filterSize => "bloom_filter_size_bytes must be positive"
  | hashFunctions => "hash_functions must be positive"

/-- Settings for a single call; what is absent keeps its value. -/
structure Overrides where
  useFilters : Option Bool := none
  filterSizeBytes : Option Nat := none
  minLiteralLength : Option Nat := none
  maxPatternComplexity : Option Nat := none
deriving DecidableEq, Inhabited

namespace SearchSettings

def override (s : SearchSettings) (o : Overrides) : SearchSettings :=
  { s with
    useFilters := o.useFilters.getD s.useFilters
    filterSizeBytes := o.filterSizeBytes.getD s.filterSizeBytes
    minLiteralLength := o.minLiteralLength.getD s.minLiteralLength
    maxPatternComplexity := o.maxPatternComplexity.getD s.maxPatternComplexity }

/-- Settings for a call that may or may not have overrides. -/
def withOverrides (s : SearchSettings) : Option Overrides → SearchSettings
  | some o => s.override o
  | none => s

/-- The first fault of the settings. A threshold that is not a number is a fault too. -/
def fault? (s : SearchSettings) : Option SettingsFault :=
  let x := s.effectivenessThreshold
  if !(Binary64.zero.le x && x.le Binary64.one) then some (.threshold x)
  else if s.filterSizeBytes = 0 then some .filterSize
  else if s.hashFunctions = 0 then some .hashFunctions
  else none

def check (s : SearchSettings) : Except Error Unit :=
  match s.fault? with
  | some f => .error (.configuration f.message)
  | none => .ok ()

/-- The length from which on a literal is used; it is never too short for a trigram. -/
def literalFloor (s : SearchSettings) : Nat := max s.minLiteralLength trigramLength

/-- Whether a change to other settings makes the indexes built so far useless. -/
def invalidatesIndexes (s other : SearchSettings) : Bool :=
  s.useFilters != other.useFilters || s.filterSizeBytes != other.filterSizeBytes ||
    s.hashFunctions != other.hashFunctions || s.idField != other.idField

/-- Equality of all values. Thresholds are compared as numbers, so settings whose threshold is no
number are not equal to themselves. -/
def sameValues (s other : SearchSettings) : Bool :=
  s.useFilters == other.useFilters && s.filterSizeBytes == other.filterSizeBytes &&
    s.hashFunctions == other.hashFunctions && s.minLiteralLength == other.minLiteralLength &&
    s.maxPatternComplexity == other.maxPatternComplexity &&
    s.effectivenessThreshold.eq other.effectivenessThreshold && s.idField == other.idField &&
    s.parallelThreshold == other.parallelThreshold

end SearchSettings

/-! ## Sections of a settings file -/

/-- Which patterns are filtered for. -/
structure SearchSection where
  enableBloomFilter : Bool := true
  minLiteralLength : Nat := trigramLength
  maxPatternComplexity : Nat := 200
  effectivenessThreshold : Binary64 := ⟨0x3fe6666666666666⟩
  idField : String := "_id"
deriving DecidableEq, Inhabited

/-- The size of the filters. -/
structure IndexSection where
  bloomFilterSizeBytes : Nat := 256
  hashFunctions : Nat := 3
deriving DecidableEq, Inhabited

structure PerformanceSection where
  parallelThreshold : Nat := 10000
deriving DecidableEq, Inhabited

/-- The settings as a file keeps them. -/
structure SettingsFile where
  search : SearchSection := {}
  index : IndexSection := {}
  performance : PerformanceSection := {}
deriving DecidableEq, Inhabited

namespace SettingsFile

/-- The flat view of the sections. -/
def settings (f : SettingsFile) : SearchSettings where
  useFilters := f.search.enableBloomFilter
  filterSizeBytes := f.index.bloomFilterSizeBytes
  hashFunctions := f.index.hashFunctions
  minLiteralLength := f.search.minLiteralLength
  maxPatternComplexity := f.search.maxPatternComplexity
  effectivenessThreshold := f.search.effectivenessThreshold
  idField := f.search.idField
  parallelThreshold := f.performance.parallelThreshold

def sameValues (f g : SettingsFile) : Bool := f.settings.sameValues g.settings

def check (f : SettingsFile) : Except Error Unit := f.settings.check

end SettingsFile
end TrigramSearch
