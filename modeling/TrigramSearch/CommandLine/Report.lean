import TrigramSearch.Search.Engine
import TrigramSearch.Settings.Json
import TrigramSearch.Time.Moment

/-!
# Reports

What is printed about patterns and searches, in words and in JSON.
-/

namespace TrigramSearch.CommandLine

open Json

/-! ## Names -/

def reasonName : Ineligibility → String
  | .tooShort => "TooShort"
  | .tooComplex => "TooComplex"
  | .noLiterals => "NoLiterals"

/-- How a search was executed, in words. -/
def strategyText : Strategy → String
  | .accelerated n => "prefiltered to " ++ toString n ++ " candidates"
  | .fullScan .disabled => "full scan: Disabled"
  | .fullScan (.ineligible reason) => "full scan: Ineligible(" ++ reasonName reason ++ ")"
  | .fullScan (.ineffective n) =>
    "full scan: Ineffective \x7b candidates: " ++ toString n ++ " \x7d"
  | .invalidPattern reason => "invalid pattern: " ++ reason

/-- How a search was executed, as a value. -/
def strategyValue : Strategy → Value
  | .accelerated n => .object [("Accelerated", .object [("candidates", Value.ofNat n)])]
  | .fullScan .disabled => .object [("FullScan", .string "Disabled")]
  | .fullScan (.ineligible reason) =>
    .object [("FullScan", .object [("Ineligible", .string (reasonName reason))])]
  | .fullScan (.ineffective n) =>
    .object [("FullScan", .object [("Ineffective", .object [("candidates", Value.ofNat n)])])]
  | .invalidPattern reason => .object [("InvalidPattern", .object [("reason", .string reason)])]

/-! ## Analyses -/

def joined (separator : String) (parts : List (List Char)) : String :=
  separator.intercalate (parts.map String.ofList)

/-- Whether a pattern is suitable, in a sentence. -/
def suitabilityText (settings : SearchSettings) (reason : Option Ineligibility) : String :=
  if !settings.useFilters then "Prefilter disabled by configuration."
  else
    match reason with
    | some r => "Not suitable: " ++ r.message ++ "."
    | none => "Suitable for prefiltering."

/-- An analysis in words. -/
def analysisText (settings : SearchSettings) (a : PatternAnalysis) : String :=
  "Pattern:     " ++ String.ofList a.pattern ++ "\n" ++
  "Complexity:  " ++ toString a.complexity ++ " (max " ++
    toString settings.maxPatternComplexity ++ ")\n" ++
  "Literals:    " ++ (if a.literals.isEmpty then "(none)" else joined ", " a.literals) ++ "\n" ++
  "Trigrams:    " ++ toString a.trigrams.length ++ "\n" ++
  (if a.trigrams.isEmpty then ""
    else "             " ++ joined " " (a.trigrams.map Trigram.toList) ++ "\n") ++
  "\n" ++ suitabilityText settings a.reason ++ "\n"

/-- An analysis as an object, in the order of its fields. -/
def analysisValue (a : PatternAnalysis) : Value :=
  .object [
    ("pattern", .string (String.ofList a.pattern)),
    ("literals", .array (a.literals.map fun s => .string (String.ofList s))),
    ("trigrams", .array (a.trigrams.map fun g => .string g.toString)),
    ("suitable", .bool a.suitable),
    ("complexity", Value.ofNat a.complexity),
    ("reason", match a.reason with
      | some r => .string (reasonName r)
      | none => .null)]

/-! ## Searches -/

/-- What is reported about a search that was done one or more times. -/
structure SearchReport where
  collection : Collection
  result : SearchResult
  /-- How many matches are printed. -/
  limit : Nat
  /-- The average time in milliseconds. -/
  elapsed : Binary64
  /-- The statistics and the moment of their last reset, if they are asked for. -/
  stats : Option (Statistics × Moment)

namespace SearchReport

/-- A line with the identity and the text of the document at a position. -/
def matchLine (r : SearchReport) (idField : String) (position : Nat) (document : Value) : String :=
  let id := match r.collection.documentId? position idField with
    | some id => id.display
    | none => ""
  id ++ "\t" ++ document.compact ++ "\n"

/-- The matches, a line each. -/
def matchLines (r : SearchReport) (idField : String) : String :=
  String.join (((r.result.positions.zip r.result.documents).take r.limit).map fun m =>
    r.matchLine idField m.1 m.2)

/-- A summary of the search, and of the statistics if they are asked for. -/
def summary (r : SearchReport) : String :=
  "\nFound " ++ toString r.result.documents.length ++ " matches in " ++
    toString r.collection.length ++ " documents (" ++ strategyText r.result.strategy ++ ") in " ++
    r.elapsed.toFixed 3 ++ "ms\n" ++
    match r.stats with
    | some (s, _) => s.display ++ "\n"
    | none => ""

/-- Statistics with the moment of their last reset. -/
def statsValue (s : Statistics) (lastReset : Moment) : Value :=
  match s.toJson with
  | .object members => .object (Value.insertMember "lastReset" (.string lastReset.text) members)
  | v => v

/-- The report as a value. -/
def value (r : SearchReport) : Value :=
  Value.ofMembers ([
    ("total", Value.ofNat r.result.documents.length),
    ("matches", .array (r.result.documents.take r.limit)),
    ("strategy", strategyValue r.result.strategy),
    ("elapsedMs", .number (.float r.elapsed))] ++
    match r.stats with
    | some (s, lastReset) => [("stats", statsValue s lastReset)]
    | none => [])

end SearchReport
end TrigramSearch.CommandLine
