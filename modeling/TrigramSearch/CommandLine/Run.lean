import TrigramSearch.CommandLine.Documents
import TrigramSearch.CommandLine.Invocation
import TrigramSearch.CommandLine.Report
import TrigramSearch.Settings.File

/-!
# Carrying out commands

The settings are read first, whatever the command is. A search may be done several times with one
engine; the last result is reported, and the time of all divided by their number. The program keeps
the time of each search until then, and there is no room for `2 ^ 59` times; with that many
repetitions, or with filters that are too large, it stops (`SearchRequest.Admissible`).

## Main definitions

* `SearchRequest.Admissible`: the searches that the program can carry out.
* `timedSearch`: one search, its phases timed by the system.
* `run`: what the program does with its arguments.
-/

namespace TrigramSearch.CommandLine

variable {m : Type → Type} [Monad m]

/-! ## Searching -/

/-- The result of a search, the engine after it, and the time of both phases. -/
structure Searched where
  result : SearchResult
  engine : Engine
  nanoseconds : Nat

/-- One search in a collection that exists. -/
def timedSearch (sys : System m) (g : Engine) (c : Collection) (r : SearchRequest) :
    m Searched := do
  let (query, filterTime) ← sys.timed fun _ =>
    g.plan (fun _ => true) c r.field r.pattern.toList r.options.toList r.overrides
  let (positions, verifyTime) ← sys.timed fun _ => query.positions c
  let (result, engine) := g.finish ⟨filterTime, verifyTime⟩ c query positions
  return ⟨result, engine, filterTime.nanoseconds + verifyTime.nanoseconds⟩

/-- Further searches after a first one; the times are added up. -/
def searchAgain (sys : System m) (c : Collection) (r : SearchRequest) (s : Searched) :
    Nat → m Searched
  | 0 => return s
  | n + 1 => do
    let t ← timedSearch sys s.engine c r
    searchAgain sys c r { t with nanoseconds := s.nanoseconds + t.nanoseconds } n

/-- The average of a time over a number of searches, in milliseconds. -/
def averageMilliseconds (nanoseconds count : Nat) : Binary64 :=
  ((Duration.seconds ⟨nanoseconds⟩).mul (Binary64.ofNat 1000)).div (Binary64.ofNat count)

/-- A search that can be carried out under the settings. -/
structure SearchRequest.Admissible (settings : SettingsFile) (r : SearchRequest) : Prop where
  /-- A size of zero is refused. -/
  size_pos : r.sizeBytes ≠ some 0
  size_fits : DocumentFilter.Fits (r.sizeBytes.getD settings.index.bloomFilterSizeBytes)
  /-- There is room for the times of all searches. -/
  repetitions_lt : r.repetitions < 1 <<< 59

/-- Searches, and reports the last result. -/
def searchAndReport (sys : System m) (settings : SettingsFile) (r : SearchRequest)
    (format : OutputFormat) (documents : List Json.Value) : m Outcome := do
  let lastReset ← sys.now
  let c : Collection := ⟨⟨0⟩, 0, documents⟩
  let first ← timedSearch sys (Engine.new settings.settings) c r
  let last ← searchAgain sys c r first (r.repetitions - 1)
  let report : SearchReport :=
    { collection := c
      result := last.result
      limit := r.limit
      elapsed := averageMilliseconds last.nanoseconds (max r.repetitions 1)
      stats := if r.stats then some (last.engine.statistics, lastReset) else none }
  match last.result.strategy, format with
  | .invalidPattern reason, _ => return .failure ⟨"Invalid pattern: " ++ reason, []⟩
  | _, .text => return .success (report.matchLines settings.search.idField) report.summary
  | _, .json => return .success (report.value.pretty ++ "\n")

/-- Searches the documents of a file. -/
def search (sys : System m) (settings : SettingsFile) (r : SearchRequest)
    (format : OutputFormat) : m Outcome := do
  if r.sizeBytes = some 0 then return .failure ⟨"--size-bytes must be positive", []⟩
  else
    match loadDocuments r.file (← sys.read r.file) with
    | .error f => return .failure f
    | .ok documents => searchAndReport sys settings r format documents

/-! ## Analysing -/

/-- Explains how a pattern would be treated. -/
def analyze (settings : SettingsFile) (pattern options : String) (format : OutputFormat) :
    Outcome :=
  let s := settings.settings
  let a := PatternAnalysis.ofPattern pattern.toList (MatchOptions.ofString options) s
  .success (match format with
    | .text => analysisText s a
    | .json => (analysisValue a).pretty ++ "\n")

/-! ## Settings -/

/-- Writes settings to a file that does not exist yet. -/
def writeSettings (sys : System m) (settings : SettingsFile) (path : String)
    (found : FileState) : m Outcome := do
  if found.exists? then return .failure ⟨"Config file already exists: " ++ path, []⟩
  else
    match settings.write with
    | .error e => return .failure (Failure.ofError e)
    | .ok text =>
      match ← sys.write path text with
      | some fault => return .failure (Failure.ofError (.inputOutput fault.message))
      | none => return .success ("Wrote " ++ path ++ "\n")

/-- Shows the settings or where they are kept, or writes them. -/
def config (sys : System m) (settings : SettingsFile) (path : String) (found : FileState)
    (showPath init : Bool) : m Outcome := do
  if showPath then return .success (path ++ "\n")
  else if init then writeSettings sys settings path found
  else
    match settings.write with
    | .ok text => return .success text
    | .error e => return .failure (Failure.ofError e)

/-! ## The program -/

/-- What the program calls itself. -/
def programName : String := "sift"

def programVersion : String := "0.1.0"

/-- How the program is used. -/
def usage : String :=
  "Usage: sift [OPTIONS] <COMMAND>\n" ++
  "\n" ++
  "Commands:\n" ++
  "  search <FILE> <PATTERN>  Search a document field with a regular expression\n" ++
  "  analyze <PATTERN>        Explain how a pattern would be prefiltered\n" ++
  "  config                   Show the effective configuration\n" ++
  "\n" ++
  "Options:\n" ++
  "  -c, --config <CONFIG>          Path to configuration file\n" ++
  "  -v, --verbose                  Verbosity level (-v, -vv, -vvv)\n" ++
  "  -q, --quiet                    Suppress all output except errors\n" ++
  "  -h, --help                     Print help\n" ++
  "  -V, --version                  Print version\n" ++
  "\n" ++
  "Options of search and analyze:\n" ++
  "  -O, --options <OPTIONS>        Match options (i, m, s, x)\n" ++
  "  -o, --output <OUTPUT>          Output format (text, json)\n" ++
  "\n" ++
  "Options of search:\n" ++
  "  -f, --field <FIELD>            Dotted path of the field to search [default: text]\n" ++
  "      --no-bloom                 Disable the Bloom prefilter for this search\n" ++
  "      --size-bytes <SIZE_BYTES>  Override the per-document filter size in bytes\n" ++
  "      --min-literal <LENGTH>     Override the minimum literal length\n" ++
  "  -l, --limit <LIMIT>            Maximum number of matches to print [default: 100]\n" ++
  "      --repeat <REPEAT>          Run the search this many times [default: 1]\n" ++
  "      --stats                    Print prefilter statistics after searching\n" ++
  "\n" ++
  "Options of config:\n" ++
  "      --path                     Print the configuration file path and exit\n" ++
  "      --init                     Write the effective configuration to the config file\n"

/-- The outcome when no command is carried out. -/
def Stop.outcome : Stop → Outcome
  | showVersion => .success (programName ++ " " ++ programVersion ++ "\n")
  | showHelp => .success usage
  | fault f => ⟨2, "", "error: " ++ f.message ++ "\n\n" ++ usage⟩

/-- Carries out a command. -/
def carryOut (sys : System m) (inv : Invocation) : m Outcome := do
  match inv.settingsPath.or sys.settingsPath with
  | none =>
    return .failure (Failure.ofError (.configuration "Could not determine config directory"))
  | some path =>
    let found ← sys.read path
    match SettingsFile.load found with
    | .error e => return .failure (Failure.ofError e)
    | .ok settings =>
      match inv.command with
      | .search r format => search sys settings r format
      | .analyze pattern options format => return analyze settings pattern options format
      | .config showPath init => config sys settings path found showPath init

/-- What the program does with its arguments. -/
def run (sys : System m) (args : List String) : m Outcome :=
  match Invocation.ofArguments args with
  | .error stop => return stop.outcome
  | .ok inv => carryOut sys inv

end TrigramSearch.CommandLine
