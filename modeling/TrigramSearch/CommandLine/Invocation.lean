import TrigramSearch.CommandLine.Arguments
import TrigramSearch.Settings

/-!
# Invocations

What the arguments ask for. The options of the program itself may stand before the command or
among its own options; if the settings file is named in both places, the one of the command
counts. Messages about the work in progress can be asked for and turned off, but there are none.

## Main definitions

* `Invocation`: a command with the settings file it uses.
* `Invocation.ofArguments`: the invocation that arguments stand for.
-/

namespace TrigramSearch.CommandLine

/-- What to search for, and where. -/
structure SearchRequest where
  /-- A file of documents. -/
  file : String
  pattern : String
  field : String
  options : String
  noBloom : Bool
  sizeBytes : Option Nat
  minLiteral : Option Nat
  limit : Nat
  repetitions : Nat
  stats : Bool
deriving DecidableEq, Inhabited

namespace SearchRequest

/-- The settings that are overridden, if any are. -/
def overrides (r : SearchRequest) : Option Overrides :=
  if !r.noBloom && r.sizeBytes.isNone && r.minLiteral.isNone then none
  else some {
    useFilters := if r.noBloom then some false else none
    filterSizeBytes := r.sizeBytes
    minLiteralLength := r.minLiteral }

end SearchRequest

/-- The commands. -/
inductive Command where
  /-- Search the documents of a file. -/
  | search (request : SearchRequest) (format : OutputFormat)
  /-- Explain how a pattern would be treated. -/
  | analyze (pattern options : String) (format : OutputFormat)
  /-- Show the settings, or where they are kept, or write them. -/
  | config (showPath init : Bool)
deriving DecidableEq, Inhabited

/-- A command with the settings file that it uses, if one is named. -/
structure Invocation where
  settingsPath : Option String
  command : Command
deriving DecidableEq, Inhabited

namespace Invocation

/-! ## Levels -/

/-- The options that may stand anywhere. -/
def commonOptions : List OptionName := [.config, .verbose, .quiet, .help]

def programLevel : Level := ⟨.version :: commonOptions, none⟩

def searchLevel : Level :=
  ⟨commonOptions ++ [.field, .options, .noBloom, .sizeBytes, .minLiteral, .limit, .repetitions,
    .stats, .output], some 2⟩

def analyzeLevel : Level := ⟨commonOptions ++ [.options, .output], some 1⟩

def configLevel : Level := ⟨commonOptions ++ [.path, .init], some 0⟩

/-! ## Commands -/

def formatOf (s : Scan) : OutputFormat := ((s.value? .output).bind format?).getD .text

def sizeOf (s : Scan) (o : OptionName) : Option Nat := (s.value? o).bind size?

/-- The search that options and words ask for. -/
def searchOf (s : Scan) : Except Stop Command :=
  match s.words.reverse with
  | file :: pattern :: _ =>
    if file.isEmpty then .error (.fault (.emptyArgument "FILE"))
    else .ok (.search
      { file
        pattern
        field := (s.value? .field).getD "text"
        options := (s.value? .options).getD ""
        noBloom := s.has .noBloom
        sizeBytes := sizeOf s .sizeBytes
        minLiteral := sizeOf s .minLiteral
        limit := (sizeOf s .limit).getD 100
        repetitions := (sizeOf s .repetitions).getD 1
        stats := s.has .stats }
      (formatOf s))
  | [_] => .error (.fault (.missingArgument "PATTERN"))
  | [] => .error (.fault (.missingArgument "FILE"))

/-- The analysis that options and words ask for. -/
def analyzeOf (s : Scan) : Except Stop Command :=
  match s.words with
  | pattern :: _ => .ok (.analyze pattern ((s.value? .options).getD "") (formatOf s))
  | [] => .error (.fault (.missingArgument "PATTERN"))

def configOf (s : Scan) : Except Stop Command := .ok (.config (s.has .path) (s.has .init))

/-- Reads the arguments of a command. -/
def ofCommandArguments (program : Scan) (level : Level) (make : Scan → Except Stop Command)
    (args : List String) : Except Stop Invocation := do
  let (s, _) ← scan level args
  let command ← make s
  return ⟨(s.value? .config).or (program.value? .config), command⟩

/-- A question about one of the commands, or about the program. -/
def helpOn : List String → Stop
  | [] => .showHelp
  | name :: rest =>
    if name ∉ ["search", "analyze", "config", "help"] then .fault (.unknownCommand name)
    else
      match rest with
      | [] => .showHelp
      | more :: _ => .fault (.unknownCommand more)

/-- What the arguments ask for. -/
def ofArguments (args : List String) : Except Stop Invocation := do
  let (program, rest) ← scan programLevel args
  match rest with
  | [] => .error (.fault .missingCommand)
  | "search" :: args => ofCommandArguments program searchLevel searchOf args
  | "analyze" :: args => ofCommandArguments program analyzeLevel analyzeOf args
  | "config" :: args => ofCommandArguments program configLevel configOf args
  | "help" :: names => .error (helpOn names)
  | name :: _ => .error (.fault (.unknownCommand name))

end Invocation
end TrigramSearch.CommandLine
