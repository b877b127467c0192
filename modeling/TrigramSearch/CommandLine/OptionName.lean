/-!
# Options of the command line

Every option has a long name, most have a short one too, and each takes a value or none.
-/

namespace TrigramSearch.CommandLine

/-- The options of all commands. -/
inductive OptionName where
  /-- The settings file. -/
  | config
  | verbose
  | quiet
  | help
  | version
  /-- The path of the field to search. -/
  | field
  /-- The letters of the match options. -/
  | options
  /-- Search without filters. -/
  | noBloom
  | sizeBytes
  | minLiteral
  /-- How many matches are printed. -/
  | limit
  /-- How often a search is done. -/
  | repetitions
  /-- Whether statistics are printed. -/
  | stats
  | output
  /-- Whether the path of the settings file is printed. -/
  | path
  /-- Whether a settings file is written. -/
  | init
deriving DecidableEq, Inhabited

/-- What an option takes, and whether it may be given again. -/
inductive Arity where
  /-- No value, given once. -/
  | flag
  /-- No value, given any number of times. -/
  | counter
  /-- A value, given once. -/
  | value
deriving DecidableEq

namespace OptionName

def long : OptionName → String
  | config => "config"
  | verbose => "verbose"
  | quiet => "quiet"
  | help => "help"
  | version => "version"
  | field => "field"
  | options => "options"
  | noBloom => "no-bloom"
  | sizeBytes => "size-bytes"
  | minLiteral => "min-literal"
  | limit => "limit"
  | repetitions => "repeat"
  | stats => "stats"
  | output => "output"
  | path => "path"
  | init => "init"

def short? : OptionName → Option Char
  | config => some 'c'
  | verbose => some 'v'
  | quiet => some 'q'
  | help => some 'h'
  | version => some 'V'
  | field => some 'f'
  | options => some 'O'
  | limit => some 'l'
  | output => some 'o'
  | _ => none

def arity : OptionName → Arity
  | verbose => .counter
  | quiet | help | version | noBloom | stats | path | init => .flag
  | config | field | options | sizeBytes | minLiteral | limit | repetitions | output => .value

end OptionName

/-- The form in which a search or an analysis is reported. -/
inductive OutputFormat where
  | text
  | json
deriving DecidableEq, Inhabited

/-! ## Values -/

/-- The name of a format, in any letter case. -/
def format? (s : String) : Option OutputFormat :=
  match s.toLower with
  | "text" => some .text
  | "json" => some .json
  | _ => none

/-- The value of decimal digits, of which there has to be one at least. -/
def digits? (s : List Char) : Option Nat :=
  if s.isEmpty || !s.all Char.isDigit then none
  else some (s.foldl (fun n c => n * 10 + (c.toNat - '0'.toNat)) 0)

/-- A natural number of 64 bits; there may be a plus sign before it. -/
def size? (s : String) : Option Nat :=
  let n := match s.toList with
    | '+' :: ds => digits? ds
    | ds => digits? ds
  n.filter (· < 1 <<< 64)

/-- Whether a value suits an option. A file has a name; letters, fields and patterns may be
empty. -/
def OptionName.accepts (o : OptionName) (value : String) : Bool :=
  match o with
  | config => !value.isEmpty
  | sizeBytes | minLiteral | limit | repetitions => (size? value).isSome
  | output => (format? value).isSome
  | _ => true

end TrigramSearch.CommandLine
