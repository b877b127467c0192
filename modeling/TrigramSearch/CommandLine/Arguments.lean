import TrigramSearch.CommandLine.OptionName

/-!
# Arguments

Arguments are read from left to right. An argument that starts with a hyphen holds options; what
follows `--` does not, and neither does a single hyphen. An option is written as `--name`, or as
one of several letters after a hyphen. Its value follows an equals sign, or the letter itself, or
is the next argument, which then must not look like an option.

## Main definitions

* `scan`: the options and words at the front of a list of arguments.
* `Stop`: why there is nothing to do: a usage fault, or a question about the program.
-/

namespace TrigramSearch.CommandLine

/-- What is wrong with the arguments. -/
inductive UsageFault where
  | unexpectedArgument (text : String)
  | unexpectedValue (option : OptionName)
  | missingValue (option : OptionName)
  | invalidValue (option : OptionName) (value : String)
  | repeatedOption (option : OptionName)
  | missingArgument (name : String)
  | emptyArgument (name : String)
  | missingCommand
  | unknownCommand (name : String)
deriving DecidableEq

def UsageFault.message : UsageFault → String
  | unexpectedArgument text => "unexpected argument '" ++ text ++ "' found"
  | unexpectedValue o => "unexpected value for '--" ++ o.long ++ "' found; no more were expected"
  | missingValue o => "a value is required for '--" ++ o.long ++ "' but none was supplied"
  | invalidValue o value => "invalid value '" ++ value ++ "' for '--" ++ o.long ++ "'"
  | repeatedOption o => "the argument '--" ++ o.long ++ "' cannot be used multiple times"
  | missingArgument name => "the required argument <" ++ name ++ "> was not provided"
  | emptyArgument name => "a value is required for <" ++ name ++ "> but none was supplied"
  | missingCommand => "a command is required"
  | unknownCommand name => "unrecognized subcommand '" ++ name ++ "'"

/-- Why no command is carried out. -/
inductive Stop where
  | fault (f : UsageFault)
  | showHelp
  | showVersion
deriving DecidableEq

/-- What has been read: the options with their values, the last one first, and the words in
reverse. -/
structure Scan where
  given : List (OptionName × String) := []
  words : List String := []

namespace Scan

def has (s : Scan) (o : OptionName) : Bool := (s.given.lookup o).isSome

def value? (s : Scan) (o : OptionName) : Option String := s.given.lookup o

/-- Takes note of an option. Questions about the program end the reading. -/
def give (s : Scan) (o : OptionName) (value : String) : Except Stop Scan :=
  if o.arity ≠ .counter && s.has o then .error (.fault (.repeatedOption o))
  else if !o.accepts value then .error (.fault (.invalidValue o value))
  else if o = .help then .error .showHelp
  else if o = .version then .error .showVersion
  else .ok { s with given := (o, value) :: s.given }

end Scan

/-- Where arguments are read: which options are known, and how many words are taken; the words
of the program itself end with the name of a command. -/
structure Level where
  options : List OptionName
  /-- `none` where a word is the name of a command. -/
  wordLimit : Option Nat

/-- What has been read after one argument: an option at its end may await its value. -/
structure Progress where
  scan : Scan
  awaits : Option OptionName := none

/-- Reads an option given by its long name. -/
def readLong (level : Level) (s : Scan) (name : List Char) (value : Option (List Char)) :
    Except Stop Progress :=
  match level.options.find? fun o => o.long.toList = name with
  | none => .error (.fault (.unexpectedArgument ("--" ++ String.ofList name)))
  | some o =>
    match o.arity, value with
    | .value, some v => return ⟨← s.give o (String.ofList v), none⟩
    | .value, none => .ok ⟨s, some o⟩
    | _, some _ => .error (.fault (.unexpectedValue o))
    | _, none => return ⟨← s.give o "", none⟩

/-- Reads the letters after a hyphen. What follows the letter of an option with a value is its
value. -/
def readShort (level : Level) (s : Scan) : List Char → Except Stop Progress
  | [] => .ok ⟨s, none⟩
  | c :: rest =>
    match level.options.find? fun o => o.short? = some c with
    | none => .error (.fault (.unexpectedArgument ("-" ++ String.ofList [c])))
    | some o =>
      if o.arity = .value then
        match rest with
        | [] => .ok ⟨s, some o⟩
        | '=' :: value => return ⟨← s.give o (String.ofList value), none⟩
        | value => return ⟨← s.give o (String.ofList value), none⟩
      else
        match s.give o "" with
        | .ok s => readShort level s rest
        | .error stop => .error stop

/-- Takes a word, if there may be another one. -/
def readWord (level : Level) (s : Scan) (word : String) : Except Stop Scan :=
  if s.words.length < level.wordLimit.getD 0 then .ok { s with words := word :: s.words }
  else .error (.fault (.unexpectedArgument word))

/-- Whether an argument holds options. -/
def isOption (arg : String) : Bool :=
  match arg.toList with
  | '-' :: _ :: _ => true
  | _ => false

/-- Reads an argument that holds options. -/
def readOption (level : Level) (s : Scan) (arg : String) : Except Stop Progress :=
  match arg.toList with
  | '-' :: '-' :: name =>
    match name.dropWhile (· ≠ '=') with
    | '=' :: value => readLong level s (name.takeWhile (· ≠ '=')) (some value)
    | _ => readLong level s name none
  | _ :: letters => readShort level s letters
  | [] => .ok ⟨s, none⟩

/-- The options and words at the front of the arguments, up to the name of a command, and the
arguments from there on. -/
def scanFrom (level : Level) (s : Scan) : List String → Except Stop (Scan × List String)
  | [] => .ok (s, [])
  | arg :: rest =>
    if arg = "--" then
      match rest.foldlM (readWord level) s with
      | .ok s => .ok (s, [])
      | .error stop => .error stop
    else if isOption arg then
      match readOption level s arg with
      | .error stop => .error stop
      | .ok ⟨s, none⟩ => scanFrom level s rest
      | .ok ⟨s, some o⟩ =>
        match rest with
        | [] => .error (.fault (.missingValue o))
        | value :: rest =>
          if isOption value then .error (.fault (.missingValue o))
          else
            match s.give o value with
            | .ok s => scanFrom level s rest
            | .error stop => .error stop
    else if level.wordLimit.isNone then .ok (s, arg :: rest)
    else
      match readWord level s arg with
      | .ok s => scanFrom level s rest
      | .error stop => .error stop

def scan (level : Level) (args : List String) : Except Stop (Scan × List String) :=
  scanFrom level {} args

end TrigramSearch.CommandLine
