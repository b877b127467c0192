import TrigramSearch.Number.Decimal

/-!
# TOML text of values

A string is written in the plainest way that can hold it: in double quotes if nothing in it has to
be escaped, then in single quotes, then in three double quotes, then in three single quotes, and
otherwise with escapes. A string with line breaks in three quotes begins on a line of its own.
-/

namespace TrigramSearch.Toml

/-- The length of the longest run of a character. -/
def longestRun (mark : Char) : Nat → List Char → Nat
  | run, [] => run
  | run, c :: rest =>
    if c = mark then longestRun mark (run + 1) rest else max run (longestRun mark 0 rest)

/-- Whether a character can only be written as an escape. -/
def needsCode (c : Char) : Bool :=
  (c.toNat < 0x20 && c != '\t' && c != '\n') || c.toNat = 0x7f

/-- The four last hexadecimal digits of a number, in capitals. -/
def hexFour (n : Nat) : List Char :=
  [n / 4096, n / 256, n / 16, n].map fun d => (Nat.digitChar (d % 16)).toUpper

/-- The text of a character between double quotes, apart from quotes. -/
def escapeChar (multiLine : Bool) (c : Char) : List Char :=
  if c.toNat = 8 then ['\\', 'b']
  else if c = '\t' then ['\\', 't']
  else if c = '\n' then if multiLine then ['\n'] else ['\\', 'n']
  else if c.toNat = 12 then ['\\', 'f']
  else if c = '\r' then ['\\', 'r']
  else if c = '\\' then ['\\', '\\']
  else if c.toNat < 0x20 || c.toNat = 0x7f then '\\' :: 'u' :: hexFour c.toNat
  else [c]

/-- The text between double quotes. A quote is escaped if more than `limit` would stand in a row;
`run` counts those that do. -/
def escapeChars (multiLine : Bool) (limit : Nat) : Nat → List Char → List Char
  | _, [] => []
  | run, c :: rest =>
    if c = '"' then
      if limit ≤ run then '\\' :: '"' :: escapeChars multiLine limit 0 rest
      else '"' :: escapeChars multiLine limit (run + 1) rest
    else escapeChar multiLine c ++ escapeChars multiLine limit 0 rest

def basic (s : List Char) : List Char := '"' :: escapeChars false 0 0 s ++ ['"']

/-- A string with line breaks begins after one. -/
def firstNewline (s : List Char) : List Char := if s.contains '\n' then ['\n'] else []

def longBasic (s : List Char) : List Char :=
  ['"', '"', '"'] ++ firstNewline s ++ escapeChars true 2 0 s ++ ['"', '"', '"']

def literal (s : List Char) : List Char := '\'' :: s ++ ['\'']

def longLiteral (s : List Char) : List Char :=
  ['\'', '\'', '\''] ++ firstNewline s ++ s ++ ['\'', '\'', '\'']

/-- A string as a TOML value. -/
def stringChars (s : List Char) : List Char :=
  let codes := s.any needsCode
  let backslash := s.contains '\\'
  let newline := s.contains '\n'
  let singles := longestRun '\'' 0 s
  let doubles := longestRun '"' 0 s
  if !codes && !backslash && doubles = 0 && !newline then basic s
  else if !codes && singles = 0 && !newline then literal s
  else if !codes && !backslash && doubles ≤ 2 then longBasic s
  else if !codes && singles ≤ 2 then longLiteral s
  else if newline then longBasic s
  else basic s

def stringText (s : String) : String := String.ofList (stringChars s.toList)

def booleanText (b : Bool) : String := if b then "true" else "false"

/-- A number without an exponent; whole numbers end in `.0`. -/
def floatText (x : Binary64) : String :=
  if x.isNaN then if x.signBit then "-nan" else "nan"
  else if x.isInfinite then x.toPositional
  else
    let text := x.toPositional
    if text.toList.contains '.' then text else text ++ ".0"

end TrigramSearch.Toml
