import TrigramSearch.FileState
import TrigramSearch.Settings
import TrigramSearch.Toml.Printer
import TrigramSearch.Toml.Reader

/-!
# Settings files

Settings are kept in a TOML file with a table for each section. Entries and sections may be
missing, then they have their defaults; unknown ones are ignored. A section may also be written as
an array of its values, in their order.

A file can only be written if its numbers fit the integers of TOML, which have 64 bits with a
sign.

## Main definitions

* `SettingsFile.write`: the text of a settings file.
* `SettingsFile.read`: the settings in a text, checked.
* `SettingsFile.load`, `save`: the same for a file in a given state.
-/

namespace TrigramSearch

namespace Toml.Node

/-! ## Typed access -/

def bool? : Node → Option Bool
  | .boolean b => some b
  | _ => none

/-- A natural number below a limit. -/
def natBelow? (limit : Nat) : Node → Option Nat
  | .integer i => if 0 ≤ i && i.toNat < limit then some i.toNat else none
  | _ => none

/-- A number; an integer counts as one. -/
def number? : Node → Option Binary64
  | .float x => some x
  | .integer i => some (Binary64.ofInt i)
  | _ => none

def string? : Node → Option String
  | .string s => some s
  | _ => none

/-- The fields of a record: by name, or by position in an array. A date has no field of any
name. -/
inductive Fields where
  | named (members : List (String × Node))
  | listed (items : List Node)

def fields? : Node → Option Fields
  | .table _ _ members => some (.named members)
  | .inlineTable members => some (.named members)
  | .array items => some (.listed items)
  | .tables items => some (.listed (items.reverse.map fun ms => .table false false ms))
  | .datetime => some (.named [])
  | _ => none

/-- A field of a record, or its default if it is missing; `none` if it has the wrong type. -/
def Fields.get? (f : Fields) (name : String) (position : Nat) (decode : Node → Option α)
    (default : α) : Option α :=
  let found := match f with
    | named members => members.lookup name
    | listed items => items[position]?
  match found with
  | none => some default
  | some n => decode n

end Toml.Node

namespace SettingsFile

open Toml

/-! ## Reading -/

def searchSection? (n : Node) : Option SearchSection := do
  let f ← n.fields?
  let d : SearchSection := {}
  return {
    enableBloomFilter := ← f.get? "enable_bloom_filter" 0 Node.bool? d.enableBloomFilter
    minLiteralLength :=
      ← f.get? "min_literal_length" 1 (Node.natBelow? (1 <<< 64)) d.minLiteralLength
    maxPatternComplexity :=
      ← f.get? "max_pattern_complexity" 2 (Node.natBelow? (1 <<< 64)) d.maxPatternComplexity
    effectivenessThreshold :=
      ← f.get? "effectiveness_threshold" 3 Node.number? d.effectivenessThreshold
    idField := ← f.get? "id_field" 4 Node.string? d.idField }

def indexSection? (n : Node) : Option IndexSection := do
  let f ← n.fields?
  let d : IndexSection := {}
  return {
    bloomFilterSizeBytes :=
      ← f.get? "bloom_filter_size_bytes" 0 (Node.natBelow? (1 <<< 64)) d.bloomFilterSizeBytes
    hashFunctions := ← f.get? "hash_functions" 1 (Node.natBelow? (1 <<< 32)) d.hashFunctions }

def performanceSection? (n : Node) : Option PerformanceSection := do
  let f ← n.fields?
  let d : PerformanceSection := {}
  return {
    parallelThreshold :=
      ← f.get? "parallel_threshold" 0 (Node.natBelow? (1 <<< 64)) d.parallelThreshold }

/-- The settings in a document. -/
def ofTable? (t : Table) : Option SettingsFile := do
  let f : Node.Fields := .named t.members
  return {
    search := ← f.get? "search" 0 searchSection? {}
    index := ← f.get? "index" 1 indexSection? {}
    performance := ← f.get? "performance" 2 performanceSection? {} }

/-- What is reported for a text that does not hold settings. -/
def unreadable : Error := .configuration "Failed to parse config"

/-- The settings in a text; they are checked. -/
def read (text : String) : Except Error SettingsFile :=
  match (Toml.read? text).bind ofTable? with
  | none => .error unreadable
  | some f =>
    match f.check with
    | .ok () => .ok f
    | .error e => .error e

/-! ## Writing -/

/-- The greatest integer that can be written. -/
def integerLimit : Nat := 1 <<< 63 - 1

/-- Whether all numbers can be written. -/
def isWritable (f : SettingsFile) : Bool :=
  f.search.minLiteralLength ≤ integerLimit && f.search.maxPatternComplexity ≤ integerLimit &&
    f.index.bloomFilterSizeBytes ≤ integerLimit && f.index.hashFunctions ≤ integerLimit &&
    f.performance.parallelThreshold ≤ integerLimit

/-- An entry on a line of its own. -/
def line (name value : String) : String := name ++ " = " ++ value ++ "\n"

def natText (n : Nat) : String := String.ofList (Decimal.digitsOf n)

/-- The text of the sections. -/
def text (f : SettingsFile) : String :=
  "[search]\n" ++
    line "enable_bloom_filter" (booleanText f.search.enableBloomFilter) ++
    line "min_literal_length" (natText f.search.minLiteralLength) ++
    line "max_pattern_complexity" (natText f.search.maxPatternComplexity) ++
    line "effectiveness_threshold" (floatText f.search.effectivenessThreshold) ++
    line "id_field" (stringText f.search.idField) ++
  "\n[index]\n" ++
    line "bloom_filter_size_bytes" (natText f.index.bloomFilterSizeBytes) ++
    line "hash_functions" (natText f.index.hashFunctions) ++
  "\n[performance]\n" ++
    line "parallel_threshold" (natText f.performance.parallelThreshold)

/-- What is reported for settings that cannot be written. -/
def unwritable : Error := .configuration "Failed to serialize config"

/-- The text of a settings file. -/
def write (f : SettingsFile) : Except Error String :=
  if f.isWritable then .ok f.text else .error unwritable

end SettingsFile

/-! ## Files -/

namespace SettingsFile

/-- The settings of a file; those of a file that does not exist are the defaults. -/
def load : FileState → Except Error SettingsFile
  | .missing _ => .ok {}
  | .unreadable fault => .error (.inputOutput fault.message)
  | .text content => read content

/-- Writes a settings file over what is there. If that fails, the file is left as it was. -/
def save (f : SettingsFile) (old : FileState) : Except Error Unit × FileState :=
  match f.write with
  | .error e => (.error e, old)
  | .ok content =>
    match old with
    | .missing .notFound | .text _ | .unreadable .notText => (.ok (), .text content)
    | .missing fault | .unreadable fault => (.error (.inputOutput fault.message), old)

end SettingsFile
end TrigramSearch
