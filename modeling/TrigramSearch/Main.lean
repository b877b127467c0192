import Std.Time.DateTime.Timestamp
import TrigramSearch.CommandLine.Run

/-!
# The program

Carries out commands on the files of a disk.
-/

namespace TrigramSearch.CommandLine

/-- Whether a code stands for an error of the system; some operations negate it. -/
def isCode (code : UInt32) (error : UInt32) : Bool := code == error || code == 0 - error

/-- The fault that an operation on a file ran into. -/
def faultOfError (e : IO.Error) : FileFault :=
  match e with
  | .noFileOrDirectory .. => .notFound
  | .alreadyExists .. => .alreadyExists
  | .permissionDenied .. => .permissionDenied
  | .inappropriateType _ code _ => if isCode code 21 then .isDirectory else .notDirectory
  | e => .other e.toString

/-- What is found at a path of the disk. -/
def readDisk (path : String) : IO FileState := do
  try
    match String.fromUTF8? (← IO.FS.readBinFile path) with
    | some content => return .text content
    | none => return .unreadable .notText
  catch e =>
    match faultOfError e with
    | .notFound => return .missing .notFound
    | .notDirectory => return .missing .notDirectory
    | fault => return .unreadable fault

/-- Writes a text file, and the directories in which it stands. -/
def writeDisk (path content : String) : IO (Option FileFault) := do
  try
    match directoryOf? path with
    | none | some [] => pure ()
    | some [""] => IO.FS.createDirAll "/"
    | some directory => IO.FS.createDirAll ("/".intercalate directory)
    IO.FS.writeFile path content
    return none
  catch e => return some (faultOfError e)

/-- Computes a value between two looks at a clock. -/
def timed (compute : Unit → α) : IO (α × Duration) := do
  let start ← IO.monoNanosNow
  let a ← IO.lazyPure compute
  let stop ← IO.monoNanosNow
  return (a, ⟨stop - start⟩)

/-- The disk and the clocks of the machine. -/
def machine (settingsPath : Option String) : System IO where
  settingsPath
  read := readDisk
  write := writeDisk
  timed := timed
  now := return ⟨(← Std.Time.Timestamp.now).toNanosecondsSinceUnixEpoch.val.toNat⟩

end TrigramSearch.CommandLine

open TrigramSearch.CommandLine in
def main (args : List String) : IO UInt32 := do
  let settingsPath := defaultSettingsPath (← IO.getEnv "HOME") (← IO.getEnv "XDG_CONFIG_HOME")
  let outcome ← run (machine settingsPath) args
  IO.print outcome.output
  IO.eprint outcome.diagnostics
  return UInt32.ofNat outcome.exitCode
