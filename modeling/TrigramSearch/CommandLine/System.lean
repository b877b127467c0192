import TrigramSearch.CommandLine.PathParts
import TrigramSearch.Error
import TrigramSearch.FileState
import TrigramSearch.Time.Duration
import TrigramSearch.Time.Moment

/-!
# Surroundings of a command

Commands read files, write a file and look at clocks, and do so through the operations of a
`System`. They can therefore be carried out on the files of a disk, and as pure functions on files
that exist in memory only.

What a command prints is an `Outcome`. A command that fails prints the failure with the chain of
its causes.
-/

namespace TrigramSearch.CommandLine

/-- What a command may do to its surroundings, in a monad. -/
structure System (m : Type → Type) where
  /-- Where settings are kept if no file is named; `none` if there is no place for them. -/
  settingsPath : Option String
  read : String → m FileState
  /-- Writes a text file, and the directories in which it stands. -/
  write : String → String → m (Option FileFault)
  /-- Computes a value, and says how long that took. -/
  timed : {α : Type} → (Unit → α) → m (α × Duration)
  now : m Moment

/-- Where settings are kept: below the directory for settings, if that is an absolute path, and
below the home directory otherwise. Without a home directory there is no place for them. -/
def defaultSettingsPath (home configHome : Option String) : Option String :=
  match home.filter (!·.isEmpty) with
  | none => none
  | some home =>
    let base := (configHome.filter (·.startsWith "/")).getD (below home ".config")
    some (below base "sift/sift.toml")

/-- What a command prints, and its exit code. -/
structure Outcome where
  exitCode : Nat
  output : String
  diagnostics : String
deriving DecidableEq, Inhabited

/-- A failure with its causes, the nearest first. -/
structure Failure where
  message : String
  causes : List String := []
deriving DecidableEq, Inhabited

namespace Failure

/-- One line for each cause; several causes are numbered. -/
def causeLines : List String → String
  | [] => ""
  | [cause] => "\n    " ++ cause
  | causes =>
    String.join (causes.zipIdx.map fun c => "\n    " ++ toString c.2 ++ ": " ++ c.1)

def text (f : Failure) : String :=
  "Error: " ++ f.message ++
    (if f.causes.isEmpty then "" else "\n\nCaused by:" ++ causeLines f.causes) ++ "\n"

/-- An error as a failure. The fault of a file is the cause of the error that reports it. -/
def ofError : Error → Failure
  | .inputOutput reason => ⟨(Error.inputOutput reason).message, [reason]⟩
  | e => ⟨e.message, []⟩

end Failure

namespace Outcome

def success (output : String) (diagnostics : String := "") : Outcome := ⟨0, output, diagnostics⟩

def failure (f : Failure) : Outcome := ⟨1, "", f.text⟩

end Outcome
end TrigramSearch.CommandLine
