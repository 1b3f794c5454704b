import EnvScout.Search
import EnvScout.Text.Quoted

/-!
Where the logs are. They are kept under the state directory of the user; the names of the files
carry the number of the process, so that several can write side by side.
-/

namespace EnvScout.Log

/-- What the places of the logs depend on. -/
structure Surroundings where
  /-- The state directory the user has set, if any. -/
  stateHome : Option Path
  /-- The home directory, where the user has one. -/
  home : Option Path
  temporaryDirectory : Path
  workingDirectory : List String
  processNumber : String

namespace Surroundings

/-- The state directory; a relative setting of it does not count, and without a home directory none
is known. -/
def state? (s : Surroundings) : Option Path :=
  match s.stateHome.filter Path.isAbsolute with
  | some state => some state
  | none => s.home.map fun home => (home.child ".local").child "state"

/-- The log directory under the state directory. -/
def stateLogs? (s : Surroundings) : Option Path :=
  s.state?.map fun state => (state.child "pyright-env").child "logs"

/-- The directory that is named when there is none under the state directory. -/
def fallback (s : Surroundings) : Path :=
  s.temporaryDirectory.child "pyright-env-logs"

/-- The log directory, and the files once it has been made as far as it can be. -/
def logDirectory (s : Surroundings) (files : FileSystem) : Path × FileSystem :=
  match s.stateLogs? with
  | none => (s.fallback, files)
  | some dir =>
    match files.makeDirectories s.workingDirectory dir with
    | (made, none) => (dir, made)
    | (left, some _) => (s.fallback, left)

def mainLogIn (s : Surroundings) (dir : Path) : Path :=
  dir.child ("pyright-env-" ++ s.processNumber ++ ".log")

def warningsLogIn (s : Surroundings) (dir : Path) : Path :=
  dir.child ("warnings-" ++ s.processNumber ++ ".log")

/-- Opens both logs, the main one at the given place; the warnings log keeps its own. -/
def openLogs (s : Surroundings) (files : FileSystem) (main : Path) :
    Option Path × FileSystem :=
  let (dir, files) := s.logDirectory files
  let warnings := s.warningsLogIn dir
  match files.write s.workingDirectory warnings .empty false with
  | .error _ => (none, files)
  | .ok files =>
    match files.write s.workingDirectory main .empty false with
    | .error _ => (none, files)
    | .ok files => (some warnings, files)

/-- Starts logging to a place, unless logging has been started before. The result is the warnings
log; the start is reported. -/
def start (s : Surroundings) (started : Bool) (main : Path) : Search (Option Path) := do
  let (warnings, files) ← Search.look fun files => s.openLogs files main
  Search.setFiles files
  match warnings, started with
  | some path, false =>
    Search.report (Part.logging.report .debug ("Logging to " ++ Text.quotedPath main.text))
    pure (some path)
  | _, _ => pure none

end Surroundings

end EnvScout.Log
