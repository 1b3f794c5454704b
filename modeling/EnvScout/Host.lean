import EnvScout.Command
import EnvScout.Files.Edit
import EnvScout.Log.Event

/-!
The outside as a search sees it: environment variables, programs on the search path and commands
that can be run. A host is any such outside. A scripted host answers from tables and leaves the
files alone.
-/

namespace EnvScout

/-- What running a command comes to: its output, none when it could not be started, the files
afterwards, and what was reported on the way. -/
structure Execution where
  output : Option Output
  files : FileSystem
  events : List Log.Event

structure Host where
  /-- The value of an environment variable. -/
  value? : String → Option String
  /-- The program of that name on the search path. -/
  which : FileSystem → String → Option Path
  /-- Runs a command, in the given directory if there is one. -/
  run : FileSystem → Command → Option Path → Execution

/-- The value of an environment variable that is set to something. -/
def Host.nonEmptyValue? (host : Host) (key : String) : Option String :=
  (host.value? key).filter fun value => value != ""

/-- The tables of a scripted host. -/
structure Script where
  environment : List (String × String)
  programs : List String
  /-- Outputs by whole command line. -/
  outputs : List (String × Output)
  /-- Outputs by program, for command lines that have none of their own. -/
  programOutputs : List (String × Output)

namespace Script

def answer (script : Script) (c : Command) : Option Output :=
  match script.outputs.lookup c.line with
  | some output => some output
  | none => script.programOutputs.lookup c.program.shown

def host (script : Script) : Host where
  value? key := script.environment.lookup key
  which _ program := if program ∈ script.programs then some (.ofText program) else none
  run files command _ := ⟨script.answer command, files, []⟩

end Script

end EnvScout
