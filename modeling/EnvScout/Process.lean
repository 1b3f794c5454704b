import EnvScout.Host
import EnvScout.Text.Quoted
import EnvScout.Text.Utf8

/-!
Commands run for real, each to its end with no input and in a directory of its own if there is one.
How a program is found and started is not for this program to say, so a launcher is given; what it
answers is decoded and reported here.
-/

namespace EnvScout

/-- A process that has ended: what it wrote, its exit code unless a signal ended it, and the files
it has left. -/
structure Ended where
  stdout : ByteArray
  stderr : ByteArray
  code : Option Int
  files : FileSystem

/-- What finds and starts programs. -/
structure Launcher where
  which : FileSystem → String → Option Path
  /-- Runs a command to its end, or says why it could not be started. -/
  start : FileSystem → Command → Option Path → Except String Ended

namespace Launcher

def report (level : Log.Level) (message : String) : Log.Event :=
  Log.Part.process.report level message

def showDirectory : Option Path → String
  | some dir => "Some(" ++ Text.quotedPath dir.text ++ ")"
  | none => "None"

/-- The output of a process; broken bytes are replaced, and a process that a signal ended has the
exit code `-1`. -/
def outputOf (ended : Ended) : Output :=
  .ofStreams (Text.Utf8.readLenient ended.stdout) (Text.Utf8.readLenient ended.stderr)
    (ended.code.getD (-1))

def reportStart (command : Command) (dir : Option Path) : Log.Event :=
  report .debug ("Running command (" ++ command.line ++ ") in " ++ showDirectory dir)

def reportFailure (command : Command) (reason : String) : Log.Event :=
  report .error ("Failed running command (" ++ command.line ++ "): " ++ reason)

/-- The warning of what was written to the error output, if anything was. -/
def warnings (command : Command) (output : Output) : List Log.Event :=
  if output.stderr = "" then []
  else [report .warn ("Command (" ++ command.line ++ ") wrote to stderr: " ++ output.stderr)]

/-- Runs a command. What keeps it from starting is reported as an error, and what it writes to its
error output as a warning. -/
def run (launcher : Launcher) (files : FileSystem) (command : Command) (dir : Option Path) :
    Execution :=
  match launcher.start files command dir with
  | .error reason => ⟨none, files, [reportStart command dir, reportFailure command reason]⟩
  | .ok ended =>
    let output := outputOf ended
    ⟨some output, ended.files, reportStart command dir :: warnings command output⟩

/-- The host on which commands are run for real. -/
def host (launcher : Launcher) (environment : List (String × String)) : Host where
  value? key := environment.lookup key
  which := launcher.which
  run := launcher.run

end Launcher

end EnvScout
