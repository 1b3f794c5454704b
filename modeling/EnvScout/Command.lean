import EnvScout.Path.Basic
import EnvScout.Text.Blank

/-!
Commands of external tools, always a program with its arguments, and what a finished one leaves
behind. A command has a written form, as it would be typed.
-/

namespace EnvScout

structure Command where
  program : Path
  arguments : List String
  deriving DecidableEq

namespace Command

/-- An argument with quotes around it when it is empty or has white space in it. -/
def writeArgument (argument : String) : String :=
  if argument = "" || argument.toList.any Text.isBlank then "\"" ++ argument ++ "\""
  else argument

/-- The command as one line. -/
def line (c : Command) : String :=
  c.arguments.foldl (fun text argument => text ++ " " ++ writeArgument argument) c.program.shown

end Command

/-- What a command printed and how it ended: its exit code, `-1` where a signal ended it. Neither
text has white space at its end. -/
structure Output where
  stdout : String
  stderr : String
  exitCode : Int
  deriving DecidableEq

namespace Output

def ofStreams (stdout stderr : String) (exitCode : Int) : Output :=
  ⟨Text.trimmedRight stdout, Text.trimmedRight stderr, exitCode⟩

def success (o : Output) : Bool :=
  o.exitCode == 0

end Output

end EnvScout
