import EnvScout.Machine.Basic
import EnvScout.Process
import EnvScout.Shell.Run

/-!
A machine as a launcher, one among others, on which nothing else depends. The program of a command
is looked for from the directory the command is to run in, and it runs until it ends.
-/

namespace EnvScout.Machine

/-- Why a command does not start. -/
inductive StartError where
  | nulInCommand
  | refused (error : FileError)
  deriving DecidableEq

def StartError.message : StartError → String
  | nulInCommand => "nul byte found in provided data"
  | refused error => error.message

def hasNul (text : String) : Bool :=
  text.toList.contains '\x00'

/-- The directory a command runs in. -/
def directoryFor (machine : Machine) (files : FileSystem) :
    Option Path → Except FileError (List String)
  | none => .ok machine.directory
  | some dir =>
    match files.locate machine.directory dir with
    | .error e => .error e
    | .ok names =>
      match files.entry? names with
      | some (.directory _) => .ok names
      | _ => .error .notADirectory

/-- What a command starts as, and in which directory. -/
def prepare (machine : Machine) (files : FileSystem) (command : Command) (dir : Option Path) :
    Except StartError (Shell.Image × List String) :=
  let texts := command.program.text :: command.arguments ++ (dir.map (·.text)).toList
  if texts.any hasNul then .error .nulInCommand
  else match machine.directoryFor files dir with
    | .error e => .error (.refused e)
    | .ok names =>
      match Shell.Image.find files names ((machine.environment.lookup "PATH").map Text.Utf8.encoded)
        command.program.text (command.arguments.map Text.Utf8.encoded) with
      | .error e => .error (.refused e)
      | .ok image => .ok (image, names)

/-- The state a program begins in. -/
def beginning (machine : Machine) (files : FileSystem) (names : List String) : Shell.State where
  files := files
  directory := names
  bindings := machine.environment.map fun (key, value) =>
    (Text.Utf8.encoded key, Text.Utf8.encoded value)
  exported := machine.environment.map fun (key, _) => Text.Utf8.encoded key
  name := ""
  arguments := []
  number := machine.number + 1
  status := 0
  input := []
  output := .buffer 0
  errors := .buffer 1
  buffers := [[], []]
  ending := none

def readBuffer (s : Shell.State) (index : Nat) : ByteArray :=
  ⟨(s.written index).toArray⟩

/-- The exit code of a finished run, none where a signal ended it. -/
def exitCode (s : Shell.State) : Option Int :=
  match s.ending with
  | some (.signal _) => none
  | _ => some s.reported

def start (machine : Machine) (files : FileSystem) (command : Command) (dir : Option Path) :
    Except String Ended :=
  match machine.prepare files command dir with
  | .error error => .error error.message
  | .ok (image, names) =>
    let finished := Shell.runProgram image (machine.beginning files names)
    .ok ⟨readBuffer finished 0, readBuffer finished 1, exitCode finished, finished.files⟩

def launcher (machine : Machine) : Launcher where
  which := machine.which
  start := machine.start

/-- The machine with its own environment variables as a host. -/
def host (machine : Machine) : Host :=
  machine.launcher.host machine.environment

end EnvScout.Machine
