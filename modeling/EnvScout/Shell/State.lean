import EnvScout.Files.Edit

/-!
What a running script has in hand: the files, a working directory, variables and arguments, and the
places its input comes from and its output goes to. Output is gathered in numbered buffers, each of
which keeps what was written to it, newest first; the first two hold what the whole run prints.
-/

namespace EnvScout.Shell

inductive Sink where
  | buffer (index : Nat)
  | file (names : List String)
  | nowhere
  deriving DecidableEq

/-- How a run comes to its end. -/
inductive Ending where
  | exit (code : Nat)
  | signal (number : Nat)
  deriving DecidableEq

structure State where
  files : FileSystem
  /-- The working directory, by the names on the way down to it. -/
  directory : List String
  bindings : List (String × String)
  /-- The variables that are handed on to other programs. -/
  exported : List String
  /-- The name of the running program, and its arguments. -/
  name : String
  arguments : List String
  /-- The number of the process. -/
  number : Nat
  status : Nat
  input : List UInt8
  output : Sink
  errors : Sink
  buffers : List (List (List UInt8))
  ending : Option Ending

namespace State

def lookup? (s : State) (name : String) : Option String :=
  s.bindings.lookup name

def assign (s : State) (name value : String) : State :=
  { s with bindings := (name, value) :: s.bindings.filter fun entry => entry.1 != name }

def unassign (s : State) (name : String) : State :=
  { s with bindings := s.bindings.filter fun entry => entry.1 != name }

/-- The variables handed on. -/
def environment (s : State) : List (String × String) :=
  s.bindings.filter fun entry => s.exported.contains entry.1

def finish (s : State) (status : Nat) : State :=
  { s with status := status }

/-- Adds bytes to the file at a place. -/
def appendTo (files : FileSystem) (names : List String) (bytes : List UInt8) : FileSystem :=
  match files.entry? names with
  | some (.file content executable) =>
    files.put names (.file ⟨content.data ++ bytes.toArray⟩ executable)
  | _ => files

def emit (s : State) (sink : Sink) (bytes : List UInt8) : State :=
  match sink with
  | .buffer index => { s with buffers := s.buffers.modify index (bytes :: ·) }
  | .file names => { s with files := appendTo s.files names bytes }
  | .nowhere => s

/-- All that was written to a buffer. -/
def written (s : State) (index : Nat) : List UInt8 :=
  (s.buffers[index]?.getD []).reverse.flatten

/-- The state with one buffer more, which takes the output. -/
def openBuffer (s : State) : State :=
  { s with output := .buffer s.buffers.length, buffers := s.buffers ++ [[]] }

/-- The state without its last buffer, and what was written to that. -/
def closeBuffer (s : State) : List UInt8 × State :=
  (s.written (s.buffers.length - 1), { s with buffers := s.buffers.dropLast })

def bytesOf (text : String) : List UInt8 :=
  Text.Utf8.kept text

def print (s : State) (text : String) : State :=
  s.emit s.output (bytesOf text)

/-- Writes a line about a failure and sets the status. -/
def complain (s : State) (message : String) (status : Nat) : State :=
  (s.emit s.errors (bytesOf (message ++ "\n"))).finish status

/-- Ends the run unless it has ended. -/
def stop (s : State) (ending : Ending) : State :=
  { s with ending := s.ending.or (some ending) }

/-- The status that another process sees of a run. -/
def reported (s : State) : Nat :=
  match s.ending with
  | some (.exit code) => code
  | some (.signal number) => 128 + number
  | none => s.status

/-- The state after another process has run in `child`: what it did to the files, to the input and
to the buffers stays, all else is as before. -/
def resume (s child : State) : State :=
  { s with
    files := child.files, input := child.input, buffers := child.buffers, status := child.reported }

end State

end EnvScout.Shell
