import EnvScout.Shell.Expansion

/-!
Starting programs from a script. A program runs as a process of its own: it has the environment and
none of the other variables, and shares the files and the places for input and output.
-/

namespace EnvScout.Shell

section

variable (run : Runner)

/-- The arguments of a shell: the text of a script and its own arguments, the name first. -/
inductive Source where
  | text (script : String) (arguments : List String)
  | file (path : String) (arguments : List String)
  | input

def Source.ofArguments : List String → Source
  | [] => .input
  | first :: rest =>
    if first.toList.head? = some '-' then
      if first.toList.contains 'c' then
        match rest with
        | script :: rest => .text script rest
        | [] => .input
      else ofArguments rest
    else .file first rest

/-- Runs a shell. Its working directory is in a variable from the start. -/
def runShell (arguments : List String) (s : State) : State :=
  let physical := (Path.ofNames s.directory).text
  let keeps := match s.lookup? "PWD" with
    | some text =>
      Path.isAbsolute ⟨text⟩ && (s.files.locate [] ⟨text⟩).toOption == some s.directory
    | none => false
  let s := if keeps then s else s.assign "PWD" physical
  match Source.ofArguments arguments with
  | .text script arguments =>
    runText run script.toList
      { s with name := arguments.head?.getD s.name, arguments := arguments.drop 1 }
  | .file path arguments =>
    match s.files.readBytes s.directory ⟨path⟩ with
    | .ok content =>
      runText run (Text.Utf8.keepAll content.toList).toList
        { s with name := path, arguments := arguments }
    | .error _ => s.complain (s.name ++ ": 0: cannot open " ++ path ++ ": No such file") 2
  | .input =>
    runText run (Text.Utf8.keepAll s.input).toList
      { s with input := [], arguments := [] }

def runImage (image : Image) (s : State) : State :=
  let s := { s with name := image.name }
  match image.program with
  | .shell => runShell run image.arguments s
  | program => program.run false image.arguments s

/-- A process of its own, which has the environment and nothing else of the variables. -/
def childOf (s : State) : State :=
  { s with
    bindings := s.environment, exported := s.environment.map (·.1), number := s.number + 1,
    arguments := [], status := 0, ending := none }

/-- Goes on after another program. That a signal ended it is reported. -/
def resumeAfter (s child : State) : State :=
  let s := s.resume child
  match child.ending with
  | some (.signal number) =>
    let text := Program.signalText number
    if text = "" then s else s.complain text s.status
  | _ => s

/-- Runs another program and waits for it. A file without an interpreter is taken for a script. -/
def runOther (name : String) (arguments : List String) (s : State) : State :=
  match Image.find s.files s.directory (s.lookup? "PATH") name arguments with
  | .ok image => resumeAfter s (runImage run image (childOf s))
  | .error .notAProgram =>
    resumeAfter s (runShell run (name :: arguments) { childOf s with name := name })
  | .error e =>
    s.complain (s.name ++ ": 1: " ++ name ++ ": " ++ Program.reasonOr "not found" e)
      (if e = .notFound ∨ e = .notADirectory then 127 else 126)

end

end EnvScout.Shell
