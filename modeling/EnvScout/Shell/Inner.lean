import EnvScout.Shell.Start

/-!
Commands that have been expanded. Some of them change the script that runs them, others are programs
that need no process of their own, and all the rest are started as programs.
-/

namespace EnvScout.Shell

section

variable (run : Runner)

/-- Takes a line off the input into variables; the last one gets what is left of it. -/
def readLine (names : List String) (s : State) : State :=
  let bytes := s.input.takeWhile fun b => b != 10
  let rest := s.input.drop bytes.length
  let text := Text.Utf8.keepAll bytes
  let words := (Text.splitOn ' ' text.toList).filter fun word => !word.isEmpty
  let names := names.filter fun name => name != "-r"
  let last := names.length - 1
  let s := (names.zipIdx).foldl (fun s (name, index) =>
    let value := if index < last then words[index]?.getD []
      else Text.joinWith ' ' (words.drop index)
    s.assign name (String.ofList value)) { s with input := rest.drop 1 }
  s.finish (if rest.isEmpty then 1 else 0)

def changeDirectory (target : String) (s : State) : State :=
  match s.files.locate s.directory ⟨target⟩ with
  | .ok names =>
    if s.files.isDirectory s.directory ⟨target⟩ then
      ({ s with directory := names }.assign "PWD" (Path.ofNames names).text).finish 0
    else s.complain (s.name ++ ": 1: cd: can't cd to " ++ target) 2
  | .error _ => s.complain (s.name ++ ": 1: cd: can't cd to " ++ target) 2

/-- Sets and hands on the variables named. -/
def exportAll (arguments : List String) (s : State) : State :=
  arguments.foldl (fun s argument =>
    let name := String.ofList (argument.toList.takeWhile Token.isNameChar)
    let s := { s with exported := name :: s.exported }
    match argument.toList.drop name.length with
    | '=' :: value => s.assign name (String.ofList value)
    | _ => s) (s.finish 0)

/-- Ends the script with a status. -/
def runExit (arguments : List String) (s : State) : State :=
  match arguments with
  | [] => s.stop (.exit s.status)
  | text :: _ =>
    match text.toNat? with
    | some n => s.stop (.exit (n % 256))
    | none =>
      (s.complain (s.name ++ ": 1: exit: Illegal number: " ++ text) 2).stop (.exit 2)

/-- Runs a command that has been expanded. -/
def runCommand (words : List String) (s : State) : State :=
  match words with
  | [] => s
  | ":" :: _ => s.finish 0
  | "exit" :: arguments => runExit arguments s
  | "cd" :: arguments => changeDirectory (arguments.head?.getD (s.parameter "HOME")) s
  | "read" :: names => readLine names s
  | "export" :: arguments => exportAll arguments s
  | "unset" :: names => names.foldl State.unassign (s.finish 0)
  | "shift" :: _ => { s with arguments := s.arguments.drop 1, status := 0 }
  | "set" :: "--" :: arguments => { s with arguments := arguments, status := 0 }
  | "set" :: _ => s.finish 0
  | "eval" :: arguments => runText run (" ".intercalate arguments).toList s
  | "exec" :: name :: arguments =>
    let after := runOther run name arguments s
    after.stop (.exit after.status)
  | "command" :: name :: arguments => plain name arguments
  | name :: arguments => plain name arguments
where
  plain (name : String) (arguments : List String) : State :=
    match Program.ofName? name with
    | some program =>
      if program.isInner then program.run true arguments s else runOther run name arguments s
    | none => runOther run name arguments s

end

end EnvScout.Shell
