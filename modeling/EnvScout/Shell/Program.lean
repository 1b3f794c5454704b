import EnvScout.Path.Basic
import EnvScout.Shell.Printf

/-!
The programs a bare machine has, apart from its shell. Each of them reads its arguments, may print,
and leaves a status behind; most can also be used inside a shell without a process of their own.
-/

namespace EnvScout.Shell

inductive Program where
  | shell
  | echo
  | printf
  | cat
  | pwd
  | succeed
  | fail
  | test
  | bracket
  | env
  | kill
  | makeDirectory
  | touch
  | remove
  | sleep
  deriving DecidableEq

namespace Program

/-- The programs by the names they go by. -/
def names : List (String × Program) := [
  ("sh", shell), ("dash", shell), ("bash", shell), ("echo", echo), ("printf", printf),
  ("cat", cat), ("pwd", pwd), ("true", succeed), ("false", fail), ("test", test),
  ("[", bracket), ("env", env), ("printenv", env), ("kill", kill), ("mkdir", makeDirectory),
  ("touch", touch), ("rm", remove), ("sleep", sleep)]

def ofName? (name : String) : Option Program :=
  names.lookup name

/-- Whether a shell runs the program by itself. -/
def isInner : Program → Bool
  | echo => true
  | printf => true
  | pwd => true
  | succeed => true
  | fail => true
  | test => true
  | bracket => true
  | kill => true
  | _ => false

/-- The beginning of a message without the number of the system error at its end. -/
def reason (e : FileError) : String :=
  match e with
  | .notFound => "No such file or directory"
  | .notADirectory => "Not a directory"
  | .isADirectory => "Is a directory"
  | .alreadyExists => "File exists"
  | .permissionDenied => "Permission denied"
  | .tooManyLinks => "Too many levels of symbolic links"
  | .nameTooLong => "File name too long"
  | .notAProgram => "Exec format error"
  | .nulInName => "Invalid argument"
  | .notUtf8 => "Invalid argument"

/-- The reason for a refusal; what is missing is named by `absent`. -/
def reasonOr (absent : String) (e : FileError) : String :=
  if e = .notFound ∨ e = .notADirectory then absent else reason e

/-- Prints the arguments. Inside a shell escapes are worked out. -/
def runEcho (inside : Bool) (arguments : List String) (s : State) : State :=
  let (bare, arguments) := match arguments with
    | "-n" :: rest => (true, rest)
    | arguments => (false, arguments)
  let (escapes, arguments) := match arguments with
    | "-e" :: rest => if inside then (true, "-e" :: rest) else (true, rest)
    | arguments => (inside, arguments)
  let text := " ".intercalate arguments
  let (bytes, stopped) := if escapes then
      let (text, stopped) := Printf.untilStop text.toList
      (Printf.unescape true 0 text, stopped)
    else (State.bytesOf text, false)
  (s.emit s.output (bytes ++ if bare || stopped then [] else [10])).finish 0

def runPrintf (arguments : List String) (s : State) : State :=
  match arguments with
  | [] => s.complain (s.name ++ ": 1: printf: usage: printf format [arg ...]") 2
  | "--" :: template :: arguments =>
    (s.emit s.output (Printf.run template arguments)).finish 0
  | template :: arguments => (s.emit s.output (Printf.run template arguments)).finish 0

/-- Prints the files named, or the input. -/
def runCat (arguments : List String) (s : State) : State :=
  let arguments := if arguments = [] then ["-"] else arguments
  arguments.foldl (fun s file =>
    if file = "-" then { s.emit s.output s.input with input := [] }
    else match s.files.readBytes s.directory ⟨file⟩ with
      | .ok content => s.emit s.output content.toList
      | .error e => s.complain ("cat: " ++ file ++ ": " ++ reason e) 1)
    (s.finish 0)

def runEnv (arguments : List String) (s : State) : State :=
  match arguments with
  | [] =>
    (s.environment.foldl (fun s (name, value) => s.print (name ++ "=" ++ value ++ "\n")) s).finish 0
  | name :: _ =>
    match s.environment.lookup name with
    | some value => (s.print (value ++ "\n")).finish 0
    | none => s.finish 1

/-- A comparison of two numbers. -/
def compare? : String → Option (Int → Int → Bool)
  | "-eq" => some fun a b => a == b
  | "-ne" => some fun a b => a != b
  | "-lt" => some fun a b => a < b
  | "-le" => some fun a b => a ≤ b
  | "-gt" => some fun a b => b < a
  | "-ge" => some fun a b => b ≤ a
  | _ => none

/-- What a condition comes to, none when it is not well formed. -/
def judge? (s : State) : List String → Option Bool
  | [] => some false
  | ["!"] => some true
  | "!" :: condition => (judge? s condition).map not
  | [text] => some (text != "")
  | ["-n", text] => some (text != "")
  | ["-z", text] => some (text == "")
  | ["-e", file] => some (s.files.exists? s.directory ⟨file⟩)
  | ["-f", file] => some (s.files.isFile s.directory ⟨file⟩)
  | ["-d", file] => some (s.files.isDirectory s.directory ⟨file⟩)
  | ["-r", file] => some (s.files.exists? s.directory ⟨file⟩)
  | ["-w", file] => some (s.files.exists? s.directory ⟨file⟩)
  | ["-x", file] => some (s.files.isExecutableFile s.directory ⟨file⟩ ||
      s.files.isDirectory s.directory ⟨file⟩)
  | ["-s", file] => some (match s.files.readBytes s.directory ⟨file⟩ with
      | .ok content => content.size != 0
      | .error _ => false)
  | [a, "=", b] => some (a == b)
  | [a, "!=", b] => some (a != b)
  | [a, operator, b] =>
    match compare? operator, a.toInt?, b.toInt? with
    | some compare, some a, some b => some (compare a b)
    | _, _, _ => none
  | _ => none

def runTest (arguments : List String) (s : State) : State :=
  match judge? s arguments with
  | some true => s.finish 0
  | some false => s.finish 1
  | none => s.complain (s.name ++ ": 1: test: unexpected operator") 2

/-- The signals that end a program: name, number, and what is said of a program they have ended. -/
def signals : List (String × Nat × String) := [
  ("HUP", 1, "Hangup"), ("INT", 2, ""), ("QUIT", 3, "Quit"), ("ILL", 4, "Illegal instruction"),
  ("ABRT", 6, "Aborted"), ("FPE", 8, "Floating point exception"), ("KILL", 9, "Killed"),
  ("USR1", 10, "User defined signal 1"), ("SEGV", 11, "Segmentation fault"),
  ("USR2", 12, "User defined signal 2"), ("PIPE", 13, ""), ("ALRM", 14, "Alarm clock"),
  ("TERM", 15, "Terminated")]

def signalText (number : Nat) : String :=
  match signals.find? fun signal => signal.2.1 == number with
  | some (_, _, text) => text
  | none => ""

/-- The number of a signal, given by its number or its name. -/
def signal? (text : String) : Option Nat :=
  match text.toNat? with
  | some n => some n
  | none =>
    let chars := text.toList.map Char.toUpper
    let bare := if "SIG".toList.isPrefixOf chars then chars.drop 3 else chars
    (signals.lookup (String.ofList bare)).map (·.1)

/-- Sends a signal; the only process that can be reached is the running one. -/
def runKill (arguments : List String) (s : State) : State :=
  let (signal, targets) := match arguments with
    | "-s" :: name :: rest => (signal? name, rest)
    | first :: rest =>
      if first.toList.head? = some '-' then
        (signal? (String.ofList (first.toList.drop 1)), rest)
      else (some 15, first :: rest)
    | [] => (some 15, [])
  match signal with
  | some 0 => s.finish 0
  | some number =>
    if targets.contains (toString s.number) then s.stop (.signal number)
    else s.complain (s.name ++ ": 1: kill: No such process") 1
  | none => s.complain (s.name ++ ": 1: kill: Illegal option") 2

/-- Changes the files for each of the operands; a refusal is reported. -/
def forEach (failure : String) (arguments : List String)
    (change : FileSystem → Path → FileSystem × Option FileError) (s : State) : State :=
  (arguments.filter fun argument => argument.toList.head? != some '-').foldl (fun s file =>
    match change s.files ⟨file⟩ with
    | (files, none) => { s with files := files }
    | (files, some e) =>
      { s with files := files }.complain (failure ++ " '" ++ file ++ "': " ++ reason e) 1)
    (s.finish 0)

/-- A change that is made as a whole or not at all. -/
def whole (files : FileSystem) : Except FileError FileSystem → FileSystem × Option FileError
  | .ok changed => (changed, none)
  | .error e => (files, some e)

/-- Runs a program other than the shell. -/
def run (program : Program) (inside : Bool) (arguments : List String) (s : State) : State :=
  match program with
  | shell => s
  | echo => runEcho inside arguments s
  | printf => runPrintf arguments s
  | cat => runCat arguments s
  | pwd => (s.print ((Path.ofNames s.directory).text ++ "\n")).finish 0
  | succeed => s.finish 0
  | fail => s.finish 1
  | test => runTest arguments s
  | bracket =>
    if arguments.getLast? = some "]" then runTest arguments.dropLast s
    else s.complain (s.name ++ ": 1: [: missing ]") 2
  | env => runEnv arguments s
  | kill => runKill arguments s
  | makeDirectory => forEach "mkdir: cannot create directory" arguments (fun files p =>
      if arguments.contains "-p" then files.makeDirectories s.directory p
      else whole files (files.makeDirectory s.directory p)) s
  | touch => forEach "touch: cannot touch" arguments (fun files p =>
      if files.exists? s.directory p then (files, none)
      else whole files (files.write s.directory p .empty false)) s
  | remove => forEach "rm: cannot remove" arguments (fun files p =>
      match files.remove s.directory p with
      | .error .notFound =>
        (files, if arguments.contains "-f" then none else some .notFound)
      | result => whole files result) s
  | sleep => s.finish 0

end Program

end EnvScout.Shell
