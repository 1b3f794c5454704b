import EnvScout.Shell.Program
import EnvScout.Text.Split

/-!
What a file runs as. The programs of the machine run as themselves; a file that begins with `#!` and
the path of an interpreter runs as that interpreter with the file for an argument. A program without
a directory is looked for in the directories of a search path.
-/

namespace EnvScout.Shell

structure Image where
  program : Program
  /-- What the program is told that it is called. -/
  name : String
  arguments : List String
  deriving DecidableEq

namespace Image

/-- The directory of the machine's own programs. -/
def home : List String :=
  ["usr", "bin"]

/-- The machine's own program at a place. -/
def native? (names : List String) : Option Program :=
  match names with
  | ["usr", "bin", name] => Program.ofName? name
  | _ => none

/-- The interpreter in the first line of a file, with the one argument it may have there. -/
def interpreter? (content : ByteArray) : Option (String × List String) :=
  match content.toList with
  | 35 :: 33 :: rest =>
    let line := (rest.takeWhile fun b => b != 10).dropWhile isBlank
    let path := line.takeWhile fun b => !isBlank b
    let option := ((line.drop path.length).dropWhile isBlank).reverse.dropWhile isBlank
    if path = [] then none
    else some (text path, if option = [] then [] else [text option.reverse])
  | _ => none
where
  isBlank (b : UInt8) : Bool := b == 32 || b == 9
  text (bytes : List UInt8) : String := Text.Utf8.keepAll bytes

/-- What the file at `p` runs as, called `name`; an interpreter may itself have one, a few times
over. -/
def load (files : FileSystem) (cwd : List String) : Nat → Path → String → List String →
    Except FileError Image
  | 0, _, _, _ => .error .tooManyLinks
  | n + 1, p, name, arguments =>
    match files.locate cwd p with
    | .error e => .error e
    | .ok names =>
      match files.entry? names with
      | some (.file content true) =>
        match native? names, interpreter? content with
        | some program, _ => .ok ⟨program, name, arguments⟩
        | none, some (interpreter, option) =>
          load files cwd n ⟨interpreter⟩ interpreter (option ++ p.text :: arguments)
        | none, none => .error .notAProgram
      | _ => .error .permissionDenied

def interpreterLimit : Nat := 5

/-- Looks through directories. A file that may not be run is passed over, but remembered. -/
def loadFirst (files : FileSystem) (cwd : List String) (name : String)
    (arguments : List String) : Bool → List Path → Except FileError Image
  | denied, [] => .error (if denied then .permissionDenied else .notFound)
  | denied, dir :: rest =>
    match load files cwd interpreterLimit (dir.child name) name arguments with
    | .ok image => .ok image
    | .error .notFound => loadFirst files cwd name arguments denied rest
    | .error .notADirectory => loadFirst files cwd name arguments denied rest
    | .error .permissionDenied => loadFirst files cwd name arguments true rest
    | .error e => .error e

/-- The directories of a search path. -/
def directories (searchPath : String) : List Path :=
  (Text.splitOn ':' searchPath.toList).map fun dir => ⟨String.ofList dir⟩

def standardSearchPath : String :=
  "/bin:/usr/bin"

/-- What a program runs as, looked for where its name has no directory. -/
def find (files : FileSystem) (cwd : List String) (searchPath : Option String) (name : String)
    (arguments : List String) : Except FileError Image :=
  if name = "" || name.toList.contains '/' then
    load files cwd interpreterLimit ⟨name⟩ name arguments
  else
    loadFirst files cwd name arguments false (directories (searchPath.getD standardSearchPath))

end Image

end EnvScout.Shell
