import EnvScout.Shell.Image

/-!
A machine that programs are started on: its environment variables, and the files every machine has.
A program is looked up on its search path as a path that exists and may be run.
-/

namespace EnvScout

structure Machine where
  environment : List (String × String)
  /-- The home directory, if the environment names one. -/
  home : Option Path
  /-- The working directory, by the names on the way down to it. -/
  directory : List String
  /-- The number of the process that starts programs. -/
  number : Nat

namespace Machine

/-- The files of a bare machine: its own programs, and a place that takes whatever is written. -/
def files : FileSystem :=
  let programs := Shell.Program.names.map fun entry => (entry.1, Node.file .empty true)
  ⟨.directory [
    ("bin", .link ⟨"usr/bin"⟩),
    ("dev", .directory [("null", .file .empty false)]),
    ("tmp", .empty),
    ("usr", .directory [("bin", .directory programs)])], []⟩

/-- A path with components put behind it one by one. -/
def extend (p : Path) (components : List Path.Component) : Path :=
  components.foldl (fun p component =>
    match component with
    | .root => ⟨"/"⟩
    | .current => p.child "."
    | .parent => p.child ".."
    | .name text => p.child text) p

/-- A directory of the search path with a leading tilde expanded, if there is a home directory. -/
def expandDirectory (home : Option Path) (dir : Path) : Path :=
  match home, dir.components with
  | some home, .name "~" :: rest => extend home rest
  | _, _ => dir

/-- The paths a program may have. A name of several components is taken from the working directory,
any other one from the directories of the search path. -/
def candidates (machine : Machine) (program : Path) : List Path :=
  if program.components.length > 1 then
    if program.isAbsolute then [program]
    else [extend (Path.ofNames machine.directory)
      (program.components.dropWhile fun component => component == .current)]
  else match machine.environment.lookup "PATH" with
    | some searchPath =>
      (Shell.Image.directories (Text.Utf8.encoded searchPath)).map fun dir =>
        (expandDirectory machine.home dir).join program
    | none => []

/-- The first path at which a program can be run. -/
def which (machine : Machine) (files : FileSystem) (program : String) : Option Path :=
  (machine.candidates (.ofText program)).find? fun p => files.isExecutableFile machine.directory p

end Machine

end EnvScout
