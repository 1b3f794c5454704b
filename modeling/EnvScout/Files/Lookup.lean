import EnvScout.Files.Tree
import EnvScout.Text.Utf8

/-!
Finding the place a path leads to. A path is walked piece by piece; a symbolic link on the way is
replaced by its target, and at most forty links are followed. The place found is given by names that
hold no link, so it is the canonical form of the path. To find a place nothing on the way has to be
read; reading what is there may be refused.
-/

namespace EnvScout

/-- Why the file system refuses. -/
inductive FileError where
  | notFound
  | notADirectory
  | isADirectory
  | alreadyExists
  | tooManyLinks
  | nameTooLong
  | permissionDenied
  | notAProgram
  | nulInName
  | notUtf8
  deriving DecidableEq

namespace FileError

def message : FileError → String
  | notFound => "No such file or directory (os error 2)"
  | notAProgram => "Exec format error (os error 8)"
  | permissionDenied => "Permission denied (os error 13)"
  | alreadyExists => "File exists (os error 17)"
  | notADirectory => "Not a directory (os error 20)"
  | isADirectory => "Is a directory (os error 21)"
  | nameTooLong => "File name too long (os error 36)"
  | tooManyLinks => "Too many levels of symbolic links (os error 40)"
  | nulInName => "file name contained an unexpected NUL byte"
  | notUtf8 => "stream did not contain valid UTF-8"

end FileError

/-- Where a path leads: to something that is there, or to a free name in a directory. -/
inductive Landing where
  | found (names : List String)
  | vacant (directory : List String) (name : String)
  deriving DecidableEq

namespace FileSystem

/-- Walks `pieces` from the place `here`. A link hands over to `jump`, with the place its target
starts from and the pieces still to walk. -/
def walk (files : FileSystem)
    (jump : List String → List String → Except FileError Landing) :
    List String → List String → Except FileError Landing
  | here, [] => .ok (.found here)
  | here, piece :: rest =>
    match files.entry? here with
    | some (.directory children) =>
      if Path.isVoid piece then walk files jump here rest
      else if piece = ".." then walk files jump here.dropLast rest
      else if piece.length > 255 then .error .nameTooLong
      else match children.lookup piece with
        | some (.link target) =>
          jump (if target.isAbsolute then [] else here) (target.pieces ++ rest)
        | some _ => walk files jump (here ++ [piece]) rest
        | none => if rest.isEmpty then .ok (.vacant here piece) else .error .notFound
    | some _ => .error .notADirectory
    | none => .error .notFound

/-- Walks with at most the given number of links followed. -/
def follow (files : FileSystem) : Nat → List String → List String → Except FileError Landing
  | 0 => walk files fun _ _ => .error .tooManyLinks
  | links + 1 => walk files (follow files links)

def linkLimit : Nat := 40

/-- Where `p` leads, seen from the directory `cwd`. -/
def land (files : FileSystem) (cwd : List String) (p : Path) : Except FileError Landing :=
  if p.text.toList.contains '\x00' then .error .nulInName
  else if p.text = "" then .error .notFound
  else if p.text.length > 4095 then .error .nameTooLong
  else follow files linkLimit (if p.isAbsolute then [] else cwd) p.pieces

/-- The names of what is at `p`. -/
def locate (files : FileSystem) (cwd : List String) (p : Path) :
    Except FileError (List String) :=
  match files.land cwd p with
  | .ok (.found names) => .ok names
  | .ok (.vacant _ _) => .error .notFound
  | .error e => .error e

/-- The absolute path without links, dots or doubled separators that leads to the same place. A
place too deep for any absolute path has none. -/
def canonical (files : FileSystem) (cwd : List String) (p : Path) : Except FileError Path :=
  match files.locate cwd p with
  | .ok names =>
    if (Path.ofNames names).text.length > 4095 then .error .nameTooLong
    else .ok (Path.ofNames names)
  | .error e => .error e

def node? (files : FileSystem) (cwd : List String) (p : Path) : Option Node :=
  match files.locate cwd p with
  | .ok names => files.entry? names
  | .error _ => none

def isDirectory (files : FileSystem) (cwd : List String) (p : Path) : Bool :=
  match files.node? cwd p with
  | some (.directory _) => true
  | _ => false

def isFile (files : FileSystem) (cwd : List String) (p : Path) : Bool :=
  match files.node? cwd p with
  | some (.file _ _) => true
  | _ => false

def isExecutableFile (files : FileSystem) (cwd : List String) (p : Path) : Bool :=
  match files.node? cwd p with
  | some (.file _ executable) => executable
  | _ => false

def exists? (files : FileSystem) (cwd : List String) (p : Path) : Bool :=
  (files.node? cwd p).isSome

/-- The bytes of the file at `p`. -/
def readBytes (files : FileSystem) (cwd : List String) (p : Path) :
    Except FileError ByteArray :=
  match files.locate cwd p with
  | .error e => .error e
  | .ok names =>
    match files.entry? names with
    | some (.file content _) =>
      if files.refuses .read names then .error .permissionDenied else .ok content
    | some (.directory _) =>
      .error (if files.refuses .read names then .permissionDenied else .isADirectory)
    | _ => .error .notFound

/-- The text of the file at `p`, which has to be UTF-8. -/
def readText (files : FileSystem) (cwd : List String) (p : Path) : Except FileError String :=
  match files.readBytes cwd p with
  | .error e => .error e
  | .ok bytes =>
    match Text.Utf8.read? bytes with
    | some text => .ok text
    | none => .error .notUtf8

/-- The names in the directory at `p`, in the order the directory keeps them. -/
def listing (files : FileSystem) (cwd : List String) (p : Path) :
    Except FileError (List String) :=
  match files.locate cwd p with
  | .error e => .error e
  | .ok names =>
    match files.entry? names with
    | some (.directory children) =>
      if files.refuses .read names then .error .permissionDenied
      else .ok (children.map (·.1))
    | some _ => .error .notADirectory
    | none => .error .notFound

end FileSystem

end EnvScout
