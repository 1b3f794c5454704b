import EnvScout.Conda
import EnvScout.Json.Value
import EnvScout.Location
import EnvScout.Pyvenv

/-!
Virtual environments. There are two kinds, told apart by a marker in the directory; an environment
is valid when its directory holds an interpreter and the marker of its kind. Only valid environments
are handed out. What they say about themselves, a prompt and a version, never decides whether one is
found.
-/

namespace EnvScout

inductive VenvKind where
  /-- Marked by a file `pyvenv.cfg`. -/
  | pep405
  /-- Marked by a directory `conda-meta`. -/
  | conda
  deriving DecidableEq

namespace VenvKind

/-- The kinds in the order they are tried. -/
def all : List VenvKind :=
  [pep405, conda]

def name : VenvKind → String
  | pep405 => "Pep405"
  | conda => "Conda"

/-- The name in written records. -/
def key : VenvKind → String
  | pep405 => "pep405"
  | conda => "conda"

def marker : VenvKind → String
  | pep405 => "pyvenv.cfg"
  | conda => "conda-meta"

def hasMarker (kind : VenvKind) (files : FileSystem) (cwd : List String) (dir : Path) : Bool :=
  match kind with
  | pep405 => files.isFile cwd (dir.child (marker pep405))
  | conda => files.isDirectory cwd (dir.child (marker conda))

end VenvKind

/-- Where an environment has its interpreter. -/
def pythonIn (dir : Path) : Path :=
  (dir.child "bin").child "python"

/-- Whether a directory is an environment of the given kind. -/
def isVenv (files : FileSystem) (cwd : List String) (kind : VenvKind) (dir : Path) : Bool :=
  files.isDirectory cwd dir && files.isFile cwd (pythonIn dir) && kind.hasMarker files cwd dir

structure Venv where
  kind : VenvKind
  /-- The canonical path of the directory, by which environments are compared. -/
  directory : Path
  prompt : String
  pythonVersion : String
  /-- The finder that came upon the environment, empty if none did. -/
  finderName : String
  /-- The configuration file, for environments that have one. -/
  config : Option Pyvenv

namespace Venv

/-- The same environment, whatever is known about it. -/
def Same (a b : Venv) : Prop :=
  a.directory.Same b.directory

instance (a b : Venv) : Decidable (a.Same b) :=
  inferInstanceAs (Decidable (Path.Same _ _))

def python (venv : Venv) : Path :=
  pythonIn venv.directory

def isValid (files : FileSystem) (cwd : List String) (venv : Venv) : Bool :=
  isVenv files cwd venv.kind venv.directory

def foundBy (venv : Venv) (finder : String) : Venv :=
  { venv with finderName := finder }

/-- The prompt, or in its absence the name of the directory. -/
def promptOr (dir : Path) (prompt : String) : String :=
  if prompt = "" then (dir.fileName?.map Text.Utf8.decoded).getD "" else prompt

def ofConfig (dir : Path) (cfg : Pyvenv) : Venv where
  kind := .pep405
  directory := dir
  prompt := promptOr dir (cfg.prompt?.getD "")
  pythonVersion := cfg.version?.getD ""
  finderName := ""
  config := some cfg

def ofCondaInfo (dir : Path) (info : Option CondaInfo) : Venv where
  kind := .conda
  directory := dir
  prompt := promptOr dir ((info.bind CondaInfo.activePrefixName).getD "")
  pythonVersion := match info with
    | some info => info.normalizedVersion
    | none => ""
  finderName := ""
  config := none

/-- Asks an environment, already known to be valid, about itself. -/
def describe (site : Site) (kind : VenvKind) (dir : Path) : Search Venv := do
  match kind with
  | .pep405 =>
    let cfg ← Pyvenv.load site.workingDirectory (dir.child (VenvKind.marker .pep405))
    pure (ofConfig dir cfg)
  | .conda =>
    let info ← CondaInfo.query site.host
    pure (ofCondaInfo dir info)

/-- The environment in a directory, its tilde expanded and its links followed. -/
def ofDirectory (site : Site) (kind : VenvKind) (p : Path) : Search (Option Venv) := do
  match ← resolveExisting site p with
  | none => pure none
  | some dir =>
    if ← Search.look fun files => isVenv files site.workingDirectory kind dir then
      let venv ← describe site kind dir
      pure (some venv)
    else pure none

/-- The directory two levels above an interpreter. -/
def directoryOfPython? (python : Path) : Option Path :=
  match python.parent? with
  | none => none
  | some bin =>
    match bin.parent? with
    | none => none
    | some dir => if dir.text = "" then none else some dir

/-- The environment an interpreter belongs to. -/
def ofPython (site : Site) (kind : VenvKind) (python : Path) : Search (Option Venv) :=
  match directoryOfPython? python with
  | none => pure none
  | some dir => ofDirectory site kind dir

/-- The environment an interpreter belongs to, of the first kind that fits. -/
def ofPythonAny (site : Site) (python : Path) : Search (Option Venv) :=
  Search.firstSome (fun kind => ofPython site kind python) VenvKind.all

/-- The environment whose configuration file is given. -/
def ofConfigFile (site : Site) (file : Path) : Search (Option Venv) :=
  match file.parent? with
  | none => pure none
  | some dir => if dir.text = "" then pure none else ofDirectory site .pep405 dir

/-- The record of an environment, none where its directory is no text. -/
def toJson? (venv : Venv) : Option Json :=
  if venv.directory.isText then
    some (.object [
      ("kind", .string venv.kind.key),
      ("venv_directory", .string venv.directory.shown),
      ("prompt", .string venv.prompt),
      ("python_version", .string venv.pythonVersion),
      ("finder_name", .string venv.finderName)])
  else none

end Venv

end EnvScout
