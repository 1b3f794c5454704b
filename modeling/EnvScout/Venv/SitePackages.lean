import EnvScout.Venv.Basic

/-!
The directory of installed packages. It lies under `lib`, in a directory named after a Python
version; the version of the environment is preferred, and otherwise the first by name is taken.
-/

namespace EnvScout

/-- The first two numbers of a version, `3.11` of `3.11.4`. What follows the second one may be
anything. -/
def majorMinor? (version : String) : Option String :=
  match Text.splitOn '.' version.toList with
  | major :: minor :: _ =>
    let digits := minor.takeWhile Char.isDigit
    if major.all Char.isDigit && !major.isEmpty && !digits.isEmpty then
      some (String.ofList (major ++ '.' :: digits))
    else none
  | _ => none

namespace Venv

def libDirectory (venv : Venv) : Path :=
  venv.directory.child "lib"

/-- The packages under one name in `lib`. -/
def packagesUnder (venv : Venv) (name : String) : Path :=
  (venv.libDirectory.child name).child "site-packages"

/-- The packages of the environment's own version, where they exist. -/
def ownPackages? (files : FileSystem) (cwd : List String) (venv : Venv) : Option Path :=
  match majorMinor? venv.pythonVersion with
  | some version =>
    let dir := venv.packagesUnder ("python" ++ version)
    if files.isDirectory cwd dir then some dir else none
  | none => none

/-- The first packages by the names in `lib`. A name is shown with `python` in front exactly if its
bytes begin so. -/
def anyPackages? (files : FileSystem) (cwd : List String) (venv : Venv) (names : List String) :
    Option Path :=
  let candidates := (names.filter fun name => "python".toList.isPrefixOf name.toList).mergeSort
  (candidates.map venv.packagesUnder).find? fun dir => files.isDirectory cwd dir

def sitePackages? (files : FileSystem) (cwd : List String) (venv : Venv) : Option Path :=
  match venv.ownPackages? files cwd with
  | some dir => some dir
  | none =>
    match files.listing cwd venv.libDirectory with
    | .ok names => venv.anyPackages? files cwd names
    | .error _ => none

/-- Looks for the packages; a `lib` that cannot be listed is reported. -/
def sitePackages (site : Site) (venv : Venv) : Search (Option Path) := do
  let cwd := site.workingDirectory
  let own ← Search.look fun files => venv.ownPackages? files cwd
  match own, ← Search.look fun files => files.listing cwd venv.libDirectory with
  | none, .error e =>
    Search.report (Log.Part.descriptor.report .debug
      ("Cannot list " ++ Text.quotedPath venv.libDirectory.text ++ ": " ++ e.message))
    pure none
  | _, _ => Search.look fun files => venv.sitePackages? files cwd

end Venv

end EnvScout
