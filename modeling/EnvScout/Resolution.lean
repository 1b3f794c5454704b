import EnvScout.Finder.Find

/-!
Which environment a project uses. The search goes from the project's directory up to the root, and
in each directory it asks the chosen finders in their order; the first environment found is the
answer. A finder that goes by environment variables is asked in the first directory only. An
interpreter that is named outright takes the place of the whole search.
-/

namespace EnvScout

/-- Something odd that did not stop the search. -/
inductive Warning where
  | unknownFinder (name : String)
  deriving DecidableEq

def Warning.message : Warning → String
  | unknownFinder name => "Unsupported venv finder name: " ++ Text.quoted name

structure Resolution where
  venv : Option Venv
  warnings : List Warning

namespace Resolution

/-- What counts as the finder when the interpreter is named outright. -/
def explicitFinder : String :=
  "explicit_python_path"

/-- The environment of an interpreter that is named outright. -/
def ofExplicit (site : Site) (python : String) : Search (Option Venv) := do
  match ← Venv.ofPythonAny site (.ofText python) with
  | some venv =>
    Search.report (Log.Part.resolver.report .debug
      ("Using explicit interpreter " ++ Text.quoted python))
    pure (some (venv.foundBy explicitFinder))
  | none =>
    Search.report (Log.Part.resolver.report .debug
      ("Explicit interpreter " ++ Text.quoted python ++ " is not inside a venv"))
    pure none

/-- Asks one finder about one directory. -/
def attempt (site : Site) (visit : Path × Finder) : Search (Option Venv) := do
  let (dir, finder) := visit
  if ← Search.look fun files => finder.applies site files dir then
    match ← finder.find site dir with
    | some venv =>
      Search.report (Log.Part.resolver.report .debug
        ("Found venv " ++ Text.quotedPath venv.directory.text ++ " with " ++ finder.name ++
          " at " ++ Text.quotedPath dir.text))
      pure (some (venv.foundBy finder.name))
    | none => pure none
  else pure none

/-- Who is asked about what, in order: all finders about the first directory, and about those above
it the finders whose answer depends on the directory. -/
def visits (dirs : List Path) (finders : List Finder) : List (Path × Finder) :=
  match dirs with
  | [] => []
  | first :: above =>
    finders.map (first, ·) ++
      above.flatMap fun dir => (finders.filter Finder.dependsOnDirectory).map (dir, ·)

/-- The search through the directories. -/
def walk (site : Site) (start : Path) (finders : List Finder) : Search (Option Venv) := do
  if finders.isEmpty then pure none
  else
    let start ← Search.look fun files => absolutize files site.workingDirectory start
    match ← Search.firstSome (attempt site) (visits start.ancestors finders) with
    | some venv => pure (some venv)
    | none =>
      Search.report (Log.Part.resolver.report .debug
        ("No venv found for " ++ Text.quotedPath start.text))
      pure none

/-- The environment of the project in `start`, by the finders named, or by the interpreter that is
named outright. An empty interpreter counts as none; one of white space alone leads nowhere. -/
def resolve (site : Site) (start : Path) (names : List String) (explicit : Option String) :
    Search Resolution := do
  match explicit.filter fun path => path != "" with
  | some python =>
    let venv ← ofExplicit site (Text.trimmed python)
    pure ⟨venv, []⟩
  | none =>
    let selection := Finder.select names
    let warnings := selection.unknown.map Warning.unknownFinder
    Search.reportAll (warnings.map fun warning =>
      Log.Part.resolver.report .warn warning.message)
    let venv ← walk site start selection.finders
    pure ⟨venv, warnings⟩

end Resolution

end EnvScout
