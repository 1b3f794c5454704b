import EnvScout.Settings.ExtraPaths
import EnvScout.Venv.SitePackages

/-!
Putting an environment into the settings of a language server, with the reports that go with it, and
what a status bar shows of an environment.
-/

namespace EnvScout.Settings

def isText (text : String) : Json → Bool
  | .string value => value == text
  | _ => false

/-- The packages in front of the list, unless the list has them or there is no list. -/
def withPackages (packages : Path) (members : Members) : Members :=
  match extraPaths? members with
  | some items =>
    if items.any (isText packages.shown) then members
    else setExtraPaths members (.string packages.shown :: items)
  | none => members

/-- Whether an interpreter is set, to whatever value. -/
def hasPython (members : Members) : Bool :=
  match members.lookup "pythonPath" with
  | none => false
  | some .null => false
  | some (.string path) => path != ""
  | some _ => true

def withPython (python : Path) (members : Members) : Members :=
  if hasPython members then members
  else Json.setMember "pythonPath" (.string python.shown) members

/-- The settings pointed at an environment whose packages, if any, are given. -/
def pointAt (venv : Venv) (packages : Option Path) : Json → Json
  | .object members =>
    let members := match packages with
      | some dir => withPackages dir members
      | none => members
    .object (withPython venv.python members)
  | settings => settings

/-- The settings pointed at an environment. -/
def applyVenv (files : FileSystem) (cwd : List String) (venv : Venv) (settings : Json) : Json :=
  pointAt venv (venv.sitePackages? files cwd) settings

/-- Points settings at an environment and reports what stands in the way. -/
def applyVenvReporting (site : Site) (venv : Venv) (settings : Json) : Search Json := do
  match settings with
  | .object _ =>
    let packages ← venv.sitePackages site
    pure (pointAt venv packages settings)
  | _ =>
    Search.report (Log.Part.workspace.report .debug
      "python configuration section is not an object; not patching")
    pure settings

/-- The texts of a list as a report shows them. -/
def showTexts (texts : List String) : String :=
  "[" ++ ", ".intercalate (texts.map fun text => "String(" ++ Text.quoted text ++ ")") ++ "]"

/-- What merging paths into settings has to report. -/
def injectReport (order : MergeOrder) (paths : List String) : Json → Log.Event
  | .object members =>
    match extraPaths? members with
    | some items =>
      Log.Part.embedded.report .debug
        ("analysis.extraPaths is now (" ++ order.label ++ "): " ++
          showTexts (mergedPaths order paths items))
    | none =>
      Log.Part.embedded.report .warn "analysis.extraPaths is not a list; not injecting paths"
  | _ =>
    Log.Part.embedded.report .debug
      "python configuration section is not an object; not injecting paths"

/-- Merges paths into settings and reports it. -/
def injectReporting (order : MergeOrder) (paths : List String) (settings : Json) :
    Search Json := do
  Search.report (injectReport order paths settings)
  pure (inject order paths settings)

/-- What a status bar shows. -/
structure Status where
  finderName : String
  pythonVersion : String
  prompt : String
  deriving DecidableEq

def Status.ofVenv (venv : Venv) : Status :=
  ⟨venv.finderName, venv.pythonVersion, venv.prompt⟩

def Status.toJson (status : Status) : Json :=
  .object [
    ("finder_name", .string status.finderName),
    ("python_version", .string status.pythonVersion),
    ("venv_prompt", .string status.prompt)]

end EnvScout.Settings
