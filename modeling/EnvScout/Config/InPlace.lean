import EnvScout.Config.Basic

/-!
Changing settings in place. The settings are a state that goes along with the search, as they are
for a caller who hands them over to be changed: whatever has been done to them by the time something
fails stays done.
-/

namespace EnvScout

/-- A search that has settings to change. -/
abbrev Editing := StateT Json Search

/-- Merges paths into the settings. -/
def Settings.injectInPlace (order : MergeOrder) (paths : List String) : Editing Unit := do
  let settings ← get
  let merged ← injectReporting order paths settings
  set merged

/-- Puts the paths of an application in front of the extra paths. -/
def Application.applyInPlace (site : Site) (application : Application) (binary : String) :
    Editing (Except Failure Unit) := do
  match ← application.findPaths site binary with
  | .error failure => pure (.error failure)
  | .ok paths =>
    Settings.injectInPlace .prepend paths
    pure (.ok ())

/-- Puts the paths of the configured application, if there is one, in front of the extra paths. The
result says whether there is one. -/
def Config.applyInPlace (site : Site) (config : Config) :
    Editing (Except Application.Failure Bool) := do
  match config.application with
  | none => pure (.ok false)
  | some setting =>
    match Application.ofName? setting.name with
    | none => pure (.error (.unknownApplication setting.name))
    | some application =>
      match ← application.applyInPlace site (Text.trimmed setting.binary) with
      | .ok () => pure (.ok true)
      | .error failure => pure (.error failure)

end EnvScout
