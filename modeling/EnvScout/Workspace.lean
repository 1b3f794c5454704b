import EnvScout.Location

/-!
The workspace folder a file belongs to: of the folders that contain it, going by whole components,
the deepest.
-/

namespace EnvScout.Workspace

/-- The form in which folders and files are compared. -/
def normalize (files : FileSystem) (site : Site) (p : Path) : Path :=
  match canonicalTilde files site p with
  | .ok resolved => resolved
  | .error _ => absolutize files site.workingDirectory p

/-- The deeper of two folders, the later one if they are equally deep. -/
def deeper (best : Option Path) (folder : Path) : Option Path :=
  match best with
  | none => some folder
  | some other =>
    if other.components.length ≤ folder.components.length then some folder else some other

/-- The deepest of the folders that contain `p`; all of them are in normal form. -/
def deepest (folders : List Path) (p : Path) : Option Path :=
  (folders.filter fun folder => p.startsWith folder).foldl deeper none

/-- The folder, of those listed, that contains `p` most closely. -/
def folderOf (files : FileSystem) (site : Site) (folders : List Path) (p : Path) : Option Path :=
  deepest (folders.map (normalize files site)) (normalize files site p)

/-- Brings a path into normal form; one that leads nowhere is reported. -/
def normalizeReporting (site : Site) (p : Path) : Search Path := do
  match ← resolveExisting site p with
  | some resolved => pure resolved
  | none => Search.look fun files => absolutize files site.workingDirectory p

/-- Finds the folder and reports the paths that lead nowhere. -/
def findFolder (site : Site) (folders : List Path) (p : Path) : Search (Option Path) := do
  let p ← normalizeReporting site p
  let folders ← folders.mapM (normalizeReporting site)
  pure (deepest folders p)

end EnvScout.Workspace
