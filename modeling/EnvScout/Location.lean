import EnvScout.Search
import EnvScout.Text.Quoted

/-!
Turning what a user wrote into a place: a leading tilde stands for the home directory, an existing
path has a canonical form, and a missing one is at least made absolute.
-/

namespace EnvScout

def isSeparator (c : Char) : Bool :=
  c == '/' || c == '\\'

/-- The path with a leading `~` replaced by the home directory. The tilde of another user stays, and
so does every tilde where no home directory is known, or in a path that is no text. -/
def expandTilde (home : Option Path) (p : Path) : Path :=
  match home, p.text.toList with
  | some home, '~' :: rest =>
    if p.isText && (rest.isEmpty || rest.head?.any isSeparator) then
      home.join ⟨String.ofList (rest.dropWhile isSeparator)⟩
    else p
  | _, _ => p

/-- The canonical form of an existing path, its tilde expanded. -/
def canonicalTilde (files : FileSystem) (site : Site) (p : Path) : Except FileError Path :=
  files.canonical site.workingDirectory (expandTilde site.home p)

/-- An absolute form of any path: the canonical one where the path exists. -/
def absolutize (files : FileSystem) (cwd : List String) (p : Path) : Path :=
  match files.canonical cwd p with
  | .ok resolved => resolved
  | .error _ =>
    if p.isAbsolute then p
    else if files.isDirectory cwd ⟨"."⟩ then (Path.ofNames cwd).join p
    else p

def reportUnresolved (p : Path) (e : FileError) : Log.Event :=
  Log.Part.paths.report .debug ("Cannot resolve " ++ Text.quotedPath p.text ++ ": " ++ e.message)

/-- The canonical form of an existing path, its tilde expanded; a failure is reported. -/
def resolveExisting (site : Site) (p : Path) : Search (Option Path) := do
  match ← Search.look fun files => canonicalTilde files site p with
  | .ok resolved => pure (some resolved)
  | .error e =>
    Search.report (reportUnresolved (expandTilde site.home p) e)
    pure none

end EnvScout
