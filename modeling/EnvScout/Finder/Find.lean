import EnvScout.Finder.Tool
import EnvScout.Venv.Basic

/-!
Asking a finder about a directory, in two steps. Whether it applies at all is a cheap question that
never runs a command. Only then does it look for an environment, and whatever fails on the way means
that it has found none.
-/

namespace EnvScout.Finder

/-- Whether some marker of a tool is a file in the directory. -/
def Tool.isMarked (tool : Tool) (files : FileSystem) (cwd : List String) (dir : Path) : Bool :=
  tool.markers.any fun marker => files.isFile cwd (dir.child marker)

/-- Whether a finder applies to a directory. -/
def applies (site : Site) (files : FileSystem) (finder : Finder) (dir : Path) : Bool :=
  match finder with
  | localDotVenv => true
  | anySubdirectory => true
  | condaPrefix => (site.host.nonEmptyValue? "CONDA_PREFIX").isSome
  | virtualEnv => (site.host.nonEmptyValue? "VIRTUAL_ENV").isSome
  | _ =>
    match finder.tool? with
    | some tool =>
      Tool.isMarked tool files site.workingDirectory dir &&
        (site.host.which files tool.program).isSome
    | none => false

/-- The first environment among candidate directories, where each is tried as every kind in turn. -/
def firstVenv (site : Site) (kinds : List VenvKind) (candidates : List Path) :
    Search (Option Venv) :=
  Search.firstSome
    (fun dir => do
      if ← Search.look fun files => files.isDirectory site.workingDirectory dir then
        Search.firstSome (fun kind => Venv.ofDirectory site kind dir) kinds
      else pure none)
    candidates

/-- The directories inside a directory, by name. -/
def subdirectories (files : FileSystem) (cwd : List String) (dir : Path)
    (names : List String) : List Path :=
  (names.mergeSort.map dir.child).filter fun p => files.isDirectory cwd p

/-- Lists the directories inside a directory; where that fails there are none. -/
def listSubdirectories (site : Site) (dir : Path) : Search (List Path) := do
  match ← Search.look fun files => files.listing site.workingDirectory dir with
  | .ok names => Search.look fun files => subdirectories files site.workingDirectory dir names
  | .error e =>
    Search.report (Log.Part.finder.report .debug
      ("Cannot list " ++ Text.quotedPath dir.text ++ ": " ++ e.message))
    pure []

/-- The environment a tool's answer leads to. -/
def venvOfAnswer (site : Site) (form : AnswerForm) (place : Path) : Search (Option Venv) :=
  match form with
  | .interpreter => Venv.ofPython site .pep405 place
  | _ => Venv.ofDirectory site .pep405 place

/-- Asks a tool. -/
def findWithTool (site : Site) (finder : Finder) (tool : Tool) (dir : Path) :
    Search (Option Venv) := do
  let place ← Search.which site.host tool.program
  match ← Search.run site.host (tool.command place) (some dir) with
  | none => pure none
  | some output =>
    match tool.answer output with
    | none => pure none
    | some answer =>
      Search.report (Log.Part.finder.report .debug
        (finder.name ++ " reported " ++ Text.quoted answer ++ " for " ++ Text.quotedPath dir.text))
      venvOfAnswer site tool.form (answerPath dir answer)

/-- The environment an environment variable points to. -/
def findByVariable (site : Site) (key : String) (kind : VenvKind) : Search (Option Venv) :=
  match site.host.nonEmptyValue? key with
  | some value => Venv.ofDirectory site kind (.ofText value)
  | none => pure none

/-- Looks for an environment for a directory to which the finder applies. -/
def find (site : Site) (finder : Finder) (dir : Path) : Search (Option Venv) :=
  match finder with
  | localDotVenv => firstVenv site [.pep405] [dir.child ".venv", dir.child "venv"]
  | condaPrefix => findByVariable site "CONDA_PREFIX" .conda
  | virtualEnv => findByVariable site "VIRTUAL_ENV" .pep405
  | anySubdirectory => do
    let candidates ← listSubdirectories site dir
    firstVenv site VenvKind.all candidates
  | _ =>
    match finder.tool? with
    | some tool => findWithTool site finder tool dir
    | none => pure none

end EnvScout.Finder
