/-!
The finders: ways to come upon a virtual environment, each with the name by which it is configured.
-/

namespace EnvScout

inductive Finder where
  /-- A `.venv` or `venv` in the directory. -/
  | localDotVenv
  /-- The active conda environment. -/
  | condaPrefix
  /-- The activated environment. -/
  | virtualEnv
  | rye
  | poetry
  | pdm
  | hatch
  | pipenv
  | pyenv
  /-- Any directory inside the directory. -/
  | anySubdirectory
  deriving DecidableEq

namespace Finder

/-- All finders, highest priority first: what lies in place or is active already comes before what a
tool has to be asked for, and the scan of subdirectories comes last. -/
def all : List Finder :=
  [localDotVenv, condaPrefix, virtualEnv, rye, poetry, pdm, hatch, pipenv, pyenv, anySubdirectory]

def name : Finder → String
  | localDotVenv => "local_dot_venv"
  | condaPrefix => "env_var_conda_prefix"
  | virtualEnv => "env_var_virtual_env"
  | rye => "rye"
  | poetry => "poetry"
  | pdm => "pdm"
  | hatch => "hatch"
  | pipenv => "pipenv"
  | pyenv => "pyenv"
  | anySubdirectory => "any_subdirectory"

/-- The name in capitalised words. -/
def label : Finder → String
  | localDotVenv => "LocalDotVenv"
  | condaPrefix => "EnvVarCondaPrefix"
  | virtualEnv => "EnvVarVirtualEnv"
  | rye => "Rye"
  | poetry => "Poetry"
  | pdm => "Pdm"
  | hatch => "Hatch"
  | pipenv => "Pipenv"
  | pyenv => "Pyenv"
  | anySubdirectory => "AnySubdirectory"

/-- Whether the answer depends on the directory. Environment variables say the same everywhere, so
the finders that go by them are asked once. -/
def dependsOnDirectory : Finder → Bool
  | condaPrefix => false
  | virtualEnv => false
  | _ => true

def names : List String :=
  all.map name

/-- The finder of exactly that name. -/
def ofName? (name : String) : Option Finder :=
  all.find? fun finder => finder.name == name

@[simp] theorem ofName?_name (finder : Finder) : ofName? finder.name = some finder := by
  cases finder <;> decide

theorem name_of_ofName? {name : String} {finder : Finder} (h : ofName? name = some finder) :
    finder.name = name := by
  simpa using List.find?_some h

theorem mem_all (finder : Finder) : finder ∈ all := by
  cases finder <;> decide

/-- What a list of names comes to: the finders it names, each once, and the names of none. -/
structure Selection where
  finders : List Finder
  unknown : List String
  deriving DecidableEq

def Selection.add (selection : Selection) (name : String) : Selection :=
  match ofName? name with
  | some finder =>
    if finder ∈ selection.finders then selection
    else { selection with finders := selection.finders ++ [finder] }
  | none => { selection with unknown := selection.unknown ++ [name] }

/-- The finders named, in the order in which they are first named. -/
def select (names : List String) : Selection :=
  names.foldl Selection.add ⟨[], []⟩

end Finder

end EnvScout
