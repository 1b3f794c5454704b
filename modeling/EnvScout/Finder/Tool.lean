import EnvScout.Command
import EnvScout.Finder.Basic
import EnvScout.Text.Pattern

/-!
The finders that ask an environment manager. Each tool has a command, files that mark the projects
it manages, and a way to read its answer off what it prints.
-/

namespace EnvScout

/-- What a tool prints. -/
inductive AnswerForm where
  /-- The directory of the environment. -/
  | directory
  /-- The path of its interpreter. -/
  | interpreter
  /-- Lines, one of which gives the directory behind `venv:`. -/
  | venvLine
  deriving DecidableEq

structure Tool where
  program : String
  arguments : List String
  /-- Any one of these files in a directory makes it a project of the tool. -/
  markers : List String
  form : AnswerForm
  /-- Whether an answer counts only when the tool succeeds. -/
  needsSuccess : Bool

def Finder.tool? : Finder → Option Tool
  | .rye => some ⟨"rye", ["show"], ["pyproject.toml"], .venvLine, false⟩
  | .poetry => some ⟨"poetry", ["env", "info", "-p"], ["poetry.lock"], .directory, false⟩
  | .pdm => some ⟨"pdm", ["info", "--python"], [".pdm-python"], .interpreter, false⟩
  -- This tool prints its failures where the answer is expected.
  | .hatch => some ⟨"hatch", ["env", "find"], ["pyproject.toml", "hatch.toml"], .directory, true⟩
  | .pipenv => some ⟨"pipenv", ["--py"], ["Pipfile"], .interpreter, false⟩
  | .pyenv => some ⟨"pyenv", ["which", "python"], [".python-version"], .interpreter, false⟩
  | _ => none

open Text in
/-- A line that begins with `venv:`; marked is what follows without the blanks around it. -/
def venvLinePattern : Pattern :=
  [.lineStart] ++ "venv:".toList.map Step.char ++
    [.run (fun c => c == ' ' || c == '\t') true false, .run (fun c => c != '\n') false true,
      .run isBlank true false, .lineEnd]

/-- The text a tool's output holds for its form of answer. -/
def AnswerForm.extract : AnswerForm → String → String
  | directory, stdout => Text.trimmed stdout
  | interpreter, stdout => Text.trimmed stdout
  | venvLine, stdout =>
    match venvLinePattern.search none stdout.toList with
    | some part => String.ofList (Text.trim part)
    | none => ""

/-- The path a tool printed, none when the run is of no use. -/
def Tool.answer (tool : Tool) (output : Output) : Option String :=
  if tool.needsSuccess && !output.success then none
  else
    let value := tool.form.extract output.stdout
    if value = "" then none else some value

/-- Where an answer leads. A tool runs inside the project, so a relative answer is relative to
it. -/
def answerPath (project : Path) (answer : String) : Path :=
  if answer.toList.head? = some '~' then .ofText answer else project.join (.ofText answer)

/-- The command of a tool, by the place of its program if that is known. -/
def Tool.command (tool : Tool) (place : Option Path) : Command :=
  ⟨place.getD (.ofText tool.program), tool.arguments⟩

end EnvScout
