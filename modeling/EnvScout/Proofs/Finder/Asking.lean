import EnvScout.Finder.Find
import EnvScout.Proofs.Venv.Describing

/-!
Asking a finder, as a search. A finder with a tool runs the tool's one command, and what the tool
answers is never an environment of conda's. Every other finder runs no command but the one that goes
with the environment it hands out.
-/

namespace EnvScout.Finder

open Search Venv

variable (site : Site) (finder : Finder) (tool : Tool) (dir : Path) (files : FileSystem)

/-- A candidate directory tried as every kind in turn. -/
def tryCandidate (site : Site) (kinds : List VenvKind) (dir : Path) : Search (Option Venv) := do
  if ← Search.look fun files => files.isDirectory site.workingDirectory dir then
    firstSome (fun kind => ofDirectory site kind dir) kinds
  else pure none

theorem firstVenv_eq (kinds : List VenvKind) (candidates : List Path) :
    firstVenv site kinds candidates = firstSome (tryCandidate site kinds) candidates := rfl

theorem through_tryCandidate (kinds : List VenvKind) :
    Through site.host (tryCandidate site kinds dir) := by
  refine .bind (.look _) fun isDirectory => ?_
  split
  · exact through_firstSome (fun kind => through_ofDirectory site kind dir) kinds
  · exact .pure _

theorem ran_tryCandidate (hhost : site.host.LeavesFiles) (kinds : List VenvKind) :
    (tryCandidate site kinds dir).ran files =
      queries ((tryCandidate site kinds dir).value files) := by
  rw [tryCandidate, value_look_bind, ran_look_bind]
  split
  · exact ran_firstSome_of_closing (fun kind => through_ofDirectory site kind dir) hhost files
      queries rfl fun kind => ran_ofDirectory site kind dir files
  · rfl

theorem through_firstVenv (kinds : List VenvKind) (candidates : List Path) :
    Through site.host (firstVenv site kinds candidates) := by
  rw [firstVenv_eq]
  exact through_firstSome (fun dir => through_tryCandidate site dir kinds) candidates

theorem ran_firstVenv (hhost : site.host.LeavesFiles) (kinds : List VenvKind)
    (candidates : List Path) :
    (firstVenv site kinds candidates).ran files =
      queries ((firstVenv site kinds candidates).value files) := by
  rw [firstVenv_eq]
  exact ran_firstSome_of_closing (fun dir => through_tryCandidate site dir kinds) hhost files
    queries rfl fun dir => ran_tryCandidate site dir files hhost kinds

theorem still_listSubdirectories : Still (listSubdirectories site dir) := by
  rw [listSubdirectories]
  refine .bind (.look _) fun names => ?_
  cases names with
  | ok names => exact .look _
  | error e => exact .bind (.report _) fun _ => .pure _

theorem through_venvOfAnswer (form : AnswerForm) (place : Path) :
    Through site.host (venvOfAnswer site form place) := by
  cases form with
  | interpreter => exact through_ofPython site _ place
  | _ => exact through_ofDirectory site _ place

theorem queries_of_venvOfAnswer (form : AnswerForm) (place : Path) :
    queries ((venvOfAnswer site form place).value files) = [] := by
  cases form with
  | interpreter => exact queries_of_ofPython_pep405 site place files
  | _ => exact queries_of_ofDirectory_pep405

theorem ran_venvOfAnswer (form : AnswerForm) (place : Path) :
    (venvOfAnswer site form place).ran files = [] := by
  rw [← queries_of_venvOfAnswer site files form place]
  cases form with
  | interpreter => exact ran_ofPython site _ place files
  | _ => exact ran_ofDirectory site _ place files

/-- What is made of a tool's output. -/
def venvOfOutput : Option Output → Search (Option Venv)
  | none => pure none
  | some output =>
    match tool.answer output with
    | none => pure none
    | some answer => do
      Search.report (Log.Part.finder.report .debug
        (finder.name ++ " reported " ++ Text.quoted answer ++ " for " ++ Text.quotedPath dir.text))
      venvOfAnswer site tool.form (answerPath dir answer)

theorem findWithTool_eq :
    findWithTool site finder tool dir =
      (look (fun files => site.host.which files tool.program) >>= fun place =>
        Search.run site.host (tool.command place) (some dir) >>=
          venvOfOutput site finder tool dir) := rfl

theorem through_venvOfOutput (output : Option Output) :
    Through site.host (venvOfOutput site finder tool dir output) := by
  cases output with
  | none => exact .pure _
  | some output =>
      rw [venvOfOutput]
      split
      · exact .pure _
      · exact .bind (.report _) fun _ => through_venvOfAnswer site _ _

theorem ran_venvOfOutput (output : Option Output) :
    (venvOfOutput site finder tool dir output).ran files = [] := by
  cases output with
  | none => rfl
  | some output =>
      rw [venvOfOutput]
      split
      · rfl
      · rw [ran_still_bind (.report _) site.host fun _ => through_venvOfAnswer site _ _,
          ran_venvOfAnswer]

theorem queries_of_venvOfOutput (output : Option Output) :
    queries ((venvOfOutput site finder tool dir output).value files) = [] := by
  cases output with
  | none => rfl
  | some output =>
      rw [venvOfOutput]
      split
      · rfl
      · rw [value_still_bind (.report _) site.host fun _ => through_venvOfAnswer site _ _,
          queries_of_venvOfAnswer]

theorem through_findWithTool : Through site.host (findWithTool site finder tool dir) := by
  rw [findWithTool_eq]
  exact .bind (.look _) fun place =>
    .bind (.run _ _) (through_venvOfOutput site finder tool dir)

theorem ran_findWithTool :
    (findWithTool site finder tool dir).ran files =
      [tool.command (site.host.which files tool.program)] := by
  rw [findWithTool_eq, ran_look_bind, ran_bind site.host _ _ (through_venvOfOutput _ _ _ _),
    ran_venvOfOutput, ran_run]
  rfl

theorem queries_of_findWithTool :
    queries ((findWithTool site finder tool dir).value files) = [] := by
  rw [findWithTool_eq, value_look_bind, value_bind site.host _ _ (through_venvOfOutput _ _ _ _),
    queries_of_venvOfOutput]

theorem through_findByVariable (key : String) (kind : VenvKind) :
    Through site.host (findByVariable site key kind) := by
  rw [findByVariable]
  split
  · exact through_ofDirectory site kind _
  · exact .pure _

theorem ran_findByVariable (key : String) (kind : VenvKind) :
    (findByVariable site key kind).ran files =
      queries ((findByVariable site key kind).value files) := by
  rw [findByVariable]
  split
  · exact ran_ofDirectory site kind _ files
  · rfl

theorem find_of_tool? (h : finder.tool? = some tool) :
    find site finder dir = findWithTool site finder tool dir := by
  cases finder <;> cases h <;> rfl

theorem applies_of_tool? (h : finder.tool? = some tool) :
    applies site files finder dir =
      (Tool.isMarked tool files site.workingDirectory dir &&
        (site.host.which files tool.program).isSome) := by
  cases finder <;> cases h <;> rfl

theorem through_find : Through site.host (find site finder dir) := by
  cases htool : finder.tool? with
  | some tool =>
      rw [find_of_tool? site finder tool dir htool]
      exact through_findWithTool site finder tool dir
  | none =>
      cases finder with
      | localDotVenv => exact through_firstVenv site _ _
      | condaPrefix => exact through_findByVariable site _ _
      | virtualEnv => exact through_findByVariable site _ _
      | anySubdirectory =>
          exact .bind ((still_listSubdirectories site dir).through _) (through_firstVenv site _)
      | _ => cases htool

/-- A finder runs the command of its tool, and then what goes with the environment it hands out. -/
theorem ran_find (hhost : site.host.LeavesFiles) :
    (find site finder dir).ran files =
      (finder.tool?.map fun tool => tool.command (site.host.which files tool.program)).toList ++
        queries ((find site finder dir).value files) := by
  cases htool : finder.tool? with
  | some tool =>
      rw [find_of_tool? site finder tool dir htool, ran_findWithTool, queries_of_findWithTool]
      rfl
  | none =>
      cases finder with
      | localDotVenv => exact ran_firstVenv site files hhost _ _
      | condaPrefix => exact ran_findByVariable site files _ _
      | virtualEnv => exact ran_findByVariable site files _ _
      | anySubdirectory =>
          have hstill := still_listSubdirectories site dir
          rw [find, ran_still_bind hstill site.host (through_firstVenv site _),
            value_still_bind hstill site.host (through_firstVenv site _)]
          exact ran_firstVenv site files hhost _ _
      | _ => cases htool

end EnvScout.Finder
