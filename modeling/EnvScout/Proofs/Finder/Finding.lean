import EnvScout.Proofs.Finder.Asking

/-!
What a finder finds on a host whose commands leave the files alone. All its steps then see the same
files, so what it finds is put together from what those files hold and what the host answers. And
whatever it finds is an environment that some directory has been described as.
-/

namespace EnvScout

open Search

namespace Venv

/-- The environments that come of describing a directory. -/
def Described (site : Site) (files : FileSystem) (venv : Venv) : Prop :=
  ∃ kind p, (ofDirectory site kind p).value files = some venv

variable {site : Site} {files : FileSystem} {venv : Venv}

theorem described_of_ofPython {kind : VenvKind} {python : Path}
    (h : (ofPython site kind python).value files = some venv) : Described site files venv := by
  unfold ofPython at h
  split at h
  · cases h
  · exact ⟨_, _, h⟩

theorem described_of_ofConfigFile {file : Path}
    (h : (ofConfigFile site file).value files = some venv) : Described site files venv := by
  unfold ofConfigFile at h
  split at h
  · cases h
  · split at h
    · cases h
    · exact ⟨_, _, h⟩

theorem described_of_ofPythonAny {python : Path}
    (h : (ofPythonAny site python).value files = some venv) : Described site files venv := by
  rw [value_ofPythonAny, Option.or_eq_some_iff] at h
  rcases h with h | ⟨_, h⟩
  · exact described_of_ofPython h
  · exact described_of_ofPython h

end Venv

namespace Finder

open Venv

variable (site : Site) (finder : Finder) (tool : Tool) (dir : Path) (files : FileSystem)

theorem value_listSubdirectories :
    (listSubdirectories site dir).value files =
      match files.listing site.workingDirectory dir with
      | .ok names => subdirectories files site.workingDirectory dir names
      | .error _ => [] := by
  rw [listSubdirectories, value_look_bind]
  cases files.listing site.workingDirectory dir <;> rfl

theorem value_venvOfOutput (output : Option Output) :
    (venvOfOutput site finder tool dir output).value files =
      (output.bind tool.answer).bind fun answer =>
        (venvOfAnswer site tool.form (answerPath dir answer)).value files := by
  cases output with
  | none => rfl
  | some output =>
      rw [venvOfOutput, Option.bind_some]
      cases tool.answer output with
      | none => rfl
      | some answer =>
          exact value_still_bind (.report _) site.host
            (fun _ => through_venvOfAnswer site _ _) files

/-- What comes of running a tool in a directory. -/
def asked : Execution :=
  site.host.run files (tool.command (site.host.which files tool.program)) (some dir)

/-- What the answer leads to is looked up in the files that the tool has left. -/
theorem value_findWithTool_asked :
    (findWithTool site finder tool dir).value files =
      ((asked site tool dir files).output.bind tool.answer).bind fun answer =>
        (venvOfAnswer site tool.form (answerPath dir answer)).value
          (asked site tool dir files).files := by
  rw [findWithTool_eq, value_look_bind, value_bind site.host _ _ (through_venvOfOutput _ _ _ _),
    value_venvOfOutput]
  rfl

/-- A trial that is in vain runs no command. -/
theorem ran_ofDirectory_of_none (kind : VenvKind) (p : Path) (files : FileSystem)
    (h : (ofDirectory site kind p).value files = none) :
    (ofDirectory site kind p).ran files = [] := by
  rw [ran_ofDirectory, h]
  rfl

theorem value_tryCandidate (kinds : List VenvKind) :
    (tryCandidate site kinds dir).value files =
      if files.isDirectory site.workingDirectory dir then
        kinds.findSome? fun kind => (ofDirectory site kind dir).value files
      else none := by
  rw [tryCandidate, value_look_bind]
  split
  · exact value_firstSome_of_idle (fun kind => through_ofDirectory site kind dir)
      (fun kind files => ran_ofDirectory_of_none site kind dir files) files kinds
  · rfl

theorem ran_tryCandidate_of_none (kinds : List VenvKind)
    (h : (tryCandidate site kinds dir).value files = none) :
    (tryCandidate site kinds dir).ran files = [] := by
  rw [tryCandidate, value_look_bind] at h
  rw [tryCandidate, ran_look_bind]
  split at h
  · rename_i hdirectory
    rw [if_pos hdirectory]
    exact (firstSome_in_vain (fun kind => through_ofDirectory site kind dir)
      (fun kind files => ran_ofDirectory_of_none site kind dir files) files h).2
  · rename_i hdirectory
    rw [if_neg hdirectory]
    rfl

theorem value_firstVenv (kinds : List VenvKind) (candidates : List Path) :
    (firstVenv site kinds candidates).value files =
      candidates.findSome? fun dir => (tryCandidate site kinds dir).value files := by
  rw [firstVenv_eq]
  exact value_firstSome_of_idle (fun dir => through_tryCandidate site dir kinds)
    (fun dir files => ran_tryCandidate_of_none site dir files kinds) files candidates

theorem value_find_anySubdirectory :
    (find site .anySubdirectory dir).value files =
      (firstVenv site VenvKind.all ((listSubdirectories site dir).value files)).value files :=
  value_still_bind (still_listSubdirectories site dir) site.host (through_firstVenv site _) files

section Described

variable {site files} {venv : Venv}

theorem described_of_venvOfAnswer {form : AnswerForm} {place : Path}
    (h : (venvOfAnswer site form place).value files = some venv) : Described site files venv := by
  cases form with
  | interpreter => exact described_of_ofPython h
  | _ => exact ⟨_, _, h⟩

theorem described_of_findByVariable {key : String} {kind : VenvKind}
    (h : (findByVariable site key kind).value files = some venv) : Described site files venv := by
  unfold findByVariable at h
  split at h
  · exact ⟨_, _, h⟩
  · cases h

theorem described_of_tryCandidate {kinds : List VenvKind} {dir : Path}
    (h : (tryCandidate site kinds dir).value files = some venv) : Described site files venv := by
  rw [value_tryCandidate] at h
  split at h
  · obtain ⟨kind, _, hkind⟩ := List.exists_of_findSome?_eq_some h
    exact ⟨kind, dir, hkind⟩
  · cases h

theorem described_of_firstVenv {kinds : List VenvKind} {candidates : List Path}
    (h : (firstVenv site kinds candidates).value files = some venv) :
    Described site files venv := by
  rw [value_firstVenv] at h
  obtain ⟨dir, _, hdir⟩ := List.exists_of_findSome?_eq_some h
  exact described_of_tryCandidate hdir

end Described

variable (hhost : site.host.LeavesFiles)
include hhost

theorem value_findWithTool :
    (findWithTool site finder tool dir).value files =
      ((site.host.run files (tool.command (site.host.which files tool.program))
        (some dir)).output.bind tool.answer).bind fun answer =>
          (venvOfAnswer site tool.form (answerPath dir answer)).value files := by
  have hfiles : (asked site tool dir files).files = files := hhost _ _ _
  rw [value_findWithTool_asked, hfiles]
  rfl

variable {site finder dir files} {venv : Venv}

/-- Whatever a finder finds, some directory has been described as. -/
theorem described_of_find (h : (find site finder dir).value files = some venv) :
    Described site files venv := by
  cases htool : finder.tool? with
  | some tool =>
      rw [find_of_tool? site finder tool dir htool,
        value_findWithTool site finder tool dir files hhost] at h
      obtain ⟨answer, _, hanswer⟩ := Option.bind_eq_some_iff.mp h
      exact described_of_venvOfAnswer hanswer
  | none =>
      cases finder with
      | localDotVenv => exact described_of_firstVenv h
      | anySubdirectory =>
          rw [value_find_anySubdirectory] at h
          exact described_of_firstVenv h
      | condaPrefix => exact described_of_findByVariable h
      | virtualEnv => exact described_of_findByVariable h
      | _ => cases htool

end Finder

end EnvScout
