import EnvScout.Proofs.Search
import EnvScout.Venv.Basic

/-!
Describing an environment, as a search. A directory is looked up and judged by the files alone; only
then is it described, and only an environment of conda's own runs a command for that. So the one
command such a search can run goes with the environment it hands out.
-/

namespace EnvScout

open Search

theorem still_resolveExisting (site : Site) (p : Path) : Still (resolveExisting site p) := by
  rw [resolveExisting]
  refine .bind (.look _) fun resolved => ?_
  cases resolved with
  | ok dir => exact .pure _
  | error e => exact .bind (.report _) fun _ => .pure _

theorem value_resolveExisting (site : Site) (p : Path) (files : FileSystem) :
    (resolveExisting site p).value files = (canonicalTilde files site p).toOption := by
  rw [resolveExisting, value_look_bind]
  cases canonicalTilde files site p <;> rfl

theorem Pyvenv.still_load (cwd : List String) (p : Path) : Still (load cwd p) := by
  rw [load]
  refine .bind (.look _) fun text => ?_
  cases text with
  | ok text => exact .pure _
  | error e => exact .bind (.report _) fun _ => .pure _

namespace CondaInfo

/-- What a query does with the output of its command. -/
def readOutput : Option Output → Search (Option CondaInfo)
  | none => pure none
  | some output =>
    if !output.success || output.stdout == "" then do
      Search.report (Log.Part.conda.report .debug
        ("(" ++ command.line ++ ") exited with " ++ toString output.exitCode))
      pure none
    else match decode output.stdout with
      | .ok info => pure (some info)
      | .error e => do
        Search.report (Log.Part.conda.report .debug
          ("Failed to parse conda info: " ++ e.messageIn output.stdout))
        pure none

theorem query_eq (host : Host) : query host = run host command none >>= readOutput := rfl

/-- After its one command a query only thinks. -/
theorem still_readOutput (output : Option Output) : Still (readOutput output) := by
  cases output with
  | none => exact .pure _
  | some output =>
      rw [readOutput]
      split
      · exact .bind (.report _) fun _ => .pure _
      · split
        · exact .pure _
        · exact .bind (.report _) fun _ => .pure _

theorem through_query (host : Host) : Through host (query host) := by
  rw [query_eq]
  exact .bind (.run _ _) fun output => (still_readOutput output).through host

theorem ran_query (host : Host) (files : FileSystem) : (query host).ran files = [command] := by
  rw [query_eq, ran_bind_still _ _ still_readOutput, ran_run]

end CondaInfo

namespace Venv

/-- The commands that go with an environment: conda is asked about one of its own. -/
def queries : Option Venv → List Command
  | some venv => if venv.kind = .conda then [CondaInfo.command] else []
  | none => []

variable (site : Site) (kind : VenvKind) (dir p : Path) (files : FileSystem)

theorem through_describe : Through site.host (describe site kind dir) := by
  cases kind with
  | pep405 => exact .bind ((Pyvenv.still_load _ _).through _) fun _ => .pure _
  | conda => exact .bind (CondaInfo.through_query _) fun _ => .pure _

theorem kind_describe : ((describe site kind dir).value files).kind = kind := by
  cases kind <;> rfl

theorem ran_describe :
    (describe site kind dir).ran files = queries (some ((describe site kind dir).value files)) := by
  rw [queries, kind_describe]
  cases kind with
  | pep405 =>
      rw [describe, ran_bind_still _ _ fun _ => .pure _, (Pyvenv.still_load _ _).ran_eq]
      rfl
  | conda =>
      rw [describe, ran_bind_still _ _ fun _ => .pure _, CondaInfo.ran_query]
      rfl

/-- What `ofDirectory` does with the place it has resolved. -/
def ofPlace (site : Site) (kind : VenvKind) : Option Path → Search (Option Venv)
  | none => pure none
  | some dir => do
    if ← Search.look fun files => isVenv files site.workingDirectory kind dir then
      let venv ← describe site kind dir
      pure (some venv)
    else pure none

theorem ofDirectory_eq :
    ofDirectory site kind p = resolveExisting site p >>= ofPlace site kind := rfl

theorem through_ofPlace (found : Option Path) : Through site.host (ofPlace site kind found) := by
  cases found with
  | none => exact .pure _
  | some dir =>
      refine .bind (.look _) fun valid => ?_
      split
      · exact .bind (through_describe site kind dir) fun _ => .pure _
      · exact .pure _

theorem value_ofPlace_some :
    (ofPlace site kind (some dir)).value files =
      if isVenv files site.workingDirectory kind dir then
        some ((describe site kind dir).value files)
      else none := by
  rw [ofPlace, value_look_bind]
  split <;> rfl

theorem ran_ofPlace (found : Option Path) :
    (ofPlace site kind found).ran files = queries ((ofPlace site kind found).value files) := by
  cases found with
  | none => rfl
  | some dir =>
      rw [value_ofPlace_some, ofPlace, ran_look_bind]
      split
      · rw [ran_bind_still _ _ fun _ => .pure _, ran_describe]
      · rfl

theorem through_ofDirectory : Through site.host (ofDirectory site kind p) := by
  rw [ofDirectory_eq]
  exact .bind ((still_resolveExisting site p).through _) (through_ofPlace site kind)

/-- What a path comes to: the description of the place it leads to, if that is valid. -/
theorem value_ofDirectory :
    (ofDirectory site kind p).value files =
      (ofPlace site kind (canonicalTilde files site p).toOption).value files := by
  rw [ofDirectory_eq, value_still_bind (still_resolveExisting site p) _ (through_ofPlace site kind),
    value_resolveExisting]

theorem ran_ofDirectory :
    (ofDirectory site kind p).ran files = queries ((ofDirectory site kind p).value files) := by
  rw [value_ofDirectory, ofDirectory_eq,
    ran_still_bind (still_resolveExisting site p) _ (through_ofPlace site kind),
    value_resolveExisting, ran_ofPlace]

variable {site kind dir p files}

theorem kind_of_ofDirectory {venv : Venv} (h : (ofDirectory site kind p).value files = some venv) :
    venv.kind = kind := by
  rw [value_ofDirectory] at h
  cases hplace : (canonicalTilde files site p).toOption with
  | none =>
      rw [hplace] at h
      cases h
  | some dir =>
      rw [hplace, value_ofPlace_some] at h
      split at h
      · cases h
        exact kind_describe site kind dir files
      · cases h

theorem queries_of_ofDirectory_pep405 :
    queries ((ofDirectory site .pep405 p).value files) = [] := by
  cases hvenv : (ofDirectory site .pep405 p).value files with
  | none => rfl
  | some venv => rw [queries, kind_of_ofDirectory hvenv, if_neg (by decide)]

theorem through_ofPython (site : Site) (kind : VenvKind) (python : Path) :
    Through site.host (ofPython site kind python) := by
  rw [ofPython]
  split
  · exact .pure _
  · exact through_ofDirectory site kind _

theorem ran_ofPython (site : Site) (kind : VenvKind) (python : Path) (files : FileSystem) :
    (ofPython site kind python).ran files =
      queries ((ofPython site kind python).value files) := by
  rw [ofPython]
  split
  · rfl
  · exact ran_ofDirectory site kind _ files

theorem queries_of_ofPython_pep405 (site : Site) (python : Path) (files : FileSystem) :
    queries ((ofPython site .pep405 python).value files) = [] := by
  rw [ofPython]
  split
  · rfl
  · exact queries_of_ofDirectory_pep405

theorem through_ofPythonAny (site : Site) (python : Path) :
    Through site.host (ofPythonAny site python) :=
  through_firstSome (fun kind => through_ofPython site kind python) _

theorem still_ofDirectory_pep405 (site : Site) (p : Path) : Still (ofDirectory site .pep405 p) := by
  rw [ofDirectory_eq]
  refine .bind (still_resolveExisting site p) fun found => ?_
  cases found with
  | none => exact .pure _
  | some dir =>
      refine .bind (.look _) fun valid => ?_
      split
      · exact .bind (.bind (Pyvenv.still_load _ _) fun _ => .pure _) fun _ => .pure _
      · exact .pure _

theorem still_ofPython_pep405 (site : Site) (python : Path) :
    Still (ofPython site .pep405 python) := by
  unfold ofPython
  split
  · exact .pure _
  · exact still_ofDirectory_pep405 site _

/-- Where the first kind does not fit, nothing has been run or changed when the second is tried. -/
theorem value_ofPythonAny (site : Site) (python : Path) (files : FileSystem) :
    (ofPythonAny site python).value files =
      ((ofPython site .pep405 python).value files).or
        ((ofPython site .conda python).value files) := by
  have hthrough : ∀ kind, Through site.host (ofPython site kind python) := fun kind =>
    through_ofPython site kind python
  rw [ofPythonAny, VenvKind.all, value_firstSome_cons hthrough,
    (still_ofPython_pep405 site python).leaves_eq, value_firstSome_cons hthrough]
  exact congrArg _ Option.or_none

/-- So nothing is run but what goes with the environment found. -/
theorem ran_ofPythonAny (site : Site) (python : Path) (files : FileSystem) :
    (ofPythonAny site python).ran files = queries ((ofPythonAny site python).value files) := by
  have hthrough : ∀ kind, Through site.host (ofPython site kind python) := fun kind =>
    through_ofPython site kind python
  have hstill := still_ofPython_pep405 site python
  have hquiet := queries_of_ofPython_pep405 site python files
  rw [value_ofPythonAny, ofPythonAny, VenvKind.all, ran_firstSome_cons hthrough, hstill.ran_eq,
    hstill.leaves_eq, ran_firstSome_cons hthrough, ran_ofPython, List.nil_append]
  cases hpep405 : (ofPython site .pep405 python).value files with
  | some venv =>
      rw [hpep405] at hquiet
      exact hquiet.symm
  | none =>
      rw [Option.none_or]
      cases (ofPython site .conda python).value files <;> exact List.append_nil _

end Venv

end EnvScout
