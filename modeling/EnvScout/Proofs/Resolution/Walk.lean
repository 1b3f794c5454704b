import EnvScout.Proofs.Finder.Asking
import EnvScout.Resolution

/-!
The resolution as a search, part by part: what an attempt, the walk and the interpreter named
outright come to, and the commands they run. Around the finders' own searches only reports are
added.
-/

namespace EnvScout.Resolution

open Search Venv

variable (site : Site) (files : FileSystem)

/-- What an attempt does with what the finder has found. -/
def handOut (dir : Path) (finder : Finder) : Option Venv → Search (Option Venv)
  | some venv => do
    Search.report (Log.Part.resolver.report .debug
      ("Found venv " ++ Text.quotedPath venv.directory.text ++ " with " ++ finder.name ++
        " at " ++ Text.quotedPath dir.text))
    pure (some (venv.foundBy finder.name))
  | none => pure none

theorem attempt_eq (dir : Path) (finder : Finder) :
    attempt site (dir, finder) =
      (look (fun files => finder.applies site files dir) >>= fun applies =>
        if applies then finder.find site dir >>= handOut dir finder else pure none) := rfl

theorem still_handOut (dir : Path) (finder : Finder) (found : Option Venv) :
    Still (handOut dir finder found) := by
  cases found with
  | none => exact .pure _
  | some venv => exact .bind (.report _) fun _ => .pure _

theorem value_handOut (dir : Path) (finder : Finder) (found : Option Venv) :
    (handOut dir finder found).value files = found.map fun venv => venv.foundBy finder.name := by
  cases found <;> rfl

theorem queries_foundBy (found : Option Venv) (finder : String) :
    queries (found.map fun venv => venv.foundBy finder) = queries found := by
  cases found <;> rfl

theorem through_attempt (visit : Path × Finder) : Through site.host (attempt site visit) := by
  rw [attempt_eq]
  refine .bind (.look _) fun applies => ?_
  split
  · exact .bind (Finder.through_find site _ _) fun found => (still_handOut _ _ found).through _
  · exact .pure _

theorem value_attempt (dir : Path) (finder : Finder) :
    (attempt site (dir, finder)).value files =
      if finder.applies site files dir then
        ((finder.find site dir).value files).map fun venv => venv.foundBy finder.name
      else none := by
  rw [attempt_eq, value_look_bind]
  split
  · rw [value_bind site.host _ _ fun found => (still_handOut _ _ found).through _, value_handOut]
  · rfl

/-- What ends a walk: that it was in vain is reported. -/
def closeWalk (start : Path) : Option Venv → Search (Option Venv)
  | some venv => pure (some venv)
  | none => do
    Search.report (Log.Part.resolver.report .debug
      ("No venv found for " ++ Text.quotedPath start.text))
    pure none

theorem walk_eq (start : Path) (finders : List Finder) :
    walk site start finders =
      if finders.isEmpty then pure none
      else
        look (fun files => absolutize files site.workingDirectory start) >>= fun top =>
          firstSome (attempt site) (visits top.ancestors finders) >>= closeWalk top := rfl

theorem still_closeWalk (start : Path) (found : Option Venv) : Still (closeWalk start found) := by
  cases found with
  | none => exact .bind (.report _) fun _ => .pure _
  | some venv => exact .pure _

theorem value_closeWalk (start : Path) (found : Option Venv) :
    (closeWalk start found).value files = found := by
  cases found <;> rfl

theorem through_walk (start : Path) (finders : List Finder) :
    Through site.host (walk site start finders) := by
  rw [walk_eq]
  split
  · exact .pure _
  · refine .bind (.look _) fun top => .bind (through_firstSome (through_attempt site) _) ?_
    exact fun found => (still_closeWalk top found).through _

theorem visits_nil (dirs : List Path) : visits dirs [] = [] := by
  cases dirs with
  | nil => rfl
  | cons first above => simp [visits]

theorem value_walk (start : Path) (finders : List Finder) :
    (walk site start finders).value files =
      (firstSome (attempt site)
        (visits (absolutize files site.workingDirectory start).ancestors finders)).value files := by
  rw [walk_eq]
  split
  · rename_i hempty
    rw [List.isEmpty_iff.mp hempty, visits_nil]
    rfl
  · rw [value_look_bind, value_bind site.host _ _ fun found => (still_closeWalk _ found).through _,
      value_closeWalk]

theorem ran_walk (start : Path) (finders : List Finder) :
    (walk site start finders).ran files =
      (firstSome (attempt site)
        (visits (absolutize files site.workingDirectory start).ancestors finders)).ran files := by
  rw [walk_eq]
  split
  · rename_i hempty
    rw [List.isEmpty_iff.mp hempty, visits_nil]
    rfl
  · rw [ran_look_bind, ran_bind_still _ _ fun found => still_closeWalk _ found]

/-- What is made of the environment of an interpreter that is named outright. -/
def closeExplicit (python : String) : Option Venv → Search (Option Venv)
  | some venv => do
    Search.report (Log.Part.resolver.report .debug
      ("Using explicit interpreter " ++ Text.quoted python))
    pure (some (venv.foundBy explicitFinder))
  | none => do
    Search.report (Log.Part.resolver.report .debug
      ("Explicit interpreter " ++ Text.quoted python ++ " is not inside a venv"))
    pure none

theorem ofExplicit_eq (python : String) :
    ofExplicit site python = ofPythonAny site (.ofText python) >>= closeExplicit python := rfl

theorem still_closeExplicit (python : String) (found : Option Venv) :
    Still (closeExplicit python found) := by
  cases found with
  | none => exact .bind (.report _) fun _ => .pure _
  | some venv => exact .bind (.report _) fun _ => .pure _

theorem value_closeExplicit (python : String) (found : Option Venv) :
    (closeExplicit python found).value files =
      found.map fun venv => venv.foundBy explicitFinder := by
  cases found <;> rfl

theorem through_ofExplicit (python : String) : Through site.host (ofExplicit site python) := by
  rw [ofExplicit_eq]
  exact .bind (through_ofPythonAny site _) fun found => (still_closeExplicit python found).through _

theorem value_ofExplicit (python : String) :
    (ofExplicit site python).value files =
      ((ofPythonAny site (.ofText python)).value files).map
        fun venv => venv.foundBy explicitFinder := by
  rw [ofExplicit_eq, value_bind site.host _ _ fun found =>
    (still_closeExplicit python found).through _, value_closeExplicit]

theorem ran_ofExplicit (python : String) :
    (ofExplicit site python).ran files = queries ((ofExplicit site python).value files) := by
  rw [value_ofExplicit, queries_foundBy, ofExplicit_eq,
    ran_bind_still _ _ (still_closeExplicit python), ran_ofPythonAny]

variable {site} {explicit : Option String} (start : Path) (names : List String)

theorem resolve_of_named {python : String} (h : explicit.filter (· != "") = some python) :
    resolve site start names explicit =
      ofExplicit site (Text.trimmed python) >>= fun venv => pure ⟨venv, []⟩ := by
  rw [resolve, h]

theorem resolve_of_unnamed (h : explicit.filter (· != "") = none) :
    resolve site start names explicit =
      reportAll (((Finder.select names).unknown.map Warning.unknownFinder).map fun warning =>
        Log.Part.resolver.report .warn warning.message) >>= fun _ =>
      walk site start (Finder.select names).finders >>= fun venv =>
        pure ⟨venv, (Finder.select names).unknown.map Warning.unknownFinder⟩ := by
  rw [resolve, h]

theorem through_resolve (site : Site) (explicit : Option String) :
    Through site.host (resolve site start names explicit) := by
  cases h : explicit.filter (· != "") with
  | some python =>
      rw [resolve_of_named start names h]
      exact .bind (through_ofExplicit site _) fun _ => .pure _
  | none =>
      rw [resolve_of_unnamed start names h]
      exact .bind (.reportAll _) fun _ => .bind (through_walk site _ _) fun _ => .pure _

theorem venv_resolve_of_named {python : String} (h : explicit.filter (· != "") = some python) :
    ((resolve site start names explicit).value files).venv =
      (ofExplicit site (Text.trimmed python)).value files := by
  rw [resolve_of_named start names h, value_bind site.host _ _ fun _ => .pure _, value_pure]

theorem warnings_resolve_of_named {python : String} (h : explicit.filter (· != "") = some python) :
    ((resolve site start names explicit).value files).warnings = [] := by
  rw [resolve_of_named start names h, value_bind site.host _ _ fun _ => .pure _, value_pure]

theorem ran_resolve_of_named {python : String} (h : explicit.filter (· != "") = some python) :
    (resolve site start names explicit).ran files =
      (ofExplicit site (Text.trimmed python)).ran files := by
  rw [resolve_of_named start names h, ran_bind_still _ _ fun _ => .pure _]

theorem venv_resolve_of_unnamed (h : explicit.filter (· != "") = none) :
    ((resolve site start names explicit).value files).venv =
      (walk site start (Finder.select names).finders).value files := by
  have hwalk := through_walk site start (Finder.select names).finders
  rw [resolve_of_unnamed start names h,
    value_still_bind (.reportAll _) site.host fun _ => .bind hwalk fun _ => .pure _,
    value_bind site.host _ _ fun _ => .pure _, value_pure]

theorem warnings_resolve_of_unnamed (h : explicit.filter (· != "") = none) :
    ((resolve site start names explicit).value files).warnings =
      (Finder.select names).unknown.map Warning.unknownFinder := by
  have hwalk := through_walk site start (Finder.select names).finders
  rw [resolve_of_unnamed start names h,
    value_still_bind (.reportAll _) site.host fun _ => .bind hwalk fun _ => .pure _,
    value_bind site.host _ _ fun _ => .pure _, value_pure]

theorem ran_resolve_of_unnamed (h : explicit.filter (· != "") = none) :
    (resolve site start names explicit).ran files =
      (walk site start (Finder.select names).finders).ran files := by
  have hwalk := through_walk site start (Finder.select names).finders
  rw [resolve_of_unnamed start names h,
    ran_still_bind (.reportAll _) site.host fun _ => .bind hwalk fun _ => .pure _,
    ran_bind_still _ _ fun _ => .pure _]

end EnvScout.Resolution
