import EnvScout.Proofs.Resolution.FirstHit
import EnvScout.Proofs.Venv.Accuracy

/-!
An interpreter that is named outright. No finder is asked then, whatever project it is for, and the
environment is told by the directory two levels above the interpreter alone. Whether there is any
interpreter at the path that was named is not looked at.
-/

namespace EnvScout

open Search Venv

namespace Venv

variable {site : Site} {files : FileSystem} {python : Path}

theorem ofPython_eq_none_iff {kind : VenvKind} :
    (ofPython site kind python).value files = none ↔
      ∀ dir, directoryOfPython? python = some dir →
        ∀ resolved, canonicalTilde files site dir = .ok resolved →
          isVenv files site.workingDirectory kind resolved = false := by
  rw [ofPython]
  cases directoryOfPython? python with
  | none =>
      refine iff_of_true rfl fun dir hdir => ?_
      cases hdir
  | some dir =>
      dsimp only
      rw [ofDirectory_eq_none_iff]
      constructor
      · rintro hall _ ⟨⟩
        exact hall
      · exact fun hall => hall dir rfl

/-- An interpreter belongs to no environment when the directory two levels above it is none of
either kind. -/
theorem ofPythonAny_eq_none_iff :
    (ofPythonAny site python).value files = none ↔
      ∀ dir, directoryOfPython? python = some dir →
        ∀ resolved, canonicalTilde files site dir = .ok resolved →
          ∀ kind, isVenv files site.workingDirectory kind resolved = false := by
  rw [value_ofPythonAny, Option.or_eq_none_iff, ofPython_eq_none_iff, ofPython_eq_none_iff]
  constructor
  · rintro ⟨hpep405, hconda⟩ dir hdir resolved hresolved kind
    cases kind with
    | pep405 => exact hpep405 dir hdir resolved hresolved
    | conda => exact hconda dir hdir resolved hresolved
  · exact fun hall => ⟨fun dir hdir resolved hresolved => hall dir hdir resolved hresolved _,
      fun dir hdir resolved hresolved => hall dir hdir resolved hresolved _⟩

theorem python_foundBy (venv : Venv) (finder : String) :
    (venv.foundBy finder).python = venv.python := rfl

end Venv

namespace Resolution

variable {site : Site} {python : String}

theorem filter_of_named (hnamed : python ≠ "") :
    (some python).filter (· != "") = some python := by
  rw [Option.filter, if_pos (bne_iff_ne.mpr hnamed)]

/-- The project and the finders are not looked at when an interpreter is named. -/
theorem resolve_named_eq (hnamed : python ≠ "") (start start' : Path) (names names' : List String) :
    resolve site start names (some python) = resolve site start' names' (some python) := by
  rw [resolve_of_named start names (filter_of_named hnamed),
    resolve_of_named start' names' (filter_of_named hnamed)]

/-- With no file at the path that is named, the directory two levels above it still decides: there
is no environment just when that is none of either kind, and one that is found has an interpreter,
but not the one named. No finder is asked, nothing is warned of, and nothing is run but what goes
with the environment. -/
theorem missing_interpreter_resolved_by_directory (site : Site) (world : World) (start : Path)
    (names : List String) (python : String) (hnamed : python ≠ "")
    (hmissing : world.files.isFile site.workingDirectory
      (expandTilde site.home (.ofText (Text.trimmed python))) = false) :
    let outcome := resolve site start names (some python) world
    (outcome.1.venv = none ↔
      ∀ dir, directoryOfPython? (.ofText (Text.trimmed python)) = some dir →
        ∀ resolved, canonicalTilde world.files site dir = .ok resolved →
          ∀ kind, isVenv world.files site.workingDirectory kind resolved = false) ∧
    (∀ venv, outcome.1.venv = some venv →
      world.files.isFile site.workingDirectory venv.python = true ∧
      venv.python ≠ expandTilde site.home (.ofText (Text.trimmed python))) ∧
    outcome.1.warnings = [] ∧
    outcome.2.commands = world.commands ++ queries outcome.1.venv ∧
    ∀ start' names', resolve site start' names' (some python) world = outcome := by
  intro outcome
  have hfilter := filter_of_named hnamed
  have hthrough := through_resolve start names site (some python)
  have hresolution : outcome.1 = (resolve site start names (some python)).value world.files :=
    hthrough.value_eq world
  have hvenv : outcome.1.venv =
      ((ofPythonAny site (.ofText (Text.trimmed python))).value world.files).map
        fun venv => venv.foundBy explicitFinder := by
    rw [hresolution, venv_resolve_of_named _ start names hfilter, value_ofExplicit]
  refine ⟨?_, fun venv hfound => ?_, ?_, ?_, fun start' names' => ?_⟩
  · rw [hvenv, Option.map_eq_none_iff]
    exact ofPythonAny_eq_none_iff
  · rw [hvenv] at hfound
    obtain ⟨found, hof, rfl⟩ := Option.map_eq_some_iff.mp hfound
    have hpython := isFile_python_of_described (described_of_ofPythonAny hof)
    rw [python_foundBy]
    refine ⟨hpython, fun heq => ?_⟩
    rw [heq, hmissing] at hpython
    cases hpython
  · rw [hresolution, warnings_resolve_of_named _ start names hfilter]
  · rw [show outcome.2.commands = _ from hthrough.commands_eq world, hresolution,
      ran_resolve_of_named _ start names hfilter, venv_resolve_of_named _ start names hfilter,
      ran_ofExplicit]
  · exact congrFun (resolve_named_eq hnamed start' start names' names) world

/-- An interpreter that is not there, in a project that is no environment, gives none. -/
theorem missing_interpreter_of_project :
    (resolve activatedSite ⟨"/project"⟩ ["local_dot_venv"] (some " /project/bin/python ")
      (World.ofFiles activatedElsewhere)).1.venv = none := by
  have hdirectory : directoryOfPython? (.ofText (Text.trimmed " /project/bin/python ")) =
      some ⟨"/project"⟩ := by
    decide +kernel
  have hresolved : canonicalTilde activatedElsewhere activatedSite ⟨"/project"⟩ =
      .ok ⟨"/project"⟩ := by
    decide +kernel
  obtain ⟨hnone, -⟩ := missing_interpreter_resolved_by_directory activatedSite
    (World.ofFiles activatedElsewhere) ⟨"/project"⟩ ["local_dot_venv"] " /project/bin/python "
    (by decide) (by decide +kernel)
  refine hnone.mpr fun dir hdir resolved h kind => ?_
  rw [hdirectory] at hdir
  cases hdir
  rw [show canonicalTilde (World.ofFiles activatedElsewhere).files activatedSite ⟨"/project"⟩ = _
    from hresolved] at h
  cases h
  cases kind <;> decide +kernel

/-- An interpreter that is not there gives the environment it is said to be in all the same. -/
theorem missing_interpreter_not_refused :
    ¬∀ (site : Site) (world : World) (start : Path) (names : List String) (python : String),
      python ≠ "" →
      world.files.exists? site.workingDirectory
        (expandTilde site.home (.ofText (Text.trimmed python))) = false →
      (resolve site start names (some python) world).1.venv = none := by
  intro hrefused
  have hfound : (resolve activatedSite ⟨"/project"⟩ ["local_dot_venv"]
      (some "/active/bin/python9") (World.ofFiles activatedElsewhere)).1.venv.map Venv.directory =
        some ⟨"/active"⟩ := by
    decide +kernel
  rw [hrefused activatedSite (World.ofFiles activatedElsewhere) ⟨"/project"⟩ ["local_dot_venv"]
    "/active/bin/python9" (by decide) (by decide +kernel)] at hfound
  cases hfound

end Resolution

end EnvScout
