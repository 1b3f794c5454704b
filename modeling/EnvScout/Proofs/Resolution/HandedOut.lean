import EnvScout.Proofs.Resolution.Commands
import EnvScout.Proofs.Venv.Accuracy

/-!
Every environment that is handed out is accurate, whichever way it was come upon: constructed from a
directory, an interpreter or a configuration file, found by a finder, or given by a resolution. The
finder it is said to be found by is the one whose answer was the first.
-/

namespace EnvScout

open Search Venv

/-- The environments that are had without any finder. -/
inductive Venv.Constructed (site : Site) (world : World) : Venv → Prop where
  | ofDirectory {kind : VenvKind} {p : Path} {venv : Venv}
      (h : (ofDirectory site kind p world).1 = some venv) : Constructed site world venv
  | ofPython {kind : VenvKind} {python : Path} {venv : Venv}
      (h : (ofPython site kind python world).1 = some venv) : Constructed site world venv
  | ofPythonAny {python : Path} {venv : Venv}
      (h : (ofPythonAny site python world).1 = some venv) : Constructed site world venv
  | ofConfigFile {file : Path} {venv : Venv}
      (h : (ofConfigFile site file world).1 = some venv) : Constructed site world venv

theorem Venv.through_ofConfigFile (site : Site) (file : Path) :
    Through site.host (ofConfigFile site file) := by
  rw [ofConfigFile]
  split
  · exact .pure _
  · split
    · exact .pure _
    · exact through_ofDirectory site _ _

theorem Venv.Constructed.described {site : Site} {world : World} {venv : Venv}
    (h : Constructed site world venv) : Described site world.files venv := by
  cases h with
  | ofDirectory h =>
      rw [(through_ofDirectory site _ _).value_eq] at h
      exact ⟨_, _, h⟩
  | ofPython h =>
      rw [(through_ofPython site _ _).value_eq] at h
      exact described_of_ofPython h
  | ofPythonAny h =>
      rw [(through_ofPythonAny site _).value_eq] at h
      exact described_of_ofPythonAny h
  | ofConfigFile h =>
      rw [(through_ofConfigFile site _).value_eq] at h
      exact described_of_ofConfigFile h

namespace Resolution

/-- The ask that decides a search with this environment: an eligible one that has it for its answer,
where no eligible one before it has any. -/
structure Ask.Wins (site : Site) (files : FileSystem) (top : Path) (finders : List Finder)
    (venv : Venv) (ask : Ask) : Prop where
  eligible : ask.Eligible top finders
  answers : answer? site files ask = some venv
  first : ∀ other : Ask, other.Eligible top finders → other.Before ask →
    answer? site files other = none

variable {site : Site} {files : FileSystem} {venv : Venv}

/-- An answer is what the finder found, under the finder's name. -/
theorem eq_foundBy_of_answer? {ask : Ask} (h : answer? site files ask = some venv) :
    ∃ found, (ask.finder.find site ask.dir).value files = some found ∧
      venv = found.foundBy ask.finder.name := by
  rw [answer?] at h
  split at h
  · obtain ⟨found, hfound, hvenv⟩ := Option.map_eq_some_iff.mp h
    exact ⟨found, hfound, hvenv.symm⟩
  · cases h

theorem exists_wins_of_walk (hhost : site.host.LeavesFiles) {start : Path} {finders : List Finder}
    (h : (walk site start finders).value files = some venv) :
    ∃ ask : Ask,
      ask.Wins site files (absolutize files site.workingDirectory start) finders venv := by
  rw [value_walk] at h
  obtain ⟨ask, heligible, hanswer, hmissed⟩ := value_visits_eq_some_iff.mp h
  rw [filesAt_of_leavesFiles hhost] at hanswer
  refine ⟨ask, heligible, hanswer, fun other hother hbefore => ?_⟩
  have hother := hmissed other hother hbefore
  rw [filesAt_of_leavesFiles hhost] at hother
  exact hother

theorem accurate_of_wins (hfiles : files.WellNamed) (hhost : site.host.LeavesFiles) {top : Path}
    {finders : List Finder} {ask : Ask} (h : ask.Wins site files top finders venv) :
    Accurate site files venv ∧ venv.finderName = ask.finder.name := by
  obtain ⟨found, hfound, rfl⟩ := eq_foundBy_of_answer? h.answers
  exact ⟨(accurate_of_described hfiles (Finder.described_of_find hhost hfound)).foundBy _, rfl⟩

theorem accurate_of_ofExplicit (hfiles : files.WellNamed) {python : String}
    (h : (ofExplicit site python).value files = some venv) :
    Accurate site files venv ∧ venv.finderName = explicitFinder := by
  rw [value_ofExplicit] at h
  obtain ⟨found, hfound, rfl⟩ := Option.map_eq_some_iff.mp h
  exact ⟨(accurate_of_described hfiles (described_of_ofPythonAny hfound)).foundBy _, rfl⟩

/-- A directory comes to an environment just when it is a valid one, and every environment handed
out is accurate: one constructed, on any host, and one found by a finder or given by a resolution,
where the host's commands leave the files as they are. It goes by the name of the finder that won,
of the interpreter named outright, or by none. -/
theorem accurate_of_handed_out (site : Site) (world : World) :
    (∀ kind p, (ofDirectory site kind p world).1.isSome = true ↔
      ∃ dir, canonicalTilde world.files site p = .ok dir ∧
        world.files.isDirectory site.workingDirectory dir = true ∧
        world.files.isFile site.workingDirectory (pythonIn dir) = true ∧
        kind.hasMarker world.files site.workingDirectory dir = true) ∧
    (world.files.WellNamed →
      (∀ venv, Constructed site world venv →
        Accurate site world.files venv ∧ venv.finderName = "") ∧
      (site.host.LeavesFiles →
        (∀ (finder : Finder) dir venv, (finder.find site dir world).1 = some venv →
          Accurate site world.files venv ∧ venv.finderName = "") ∧
        (∀ start names explicit venv, (resolve site start names explicit world).1.venv = some venv →
          Accurate site world.files venv ∧
          (explicit.getD "" ≠ "" → venv.finderName = "explicit_python_path") ∧
          (explicit.getD "" = "" → ∃ ask : Ask,
            ask.Wins site world.files (absolutize world.files site.workingDirectory start)
              (Finder.select names).finders venv ∧
            venv.finderName = ask.finder.name)))) := by
  refine ⟨fun kind p => ?_, fun hfiles => ⟨fun venv hvenv => ?_, fun hhost =>
    ⟨fun finder dir venv hvenv => ?_, fun start names explicit venv hvenv => ?_⟩⟩⟩
  · rw [(through_ofDirectory site kind p).value_eq]
    exact isSome_ofDirectory_iff
  · exact ⟨accurate_of_described hfiles hvenv.described, finderName_of_described hvenv.described⟩
  · rw [(Finder.through_find site finder dir).value_eq] at hvenv
    have hdescribed := Finder.described_of_find hhost hvenv
    exact ⟨accurate_of_described hfiles hdescribed, finderName_of_described hdescribed⟩
  · rw [(through_resolve start names site explicit).value_eq] at hvenv
    cases hexplicit : explicit.filter (· != "") with
    | some python =>
        rw [venv_resolve_of_named _ start names hexplicit] at hvenv
        obtain ⟨haccurate, hname⟩ := accurate_of_ofExplicit hfiles hvenv
        refine ⟨haccurate, fun _ => hname, fun hunnamed => ?_⟩
        rw [(filter_eq_none_iff explicit).mpr hunnamed] at hexplicit
        cases hexplicit
    | none =>
        rw [venv_resolve_of_unnamed _ start names hexplicit] at hvenv
        obtain ⟨ask, hwins⟩ := exists_wins_of_walk hhost hvenv
        obtain ⟨haccurate, hname⟩ := accurate_of_wins hfiles hhost hwins
        refine ⟨haccurate, fun hnamed => ?_, fun _ => ⟨ask, hwins, hname⟩⟩
        exact absurd ((filter_eq_none_iff explicit).mp hexplicit) hnamed

theorem wellNamed_activatedElsewhere : activatedElsewhere.WellNamed := by
  have hvenv : bareVenv.WellNamed :=
    .cons (by decide) (.cons (by decide) (.file _ _) .nil)
      (.cons (by decide) (.file _ _) .nil)
  exact Node.WellNamed.cons (by decide) hvenv
    (.cons (by decide)
      (.cons (by decide) hvenv (.cons (by decide) .nil .nil))
      .nil)

/-- From a part of a project its own environment is handed out, by the name of the finder that knows
such environments. -/
theorem local_venv_accurate :
    ∃ venv, (resolve activatedSite ⟨"/project/part"⟩ ["local_dot_venv"] none
        (World.ofFiles activatedElsewhere)).1.venv = some venv ∧
      venv.directory = ⟨"/project/.venv"⟩ ∧ Accurate activatedSite activatedElsewhere venv ∧
      venv.finderName = "local_dot_venv" := by
  have hdirectory : ((resolve activatedSite ⟨"/project/part"⟩ ["local_dot_venv"] none
      (World.ofFiles activatedElsewhere)).1.venv).map Venv.directory = some ⟨"/project/.venv"⟩ := by
    decide +kernel
  obtain ⟨venv, hvenv, hdirectory⟩ := Option.map_eq_some_iff.mp hdirectory
  obtain ⟨-, hall⟩ := accurate_of_handed_out activatedSite (World.ofFiles activatedElsewhere)
  obtain ⟨-, hhanded⟩ := hall wellNamed_activatedElsewhere
  obtain ⟨-, hresolve⟩ := hhanded (Script.leavesFiles_host _)
  obtain ⟨haccurate, -, hwalk⟩ := hresolve _ _ _ venv hvenv
  obtain ⟨ask, hwins, hname⟩ := hwalk rfl
  refine ⟨venv, hvenv, hdirectory, haccurate, ?_⟩
  have hfinder : ask.finder ∈ [Finder.localDotVenv] := List.mem_of_getElem? hwins.eligible.2.1
  rw [hname, List.mem_singleton.mp hfinder]
  rfl

end Resolution

end EnvScout
