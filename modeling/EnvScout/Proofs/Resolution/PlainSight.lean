import EnvScout.Proofs.Finder.Selection
import EnvScout.Proofs.Finder.Subdirectories
import EnvScout.Proofs.Resolution.FirstHit

/-!
What a search in vain says. Where the scan of subdirectories is among the finders, it has been asked
about every directory up to the root, so none of these has an environment in plain sight, except one
that may not be listed.
-/

namespace EnvScout.Resolution

open Search Venv

/-- Where no interpreter is named outright and the scan of subdirectories is among the finders, a
search in vain has missed nothing that it could list: wherever a directory from the first one up to
the root has an environment in plain sight, listing the directory is refused. On a host whose
commands change the files, that holds of the files as they were when the directory was scanned. -/
theorem refused_of_resolve_eq_none (site : Site) (world : World) (start : Path)
    (names : List String) (explicit : Option String) (hnames : "any_subdirectory" ∈ names)
    (hexplicit : explicit = none ∨ explicit = some "")
    (hnone : (resolve site start names explicit world).1.venv = none) :
    let top := absolutize world.files site.workingDirectory start
    let finders := (Finder.select names).finders
    (site.host.LeavesFiles → ∀ dir ∈ top.ancestors, SightRefused site world.files dir) ∧
    (top.isAbsolute = true → ∀ level dir, top.ancestor? level = some dir →
      ∀ position, finders[position]? = some .anySubdirectory → SightRefused site
        (filesAt site top finders world.files ⟨level, position, dir, .anySubdirectory⟩) dir) := by
  intro top finders
  have hfilter : explicit.filter (· != "") = none := by
    rcases hexplicit with rfl | rfl <;> rfl
  have hvain : ∀ ask : Ask, ask.Eligible top finders →
      answer? site (filesAt site top finders world.files ask) ask = none := by
    rw [← value_visits_eq_none_iff, ← value_walk, ← venv_resolve_of_unnamed _ start names hfilter,
      ← (through_resolve start names site explicit).value_eq]
    exact hnone
  have hfind : ∀ level dir, top.ancestor? level = some dir →
      ∀ position, finders[position]? = some .anySubdirectory →
      (Finder.anySubdirectory.find site dir).value
        (filesAt site top finders world.files ⟨level, position, dir, .anySubdirectory⟩) = none := by
    intro level dir hdir position hposition
    have hanswer := hvain ⟨level, position, dir, .anySubdirectory⟩ ⟨hdir, hposition, Or.inr rfl⟩
    rw [answer?] at hanswer
    exact Option.map_eq_none_iff.mp hanswer
  have hasked : .anySubdirectory ∈ finders := Finder.mem_select.mpr hnames
  obtain ⟨position, hposition⟩ := List.mem_iff_getElem?.mp hasked
  refine ⟨fun hhost dir hmem => ?_, fun htop level dir hdir position hposition =>
    Finder.sightRefused_of_find (Path.isAbsolute_of_ancestor? htop hdir)
      (hfind level dir hdir position hposition)⟩
  obtain ⟨level, hdir⟩ := List.mem_iff_getElem?.mp hmem
  rw [Path.getElem?_ancestors] at hdir
  have hnone := hfind level dir hdir position hposition
  rw [filesAt_of_leavesFiles hhost] at hnone
  cases habsolute : dir.isAbsolute with
  | true => exact Finder.sightRefused_of_find habsolute hnone
  | false =>
      -- Only where the working directory is gone does the search start from a relative path.
      have hlost : world.files.isDirectory site.workingDirectory ⟨"."⟩ = false := by
        rw [Bool.eq_false_iff]
        intro hcwd
        have htop := isAbsolute_absolutize hcwd start
        rw [Path.isAbsolute_of_ancestor? htop hdir] at habsolute
        cases habsolute
      intro kind name hname hsight
      have hchild := Path.isAbsolute_child_of_relative habsolute hname.noSeparator
      have hdirectory := hsight.directory
      rw [FileSystem.isDirectory_of_lost hlost hchild] at hdirectory
      cases hdirectory

/-- A project with a directory that is no environment, as it has an interpreter but no marker. -/
def unmarkedVenv : FileSystem :=
  ⟨.directory [("project", .directory [("env", .directory [
    ("bin", .directory [("python", .file ⟨#[]⟩ true)])])])], []⟩

/-- From inside that directory nothing is found, and from there up to the root there is nothing. -/
theorem unmarked_venv_not_in_sight :
    (resolve activatedSite ⟨"/project/env/bin"⟩ ["any_subdirectory", "none", "any_subdirectory"]
        none (World.ofFiles unmarkedVenv)).1.venv = none ∧
      ∀ dir ∈ [⟨"/project/env/bin"⟩, ⟨"/project/env"⟩, ⟨"/project"⟩, (⟨"/"⟩ : Path)],
        ∀ kind name, Path.IsName name → ¬InSight activatedSite unmarkedVenv dir kind name := by
  have hnone : (resolve activatedSite ⟨"/project/env/bin"⟩
      ["any_subdirectory", "none", "any_subdirectory"] none
      (World.ofFiles unmarkedVenv)).1.venv = none := by
    rw [← Option.isNone_iff_eq_none]
    decide +kernel
  have hancestors : (absolutize unmarkedVenv activatedSite.workingDirectory
      ⟨"/project/env/bin"⟩).ancestors =
        [⟨"/project/env/bin"⟩, ⟨"/project/env"⟩, ⟨"/project"⟩, ⟨"/"⟩] := by
    decide +kernel
  obtain ⟨hrefused, -⟩ := refused_of_resolve_eq_none activatedSite
    (World.ofFiles unmarkedVenv) ⟨"/project/env/bin"⟩
    ["any_subdirectory", "none", "any_subdirectory"] none (by decide) (Or.inl rfl) hnone
  refine ⟨hnone, fun dir hdir kind name hname hsight => ?_⟩
  have hlisting :=
    hrefused (Script.leavesFiles_host _) dir (hancestors ▸ hdir) kind name hname hsight
  -- Each of the four directories can be listed.
  simp only [List.mem_cons, List.not_mem_nil, or_false] at hdir
  rcases hdir with rfl | rfl | rfl | rfl <;> cases hlisting

/-- A project that may be passed through but not listed, with an environment in it. -/
def unlistedProject : FileSystem :=
  ⟨.directory [("project", .directory [("env", .directory [
    ("bin", .directory [("python", .file ⟨#[]⟩ true)]), ("pyvenv.cfg", .file ⟨#[]⟩ false)])])],
    [(.read, ["project"])]⟩

/-- The environment is in plain sight, and the scan of subdirectories misses it. -/
theorem unlisted_project_missed :
    (resolve activatedSite ⟨"/project"⟩ ["any_subdirectory"] none
        (World.ofFiles unlistedProject)).1.venv = none ∧
      ⟨"/project"⟩ ∈ (absolutize unlistedProject activatedSite.workingDirectory
        ⟨"/project"⟩).ancestors ∧
      Path.IsName "env" ∧ InSight activatedSite unlistedProject ⟨"/project"⟩ .pep405 "env" := by
  refine ⟨?_, by decide +kernel, by decide, by decide +kernel, ⟨"/project/env"⟩, rfl,
    by decide +kernel⟩
  rw [← Option.isNone_iff_eq_none]
  decide +kernel

end EnvScout.Resolution
