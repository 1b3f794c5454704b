import EnvScout.Proofs.Resolution.Order
import EnvScout.Proofs.Resolution.Walk

/-!
Which environment a search for a project gives: the answer to the first of the eligible asks that
has one, in their order. Each ask is about the files as those before it leave them, which on a host
whose commands leave the files alone are the files of the beginning.
-/

namespace EnvScout.Resolution

open Search

variable (site : Site) (top : Path) (finders : List Finder) (files : FileSystem)

/-- What an ask comes to: the environment found, under the name of the finder. -/
def answer? (ask : Ask) : Option Venv :=
  if ask.finder.applies site files ask.dir then
    ((ask.finder.find site ask.dir).value files).map fun venv => venv.foundBy ask.finder.name
  else none

/-- The files as the eligible asks before this one leave them. -/
def filesAt (ask : Ask) : FileSystem :=
  leavesAll (fun other => attempt site other.visit)
    ((asks top finders).filter fun other => other.Before ask) files

theorem through_ask (ask : Ask) : Through site.host (attempt site ask.visit) :=
  through_attempt site ask.visit

theorem value_ask (ask : Ask) : (attempt site ask.visit).value files = answer? site files ask :=
  value_attempt site files ask.dir ask.finder

variable {site top finders files}

theorem filesAt_eq {before after : List Ask} {ask : Ask}
    (hsplit : asks top finders = before ++ ask :: after) :
    filesAt site top finders files ask =
      leavesAll (fun other => attempt site other.visit) before files := by
  rw [filesAt, filter_before hsplit]

/-- The search through the visits gives the first answer there is. -/
theorem value_visits_eq_some_iff {venv : Venv} :
    (firstSome (attempt site) (visits top.ancestors finders)).value files = some venv ↔
      ∃ ask : Ask, ask.Eligible top finders ∧
        answer? site (filesAt site top finders files ask) ask = some venv ∧
        ∀ other : Ask, other.Eligible top finders → other.Before ask →
          answer? site (filesAt site top finders files other) other = none := by
  rw [← map_visit_asks, firstSome_map,
    value_firstSome_eq_some_iff (through_ask site)]
  constructor
  · rintro ⟨before, ask, after, hsplit, hfound, hmissed⟩
    have hmem : ask ∈ asks top finders := by
      rw [hsplit]
      exact List.mem_append_cons_self
    refine ⟨ask, mem_asks.mp hmem, ?_, ?_⟩
    · rw [filesAt_eq hsplit, ← value_ask]
      exact hfound
    · intro other heligible hbefore
      have hother := (mem_before_iff hsplit).mpr ⟨heligible, hbefore⟩
      obtain ⟨earlier, later, rfl⟩ := List.append_of_mem hother
      rw [List.append_assoc, List.cons_append] at hsplit
      rw [filesAt_eq hsplit, ← value_ask]
      exact hmissed earlier other later rfl
  · rintro ⟨ask, heligible, hanswer, hmissed⟩
    obtain ⟨before, after, hsplit⟩ := List.append_of_mem (mem_asks.mpr heligible)
    refine ⟨before, ask, after, hsplit, ?_, ?_⟩
    · rw [value_ask, ← filesAt_eq hsplit]
      exact hanswer
    · rintro earlier missed later rfl
      obtain ⟨heligible, hbefore⟩ := (mem_before_iff hsplit).mp List.mem_append_cons_self
      rw [List.append_assoc, List.cons_append] at hsplit
      rw [value_ask, ← filesAt_eq hsplit]
      exact hmissed missed heligible hbefore

/-- It is in vain when no ask has an answer. -/
theorem value_visits_eq_none_iff :
    (firstSome (attempt site) (visits top.ancestors finders)).value files = none ↔
      ∀ ask : Ask, ask.Eligible top finders →
        answer? site (filesAt site top finders files ask) ask = none := by
  rw [← map_visit_asks, firstSome_map,
    value_firstSome_eq_none_iff (through_ask site)]
  constructor
  · intro hall ask heligible
    obtain ⟨before, after, hsplit⟩ := List.append_of_mem (mem_asks.mpr heligible)
    rw [filesAt_eq hsplit, ← value_ask]
    exact hall before ask after hsplit
  · intro hall before missed after hsplit
    have hmem : missed ∈ asks top finders := by
      rw [hsplit]
      exact List.mem_append_cons_self
    rw [value_ask, ← filesAt_eq hsplit]
    exact hall missed (mem_asks.mp hmem)

/-- On a host whose commands change no files every ask is about the files of the beginning. -/
theorem filesAt_of_leavesFiles (hhost : site.host.LeavesFiles) (ask : Ask) :
    filesAt site top finders files ask = files :=
  leavesAll_eq (through_ask site) hhost _ files

/-- Without an interpreter that is named outright, what is found is the answer to the first of the
eligible asks that has one; nothing is found when none has one. -/
theorem resolve_finds_first_answer (site : Site) (start : Path) (names : List String)
    (explicit : Option String) (world : World) (hexplicit : explicit = none ∨ explicit = some "") :
    let top := absolutize world.files site.workingDirectory start
    let finders := (Finder.select names).finders
    let found := (resolve site start names explicit world).1.venv
    (∀ venv, found = some venv ↔
      ∃ ask : Ask, ask.Eligible top finders ∧
        answer? site (filesAt site top finders world.files ask) ask = some venv ∧
        ∀ other : Ask, other.Eligible top finders → other.Before ask →
          answer? site (filesAt site top finders world.files other) other = none) ∧
    (found = none ↔
      ∀ ask : Ask, ask.Eligible top finders →
        answer? site (filesAt site top finders world.files ask) ask = none) ∧
    (site.host.LeavesFiles → ∀ ask, filesAt site top finders world.files ask = world.files) := by
  intro top finders found
  have hnone : explicit.filter (· != "") = none := by
    rcases hexplicit with rfl | rfl <;> rfl
  have hfound : found =
      (firstSome (attempt site) (visits top.ancestors finders)).value world.files := by
    calc found = ((resolve site start names explicit).value world.files).venv := by
          rw [← (through_resolve start names site explicit).value_eq]
      _ = (walk site start finders).value world.files := venv_resolve_of_unnamed _ start names hnone
      _ = (firstSome (attempt site) (visits top.ancestors finders)).value world.files :=
          value_walk site world.files start finders
  rw [hfound]
  exact ⟨fun venv => value_visits_eq_some_iff, value_visits_eq_none_iff, filesAt_of_leavesFiles⟩

/-- A directory that is a valid environment. -/
def bareVenv : Node :=
  .directory [("bin", .directory [("python", .file ⟨#[]⟩ false)]),
    ("pyvenv.cfg", .file ⟨#[]⟩ false)]

/-- A project with an environment in it, and an environment elsewhere that is activated. -/
def activatedElsewhere : FileSystem :=
  ⟨.directory [("active", bareVenv),
    ("project", .directory [(".venv", bareVenv), ("part", .directory [])])], []⟩

def activatedSite : Site where
  host := Script.host ⟨[("VIRTUAL_ENV", "/active")], [], [], []⟩
  home := some ⟨"/"⟩
  workingDirectory := []
  temporaryDirectory := ⟨"/tmp"⟩
  temporaryMark := ""

/-- In a part of the project the activated environment is nearer than the one of the project, though
its finder comes second. -/
theorem activated_found_first :
    ∃ venv, (resolve activatedSite ⟨"/project/part"⟩ ["local_dot_venv", "env_var_virtual_env"]
        (some "") (World.ofFiles activatedElsewhere)).1.venv = some venv ∧
      venv.directory = ⟨"/active"⟩ ∧ venv.finderName = "env_var_virtual_env" := by
  have hhost : activatedSite.host.LeavesFiles := Script.leavesFiles_host _
  have htop : absolutize (World.ofFiles activatedElsewhere).files activatedSite.workingDirectory
      ⟨"/project/part"⟩ = ⟨"/project/part"⟩ := by
    decide +kernel
  have hfinders : (Finder.select ["local_dot_venv", "env_var_virtual_env"]).finders =
      [.localDotVenv, .virtualEnv] := by
    decide +kernel
  have hvenv : (answer? activatedSite activatedElsewhere ⟨0, 1, ⟨"/project/part"⟩, .virtualEnv⟩).map
      (fun venv => (venv.directory, venv.finderName)) =
        some (⟨"/active"⟩, "env_var_virtual_env") := by
    decide +kernel
  have hmissed : answer? activatedSite activatedElsewhere
      ⟨0, 0, ⟨"/project/part"⟩, .localDotVenv⟩ = none := by
    rw [← Option.isNone_iff_eq_none]
    decide +kernel
  obtain ⟨venv, hanswer, hparts⟩ := Option.map_eq_some_iff.mp hvenv
  obtain ⟨hsome, -, hfiles⟩ := resolve_finds_first_answer activatedSite ⟨"/project/part"⟩
    ["local_dot_venv", "env_var_virtual_env"] (some "") (World.ofFiles activatedElsewhere)
    (Or.inr rfl)
  rw [htop, hfinders] at hfiles
  rw [htop, hfinders] at hsome
  refine ⟨venv, (hsome venv).mpr ⟨⟨0, 1, ⟨"/project/part"⟩, .virtualEnv⟩, ?_, ?_, ?_⟩,
    congrArg Prod.fst hparts, congrArg Prod.snd hparts⟩
  · exact ⟨rfl, rfl, Or.inl rfl⟩
  · rw [hfiles hhost]
    exact hanswer
  · rintro ⟨level, position, dir, finder⟩ ⟨hdir, hfinder, -⟩ hbefore
    obtain ⟨rfl, rfl⟩ : level = 0 ∧ position = 0 := by
      simpa [Ask.Before] using hbefore
    rw [hfiles hhost]
    cases hdir
    cases hfinder
    exact hmissed

end EnvScout.Resolution
