import EnvScout.Proofs.Finder.Selection
import EnvScout.Proofs.Resolution.FirstHit

/-!
Names of finders that make no difference: those of no finder, and those that have come before. The
search without them finds the same environment by the same commands, only that there is nothing to
warn of.
-/

namespace EnvScout.Resolution

open Search

/-- A list of names selects the finders named in it, each once and where it comes first, and its
other names are unknown, each as often as it comes. Where no interpreter is named outright, the
search by the cleaned list hands out the same environment and runs the same commands; the warnings
name the unknown ones in their order, and with the cleaned list there are none. -/
theorem resolve_cleaned (site : Site) (start : Path) (names : List String)
    (explicit : Option String) (world : World) (hexplicit : explicit = none ∨ explicit = some "") :
    let selection := Finder.select names
    let outcome := resolve site start names explicit world
    let again := resolve site start (Finder.cleaned names) explicit world
    selection.finders.Nodup ∧
    selection.finders.map Finder.name = Finder.cleaned names ∧
    selection.unknown = names.filter (· ∉ Finder.names) ∧
    again.1.venv = outcome.1.venv ∧
    again.2.commands = outcome.2.commands ∧
    outcome.1.warnings = (names.filter (· ∉ Finder.names)).map Warning.unknownFinder ∧
    again.1.warnings = [] := by
  intro selection outcome again
  have hfilter : explicit.filter (· != "") = none := by
    rcases hexplicit with rfl | rfl <;> rfl
  have hselect : Finder.select (Finder.cleaned names) = ⟨selection.finders, []⟩ :=
    Finder.select_cleaned names
  have hthrough : ∀ names, Through site.host (resolve site start names explicit) :=
    fun names => through_resolve start names site explicit
  refine ⟨Finder.nodup_select names, Finder.map_name_select names, Finder.unknown_select names,
    ?_, ?_, ?_, ?_⟩
  · rw [show again.1 = _ from (hthrough _).value_eq world,
      show outcome.1 = _ from (hthrough _).value_eq world,
      venv_resolve_of_unnamed _ start _ hfilter, venv_resolve_of_unnamed _ start _ hfilter, hselect]
  · rw [show again.2.commands = _ from (hthrough _).commands_eq world,
      show outcome.2.commands = _ from (hthrough _).commands_eq world,
      ran_resolve_of_unnamed _ start _ hfilter, ran_resolve_of_unnamed _ start _ hfilter, hselect]
  · rw [show outcome.1 = _ from (hthrough _).value_eq world,
      warnings_resolve_of_unnamed _ start _ hfilter, Finder.unknown_select]
  · rw [show again.1 = _ from (hthrough _).value_eq world,
      warnings_resolve_of_unnamed _ start _ hfilter, hselect]
    rfl

/-- Names of which two are of no finder and one comes twice. -/
def uncleanNames : List String :=
  ["uv", "local_dot_venv", "env_var_virtual_env", "local_dot_venv", "Poetry"]

/-- An activated environment is found by such names as by the two that count, and the other two are
warned of. -/
theorem activated_found_by_cleaned_names :
    ((resolve activatedSite ⟨"/project/part"⟩ uncleanNames (some "")
      (World.ofFiles activatedElsewhere)).1.venv.map Venv.directory = some ⟨"/active"⟩) ∧
    (resolve activatedSite ⟨"/project/part"⟩ ["local_dot_venv", "env_var_virtual_env"] (some "")
      (World.ofFiles activatedElsewhere)).1.venv =
        (resolve activatedSite ⟨"/project/part"⟩ uncleanNames (some "")
          (World.ofFiles activatedElsewhere)).1.venv ∧
    (resolve activatedSite ⟨"/project/part"⟩ uncleanNames (some "")
      (World.ofFiles activatedElsewhere)).1.warnings =
        [.unknownFinder "uv", .unknownFinder "Poetry"] := by
  have hcleaned : Finder.cleaned uncleanNames = ["local_dot_venv", "env_var_virtual_env"] := by
    decide +kernel
  have hunknown : uncleanNames.filter (· ∉ Finder.names) = ["uv", "Poetry"] := by
    decide +kernel
  obtain ⟨-, -, -, hvenv, -, hwarnings, -⟩ := resolve_cleaned activatedSite ⟨"/project/part"⟩
    uncleanNames (some "") (World.ofFiles activatedElsewhere) (Or.inr rfl)
  rw [hcleaned] at hvenv
  rw [hunknown] at hwarnings
  exact ⟨by decide +kernel, hvenv, hwarnings⟩

end EnvScout.Resolution
