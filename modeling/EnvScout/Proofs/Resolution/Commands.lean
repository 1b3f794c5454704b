import EnvScout.Proofs.Finder.Selection
import EnvScout.Proofs.Resolution.FirstHit

/-!
Which commands a resolution runs on a scripted host. Every ask up to the first with an answer runs
the command of its finder's tool, where the directory is marked for it and its program is at hand.
Conda is asked about an environment of its own only as that environment is handed out, so at most
once, and after everything else.
-/

namespace EnvScout

open Search

/-- The same site with a scripted outside. -/
def Site.scripted (site : Site) (script : Script) : Site :=
  { site with host := script.host }

@[simp] theorem Site.workingDirectory_scripted (site : Site) (script : Script) :
    (site.scripted script).workingDirectory = site.workingDirectory := rfl

theorem Site.leavesFiles_scripted (site : Site) (script : Script) :
    (site.scripted script).host.LeavesFiles :=
  script.leavesFiles_host

namespace Finder

theorem program_of_tool? {finder : Finder} {tool : Tool} (h : finder.tool? = some tool) :
    tool.program = finder.name := by
  cases finder <;> cases h <;> rfl

theorem eq_of_program {f g : Finder} {t u : Tool} (hf : f.tool? = some t) (hg : g.tool? = some u)
    (h : t.program = u.program) : f = g := by
  refine name_injective ?_
  rw [← program_of_tool? hf, h, program_of_tool? hg]

end Finder

namespace Resolution

variable (site : Site) (script : Script) (files : FileSystem)

/-- The asks in their order, up to and including the first that has an answer. -/
def asked (top : Path) (finders : List Finder) : List Ask :=
  upTo (fun ask => (answer? site files ask).isSome) (asks top finders)

/-- A tool run in a directory. -/
structure ToolRun where
  dir : Path
  tool : Tool

namespace ToolRun

/-- The command by the plain name of its program. -/
def command (run : ToolRun) : Command :=
  run.tool.command none

def line (run : ToolRun) : String :=
  run.command.line

/-- The directory, by what its path says, and the program that is run there. -/
def place (run : ToolRun) : List Path.Component × String :=
  (run.dir.components, run.tool.program)

end ToolRun

/-- What an ask runs of its own: the tool of its finder, where some marker of the tool is a file in
the directory and its program is at hand. -/
def toolRun? (cwd : List String) (ask : Ask) : Option ToolRun :=
  match ask.finder.tool? with
  | some tool =>
    if (tool.markers.any fun marker => files.isFile cwd (ask.dir.child marker)) ∧
        tool.program ∈ script.programs then some ⟨ask.dir, tool⟩
    else none
  | none => none

variable {script files}

theorem toolRun?_eq_some {cwd : List String} {ask : Ask} {run : ToolRun}
    (h : toolRun? script files cwd ask = some run) :
    run.dir = ask.dir ∧ ask.finder.tool? = some run.tool := by
  rw [toolRun?] at h
  split at h
  · rename_i tool htool
    split at h
    · cases h
      exact ⟨rfl, htool⟩
    · cases h
  · cases h

variable (script files)

theorem which_scripted (program : String) :
    (site.scripted script).host.which files program =
      if program ∈ script.programs then some (.ofText program) else none := rfl

theorem applies_scripted {finder : Finder} {tool : Tool} (h : finder.tool? = some tool)
    (dir : Path) :
    finder.applies (site.scripted script) files dir = true ↔
      (tool.markers.any fun marker => files.isFile site.workingDirectory (dir.child marker)) ∧
        tool.program ∈ script.programs := by
  rw [Finder.applies_of_tool? _ _ _ _ _ h, which_scripted, Bool.and_eq_true]
  refine and_congr Iff.rfl ?_
  by_cases hprogram : tool.program ∈ script.programs
  · simp [hprogram]
  · simp [hprogram]

theorem toolRun?_of_tool? {ask : Ask} {tool : Tool} (h : ask.finder.tool? = some tool) :
    toolRun? script files site.workingDirectory ask =
      if ask.finder.applies (site.scripted script) files ask.dir then some ⟨ask.dir, tool⟩
      else none := by
  rw [toolRun?, h]
  exact if_congr (applies_scripted site script files h ask.dir).symm rfl rfl

theorem toolRun?_of_no_tool {ask : Ask} (h : ask.finder.tool? = none) :
    toolRun? script files site.workingDirectory ask = none := by
  rw [toolRun?, h]

/-- An ask runs the command of its tool, and then what goes with its answer. -/
theorem ran_ask (ask : Ask) :
    (attempt (site.scripted script) ask.visit).ran files =
      ((toolRun? script files site.workingDirectory ask).map ToolRun.command).toList ++
        Venv.queries (answer? (site.scripted script) files ask) := by
  have hrun : (Finder.find (site.scripted script) ask.finder ask.dir >>=
      handOut ask.dir ask.finder).ran files =
        (ask.finder.tool?.map fun tool =>
          tool.command ((site.scripted script).host.which files tool.program)).toList ++
        Venv.queries (((ask.finder.find (site.scripted script) ask.dir).value files).map
          fun venv => venv.foundBy ask.finder.name) := by
    rw [ran_bind_still _ _ fun found => still_handOut _ _ found,
      Finder.ran_find _ _ _ _ (site.leavesFiles_scripted script), queries_foundBy]
  rw [Ask.visit, attempt_eq, ran_look_bind, answer?]
  cases htool : ask.finder.tool? with
  | none =>
      rw [htool] at hrun
      rw [toolRun?_of_no_tool site script files htool]
      split
      · exact hrun
      · rfl
  | some tool =>
      rw [htool] at hrun
      rw [toolRun?_of_tool? site script files htool]
      by_cases hruns : ask.finder.applies (site.scripted script) files ask.dir = true
      · have hprogram := ((applies_scripted site script files htool ask.dir).mp hruns).2
        rw [Option.map_some, which_scripted, if_pos hprogram] at hrun
        rw [if_pos hruns, if_pos hruns, if_pos hruns, hrun]
        rfl
      · rw [if_neg hruns, if_neg hruns, if_neg hruns]
        rfl

/-- What is run of tools about `top` and what is above it, in order. -/
def toolRuns (top : Path) (finders : List Finder) : List ToolRun :=
  (asked (site.scripted script) files top finders).filterMap
    (toolRun? script files site.workingDirectory)

theorem ran_visits (top : Path) (finders : List Finder) :
    (firstSome (attempt (site.scripted script)) (visits top.ancestors finders)).ran files =
      (toolRuns site script files top finders).map ToolRun.command ++
        Venv.queries ((firstSome (attempt (site.scripted script))
          (visits top.ancestors finders)).value files) := by
  have hvalue : ∀ ask : Ask, (attempt (site.scripted script) ask.visit).value files =
      answer? (site.scripted script) files ask := value_ask (site.scripted script) files
  have hran : ∀ ask : Ask, (attempt (site.scripted script) ask.visit).ran files =
      ((toolRun? script files site.workingDirectory ask).map ToolRun.command).toList ++
        Venv.queries ((attempt (site.scripted script) ask.visit).value files) := by
    intro ask
    rw [hvalue]
    exact ran_ask site script files ask
  rw [← map_visit_asks, firstSome_map, ran_firstSome (through_ask (site.scripted script))
    (site.leavesFiles_scripted script) files _ Venv.queries rfl hran]
  simp only [hvalue]
  rw [← List.filterMap_eq_flatMap_toList, toolRuns, List.map_filterMap]
  rfl

theorem venv_visits (top : Path) (finders : List Finder) :
    (firstSome (attempt (site.scripted script)) (visits top.ancestors finders)).value files =
      (asked (site.scripted script) files top finders).getLast?.bind
        (answer? (site.scripted script) files) := by
  rw [← map_visit_asks, firstSome_map,
    value_firstSome_eq_findSome? (through_ask (site.scripted script))
      (site.leavesFiles_scripted script), asked, getLast?_upTo_bind]
  simp only [value_ask]

variable {site script files} {top : Path} {finders : List Finder}

/-- Two asks, one before the other, do not run the same tool in the same directory. -/
theorem place_ne_of_before {cwd : List String} {a b : Ask} {run other : ToolRun}
    (hfinders : finders.Nodup) (ha : a.Eligible top finders) (hb : b.Eligible top finders)
    (hbefore : a.Before b) (hrun : toolRun? script files cwd a = some run)
    (hother : toolRun? script files cwd b = some other) : run.place ≠ other.place := by
  intro heq
  obtain ⟨hcomponents, hprogram⟩ := Prod.mk.inj heq
  obtain ⟨hdir_a, htool_a⟩ := toolRun?_eq_some hrun
  obtain ⟨hdir_b, htool_b⟩ := toolRun?_eq_some hother
  obtain ⟨hlevel_a, hfinder_a, -⟩ := ha
  obtain ⟨hlevel_b, hfinder_b, -⟩ := hb
  rw [hdir_a, hdir_b] at hcomponents
  have hlevel : a.level = b.level := Path.height_eq_of_components hlevel_a hlevel_b hcomponents
  have hposition : a.position = b.position := by
    obtain ⟨hlt, _⟩ := List.getElem?_eq_some_iff.mp hfinder_a
    refine (List.getElem?_inj hlt hfinders).mp ?_
    rw [hfinder_a, hfinder_b, Finder.eq_of_program htool_a htool_b hprogram]
  rcases hbefore with h | ⟨_, h⟩ <;> omega

/-- No tool is run twice in one directory. -/
theorem nodup_toolRuns (hfinders : finders.Nodup) (top : Path) :
    ((toolRuns site script files top finders).map ToolRun.place).Nodup := by
  rw [List.Nodup, List.pairwise_map, toolRuns, List.pairwise_filterMap]
  refine List.Pairwise.sublist (upTo_isPrefix _ _).sublist ?_
  refine (asks_pairwise top finders).imp_of_mem fun ha hb hbefore run hrun other hother => ?_
  exact place_ne_of_before hfinders (mem_asks.mp ha) (mem_asks.mp hb) hbefore hrun hother

theorem line_ne_conda {finder : Finder} {tool : Tool} (h : finder.tool? = some tool) :
    (tool.command none).line ≠ "conda info --json" := by
  cases finder <;> cases h <;> decide +kernel

theorem line_of_mem_toolRuns {run : ToolRun} (h : run ∈ toolRuns site script files top finders) :
    run.line ≠ "conda info --json" := by
  obtain ⟨ask, _, hrun⟩ := List.mem_filterMap.mp h
  exact line_ne_conda (toolRun?_eq_some hrun).2

theorem lines_queries (venv : Option Venv) :
    (Venv.queries venv).map Command.line =
      if venv.map Venv.kind = some .conda then ["conda info --json"] else [] := by
  cases venv with
  | none => rfl
  | some venv =>
      have hline : CondaInfo.command.line = "conda info --json" := by decide +kernel
      rw [Venv.queries]
      by_cases hkind : venv.kind = .conda
      · simp [hkind, hline]
      · simp [hkind]

theorem filter_eq_none_iff (explicit : Option String) :
    explicit.filter (· != "") = none ↔ explicit.getD "" = "" := by
  cases explicit with
  | none => exact iff_of_true rfl rfl
  | some python => simp

theorem ran_resolve (site : Site) (script : Script) (files : FileSystem) (start : Path)
    (names : List String) (explicit : Option String) :
    (resolve (site.scripted script) start names explicit).ran files =
      (if explicit.getD "" = "" then
        (toolRuns site script files (absolutize files site.workingDirectory start)
          (Finder.select names).finders).map ToolRun.command
      else []) ++
      Venv.queries ((resolve (site.scripted script) start names explicit).value files).venv := by
  cases h : explicit.filter (· != "") with
  | none =>
      rw [if_pos ((filter_eq_none_iff explicit).mp h), ran_resolve_of_unnamed files start names h,
        venv_resolve_of_unnamed files start names h, ran_walk, value_walk]
      exact ran_visits site script files _ _
  | some python =>
      have hnamed : explicit.getD "" ≠ "" := by
        rw [ne_eq, ← filter_eq_none_iff, h]
        exact Option.some_ne_none python
      rw [if_neg hnamed, ran_resolve_of_named files start names h,
        venv_resolve_of_named files start names h,
        ran_ofExplicit, List.nil_append]

/-- The command lines of a resolution on a scripted host: those of the tools run up to the first
answer, unless an interpreter is named outright, and then that of conda if the environment handed
out is conda's own. No tool is run twice in one directory, and none of their lines is that of
conda. -/
theorem resolve_commands (site : Site) (script : Script) (start : Path) (names : List String)
    (explicit : Option String) (world : World) :
    let top := absolutize world.files site.workingDirectory start
    let finders := (Finder.select names).finders
    let outcome := resolve (site.scripted script) start names explicit world
    let runs := toolRuns site script world.files top finders
    outcome.2.commands.map Command.line =
      world.commands.map Command.line ++
        (if explicit.getD "" = "" then runs.map ToolRun.line else []) ++
        (if outcome.1.venv.map Venv.kind = some .conda then ["conda info --json"] else []) ∧
    (explicit.getD "" = "" →
      outcome.1.venv = (asked (site.scripted script) world.files top finders).getLast?.bind
        (answer? (site.scripted script) world.files)) ∧
    (runs.map ToolRun.place).Nodup ∧
    ∀ run ∈ runs, run.line ≠ "conda info --json" := by
  intro top finders outcome runs
  have hthrough := through_resolve start names (site.scripted script) explicit
  have hvalue : outcome.1 =
      (resolve (site.scripted script) start names explicit).value world.files :=
    hthrough.value_eq world
  have hcommands : outcome.2.commands =
      world.commands ++ (resolve (site.scripted script) start names explicit).ran world.files :=
    hthrough.commands_eq world
  refine ⟨?_, ?_, nodup_toolRuns (Finder.nodup_select names) top,
    fun run hrun => line_of_mem_toolRuns hrun⟩
  · rw [hcommands, ran_resolve, ← hvalue, List.map_append, List.map_append, lines_queries,
      ← List.append_assoc]
    split
    · rw [List.map_map]
      rfl
    · rfl
  · intro hexplicit
    rw [hvalue, venv_resolve_of_unnamed world.files start names
      ((filter_eq_none_iff explicit).mpr hexplicit), value_walk]
    exact venv_visits site script world.files top finders

end Resolution

end EnvScout
