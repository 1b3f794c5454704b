import EnvScout.Proofs.Files.Contents
import EnvScout.Proofs.Resolution.Commands
import EnvScout.Proofs.Venv.Accuracy

/-!
What an environment says of itself never decides which one is chosen. Two runs of a resolution are
compared, on file systems that differ in the contents of files alone and on scripted hosts that
differ in what conda answers alone. Function by function they come to the same choice, so they go on
in the same way, and they run the same commands.
-/

namespace EnvScout

open Search Venv

/-- Which environment it is, apart from what it says of itself. -/
structure Venv.Identity where
  kind : VenvKind
  directory : Path
  finderName : String
  deriving DecidableEq

def Venv.identity (venv : Venv) : Identity :=
  ⟨venv.kind, venv.directory, venv.finderName⟩

/-- Scripted hosts that differ in nothing but what is replayed for conda. -/
structure Script.SameButForConda (script script' : Script) : Prop where
  environment : ∀ key, script.environment.lookup key = script'.environment.lookup key
  programs : ∀ program, program ∈ script.programs ↔ program ∈ script'.programs
  answers : ∀ c : Command, c.program ≠ ⟨"conda"⟩ → c.line ≠ "conda info --json" →
    script.answer c = script'.answer c

namespace Venv

variable (site : Site) (files : FileSystem) (kind : VenvKind) (p : Path)

/-- Which environment a path comes to is told by the paths and markers alone. -/
theorem identity_ofDirectory :
    ((ofDirectory site kind p).value files).map identity =
      (canonicalTilde files site p).toOption.bind fun dir =>
        if isVenv files site.workingDirectory kind dir then some ⟨kind, dir, ""⟩ else none := by
  rw [value_ofDirectory]
  cases canonicalTilde files site p with
  | error e => rfl
  | ok dir =>
      rw [Except.toOption, value_ofPlace_some, Option.bind_some]
      split
      · rw [Option.map_some, identity, kind_describe, directory_describe, finderName_describe]
      · rfl

theorem queries_of_identity {found found' : Option Venv}
    (h : found.map identity = found'.map identity) : queries found = queries found' := by
  cases found with
  | none =>
      cases found' with
      | none => rfl
      | some venv' => cases h
  | some venv =>
      cases found' with
      | none => cases h
      | some venv' =>
          have hkind : venv.kind = venv'.kind := congrArg Identity.kind (Option.some.inj h)
          rw [queries, queries, hkind]

theorem identity_foundBy (found : Option Venv) (finder : String) :
    (found.map fun venv => venv.foundBy finder).map identity =
      (found.map identity).map fun identity => { identity with finderName := finder } := by
  cases found <;> rfl

theorem bind_same {α : Type} {f g : α → Option Venv}
    (h : ∀ item, (f item).map identity = (g item).map identity) (found : Option α) :
    (found.bind f).map identity = (found.bind g).map identity := by
  cases found with
  | none => rfl
  | some item => exact h item

theorem findSome?_same {α : Type} {f g : α → Option Venv}
    (h : ∀ item, (f item).map identity = (g item).map identity) (items : List α) :
    (items.findSome? f).map identity = (items.findSome? g).map identity := by
  rw [List.map_findSome?, List.map_findSome?]
  exact congrArg (fun result => items.findSome? result) (funext h)

end Venv

/-! What the finders need to know of the outside is the same on both hosts. -/

section Hosts

variable {site : Site} {script script' : Script}

namespace Finder

/-- By its place or not, the command of a tool is the same. -/
theorem command_scripted (files : FileSystem) (tool : Tool) :
    tool.command ((site.scripted script).host.which files tool.program) = tool.command none := by
  rw [Resolution.which_scripted]
  split <;> rfl

variable (hscripts : script.SameButForConda script')
include hscripts

theorem nonEmptyValue_same (key : String) :
    (site.scripted script).host.nonEmptyValue? key =
      (site.scripted script').host.nonEmptyValue? key := by
  rw [Host.nonEmptyValue?, Host.nonEmptyValue?]
  exact congrArg _ (hscripts.environment key)

variable (files files' : FileSystem)

theorem which_same (program : String) :
    (site.scripted script).host.which files program =
      (site.scripted script').host.which files' program := by
  rw [Resolution.which_scripted, Resolution.which_scripted]
  exact if_congr (hscripts.programs program) rfl rfl

theorem output_same {finder : Finder} {tool : Tool} (h : finder.tool? = some tool) (dir : Path) :
    ((site.scripted script).host.run files
        (tool.command ((site.scripted script).host.which files tool.program)) (some dir)).output =
      ((site.scripted script').host.run files'
        (tool.command ((site.scripted script').host.which files' tool.program))
          (some dir)).output := by
  rw [command_scripted, command_scripted]
  refine hscripts.answers _ ?_ (Resolution.line_ne_conda h)
  cases finder <;> cases h <;> decide

end Finder

end Hosts

/-- What is warned of goes by the names alone. -/
theorem Resolution.warnings_same (site site' : Site) (files files' : FileSystem) (start : Path)
    (names : List String) (explicit : Option String) :
    ((resolve site start names explicit).value files).warnings =
      ((resolve site' start names explicit).value files').warnings := by
  cases hexplicit : explicit.filter (· != "") with
  | some python =>
      rw [warnings_resolve_of_named _ start names hexplicit,
        warnings_resolve_of_named _ start names hexplicit]
  | none =>
      rw [warnings_resolve_of_unnamed _ start names hexplicit,
        warnings_resolve_of_unnamed _ start names hexplicit]

/-! Function by function, both runs find the same. -/

section TwoRuns

variable {site : Site} {script script' : Script} {files files' : FileSystem}
variable (hfiles : files.Alike files')
include hfiles

theorem isVenv_eq (cwd : List String) (kind : VenvKind) (dir : Path) :
    isVenv files cwd kind dir = isVenv files' cwd kind dir := by
  rw [isVenv, isVenv, hfiles.isDirectory_eq, hfiles.isFile_eq]
  cases kind with
  | pep405 => rw [VenvKind.hasMarker, VenvKind.hasMarker, hfiles.isFile_eq]
  | conda => rw [VenvKind.hasMarker, VenvKind.hasMarker, hfiles.isDirectory_eq]

namespace Venv

theorem ofDirectory_same (kind : VenvKind) (p : Path) :
    ((ofDirectory (site.scripted script) kind p).value files).map identity =
      ((ofDirectory (site.scripted script') kind p).value files').map identity := by
  rw [identity_ofDirectory, identity_ofDirectory, hfiles.canonicalTilde_eq]
  simp only [isVenv_eq hfiles]
  rfl

theorem ofPython_same (kind : VenvKind) (python : Path) :
    ((ofPython (site.scripted script) kind python).value files).map identity =
      ((ofPython (site.scripted script') kind python).value files').map identity := by
  rw [ofPython, ofPython]
  split
  · rfl
  · exact ofDirectory_same hfiles kind _

theorem ofPythonAny_same (python : Path) :
    ((ofPythonAny (site.scripted script) python).value files).map identity =
      ((ofPythonAny (site.scripted script') python).value files').map identity := by
  rw [value_ofPythonAny, value_ofPythonAny, Option.map_or, Option.map_or,
    ofPython_same hfiles, ofPython_same hfiles]

end Venv

namespace Finder

theorem tryCandidate_same (kinds : List VenvKind) (dir : Path) :
    ((tryCandidate (site.scripted script) kinds dir).value files).map identity =
      ((tryCandidate (site.scripted script') kinds dir).value files').map identity := by
  rw [value_tryCandidate, value_tryCandidate, hfiles.isDirectory_eq,
    Site.workingDirectory_scripted, Site.workingDirectory_scripted]
  split
  · exact findSome?_same (fun kind => ofDirectory_same hfiles kind dir) kinds
  · rfl

theorem firstVenv_same (kinds : List VenvKind) (candidates : List Path) :
    ((firstVenv (site.scripted script) kinds candidates).value files).map identity =
      ((firstVenv (site.scripted script') kinds candidates).value files').map identity := by
  rw [value_firstVenv, value_firstVenv]
  exact findSome?_same (tryCandidate_same hfiles kinds) candidates

theorem subdirectories_same (dir : Path) :
    (listSubdirectories (site.scripted script) dir).value files =
      (listSubdirectories (site.scripted script') dir).value files' := by
  rw [value_listSubdirectories, value_listSubdirectories, hfiles.listing_eq]
  unfold subdirectories
  rw [hfiles.isDirectory_eq]
  rfl

theorem venvOfAnswer_same (form : AnswerForm) (place : Path) :
    ((venvOfAnswer (site.scripted script) form place).value files).map identity =
      ((venvOfAnswer (site.scripted script') form place).value files').map identity := by
  cases form with
  | interpreter => exact ofPython_same hfiles _ place
  | _ => exact ofDirectory_same hfiles _ place

theorem isMarked_same (tool : Tool) (cwd : List String) (dir : Path) :
    Tool.isMarked tool files cwd dir = Tool.isMarked tool files' cwd dir := by
  rw [Tool.isMarked, Tool.isMarked, hfiles.isFile_eq]

end Finder

variable (hscripts : script.SameButForConda script')
include hscripts

namespace Finder

theorem findByVariable_same (key : String) (kind : VenvKind) :
    ((findByVariable (site.scripted script) key kind).value files).map identity =
      ((findByVariable (site.scripted script') key kind).value files').map identity := by
  rw [findByVariable, findByVariable, nonEmptyValue_same hscripts]
  split
  · exact ofDirectory_same hfiles kind _
  · rfl

theorem findWithTool_same {finder : Finder} {tool : Tool} (h : finder.tool? = some tool)
    (dir : Path) :
    ((findWithTool (site.scripted script) finder tool dir).value files).map identity =
      ((findWithTool (site.scripted script') finder tool dir).value files').map identity := by
  rw [value_findWithTool _ _ _ _ _ (site.leavesFiles_scripted script),
    value_findWithTool _ _ _ _ _ (site.leavesFiles_scripted script'),
    output_same hscripts files files' h]
  exact bind_same (fun answer => venvOfAnswer_same hfiles _ _) _

/-- A finder finds the same environment in both runs. -/
theorem find_same (finder : Finder) (dir : Path) :
    ((finder.find (site.scripted script) dir).value files).map identity =
      ((finder.find (site.scripted script') dir).value files').map identity := by
  cases htool : finder.tool? with
  | some tool =>
      rw [find_of_tool? _ _ tool _ htool, find_of_tool? _ _ tool _ htool]
      exact findWithTool_same hfiles hscripts htool dir
  | none =>
      cases finder with
      | localDotVenv => exact firstVenv_same hfiles _ _
      | condaPrefix => exact findByVariable_same hfiles hscripts _ _
      | virtualEnv => exact findByVariable_same hfiles hscripts _ _
      | anySubdirectory =>
          rw [value_find_anySubdirectory, value_find_anySubdirectory, subdirectories_same hfiles]
          exact firstVenv_same hfiles _ _
      | _ => cases htool

theorem applies_same (finder : Finder) (dir : Path) :
    finder.applies (site.scripted script) files dir =
      finder.applies (site.scripted script') files' dir := by
  cases htool : finder.tool? with
  | some tool =>
      rw [applies_of_tool? _ _ tool _ _ htool, applies_of_tool? _ _ tool _ _ htool,
        isMarked_same hfiles, which_same hscripts files files']
      rfl
  | none =>
      cases finder with
      | localDotVenv => rfl
      | condaPrefix => exact congrArg Option.isSome (nonEmptyValue_same hscripts _)
      | virtualEnv => exact congrArg Option.isSome (nonEmptyValue_same hscripts _)
      | anySubdirectory => rfl
      | _ => cases htool

end Finder

namespace Resolution

theorem answer?_same (ask : Ask) :
    (answer? (site.scripted script) files ask).map identity =
      (answer? (site.scripted script') files' ask).map identity := by
  rw [answer?, answer?, Finder.applies_same hfiles hscripts]
  split
  · rw [identity_foundBy, identity_foundBy, Finder.find_same hfiles hscripts]
  · rfl

/-- Both runs ask the same until they have an answer. -/
theorem asked_same (top : Path) (finders : List Finder) :
    asked (site.scripted script) files top finders =
      asked (site.scripted script') files' top finders := by
  have hhit : ∀ ask, (answer? (site.scripted script) files ask).isSome =
      (answer? (site.scripted script') files' ask).isSome := by
    intro ask
    rw [← Option.isSome_map (f := identity), answer?_same hfiles hscripts, Option.isSome_map]
  unfold asked
  simp only [hhit]

theorem toolRuns_same (top : Path) (finders : List Finder) :
    toolRuns site script files top finders = toolRuns site script' files' top finders := by
  have hrun : ∀ ask, toolRun? script files site.workingDirectory ask =
      toolRun? script' files' site.workingDirectory ask := by
    intro ask
    unfold toolRun?
    rw [hfiles.isFile_eq]
    simp only [hscripts.programs]
  rw [toolRuns, toolRuns, asked_same hfiles hscripts]
  simp only [hrun]

theorem walk_same (start : Path) (finders : List Finder) :
    ((walk (site.scripted script) start finders).value files).map identity =
      ((walk (site.scripted script') start finders).value files').map identity := by
  rw [value_walk, value_walk, hfiles.absolutize_eq, Site.workingDirectory_scripted,
    Site.workingDirectory_scripted, venv_visits, venv_visits, asked_same hfiles hscripts]
  exact bind_same (answer?_same hfiles hscripts) _

theorem resolve_same (start : Path) (names : List String) (explicit : Option String) :
    ((resolve (site.scripted script) start names explicit).value files).venv.map identity =
      ((resolve (site.scripted script') start names explicit).value files').venv.map identity := by
  cases hexplicit : explicit.filter (· != "") with
  | some python =>
      rw [venv_resolve_of_named _ start names hexplicit,
        venv_resolve_of_named _ start names hexplicit, value_ofExplicit, value_ofExplicit,
        identity_foundBy, identity_foundBy, ofPythonAny_same hfiles]
  | none =>
      rw [venv_resolve_of_unnamed _ start names hexplicit,
        venv_resolve_of_unnamed _ start names hexplicit]
      exact walk_same hfiles hscripts start _

theorem ran_same (start : Path) (names : List String) (explicit : Option String) :
    (resolve (site.scripted script) start names explicit).ran files =
      (resolve (site.scripted script') start names explicit).ran files' := by
  rw [ran_resolve, ran_resolve, hfiles.absolutize_eq, toolRuns_same hfiles hscripts,
    queries_of_identity (resolve_same hfiles hscripts start names explicit)]

end Resolution

end TwoRuns

namespace Resolution

/-- Where two worlds differ in the contents of files alone, and two scripted hosts in what is
replayed for conda alone, a resolution chooses the same environment in both, warns of the same and
runs the same commands. -/
theorem choice_ignores_metadata (site : Site) {script script' : Script} (world world' : World)
    (start : Path) (names : List String) (explicit : Option String)
    (hfiles : world.files.Alike world'.files) (hscripts : script.SameButForConda script') :
    let outcome := resolve (site.scripted script) start names explicit world
    let outcome' := resolve (site.scripted script') start names explicit world'
    outcome.1.venv.map identity = outcome'.1.venv.map identity ∧
    outcome.1.warnings = outcome'.1.warnings ∧
    ∃ ran, outcome.2.commands = world.commands ++ ran ∧
      outcome'.2.commands = world'.commands ++ ran := by
  intro outcome outcome'
  have hthrough := through_resolve start names (site.scripted script) explicit
  have hthrough' := through_resolve start names (site.scripted script') explicit
  refine ⟨?_, ?_, _, hthrough.commands_eq world, ?_⟩
  · rw [show outcome.1 = _ from hthrough.value_eq world,
      show outcome'.1 = _ from hthrough'.value_eq world']
    exact resolve_same hfiles hscripts start names explicit
  · rw [show outcome.1 = _ from hthrough.value_eq world,
      show outcome'.1 = _ from hthrough'.value_eq world']
    exact warnings_same _ _ _ _ start names explicit
  · rw [ran_same hfiles hscripts]
    exact hthrough'.commands_eq world'

/-- An environment of conda's, with anything for its interpreter. -/
def condaFiles (interpreter : ByteArray) : FileSystem :=
  ⟨.directory [("conda", .directory [("bin", .directory [("python", .file interpreter false)]),
    ("conda-meta", .empty)])], []⟩

/-- A host where that environment is active, and conda may have an answer. -/
def condaScript (outputs : List (String × Output)) : Script :=
  ⟨[("CONDA_PREFIX", "/conda")], [], outputs, []⟩

theorem sameButForConda_condaScript (output : Output) :
    (condaScript []).SameButForConda (condaScript [("conda info --json", output)]) where
  environment _ := rfl
  programs _ := Iff.rfl
  answers c _ hline := by
    rw [Script.answer, Script.answer, condaScript, condaScript, lookup_cons_eq, if_neg hline]

/-- The active environment is chosen with no answer from conda, and with an answer that is no
report and another interpreter. -/
theorem conda_chosen_whatever_it_says :
    (resolve (activatedSite.scripted (condaScript [])) ⟨"/"⟩ ["env_var_conda_prefix"] none
        (World.ofFiles (condaFiles .empty))).1.venv.map identity =
      some ⟨.conda, ⟨"/conda"⟩, "env_var_conda_prefix"⟩ ∧
    (resolve (activatedSite.scripted (condaScript [("conda info --json", ⟨"no report", "", 0⟩)]))
        ⟨"/"⟩ ["env_var_conda_prefix"] none
        (World.ofFiles (condaFiles ⟨#[35, 33]⟩))).1.venv.map identity =
      some ⟨.conda, ⟨"/conda"⟩, "env_var_conda_prefix"⟩ := by
  have hfiles : (condaFiles .empty).Alike (condaFiles ⟨#[35, 33]⟩) :=
    ⟨.cons _ (.cons _ (.cons _ (.file _ _ _) .nil) (.cons _ .nil .nil)) .nil, fun _ _ => rfl⟩
  have hchosen : (resolve (activatedSite.scripted (condaScript [])) ⟨"/"⟩ ["env_var_conda_prefix"]
      none (World.ofFiles (condaFiles .empty))).1.venv.map identity =
        some ⟨.conda, ⟨"/conda"⟩, "env_var_conda_prefix"⟩ := by
    decide +kernel
  obtain ⟨hsame, -, -⟩ := choice_ignores_metadata activatedSite
    (World.ofFiles (condaFiles .empty)) (World.ofFiles (condaFiles ⟨#[35, 33]⟩)) ⟨"/"⟩
    ["env_var_conda_prefix"] none hfiles (sameButForConda_condaScript ⟨"no report", "", 0⟩)
  exact ⟨hchosen, hsame.symm.trans hchosen⟩

end Resolution

end EnvScout
