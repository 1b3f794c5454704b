import EnvScout.Config.InPlace
import EnvScout.Proofs.Search
import Mathlib.Tactic.Common

/-!
Applying the configured application to settings. Everything that can fail comes before the settings
are touched: the name, the script, the start of the command, its exit code and the report in what it
printed. So a failure leaves the settings as they were, and success has run one command and merged
the paths that it reported.
-/

namespace EnvScout

theorem Search.bind_apply {α β : Type} (s : Search α) (next : α → Search β) (world : World) :
    (s >>= next) world = next (s world).1 (s world).2 :=
  rfl

namespace Application

variable {site : Site} {application : Application} {binary : String} {world later : World}
  {files placed : FileSystem} {command : Command} {report : PathReport} {paths : List String}
  {failure : Failure}

/-- The command that makes an application run the script put in place for it. -/
def scriptCommand (site : Site) (application : Application) (binary : String) : Command :=
  application.command binary ((scriptDirectory site).child application.scriptName)

theorem program_scriptCommand (site : Site) (application : Application) (binary : String) :
    (scriptCommand site application binary).program = .ofText binary := by
  cases application <;> rfl

/-- Run with its script on these files, an application ends well and prints this report. -/
inductive Reports (site : Site) (application : Application) (binary : String) (files : FileSystem)
    (report : PathReport) : Prop
  | intro {placed : FileSystem} {output : Output}
      (hplaced : application.placeScript site files = .ok placed)
      (hrun : (site.host.run placed (scriptCommand site application binary) none).output =
        some output)
      (hexit : output.exitCode = 0)
      (hreport : application.readReport output.stdout = .ok report)

theorem judge_eq_ok_iff {output : Option Output} :
    application.judge command output = .ok report ↔ ∃ finished, output = some finished ∧
      finished.exitCode = 0 ∧ application.readReport finished.stdout = .ok report := by
  cases output with
  | none => simp [judge]
  | some finished =>
      rw [judge]
      split
      · rename_i hsuccess
        have hexit : finished.exitCode = 0 := by simpa [Output.success] using hsuccess
        simp [hexit]
      · rename_i hsuccess
        have hexit : finished.exitCode ≠ 0 := by simpa [Output.success] using hsuccess
        simp [hexit]

/-- Without a place for the script nothing is run. -/
theorem findPaths_of_unplaced (h : application.placeScript site world.files = .error failure) :
    application.findPaths site binary world = (.error failure, world) := by
  simp only [findPaths, Search.bind_apply, Search.look, h]
  rfl

/-- With the script in place the command is run, and its output decides. -/
theorem findPaths_of_placed (binary : String)
    (h : application.placeScript site world.files = .ok placed) :
    ∃ later, later.commands = world.commands ++ [scriptCommand site application binary] ∧
      application.findPaths site binary world =
        ((application.judge (scriptCommand site application binary)
          (site.host.run placed (scriptCommand site application binary) none).output).map
            PathReport.paths, later) := by
  simp only [findPaths, Search.bind_apply, Search.look, h]
  rw [← scriptCommand]
  simp only [Search.setFiles, Search.run]
  cases application.judge (scriptCommand site application binary)
      (site.host.run placed (scriptCommand site application binary) none).output with
  | error failure => exact ⟨_, rfl, rfl⟩
  | ok report => exact ⟨_, rfl, rfl⟩

theorem findPaths_of_reports (h : Reports site application binary world.files report) :
    ∃ later, later.commands = world.commands ++ [scriptCommand site application binary] ∧
      application.findPaths site binary world = (.ok report.paths, later) := by
  obtain ⟨hplaced, hrun, hexit, hreport⟩ := h
  obtain ⟨later, hcommands, hfound⟩ := findPaths_of_placed binary hplaced
  refine ⟨later, hcommands, ?_⟩
  rw [hfound, judge_eq_ok_iff.mpr ⟨_, hrun, hexit, hreport⟩]
  rfl

/-- Paths come of a report alone, and of the one command that it takes. -/
theorem reports_of_findPaths (h : application.findPaths site binary world = (.ok paths, later)) :
    ∃ report, Reports site application binary world.files report ∧ report.paths = paths ∧
      later.commands = world.commands ++ [scriptCommand site application binary] := by
  cases hplaced : application.placeScript site world.files with
  | error failure =>
      rw [findPaths_of_unplaced hplaced] at h
      cases h
  | ok placed =>
      obtain ⟨last, hcommands, hfound⟩ := findPaths_of_placed binary hplaced
      rw [hfound] at h
      cases hjudged : application.judge (scriptCommand site application binary)
          (site.host.run placed (scriptCommand site application binary) none).output with
      | error failure =>
          rw [hjudged] at h
          cases h
      | ok report =>
          rw [hjudged] at h
          cases h
          obtain ⟨output, hrun, hexit, hreport⟩ := judge_eq_ok_iff.mp hjudged
          exact ⟨report, ⟨hplaced, hrun, hexit, hreport⟩, rfl, hcommands⟩

/-- In place, the settings are first touched when the paths are there. -/
theorem run_applyInPlace (site : Site) (application : Application) (binary : String)
    (settings : Json) :
    (application.applyInPlace site binary).run settings = (do
      match ← application.findPaths site binary with
      | .error failure => pure (.error failure, settings)
      | .ok paths =>
        let merged ← Settings.injectReporting .prepend paths settings
        pure (.ok (), merged)) := by
  rw [applyInPlace, StateT.run_bind]
  simp only [liftM, monadLift, MonadLift.monadLift, StateT.run_lift, bind_assoc, pure_bind]
  congr 1
  funext found
  cases found with
  | error failure => rfl
  | ok paths => simp [Settings.injectInPlace]

theorem applyInPlace_of_error (settings : Json)
    (h : application.findPaths site binary world = (.error failure, later)) :
    (application.applyInPlace site binary).run settings world =
      ((.error failure, settings), later) := by
  rw [run_applyInPlace, Search.bind_apply, h]
  rfl

theorem applyInPlace_of_ok (settings : Json)
    (h : application.findPaths site binary world = (.ok paths, later)) :
    ∃ last : World, last.commands = later.commands ∧
      (application.applyInPlace site binary).run settings world =
        ((.ok (), Settings.inject .prepend paths settings), last) := by
  refine ⟨{ later with
    events := later.events ++ [Settings.injectReport .prepend paths settings] }, rfl, ?_⟩
  rw [run_applyInPlace, Search.bind_apply, h]
  rfl

theorem apply_eq_applyInPlace (site : Site) (application : Application) (binary : String)
    (settings : Json) :
    application.apply site binary settings = (do
      let (result, left) ← (application.applyInPlace site binary).run settings
      pure (result.map fun _ => left)) := by
  rw [run_applyInPlace, apply, bind_assoc]
  congr 1
  funext found
  cases found <;> rfl

end Application

namespace Config

open Application

variable {config : Config} {setting : ApplicationSetting} {application : Application}

theorem run_applyInPlace_of_none (site : Site) (settings : Json)
    (h : config.application = none) :
    (config.applyInPlace site).run settings = pure (.ok false, settings) := by
  rw [applyInPlace, h]
  rfl

theorem run_applyInPlace_of_unknown (site : Site) (settings : Json)
    (hsetting : config.application = some setting) (hname : ofName? setting.name = none) :
    (config.applyInPlace site).run settings =
      pure (.error (.unknownApplication setting.name), settings) := by
  rw [applyInPlace, hsetting]
  simp only [hname]
  rfl

theorem run_applyInPlace_of_known (site : Site) (settings : Json)
    (hsetting : config.application = some setting)
    (hname : ofName? setting.name = some application) :
    (config.applyInPlace site).run settings = (do
      let (result, left) ←
        (application.applyInPlace site (Text.trimmed setting.binary)).run settings
      pure (result.map fun _ => true, left)) := by
  rw [applyInPlace, hsetting]
  simp only [hname]
  rw [StateT.run_bind]
  congr 1
  funext ⟨result, left⟩
  cases result <;> rfl

/-- Whether settings are changed in place or given anew, the same comes of it. -/
theorem applyApplication_eq_applyInPlace (site : Site) (config : Config) (settings : Json) :
    config.applyApplication site settings = (do
      let (result, left) ← (config.applyInPlace site).run settings
      pure (result.map fun applied => (applied, left))) := by
  cases hsetting : config.application with
  | none =>
      rw [run_applyInPlace_of_none site settings hsetting, applyApplication, hsetting]
      rfl
  | some setting =>
      cases hname : ofName? setting.name with
      | none =>
          rw [run_applyInPlace_of_unknown site settings hsetting hname, applyApplication, hsetting]
          simp only [hname]
          rfl
      | some application =>
          rw [run_applyInPlace_of_known site settings hsetting hname, applyApplication, hsetting]
          simp only [hname, apply_eq_applyInPlace, bind_assoc]
          congr 1
          funext ⟨result, left⟩
          cases result <;> rfl

/-- What comes of applying a configuration: its result, the settings and the world afterwards. -/
inductive Applied (site : Site) (config : Config) (settings : Json) (world : World) :
    Except Failure Bool → Json → World → Prop
  | unconfigured (h : config.application = none) :
      Applied site config settings world (.ok false) settings world
  | failed {failure : Failure} {later : World} {setting : ApplicationSetting}
      (hsetting : config.application = some setting)
      (hunreported : ∀ application report, ofName? setting.name = some application →
        ¬Reports site application (Text.trimmed setting.binary) world.files report) :
      Applied site config settings world (.error failure) settings later
  | applied {setting : ApplicationSetting} {application : Application} {report : PathReport}
      {later : World} (hsetting : config.application = some setting)
      (hname : ofName? setting.name = some application)
      (hreport : Reports site application (Text.trimmed setting.binary) world.files report)
      (hcommands : later.commands =
        world.commands ++ [scriptCommand site application (Text.trimmed setting.binary)]) :
      Applied site config settings world (.ok true)
        (Settings.inject .prepend report.paths settings) later

theorem applied_applyInPlace (site : Site) (config : Config) (settings : Json) (world : World) :
    ∃ result left later, (config.applyInPlace site).run settings world = ((result, left), later) ∧
      Applied site config settings world result left later := by
  cases hsetting : config.application with
  | none =>
      rw [run_applyInPlace_of_none site settings hsetting]
      exact ⟨_, _, _, rfl, .unconfigured hsetting⟩
  | some setting =>
      cases hname : ofName? setting.name with
      | none =>
          rw [run_applyInPlace_of_unknown site settings hsetting hname]
          refine ⟨_, _, _, rfl, .failed hsetting fun application report hknown => ?_⟩
          rw [hname] at hknown
          cases hknown
      | some application =>
          rw [run_applyInPlace_of_known site settings hsetting hname, Search.bind_apply]
          -- Only what becomes of the run is left to decide; the settings come after it.
          rcases hfound : application.findPaths site (Text.trimmed setting.binary) world with
            ⟨failure | paths, later⟩
          · rw [applyInPlace_of_error settings hfound]
            refine ⟨_, _, _, rfl, .failed hsetting fun other report hother hreport => ?_⟩
            rw [hname] at hother
            cases hother
            obtain ⟨last, -, hpaths⟩ := findPaths_of_reports hreport
            rw [hfound] at hpaths
            cases hpaths
          · obtain ⟨last, hlast, hrun⟩ := applyInPlace_of_ok settings hfound
            obtain ⟨report, hreport, rfl, hcommands⟩ := reports_of_findPaths hfound
            rw [hrun]
            exact ⟨_, _, _, rfl, .applied hsetting hname hreport (hlast.trans hcommands)⟩

/-- A failure leaves the settings exactly as they were. Where there is no application, and only
there, the result is that none is applied: the settings stay and nothing is run. Where it is
applied, the one command run has its trimmed binary as the program, and the paths of the report,
merged in front of the extra paths, are all that has been done to the settings; and it is applied
wherever it can be run and reports. What is given anew to a caller is what is done in place. -/
theorem applyInPlace_all_or_nothing (site : Site) (config : Config) (settings : Json)
    (world : World) :
    ∃ result left later, (config.applyInPlace site).run settings world = ((result, left), later) ∧
      config.applyApplication site settings world =
        (result.map fun applied => (applied, left), later) ∧
      (∀ failure, result = .error failure → left = settings) ∧
      (result = .ok false ↔ config.application = none) ∧
      (result = .ok false → left = settings ∧ later.commands = world.commands) ∧
      (result = .ok true → ∃ setting application report,
        config.application = some setting ∧ ofName? setting.name = some application ∧
        Reports site application (Text.trimmed setting.binary) world.files report ∧
        later.commands =
          world.commands ++ [scriptCommand site application (Text.trimmed setting.binary)] ∧
        (scriptCommand site application (Text.trimmed setting.binary)).program =
          .ofText (Text.trimmed setting.binary) ∧
        left = Settings.inject .prepend report.paths settings) ∧
      ∀ setting application report, config.application = some setting →
        ofName? setting.name = some application →
        Reports site application (Text.trimmed setting.binary) world.files report →
        result = .ok true := by
  obtain ⟨result, left, later, hrun, happlied⟩ := applied_applyInPlace site config settings world
  have hanew : config.applyApplication site settings world =
      (result.map fun applied => (applied, left), later) := by
    rw [applyApplication_eq_applyInPlace, Search.bind_apply, hrun]
    rfl
  refine ⟨result, left, later, hrun, hanew, ?_⟩
  cases happlied with
  | unconfigured hnone =>
      refine ⟨nofun, iff_of_true rfl hnone, fun _ => ⟨rfl, rfl⟩, nofun, ?_⟩
      intro setting application report hsetting
      rw [hnone] at hsetting
      cases hsetting
  | failed hsetting hunreported =>
      refine ⟨fun _ _ => rfl, iff_of_false nofun ?_, nofun, nofun, ?_⟩
      · rw [hsetting]
        exact Option.some_ne_none _
      · intro other application report hother hname hreport
        rw [hsetting] at hother
        cases hother
        exact absurd hreport (hunreported application report hname)
  | @applied setting application report _ hsetting hname hreport hcommands =>
      refine ⟨nofun, iff_of_false nofun ?_, nofun, fun _ => ?_, fun _ _ _ _ _ _ => rfl⟩
      · rw [hsetting]
        exact Option.some_ne_none _
      · exact ⟨setting, application, report, hsetting, hname, hreport, hcommands,
          program_scriptCommand site application _, rfl⟩

end Config

end EnvScout
