import EnvScout.Proofs.Files.Landing
import EnvScout.Proofs.Finder.Finding
import EnvScout.Proofs.Text.Utf8

/-!
What an environment says of itself is true of the files it was described from: its directory is a
valid environment and in canonical form, and its configuration, version and prompt are those to be
had there. A directory comes to an environment just when it is a valid one, whatever its
configuration or conda has to say.
-/

namespace EnvScout

open Search

theorem Pyvenv.value_load (cwd : List String) (p : Path) (files : FileSystem) :
    (load cwd p).value files = ofFile files cwd p := by
  rw [load, value_look_bind, ofFile]
  cases files.readText cwd p <;> rfl

/-- What the output of conda says; a run that failed or printed nothing says nothing. -/
def CondaInfo.ofOutput : Option Output → Option CondaInfo
  | some output => if !output.success || output.stdout == "" then none else parse? output.stdout
  | none => none

theorem CondaInfo.value_query (host : Host) (files : FileSystem) :
    (query host).value files = ofOutput (host.run files command none).output := by
  have hread : ∀ output files, (readOutput output).value files = ofOutput output := by
    intro output files
    cases output with
    | none => rfl
    | some output =>
        rw [readOutput, ofOutput]
        split
        · rfl
        · rw [parse?]
          cases decode output.stdout <;> rfl
  rw [query_eq, value_bind host _ _ fun output => (still_readOutput output).through host, hread]
  rfl

namespace Venv

variable (site : Site) (files : FileSystem) (kind : VenvKind) (dir : Path)

/-- The configuration that an environment of this kind has in its directory. -/
def configIn : Option Pyvenv :=
  match kind with
  | .pep405 => some (Pyvenv.ofFile files site.workingDirectory (dir.child VenvKind.pep405.marker))
  | .conda => none

/-- The version that the configuration gives, or conda. -/
def versionIn : String :=
  match kind with
  | .pep405 => ((configIn site files .pep405 dir).bind Pyvenv.version?).getD ""
  | .conda => match CondaInfo.ofOutput (site.host.run files CondaInfo.command none).output with
    | some info => info.normalizedVersion
    | none => ""

/-- An environment whose every word is true of these files. -/
structure Accurate (venv : Venv) : Prop where
  valid : venv.isValid files site.workingDirectory = true
  absolute : venv.directory.isAbsolute = true
  canonical : files.canonical site.workingDirectory venv.directory = .ok venv.directory
  config : venv.config = configIn site files venv.kind venv.directory
  version : venv.pythonVersion = versionIn site files venv.kind venv.directory
  prompt : venv.prompt = "" → venv.directory = ⟨"/"⟩

theorem value_describe :
    (describe site kind dir).value files =
      match kind with
      | .pep405 =>
        ofConfig dir
          (Pyvenv.ofFile files site.workingDirectory (dir.child VenvKind.pep405.marker))
      | .conda =>
        ofCondaInfo dir
          (CondaInfo.ofOutput (site.host.run files CondaInfo.command none).output) := by
  cases kind with
  | pep405 =>
      rw [describe, value_bind site.host _ _ fun _ => .pure _, value_pure, Pyvenv.value_load]
  | conda =>
      rw [describe, value_bind site.host _ _ fun _ => .pure _, value_pure, CondaInfo.value_query]

theorem directory_describe : ((describe site kind dir).value files).directory = dir := by
  rw [value_describe]
  cases kind <;> rfl

theorem finderName_describe : ((describe site kind dir).value files).finderName = "" := by
  rw [value_describe]
  cases kind <;> rfl

theorem config_describe :
    ((describe site kind dir).value files).config = configIn site files kind dir := by
  rw [value_describe]
  cases kind <;> rfl

theorem version_describe :
    ((describe site kind dir).value files).pythonVersion = versionIn site files kind dir := by
  rw [value_describe]
  cases kind <;> rfl

variable {dir}

/-- A prompt is wanting only where the directory has no name to stand in for it. -/
theorem fileName_of_prompt_describe (h : ((describe site kind dir).value files).prompt = "") :
    dir.fileName?.getD "" = "" := by
  have hprompt : ∀ prompt, promptOr dir prompt = "" → dir.fileName?.getD "" = "" := by
    intro prompt hempty
    rw [promptOr] at hempty
    split at hempty
    · cases hname : dir.fileName? with
      | none => rfl
      | some name =>
          rw [hname] at hempty
          exact Text.Utf8.decoded_eq_empty_iff.mp hempty
    · contradiction
  rw [value_describe] at h
  cases kind <;> exact hprompt _ h

variable {site files kind} {p : Path} {venv : Venv}

theorem isVenv_iff :
    isVenv files site.workingDirectory kind dir = true ↔
      files.isDirectory site.workingDirectory dir = true ∧
      files.isFile site.workingDirectory (pythonIn dir) = true ∧
      kind.hasMarker files site.workingDirectory dir = true := by
  rw [isVenv, Bool.and_eq_true, Bool.and_eq_true, and_assoc]

/-- A path comes to an environment when it leads to a valid one, and then to what is said of it. -/
theorem ofDirectory_eq_some_iff :
    (ofDirectory site kind p).value files = some venv ↔
      ∃ dir, canonicalTilde files site p = .ok dir ∧
        isVenv files site.workingDirectory kind dir = true ∧
        (describe site kind dir).value files = venv := by
  rw [value_ofDirectory]
  cases canonicalTilde files site p with
  | error e => exact iff_of_false nofun (fun ⟨_, h, _⟩ => nomatch h)
  | ok dir =>
      rw [Except.toOption, value_ofPlace_some]
      constructor
      · intro h
        split at h
        · rename_i hvalid
          exact ⟨dir, rfl, hvalid, Option.some.inj h⟩
        · cases h
      · rintro ⟨_, ⟨⟩, hvalid, hvenv⟩
        rw [if_pos hvalid, hvenv]

theorem ofDirectory_eq_none_iff :
    (ofDirectory site kind p).value files = none ↔
      ∀ dir, canonicalTilde files site p = .ok dir →
        isVenv files site.workingDirectory kind dir = false := by
  rw [Option.eq_none_iff_forall_ne_some]
  constructor
  · intro hnone dir hdir
    by_contra hvalid
    rw [Bool.not_eq_false] at hvalid
    exact hnone _ (ofDirectory_eq_some_iff.mpr ⟨dir, hdir, hvalid, rfl⟩)
  · intro hall venv hvenv
    obtain ⟨dir, hdir, hvalid, -⟩ := ofDirectory_eq_some_iff.mp hvenv
    rw [hall dir hdir] at hvalid
    cases hvalid

/-- A path comes to an environment just when it leads to a directory with an interpreter and the
marker of the kind. -/
theorem isSome_ofDirectory_iff :
    ((ofDirectory site kind p).value files).isSome = true ↔
      ∃ dir, canonicalTilde files site p = .ok dir ∧
        files.isDirectory site.workingDirectory dir = true ∧
        files.isFile site.workingDirectory (pythonIn dir) = true ∧
        kind.hasMarker files site.workingDirectory dir = true := by
  rw [Option.isSome_iff_exists]
  constructor
  · rintro ⟨venv, h⟩
    obtain ⟨dir, hdir, hvalid, -⟩ := ofDirectory_eq_some_iff.mp h
    exact ⟨dir, hdir, isVenv_iff.mp hvalid⟩
  · rintro ⟨dir, hdir, hvalid⟩
    exact ⟨_, ofDirectory_eq_some_iff.mpr ⟨dir, hdir, isVenv_iff.mpr hvalid, rfl⟩⟩

theorem finderName_of_described (h : Described site files venv) : venv.finderName = "" := by
  obtain ⟨kind, p, hvenv⟩ := h
  obtain ⟨dir, -, -, rfl⟩ := ofDirectory_eq_some_iff.mp hvenv
  exact finderName_describe site files kind dir

theorem isValid_of_described (h : Described site files venv) :
    venv.isValid files site.workingDirectory = true := by
  obtain ⟨kind, p, hvenv⟩ := h
  obtain ⟨dir, -, hvalid, rfl⟩ := ofDirectory_eq_some_iff.mp hvenv
  rw [isValid, kind_describe, directory_describe, hvalid]

theorem isFile_python_of_described (h : Described site files venv) :
    files.isFile site.workingDirectory venv.python = true := by
  have hvalid := isValid_of_described h
  rw [isValid, isVenv_iff] at hvalid
  exact hvalid.2.1

theorem accurate_of_described (hfiles : files.WellNamed) (h : Described site files venv) :
    Accurate site files venv := by
  have hvalid := isValid_of_described h
  obtain ⟨kind, p, hvenv⟩ := h
  obtain ⟨dir, hdir, -, rfl⟩ := ofDirectory_eq_some_iff.mp hvenv
  have hkind := kind_describe site kind dir files
  have hplace := directory_describe site files kind dir
  exact {
    valid := hvalid
    absolute := by rw [hplace, FileSystem.isAbsolute_of_canonical hdir]
    canonical := by rw [hplace, FileSystem.canonical_of_canonical hfiles hdir]
    config := by rw [hkind, hplace, config_describe]
    version := by rw [hkind, hplace, version_describe]
    prompt := fun hprompt => by
      rw [hplace]
      exact FileSystem.eq_root_of_canonical hfiles hdir
        (fileName_of_prompt_describe site files kind hprompt) }

/-- Who found it says nothing about an environment. -/
theorem Accurate.foundBy (h : Accurate site files venv) (finder : String) :
    Accurate site files (venv.foundBy finder) :=
  ⟨h.valid, h.absolute, h.canonical, h.config, h.version, h.prompt⟩

end Venv

end EnvScout
