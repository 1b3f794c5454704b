import EnvScout.Proofs.Path.Front
import EnvScout.Proofs.Venv.Interpreter

/-!
The environment a path comes to, by its directory alone: two paths come to the same description just
when they lead to the same directory. A path that is absolute once its tilde is expanded comes to
the same from every working directory. What counts of an interpreter is the path two steps above it;
where there are three steps, the last two are cut off whatever is written in front of them.
-/

namespace EnvScout

open Search

/-- The site with another working directory. -/
def Site.at (site : Site) (cwd : List String) : Site :=
  { site with workingDirectory := cwd }

namespace FileSystem

theorem canonical_of_isAbsolute {p : Path} (h : p.isAbsolute = true) (files : FileSystem)
    (cwd other : List String) : files.canonical cwd p = files.canonical other p := by
  rw [canonical, canonical, locate_of_isAbsolute h files cwd other]

theorem readText_of_isAbsolute {p : Path} (h : p.isAbsolute = true) (files : FileSystem)
    (cwd other : List String) : files.readText cwd p = files.readText other p := by
  rw [readText, readText, readBytes, readBytes, locate_of_isAbsolute h files cwd other]

end FileSystem

namespace Venv

variable (site : Site) (files : FileSystem) (kind : VenvKind) (p : Path)

/-- The directory of the environment that a path comes to. -/
def environmentAt? : Option Path :=
  (canonicalTilde files site p).toOption.filter fun dir =>
    isVenv files site.workingDirectory kind dir

theorem value_ofDirectory_eq_map :
    (ofDirectory site kind p).value files =
      (environmentAt? site files kind p).map fun dir => (describe site kind dir).value files := by
  rw [value_ofDirectory, environmentAt?]
  cases (canonicalTilde files site p).toOption with
  | none => rfl
  | some dir =>
      rw [value_ofPlace_some, Option.filter_some]
      split <;> rfl

/-- What is said of environments tells their directories apart. -/
theorem map_describe_injective :
    Function.Injective (Option.map fun dir => (describe site kind dir).value files) := by
  refine Option.map_injective fun dir other h => ?_
  rw [← directory_describe site files kind dir, ← directory_describe site files kind other]
  exact congrArg directory h

variable {site p}

theorem environmentAt?_congr {q : Path} (h : expandTilde site.home p = expandTilde site.home q) :
    environmentAt? site files kind p = environmentAt? site files kind q := by
  rw [environmentAt?, environmentAt?, canonicalTilde, canonicalTilde, h]

theorem environmentAt?_at (h : (expandTilde site.home p).isAbsolute = true) (cwd : List String) :
    environmentAt? (site.at cwd) files kind p = environmentAt? site files kind p := by
  have hcanonical : canonicalTilde files (site.at cwd) p = canonicalTilde files site p :=
    FileSystem.canonical_of_isAbsolute h files _ _
  rw [environmentAt?, environmentAt?, hcanonical]
  cases hresolved : canonicalTilde files site p with
  | error e => rfl
  | ok dir =>
      rw [Except.toOption, Option.filter_some, Option.filter_some,
        isVenv_of_isAbsolute (FileSystem.isAbsolute_of_canonical hresolved) files
          (site.at cwd).workingDirectory site.workingDirectory]

theorem value_describe_at {dir : Path} (h : dir.isAbsolute = true) (cwd : List String) :
    (describe (site.at cwd) kind dir).value files = (describe site kind dir).value files := by
  rw [value_describe, value_describe]
  cases kind with
  | pep405 =>
      rw [Pyvenv.ofFile, Pyvenv.ofFile, FileSystem.readText_of_isAbsolute
        (Path.isAbsolute_child h _) files (site.at cwd).workingDirectory site.workingDirectory]
  | conda => rfl

theorem isAbsolute_of_environmentAt? {dir : Path}
    (h : environmentAt? site files kind p = some dir) : dir.isAbsolute = true := by
  obtain ⟨hdir, -⟩ := Option.filter_eq_some_iff.mp h
  cases hresolved : canonicalTilde files site p with
  | error e =>
      rw [hresolved] at hdir
      cases hdir
  | ok resolved =>
      rw [hresolved] at hdir
      cases hdir
      exact FileSystem.isAbsolute_of_canonical hresolved

/-- The working directory has no part in what an absolute path comes to. -/
theorem value_ofDirectory_at (h : (expandTilde site.home p).isAbsolute = true)
    (cwd : List String) :
    (ofDirectory (site.at cwd) kind p).value files = (ofDirectory site kind p).value files := by
  rw [value_ofDirectory_eq_map, value_ofDirectory_eq_map, environmentAt?_at files kind h]
  refine Option.map_congr fun dir hdir => ?_
  exact value_describe_at files kind (isAbsolute_of_environmentAt? files kind hdir) cwd

section Interpreter

variable {python dir : Path}

theorem directoryOfPython?_eq (python : Path) :
    directoryOfPython? python =
      (python.parent?.bind Path.parent?).filter fun dir => dir.text ≠ "" := by
  rw [directoryOfPython?]
  cases python.parent? with
  | none => rfl
  | some bin =>
      rw [Option.bind_some]
      dsimp only
      cases bin.parent? with
      | none => rfl
      | some dir => by_cases hempty : dir.text = "" <;> simp [hempty, Option.filter_some]

theorem directoryOfPython?_eq_some_iff :
    directoryOfPython? python = some dir ↔
      ∃ bin, python.parent? = some bin ∧ bin.parent? = some dir ∧ dir.text ≠ "" := by
  rw [directoryOfPython?_eq, Option.filter_eq_some_iff, Option.bind_eq_some_iff]
  simp only [decide_eq_true_eq, ← and_assoc, exists_and_right]

theorem isAbsolute_of_directoryOfPython? (hpython : python.isAbsolute = true)
    (h : directoryOfPython? python = some dir) : dir.isAbsolute = true := by
  obtain ⟨bin, hbin, hdir, -⟩ := directoryOfPython?_eq_some_iff.mp h
  exact Path.isAbsolute_of_parent? (Path.isAbsolute_of_parent? hpython hbin) hdir

theorem isText_of_directoryOfPython? (hpython : python.isText = true)
    (h : directoryOfPython? python = some dir) : dir.isText = true := by
  obtain ⟨bin, hbin, hdir, -⟩ := directoryOfPython?_eq_some_iff.mp h
  exact Path.isText_of_parent? (Path.isText_of_parent? hpython hbin) hdir

theorem toList_isPrefix_of_directoryOfPython? (h : directoryOfPython? python = some dir) :
    dir.text.toList <+: python.text.toList ∧ dir.text ≠ "" := by
  obtain ⟨bin, hbin, hdir, hne⟩ := directoryOfPython?_eq_some_iff.mp h
  exact ⟨(Path.toList_isPrefix_of_parent? hdir).trans (Path.toList_isPrefix_of_parent? hbin), hne⟩

/-- Of a path with three steps the last two are cut off, whatever is written in front of it. -/
theorem exists_directoryOfPython?_append {rest : String}
    (h : 3 ≤ (⟨rest⟩ : Path).steps.length) :
    ∃ front : String, front ≠ "" ∧ front.toList <+: rest.toList ∧ ∀ written : String,
      directoryOfPython? ⟨written ++ rest⟩ = some ⟨written ++ front⟩ := by
  obtain ⟨bin, python, _, hrest, hbin, hpython, hlength⟩ :=
    Path.exists_cut_of_steps (Nat.le_of_succ_le h)
  obtain ⟨front, last, _, hcut, hfront, hlast, -⟩ :=
    Path.exists_cut_of_steps (show 2 ≤ (⟨bin⟩ : Path).steps.length by omega)
  cases hrest
  cases hcut
  refine ⟨front, hfront.ne_empty, ?_, fun written => ?_⟩
  · simp
  · refine directoryOfPython?_eq_some_iff.mpr ⟨⟨written ++ (front ++ "/" ++ last)⟩, ?_, ?_, ?_⟩
    · have hparent := Path.parent?_of_step (hbin.append written) hpython
      simpa only [String.append_assoc] using hparent
    · have hparent := Path.parent?_of_step (hfront.append written) hlast
      simpa only [String.append_assoc] using hparent
    · exact (hfront.append written).ne_empty

end Interpreter

end Venv

end EnvScout
