import EnvScout.Proofs.Location
import EnvScout.Proofs.Venv.Accuracy

/-!
The way back to an environment. Its directory is in canonical form, so the directory comes to the
same environment again, and so does its interpreter, two levels below it. Neither depends on where
it is looked up from or by whom, nor on where the interpreter itself leads.
-/

namespace EnvScout

open Search

theorem isVenv_of_isAbsolute {dir : Path} (h : dir.isAbsolute = true) (files : FileSystem)
    (cwd other : List String) (kind : VenvKind) :
    isVenv files cwd kind dir = isVenv files other kind dir := by
  have hnode : ∀ p : Path, p.isAbsolute = true → files.node? cwd p = files.node? other p :=
    fun p hp => FileSystem.node?_of_isAbsolute hp files cwd other
  have hpython : (pythonIn dir).isAbsolute = true :=
    Path.isAbsolute_child (Path.isAbsolute_child h _) _
  have hmarker : kind.hasMarker files cwd dir = kind.hasMarker files other dir := by
    cases kind with
    | pep405 =>
        rw [VenvKind.hasMarker, VenvKind.hasMarker, FileSystem.isFile, FileSystem.isFile,
          hnode _ (Path.isAbsolute_child h _)]
    | conda =>
        rw [VenvKind.hasMarker, VenvKind.hasMarker, FileSystem.isDirectory, FileSystem.isDirectory,
          hnode _ (Path.isAbsolute_child h _)]
  rw [isVenv, isVenv, hmarker, FileSystem.isDirectory, FileSystem.isDirectory, FileSystem.isFile,
    FileSystem.isFile, hnode dir h, hnode _ hpython]

theorem pythonIn_ofNames {names : List String} (h : ∀ name ∈ names, Path.IsName name) :
    pythonIn (Path.ofNames names) = Path.ofNames (names ++ ["bin", "python"]) := by
  have hbin : ∀ name ∈ names ++ ["bin"], Path.IsName name :=
    List.forall_mem_append.mpr ⟨h, List.forall_mem_singleton.mpr (by decide)⟩
  rw [pythonIn, Path.child_ofNames h (by decide), Path.child_ofNames hbin (by decide),
    List.append_assoc]
  rfl

namespace Venv

/-- The interpreter of a directory lies two levels below it. -/
theorem directoryOfPython?_pythonIn {names : List String} (h : ∀ name ∈ names, Path.IsName name) :
    directoryOfPython? (pythonIn (Path.ofNames names)) = some (Path.ofNames names) := by
  have hbin : ∀ name ∈ names ++ ["bin"], Path.IsName name :=
    List.forall_mem_append.mpr ⟨h, List.forall_mem_singleton.mpr (by decide)⟩
  have hsplit : names ++ ["bin", "python"] = names ++ ["bin"] ++ ["python"] := by
    rw [List.append_assoc]
    rfl
  rw [pythonIn_ofNames h, hsplit, directoryOfPython?, Path.parent?_ofNames_concat hbin (by decide)]
  dsimp only
  rw [Path.parent?_ofNames_concat h (by decide)]
  exact if_neg (Path.text_ofNames_ne names)

/-- There is no white space around a text that spells the path of such an interpreter. -/
theorem trimmed_of_pythonIn {names : List String} (h : ∀ name ∈ names, Path.IsName name)
    {text : String} (htext : Path.ofText text = pythonIn (Path.ofNames names)) :
    Text.trimmed text = text := by
  have hsplit : names ++ ["bin", "python"] = names ++ ["bin"] ++ ["python"] := by
    rw [List.append_assoc]
    rfl
  have hends : ∃ middle, (pythonIn (Path.ofNames names)).text.toList = '/' :: middle ++ ['n'] := by
    rw [pythonIn_ofNames h, Path.toList_ofNames, hsplit, List.map_append,
      List.map_singleton, Text.joinWith_concat (by simp)]
    exact ⟨Text.joinWith '/' ((names ++ ["bin"]).map String.toList) ++ '/' :: "pytho".toList,
      by simp⟩
  obtain ⟨middle, hends⟩ := hends
  rw [← htext, Path.ofText, Text.Utf8.toList_encoded] at hends
  obtain ⟨more, hfirst⟩ := Text.Utf8.exists_cons_of_flatMap (by decide) hends
  obtain ⟨before, hlast⟩ := Text.Utf8.exists_concat_of_flatMap (by decide) hends
  have htrim : Text.trim text.toList = text.toList := by
    rw [Text.trim, hfirst, Text.trimLeft_cons_of_not_blank (by decide), ← hfirst, hlast,
      Text.trimRight_append_of_not_blank (by decide)]
  rw [Text.trimmed, htrim, String.ofList_toList]

variable {site : Site} {files : FileSystem} {venv : Venv}

/-- The directory of an environment is a path through names. -/
theorem Accurate.exists_names (h : Accurate site files venv) (hfiles : files.WellNamed) :
    ∃ names, venv.directory = Path.ofNames names ∧ ∀ name ∈ names, Path.IsName name := by
  obtain ⟨names, hlocate, hnames, -⟩ := FileSystem.canonical_eq_ok_iff.mp h.canonical
  exact ⟨names, hnames.symm, hfiles.isName_of_locate hlocate⟩

/-- The directory of an environment comes to it again, at every site. -/
theorem Accurate.ofDirectory (h : Accurate site files venv) (hfiles : files.WellNamed)
    (other : Site) :
    ∃ found, (Venv.ofDirectory other venv.kind venv.directory).value files = some found ∧
      found.Same venv ∧ found.kind = venv.kind := by
  have hvalid : isVenv files other.workingDirectory venv.kind venv.directory = true := by
    rw [isVenv_of_isAbsolute h.absolute files other.workingDirectory site.workingDirectory]
    exact h.valid
  refine ⟨(describe other venv.kind venv.directory).value files, ?_, ?_,
    kind_describe other venv.kind venv.directory files⟩
  · exact ofDirectory_eq_some_iff.mpr
      ⟨venv.directory, canonicalTilde_of_canonical hfiles h.canonical other, hvalid, rfl⟩
  · rw [Same, directory_describe]
    rfl

theorem Accurate.ofPython_eq (h : Accurate site files venv) (hfiles : files.WellNamed)
    (other : Site) (kind : VenvKind) :
    Venv.ofPython other kind venv.python = Venv.ofDirectory other kind venv.directory := by
  obtain ⟨names, hdirectory, hnames⟩ := h.exists_names hfiles
  rw [Venv.ofPython, python, hdirectory, directoryOfPython?_pythonIn hnames]

/-- Whatever comes of the interpreter is the environment again. -/
theorem Accurate.same_of_ofPython {other : Site} {kind : VenvKind} {found : Venv}
    (h : Accurate site files venv) (hfiles : files.WellNamed)
    (hfound : (Venv.ofPython other kind venv.python).value files = some found) :
    found.Same venv := by
  rw [h.ofPython_eq hfiles] at hfound
  obtain ⟨dir, hdir, -, rfl⟩ := ofDirectory_eq_some_iff.mp hfound
  rw [canonicalTilde_of_canonical hfiles h.canonical other] at hdir
  cases hdir
  rw [Same, directory_describe]
  rfl

/-- The interpreter leads back when the kinds are tried in turn. Another kind may fit the same
directory and come first. -/
theorem Accurate.ofPythonAny (h : Accurate site files venv) (hfiles : files.WellNamed)
    (other : Site) :
    ∃ found, (Venv.ofPythonAny other venv.python).value files = some found ∧
      found.Same venv := by
  rw [value_ofPythonAny]
  cases hpep405 : (Venv.ofPython other .pep405 venv.python).value files with
  | some found => exact ⟨found, rfl, h.same_of_ofPython hfiles hpep405⟩
  | none =>
      obtain ⟨found, hfound, hsame, -⟩ := h.ofDirectory hfiles other
      rw [← h.ofPython_eq hfiles] at hfound
      cases hkind : venv.kind with
      | pep405 =>
          rw [hkind, hpep405] at hfound
          cases hfound
      | conda =>
          rw [hkind] at hfound
          exact ⟨found, hfound, hsame⟩

end Venv

end EnvScout
