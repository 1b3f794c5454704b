import EnvScout.Proofs.Resolution.HandedOut
import EnvScout.Proofs.Settings.Pointing
import EnvScout.Proofs.Venv.Interpreter

/-!
Pinning an environment. Whoever is given an environment may name its interpreter outright from then
on, as the settings of a language server do that are pointed at it: whatever the project and the
finders are, the same environment comes of it.
-/

namespace EnvScout

open Search Venv

/-- The environments that anyone is given on these files: those constructed, on any host, and those
that a finder or a resolution comes upon, where the commands of the host leave the files alone. -/
inductive Venv.HandedOut (site : Site) (world : World) (venv : Venv) : Prop where
  | constructed (h : Constructed site world venv)
  | found (hhost : site.host.LeavesFiles) (finder : Finder) (dir : Path)
      (h : (finder.find site dir world).1 = some venv)
  | resolved (hhost : site.host.LeavesFiles) (start : Path) (names : List String)
      (explicit : Option String)
      (h : (Resolution.resolve site start names explicit world).1.venv = some venv)

theorem Venv.HandedOut.accurate {site : Site} {world : World} {venv : Venv}
    (h : HandedOut site world venv) (hfiles : world.files.WellNamed) :
    Accurate site world.files venv := by
  cases h with
  | constructed h => exact accurate_of_described hfiles h.described
  | found hhost finder dir h =>
      rw [(Finder.through_find site finder dir).value_eq] at h
      exact accurate_of_described hfiles (Finder.described_of_find hhost h)
  | resolved hhost start names explicit h =>
      rw [(Resolution.through_resolve start names site explicit).value_eq] at h
      cases hexplicit : explicit.filter (· != "") with
      | some python =>
          rw [Resolution.venv_resolve_of_named _ start names hexplicit] at h
          exact (Resolution.accurate_of_ofExplicit hfiles h).1
      | none =>
          rw [Resolution.venv_resolve_of_unnamed _ start names hexplicit] at h
          obtain ⟨ask, hwins⟩ := Resolution.exists_wins_of_walk hhost h
          exact (Resolution.accurate_of_wins hfiles hhost hwins).1

namespace Resolution

/-- An interpreter named outright leads to this environment, in every project and with any finders,
and nothing is warned of. -/
def Pins (site : Site) (world : World) (python : String) (venv : Venv) : Prop :=
  ∀ start names, ∃ found, (resolve site start names (some python) world).1 = ⟨some found, []⟩ ∧
    found.Same venv ∧ found.finderName = "explicit_python_path"

/-- A text that spells the path of the interpreter pins the environment. -/
theorem pins_python {site : Site} {files : FileSystem} {venv : Venv}
    (h : Accurate site files venv) (hfiles : files.WellNamed) (other : Site) (world : World)
    (hworld : world.files = files) {text : String} (htext : Path.ofText text = venv.python) :
    Pins other world text venv := by
  intro start names
  obtain ⟨path, hdirectory, hnames⟩ := h.exists_names hfiles
  have htrimmed : Text.trimmed text = text :=
    trimmed_of_pythonIn hnames (by rw [htext, python, hdirectory])
  have hnamed : text ≠ "" := by
    rintro rfl
    have habsolute : venv.python.isAbsolute = true :=
      Path.isAbsolute_child (Path.isAbsolute_child h.absolute _) _
    rw [← htext] at habsolute
    cases habsolute
  have hfilter : (some text).filter (· != "") = some text := by
    rw [Option.filter, if_pos (bne_iff_ne.mpr hnamed)]
  obtain ⟨found, hfound, hsame⟩ := h.ofPythonAny hfiles other
  have hvenv : ((resolve other start names (some text)).value world.files).venv =
      some (found.foundBy explicitFinder) := by
    rw [venv_resolve_of_named _ start names hfilter, value_ofExplicit, htrimmed, htext, hworld,
      hfound, Option.map_some]
  have hwarnings : ((resolve other start names (some text)).value world.files).warnings = [] :=
    warnings_resolve_of_named _ start names hfilter
  refine ⟨found.foundBy explicitFinder, ?_, hsame, rfl⟩
  rw [(through_resolve start names other _).value_eq, ← hvenv, ← hwarnings]

/-- An environment that was handed out comes again of its interpreter, by whatever text spells its
path, and of the interpreter that settings are given when they have none and are pointed at it, if
the path of the interpreter is a text at all; of its directory and its interpreter it comes again in
its own kind. All that holds at every site that sees the same files. -/
theorem handed_out_pinned_by_python (site : Site) (world : World) (venv : Venv)
    (hfiles : world.files.WellNamed) (hvenv : HandedOut site world venv) (other : Site)
    (now : World) (hnow : now.files = world.files) :
    (∀ text, Path.ofText text = venv.python → Pins other now text venv) ∧
    (∀ (editor : Site) (later : World) (members : Settings.Members),
      members.lookup "pythonPath" = none ∨ members.lookup "pythonPath" = some .null ∨
        members.lookup "pythonPath" = some (.string "") →
      ∃ written python,
        (Settings.applyVenvReporting editor venv (.object members) later).1 = .object written ∧
        written.lookup "pythonPath" = some (.string python) ∧
        (venv.python.isText = true → Pins other now python venv)) ∧
    (∃ found, (ofDirectory other venv.kind venv.directory now).1 = some found ∧
      found.Same venv ∧ found.kind = venv.kind) ∧
    ∃ found, (ofPython other venv.kind venv.python now).1 = some found ∧
      found.Same venv ∧ found.kind = venv.kind := by
  have haccurate := hvenv.accurate hfiles
  have hpins : ∀ text, Path.ofText text = venv.python → Pins other now text venv :=
    fun text htext => pins_python haccurate hfiles other now hnow htext
  refine ⟨hpins, fun editor later members hunset => ?_, ?_, ?_⟩
  · obtain ⟨written, hwritten, hpython⟩ := Settings.python_pointAt venv
      (venv.sitePackages editor later).1 (Settings.hasPython_eq_false_iff.mpr hunset)
    exact ⟨written, venv.python.shown, hwritten, hpython,
      fun htext => hpins _ (Path.ofText_shown htext)⟩
  · rw [(through_ofDirectory other _ _).value_eq, hnow]
    exact haccurate.ofDirectory hfiles other
  · rw [(through_ofPython other _ _).value_eq, hnow, haccurate.ofPython_eq hfiles]
    exact haccurate.ofDirectory hfiles other

/-- An environment of conda's that has a configuration file as well, and whose interpreter is a
link that leads out of it. -/
def linkedInterpreter : FileSystem :=
  ⟨.directory [("env", .directory [("bin", .directory [("python", .link ⟨"../../python"⟩)]),
    ("conda-meta", .directory []), ("pyvenv.cfg", .file ⟨#[]⟩ false)]),
    ("python", .file ⟨#[]⟩ true)], []⟩

theorem wellNamed_linkedInterpreter : linkedInterpreter.WellNamed :=
  Node.WellNamed.cons (by decide)
    (.cons (by decide) (.cons (by decide) (.link _) .nil)
      (.cons (by decide) .nil (.cons (by decide) (.file _ _) .nil)))
    (.cons (by decide) (.file _ _) .nil)

/-- Conda's environment is pinned by its interpreter, though that is a link out of it and the
directory would be taken for the other kind first, and by settings with an empty interpreter. -/
theorem linked_interpreter_pinned :
    ∃ venv, (ofDirectory activatedSite .conda ⟨"/env"⟩ (World.ofFiles linkedInterpreter)).1 =
        some venv ∧
      Pins activatedSite (World.ofFiles linkedInterpreter) "/env/bin/python" venv ∧
      ∃ written python,
        (Settings.applyVenvReporting activatedSite venv (.object [("pythonPath", .string "")])
          (World.ofFiles linkedInterpreter)).1 = .object written ∧
        written.lookup "pythonPath" = some (.string python) ∧
        Pins activatedSite (World.ofFiles linkedInterpreter) python venv := by
  have hdirectory : ((ofDirectory activatedSite .conda ⟨"/env"⟩
      (World.ofFiles linkedInterpreter)).1).map Venv.directory = some ⟨"/env"⟩ := by
    decide +kernel
  obtain ⟨venv, hvenv, hdirectory⟩ := Option.map_eq_some_iff.mp hdirectory
  have hpython : Path.ofText "/env/bin/python" = venv.python := by
    rw [Venv.python, hdirectory]
    decide +kernel
  obtain ⟨hpins, hsettings, -⟩ := handed_out_pinned_by_python activatedSite
    (World.ofFiles linkedInterpreter) venv wellNamed_linkedInterpreter
    (.constructed (.ofDirectory hvenv)) activatedSite (World.ofFiles linkedInterpreter) rfl
  obtain ⟨written, python, hwritten, hgiven, hpinned⟩ := hsettings activatedSite
    (World.ofFiles linkedInterpreter) [("pythonPath", .string "")] (Or.inr (Or.inr rfl))
  exact ⟨venv, hvenv, hpins _ hpython, written, python, hwritten, hgiven,
    hpinned (hpython ▸ Path.isText_ofText _)⟩

/-- A directory whose name is no text: its last byte begins a character that is not there. -/
def unreadableName : String :=
  Text.Utf8.keepAll [0x63, 0x61, 0x66, 0xE9]

/-- An environment in such a directory. -/
def unreadableDirectory : FileSystem :=
  ⟨.directory [(unreadableName, .directory [("bin", .directory [("python", .file ⟨#[]⟩ true)]),
    ("pyvenv.cfg", .file ⟨#[]⟩ false)])], []⟩

theorem wellNamed_unreadableDirectory : unreadableDirectory.WellNamed :=
  Node.WellNamed.cons (by decide +kernel)
    (.cons (by decide) (.cons (by decide) (.file _ _) .nil) (.cons (by decide) (.file _ _) .nil))
    .nil

/-- Settings that are pointed at an environment in a directory whose name is no text are given
another path, and nothing comes of that. -/
theorem unreadable_interpreter_not_pinned :
    ¬∀ (site : Site) (world : World) (venv : Venv), world.files.WellNamed →
      HandedOut site world venv → ∀ (other : Site) (now : World), now.files = world.files →
      ∀ (editor : Site) (later : World) (members : Settings.Members),
      members.lookup "pythonPath" = none ∨ members.lookup "pythonPath" = some .null ∨
        members.lookup "pythonPath" = some (.string "") →
      ∃ written python,
        (Settings.applyVenvReporting editor venv (.object members) later).1 = .object written ∧
        written.lookup "pythonPath" = some (.string python) ∧ Pins other now python venv := by
  intro hall
  have hdirectory : ((ofDirectory activatedSite .pep405 ⟨"/" ++ unreadableName⟩
      (World.ofFiles unreadableDirectory)).1).map Venv.directory =
        some ⟨"/" ++ unreadableName⟩ := by
    decide +kernel
  obtain ⟨venv, hvenv, hdirectory⟩ := Option.map_eq_some_iff.mp hdirectory
  obtain ⟨written, python, hwritten, hpython, hpins⟩ := hall activatedSite
    (World.ofFiles unreadableDirectory) venv wellNamed_unreadableDirectory
    (.constructed (.ofDirectory hvenv)) activatedSite (World.ofFiles unreadableDirectory) rfl
    activatedSite (World.ofFiles unreadableDirectory) [] (Or.inl rfl)
  have hpointed : ∃ given, (Settings.applyVenvReporting activatedSite venv (.object [])
      (World.ofFiles unreadableDirectory)).1 = .object given ∧
        given.lookup "pythonPath" = some (.string venv.python.shown) :=
    Settings.python_pointAt venv _ rfl
  obtain ⟨given, hgiven, hshown⟩ := hpointed
  rw [hwritten] at hgiven
  cases hgiven
  obtain rfl : python = venv.python.shown :=
    Json.string.inj (Option.some.inj (hpython.symm.trans hshown))
  obtain ⟨found, hfound, -⟩ := hpins ⟨"/"⟩ []
  have hvenv := congrArg Resolution.venv hfound
  rw [Venv.python, hdirectory] at hvenv
  have hnone : ((resolve activatedSite ⟨"/"⟩ []
      (some (pythonIn ⟨"/" ++ unreadableName⟩).shown)
      (World.ofFiles unreadableDirectory)).1.venv).isSome = false := by
    decide +kernel
  rw [hvenv] at hnone
  cases hnone

end Resolution

end EnvScout
