import EnvScout.Proofs.Files.Descent
import EnvScout.Proofs.Search
import EnvScout.Proofs.Text.Split
import EnvScout.Proofs.Text.Sorted
import EnvScout.Venv.SitePackages

/-!
Where the packages of an environment are found. A version is whatever text a file or a tool gave,
but of it only two numbers get into a path, so the packages lie under one name in `lib` in any case.
What has packages under it stands in `lib`, so where the version is of no use the first by name of
all that have packages is found, in whichever order they are listed, if `lib` may be listed at all.
-/

namespace EnvScout

open Search Text

/-- A version that begins with two numbers, of which the second ends where its digits end. -/
structure Versioned (version : String) (major minor : List Char) : Prop where
  majorNumber : major ≠ [] ∧ ∀ c ∈ major, c.isDigit = true
  minorNumber : minor ≠ [] ∧ ∀ c ∈ minor, c.isDigit = true
  text : ∃ rest, version.toList = major ++ '.' :: (minor ++ rest) ∧
    ∀ c ∈ rest.head?, c.isDigit = false

section Digits

variable {digits rest : List Char}

theorem not_mem_digits {c : Char} (hdigits : ∀ c ∈ digits, c.isDigit = true)
    (hc : c.isDigit = false) : c ∉ digits := by
  intro hmem
  rw [hdigits c hmem] at hc
  cases hc

theorem takeWhile_digits (hdigits : ∀ c ∈ digits, c.isDigit = true)
    (hrest : ∀ c ∈ rest.head?, c.isDigit = false) :
    (digits ++ rest).takeWhile Char.isDigit = digits := by
  have hstop : rest.takeWhile Char.isDigit = [] := by
    cases rest with
    | nil => rfl
    | cons c rest => exact List.takeWhile_cons_of_neg (Bool.not_eq_true _ ▸ hrest c rfl)
  rw [List.takeWhile_append_of_pos hdigits, hstop, List.append_nil]

/-- What comes behind the digits of the first piece begins with something else. -/
theorem exists_joinWith_digits (piece : List Char) (below : List (List Char)) :
    ∃ rest, joinWith '.' (piece :: below) = piece.takeWhile Char.isDigit ++ rest ∧
      ∀ c ∈ rest.head?, c.isDigit = false := by
  obtain ⟨more, hmore, hmoreHead⟩ := @exists_joinWith_cons '.' piece below
  refine ⟨piece.dropWhile Char.isDigit ++ more, ?_, fun c hc => ?_⟩
  · rw [hmore, ← List.append_assoc, List.takeWhile_append_dropWhile]
  · rw [List.head?_append] at hc
    cases hnext : (piece.dropWhile Char.isDigit).head? with
    | none =>
        rw [hnext] at hc
        rw [hmoreHead c hc]
        decide
    | some next =>
        have hstop := List.head?_dropWhile_not Char.isDigit piece
        rw [hnext] at hc hstop
        cases hc
        simpa using hstop

end Digits

theorem Versioned.majorMinor?_eq {version : String} {major minor : List Char}
    (h : Versioned version major minor) :
    majorMinor? version = some (String.ofList (major ++ '.' :: minor)) := by
  obtain ⟨⟨hmajor, hmajorDigits⟩, ⟨hminor, hminorDigits⟩, rest, htext, hrest⟩ := h
  obtain ⟨first, below, -, hfirst, -⟩ := exists_first_piece '.' rest
  have hsplit := hfirst minor (not_mem_digits hminorDigits (by decide))
  have hfirstHead : ∀ c ∈ first.head?, c.isDigit = false := by
    obtain ⟨behind, hbehind, -⟩ := exists_rest_of_splitOn hsplit
    rw [List.append_assoc, List.append_cancel_left_eq] at hbehind
    intro c hc
    refine hrest c ?_
    rw [hbehind, Option.mem_def, List.head?_append, Option.mem_def.mp hc]
    rfl
  rw [majorMinor?, htext, splitOn_append_cons (not_mem_digits hmajorDigits (by decide)), hsplit]
  dsimp only
  rw [takeWhile_digits hminorDigits hfirstHead, if_pos]
  simpa [hmajor, hminor] using hmajorDigits

theorem versioned_of_majorMinor? {version found : String} (h : majorMinor? version = some found) :
    ∃ major minor, Versioned version major minor ∧
      found = String.ofList (major ++ '.' :: minor) := by
  unfold majorMinor? at h
  split at h
  · rename_i major piece below hsplit
    dsimp only at h
    split at h
    · rename_i hnumbers
      simp only [Bool.and_eq_true, List.all_eq_true, Bool.not_eq_true',
        List.isEmpty_eq_false_iff] at hnumbers
      obtain ⟨⟨hdigits, hmajor⟩, hminor⟩ := hnumbers
      obtain ⟨rest, hpieces, hrest⟩ := exists_joinWith_digits piece below
      have htext : version.toList = major ++ '.' :: (piece.takeWhile Char.isDigit ++ rest) := by
        rw [← hpieces, ← joinWith_splitOn '.' version.toList, hsplit]
        rfl
      exact ⟨major, piece.takeWhile Char.isDigit, ⟨⟨hmajor, hdigits⟩,
        ⟨hminor, fun c => List.mem_takeWhile_imp⟩, rest, htext, hrest⟩, (Option.some.inj h).symm⟩
    · cases h
  · cases h

namespace Venv

theorem still_sitePackages (site : Site) (venv : Venv) : Still (venv.sitePackages site) := by
  rw [sitePackages]
  refine .bind (.look _) fun own => .bind (.look _) fun names => ?_
  split
  · exact .bind (.report _) fun _ => .pure _
  · exact .look _

theorem value_sitePackages (site : Site) (venv : Venv) (files : FileSystem) :
    (venv.sitePackages site).value files = venv.sitePackages? files site.workingDirectory := by
  simp only [sitePackages, value_look_bind]
  cases hown : venv.ownPackages? files site.workingDirectory with
  | some dir => rfl
  | none =>
      cases hnames : files.listing site.workingDirectory venv.libDirectory with
      | ok names => rfl
      | error e =>
          simp only [sitePackages?, hown, hnames]
          rfl

/-- The packages that belong to a version. -/
def packagesFor (venv : Venv) (major minor : List Char) : Path :=
  venv.packagesUnder ("python" ++ String.ofList (major ++ '.' :: minor))

/-- A name in `lib` under which there are packages. -/
structure HoldsPackages (venv : Venv) (files : FileSystem) (cwd : List String) (name : String) :
    Prop where
  isName : Path.IsName name
  python : "python".toList <+: name.toList
  directory : files.isDirectory cwd (venv.packagesUnder name) = true

/-- A name that is listed in `lib`, and under which there are packages. -/
def OffersPackages (venv : Venv) (files : FileSystem) (cwd : List String) (name : String) : Prop :=
  files.Lists cwd venv.libDirectory name ∧ venv.HoldsPackages files cwd name

variable {venv : Venv} {files : FileSystem} {cwd : List String} {name : String}

theorem isName_lib : Path.IsName "lib" := by decide

theorem isName_sitePackages : Path.IsName "site-packages" := by decide

theorem components_packagesUnder (venv : Venv) (hname : Path.IsName name) :
    (venv.packagesUnder name).components =
      venv.directory.components ++ [.name "lib", .name name, .name "site-packages"] := by
  rw [packagesUnder, Path.components_child _ isName_sitePackages, Path.components_child _ hname,
    libDirectory, Path.components_child _ isName_lib]
  simp

/-- What has packages under it stands in `lib`. -/
theorem exists_locate_of_packagesUnder (hname : '/' ∉ name.toList)
    (h : files.isDirectory cwd (venv.packagesUnder name) = true) :
    ∃ found, files.locate cwd (venv.libDirectory.child name) = .ok found := by
  obtain ⟨found, hfound, -⟩ := FileSystem.isDirectory_iff.mp h
  have hlib := Path.text_child_ne venv.directory isName_lib
  have hunder : (venv.libDirectory.child name).text ≠ "" := Path.text_child_ne_of_text_ne hlib hname
  obtain ⟨-, dir, hdir, -⟩ := FileSystem.exists_directory_of_locate_child hunder
    isName_sitePackages.notVoid isName_sitePackages.notParent isName_sitePackages.noSeparator hfound
  exact ⟨dir, hdir⟩

theorem anyPackages?_eq_findSome? (names : List String) :
    venv.anyPackages? files cwd names =
      (names.filter fun name => "python".toList.isPrefixOf name.toList).mergeSort.findSome?
        (Option.guard (fun dir => files.isDirectory cwd dir) ∘ venv.packagesUnder) := by
  rw [anyPackages?, ← List.findSome?_guard, List.findSome?_map]

theorem anyPackages?_eq_some_iff {names : List String} {dir : Path} :
    venv.anyPackages? files cwd names = some dir ↔ ∃ name, dir = venv.packagesUnder name ∧
      IsFirst (fun other => other ∈ names ∧ "python".toList <+: other.toList ∧
        files.isDirectory cwd (venv.packagesUnder other) = true) name := by
  have hamong : ∀ other,
      (other ∈ (names.filter fun name => "python".toList.isPrefixOf name.toList) ∧
        ((Option.guard (fun dir => files.isDirectory cwd dir) ∘ venv.packagesUnder) other).isSome) ↔
      (other ∈ names ∧ "python".toList <+: other.toList ∧
        files.isDirectory cwd (venv.packagesUnder other) = true) := by
    intro other
    rw [List.mem_filter, List.isPrefixOf_iff_prefix, Function.comp_apply, Option.isSome_guard,
      and_assoc]
  rw [anyPackages?_eq_findSome?, findSome?_mergeSort_eq_some_iff]
  constructor
  · rintro ⟨name, hname, hfirst⟩
    rw [Function.comp_apply, Option.guard_eq_some_iff] at hname
    exact ⟨name, hname.1.symm, (isFirst_congr hamong).mp hfirst⟩
  · rintro ⟨name, rfl, hfirst⟩
    refine ⟨name, ?_, (isFirst_congr hamong).mpr hfirst⟩
    rw [Function.comp_apply, Option.guard_eq_some_iff]
    exact ⟨rfl, hfirst.mem.2.2⟩

theorem not_isDirectory_of_anyPackages? {names : List String}
    (h : venv.anyPackages? files cwd names = none) (hname : name ∈ names)
    (hpython : "python".toList <+: name.toList) :
    ¬files.isDirectory cwd (venv.packagesUnder name) = true := by
  rw [anyPackages?_eq_findSome?, findSome?_mergeSort_eq_none_iff] at h
  have hnone := h name (List.mem_filter.mpr ⟨hname, List.isPrefixOf_iff_prefix.mpr hpython⟩)
  rw [Function.comp_apply, Option.guard_eq_none_iff] at hnone
  exact Bool.eq_false_iff.mp hnone

/-- It makes no difference in which order the names are listed. -/
theorem anyPackages?_of_perm {names entries : List String} (h : names.Perm entries) :
    venv.anyPackages? files cwd names = venv.anyPackages? files cwd entries := by
  rw [anyPackages?, anyPackages?, mergeSort_eq_of_perm (h.filter _)]

theorem ownPackages?_eq_some_iff {dir : Path} :
    venv.ownPackages? files cwd = some dir ↔ ∃ major minor,
      Versioned venv.pythonVersion major minor ∧ dir = venv.packagesFor major minor ∧
        files.isDirectory cwd dir = true := by
  rw [ownPackages?]
  constructor
  · intro h
    split at h
    · rename_i version hversion
      obtain ⟨major, minor, hversioned, rfl⟩ := versioned_of_majorMinor? hversion
      dsimp only at h
      split at h
      · rename_i hdirectory
        cases h
        exact ⟨major, minor, hversioned, rfl, hdirectory⟩
      · cases h
    · cases h
  · rintro ⟨major, minor, hversioned, rfl, hdirectory⟩
    rw [hversioned.majorMinor?_eq]
    exact if_pos hdirectory

theorem sitePackages?_of_own {dir : Path} (h : venv.ownPackages? files cwd = some dir) :
    venv.sitePackages? files cwd = some dir := by
  rw [sitePackages?, h]

theorem sitePackages?_of_listing {entries : List String}
    (h : files.listing cwd venv.libDirectory = .ok entries) :
    venv.sitePackages? files cwd =
      (venv.ownPackages? files cwd).or (venv.anyPackages? files cwd entries) := by
  rw [sitePackages?, h]
  cases venv.ownPackages? files cwd <;> rfl

theorem plain_of_python (h : "python".toList <+: name.toList) :
    Path.isVoid name = false ∧ name ≠ ".." := by
  obtain ⟨rest, hrest⟩ := h
  constructor
  · rw [Path.isVoid, Bool.or_eq_false_iff, beq_eq_false_iff_ne, beq_eq_false_iff_ne]
    constructor <;>
    · rintro rfl
      cases hrest
  · rintro rfl
    cases hrest

/-- No more is needed of a name without a separator than packages under it. -/
theorem holdsPackages_of_isDirectory (hname : '/' ∉ name.toList)
    (hpython : "python".toList <+: name.toList)
    (h : files.isDirectory cwd (venv.packagesUnder name) = true) :
    venv.HoldsPackages files cwd name := by
  obtain ⟨hvoid, hparent⟩ := plain_of_python hpython
  obtain ⟨dir, hdir⟩ := exists_locate_of_packagesUnder hname h
  have hlib := Path.text_child_ne venv.directory isName_lib
  exact ⟨(FileSystem.exists_directory_of_locate_child hlib hvoid hparent hname hdir).1, hpython, h⟩

theorem HoldsPackages.lists_or_refused (h : venv.HoldsPackages files cwd name) :
    files.Lists cwd venv.libDirectory name ∨
      files.listing cwd venv.libDirectory = .error .permissionDenied := by
  obtain ⟨dir, hdir⟩ := exists_locate_of_packagesUnder h.isName.noSeparator h.directory
  exact FileSystem.lists_or_refused_of_locate_child (Path.text_child_ne venv.directory isName_lib)
    h.isName.notVoid h.isName.notParent h.isName.noSeparator hdir

theorem offersPackages_iff (hfiles : files.WellNamed) {entries : List String}
    (hlisting : files.listing cwd venv.libDirectory = .ok entries) :
    venv.OffersPackages files cwd name ↔ name ∈ entries ∧ "python".toList <+: name.toList ∧
      files.isDirectory cwd (venv.packagesUnder name) = true := by
  rw [OffersPackages, FileSystem.lists_iff hlisting]
  refine and_congr_right fun hname => ⟨fun h => ⟨h.python, h.directory⟩, ?_⟩
  rintro ⟨hpython, hdirectory⟩
  exact ⟨hfiles.isName_of_listing hlisting name hname, hpython, hdirectory⟩

theorem holdsPackages_packagesFor {major minor : List Char}
    (hversion : Versioned venv.pythonVersion major minor)
    (h : files.isDirectory cwd (venv.packagesFor major minor) = true) :
    venv.HoldsPackages files cwd ("python" ++ String.ofList (major ++ '.' :: minor)) := by
  have hmajor : '/' ∉ major := not_mem_digits hversion.majorNumber.2 (by decide)
  have hminor : '/' ∉ minor := not_mem_digits hversion.minorNumber.2 (by decide)
  refine holdsPackages_of_isDirectory ?_ ?_ h
  · rw [String.toList_append, String.toList_ofList]
    simp [hmajor, hminor]
  · rw [String.toList_append]
    exact List.prefix_append _ _

theorem sitePackages?_eq_some_iff_of_own (hfiles : files.WellNamed)
    (hown : venv.ownPackages? files cwd = none) {dir : Path} :
    venv.sitePackages? files cwd = some dir ↔
      ∃ name, IsFirst (venv.OffersPackages files cwd) name ∧ dir = venv.packagesUnder name := by
  cases hlisting : files.listing cwd venv.libDirectory with
  | error e =>
      rw [sitePackages?, hown, hlisting]
      refine iff_of_false nofun ?_
      rintro ⟨name, hfirst, -⟩
      obtain ⟨entries, hentries, -⟩ := hfirst.mem.1
      rw [hlisting] at hentries
      cases hentries
  | ok entries =>
      rw [sitePackages?_of_listing hlisting, hown, Option.none_or, anyPackages?_eq_some_iff]
      refine exists_congr fun name => ?_
      rw [and_comm]
      exact and_congr_left fun _ =>
        isFirst_congr fun other => (offersPackages_iff hfiles hlisting).symm

/-- Whatever is found lies under a name in `lib`. -/
theorem exists_holdsPackages_of_sitePackages? (hfiles : files.WellNamed) {dir : Path}
    (h : venv.sitePackages? files cwd = some dir) :
    ∃ name, venv.HoldsPackages files cwd name ∧ dir = venv.packagesUnder name := by
  cases hown : venv.ownPackages? files cwd with
  | some own =>
      rw [sitePackages?_of_own hown] at h
      cases h
      obtain ⟨major, minor, hversion, rfl, hdirectory⟩ := ownPackages?_eq_some_iff.mp hown
      exact ⟨_, holdsPackages_packagesFor hversion hdirectory, rfl⟩
  | none =>
      obtain ⟨name, hfirst, hname⟩ := (sitePackages?_eq_some_iff_of_own hfiles hown).mp h
      exact ⟨name, hfirst.mem.2, hname⟩

theorem ownPackages?_eq_none_iff :
    venv.ownPackages? files cwd = none ↔ ∀ major minor,
      Versioned venv.pythonVersion major minor →
        files.isDirectory cwd (venv.packagesFor major minor) = false := by
  rw [Option.eq_none_iff_forall_ne_some]
  constructor
  · intro hnone major minor hversion
    rw [Bool.eq_false_iff]
    exact fun hdirectory =>
      hnone _ (ownPackages?_eq_some_iff.mpr ⟨major, minor, hversion, rfl, hdirectory⟩)
  · intro hno own hown
    obtain ⟨major, minor, hversion, rfl, hdirectory⟩ := ownPackages?_eq_some_iff.mp hown
    rw [hno major minor hversion] at hdirectory
    cases hdirectory

theorem sitePackages?_eq_none_iff (hfiles : files.WellNamed) :
    venv.sitePackages? files cwd = none ↔ venv.ownPackages? files cwd = none ∧
      ∀ name, ¬venv.OffersPackages files cwd name := by
  constructor
  · intro hnone
    have hown : venv.ownPackages? files cwd = none := by
      refine Option.eq_none_iff_forall_ne_some.mpr fun own hown => ?_
      rw [sitePackages?_of_own hown] at hnone
      cases hnone
    refine ⟨hown, fun name hname => ?_⟩
    obtain ⟨entries, hlisting, hlisted⟩ := hname.1
    rw [sitePackages?_of_listing hlisting, Option.or_eq_none_iff] at hnone
    exact not_isDirectory_of_anyPackages? hnone.2 hlisted hname.2.python hname.2.directory
  · rintro ⟨hown, hnone⟩
    refine Option.eq_none_iff_forall_ne_some.mpr fun dir hdir => ?_
    obtain ⟨name, hfirst, -⟩ := (sitePackages?_eq_some_iff_of_own hfiles hown).mp hdir
    exact hnone name hfirst.mem

theorem before_packagesUnder_iff {a b : String} (ha : Path.IsName a) (hb : Path.IsName b) :
    (venv.packagesUnder a).Before (venv.packagesUnder b) ↔ bytes a < bytes b := by
  refine @Path.before_iff_of_components _ _ (venv.directory.components ++ [.name "lib"])
    [.name "site-packages"] a b ?_ ?_
  · rw [components_packagesUnder venv ha]
    simp
  · rw [components_packagesUnder venv hb]
    simp

/-- The packages lie under one name in the environment's own `lib`, whatever its version says. They
are those of the version where it begins with two numbers and has any; otherwise they are the first
by name, and by path, of those listed in `lib`, in whichever order it is listed. Every name with
packages is listed, unless listing `lib` is refused. -/
theorem sitePackages_found (site : Site) (venv : Venv) (files : FileSystem)
    (hfiles : files.WellNamed) :
    let cwd := site.workingDirectory
    let found := (venv.sitePackages site).value files
    let holds := venv.HoldsPackages files cwd
    let offers := venv.OffersPackages files cwd
    let noOwn := ∀ major minor, Versioned venv.pythonVersion major minor →
      files.isDirectory cwd (venv.packagesFor major minor) = false
    (∀ dir, found = some dir → files.isDirectory cwd dir = true ∧
      ∃ name, holds name ∧ dir = venv.packagesUnder name ∧ dir.components =
        venv.directory.components ++ [.name "lib", .name name, .name "site-packages"]) ∧
    (∀ major minor, Versioned venv.pythonVersion major minor →
      files.isDirectory cwd (venv.packagesFor major minor) = true →
        found = some (venv.packagesFor major minor)) ∧
    (noOwn → ∀ dir, found = some dir ↔
      ∃ name, IsFirst offers name ∧ dir = venv.packagesUnder name) ∧
    (∀ name other, IsFirst offers name → offers other →
      ¬(venv.packagesUnder other).Before (venv.packagesUnder name)) ∧
    (found = none ↔ noOwn ∧ ∀ name, ¬offers name) ∧
    (∀ name, holds name →
      offers name ∨ files.listing cwd venv.libDirectory = .error .permissionDenied) ∧
    ∀ entries names, files.listing cwd venv.libDirectory = .ok entries → names.Perm entries →
      found = (venv.ownPackages? files cwd).or (venv.anyPackages? files cwd names) := by
  intro cwd found holds offers noOwn
  have hfound : found = venv.sitePackages? files cwd := value_sitePackages site venv files
  rw [hfound]
  refine ⟨fun dir hdir => ?_, fun major minor hversion hdirectory => ?_, fun hno dir =>
    sitePackages?_eq_some_iff_of_own hfiles (ownPackages?_eq_none_iff.mpr hno),
    fun name other hname hother => ?_, ?_,
    fun name hname => hname.lists_or_refused.imp_left fun hlisted => ⟨hlisted, hname⟩,
    fun entries names hlisting hperm => ?_⟩
  · obtain ⟨name, hname, rfl⟩ := exists_holdsPackages_of_sitePackages? hfiles hdir
    exact ⟨hname.directory, name, hname, rfl, components_packagesUnder venv hname.isName⟩
  · exact sitePackages?_of_own
      (ownPackages?_eq_some_iff.mpr ⟨major, minor, hversion, rfl, hdirectory⟩)
  · rw [before_packagesUnder_iff hother.2.isName hname.mem.2.isName]
    exact not_lt.mpr (hname.least other hother)
  · rw [sitePackages?_eq_none_iff hfiles, ownPackages?_eq_none_iff]
  · rw [sitePackages?_of_listing hlisting, anyPackages?_of_perm hperm]

/-- Packages for two versions, where the name of one is the beginning of the other's. -/
def packagesOfTwo : FileSystem :=
  ⟨.directory [("env", .directory [("lib", .directory [
    ("python3.10", .directory [("site-packages", .directory [])]),
    ("python3.1", .directory [("site-packages", .directory [])])])])], []⟩

theorem wellNamed_packagesOfTwo : packagesOfTwo.WellNamed :=
  have hpackages : Node.WellNamed (.directory [("site-packages", .directory [])]) :=
    .cons (by decide) .nil .nil
  Node.WellNamed.cons (by decide) (.cons (by decide)
    (.cons (by decide) hpackages (.cons (by decide) hpackages .nil)) .nil) .nil

/-- A site with no variables and no programs. -/
def quietSite : Site where
  host := Script.host ⟨[], [], [], []⟩
  home := some ⟨"/home"⟩
  workingDirectory := []
  temporaryDirectory := ⟨"/tmp"⟩
  temporaryMark := ""

/-- What follows the second number of a version does not count, and the packages of the version are
preferred to the first by name. -/
theorem packages_of_release_candidate :
    packagesOfTwo.WellNamed ∧ Versioned "3.10.4rc1" ['3'] ['1', '0'] ∧
      (sitePackages quietSite ⟨.pep405, ⟨"/env"⟩, "", "3.10.4rc1", "", none⟩).value
        packagesOfTwo = some ⟨"/env/lib/python3.10/site-packages"⟩ := by
  have hversion : Versioned "3.10.4rc1" ['3'] ['1', '0'] :=
    ⟨by simp, by simp, ".4rc1".toList, by simp, by simp⟩
  have hfound := (sitePackages_found quietSite ⟨.pep405, ⟨"/env"⟩, "", "3.10.4rc1", "", none⟩
    packagesOfTwo wellNamed_packagesOfTwo).2.1 ['3'] ['1', '0'] hversion (by decide +kernel)
  exact ⟨wellNamed_packagesOfTwo, hversion, hfound⟩

/-- Packages in a `lib` that may be passed through but not listed. -/
def packagesUnlisted : FileSystem :=
  ⟨.directory [("env", .directory [("lib", .directory [
    ("python3.12", .directory [("site-packages", .directory [])])])])],
    [(.read, ["env", "lib"])]⟩

/-- No packages are found, as the version is not known, though there are some. -/
theorem packages_unlisted_missed :
    let venv : Venv := ⟨.pep405, ⟨"/env"⟩, "", "", "", none⟩
    (venv.sitePackages quietSite).value packagesUnlisted = none ∧
      venv.HoldsPackages packagesUnlisted quietSite.workingDirectory "python3.12" :=
  ⟨by decide +kernel, by decide, by decide, by decide +kernel⟩

end Venv

end EnvScout
