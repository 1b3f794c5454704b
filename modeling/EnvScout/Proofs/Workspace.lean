import EnvScout.Proofs.Files.Created
import EnvScout.Workspace

/-!
The workspace folder of a file before and after the file is saved. A file that is not there is
compared by its absolute form, its tilde left as it is and its links not followed, and one that is
there by its canonical form. The folders are compared as before, so the answer stays just when what
is named for the one form contains the other one too.
-/

namespace EnvScout.Workspace

/-! The deepest of the folders that contain a path. -/

/-- Of these folders one that contains the path, where none that contains it is deeper. -/
structure IsDeepest (folders : List Path) (p best : Path) : Prop where
  mem : best ∈ folders
  contains : p.startsWith best = true
  deepest : ∀ folder ∈ folders, p.startsWith folder = true →
    folder.components.length ≤ best.components.length

theorem exists_foldl_deeper (first : Path) (rest : List Path) :
    ∃ best, rest.foldl deeper (some first) = some best ∧ best ∈ first :: rest ∧
      ∀ folder ∈ first :: rest, folder.components.length ≤ best.components.length := by
  induction rest generalizing first with
  | nil =>
      refine ⟨first, rfl, List.mem_singleton_self first, fun folder hfolder => ?_⟩
      rw [List.mem_singleton.mp hfolder]
  | cons next rest ih =>
      rw [List.foldl_cons, deeper]
      split
      · rename_i hdeeper
        obtain ⟨best, hbest, hmem, hmax⟩ := ih next
        refine ⟨best, hbest, List.mem_cons_of_mem _ hmem, fun folder hfolder => ?_⟩
        rcases List.mem_cons.mp hfolder with rfl | hfolder
        · exact hdeeper.trans (hmax next List.mem_cons_self)
        · exact hmax folder hfolder
      · rename_i hdeeper
        obtain ⟨best, hbest, hmem, hmax⟩ := ih first
        have hfirst := hmax first List.mem_cons_self
        refine ⟨best, hbest, ?_, fun folder hfolder => ?_⟩
        · rcases List.mem_cons.mp hmem with rfl | hmem
          · exact List.mem_cons_self
          · exact List.mem_cons_of_mem _ (List.mem_cons_of_mem _ hmem)
        · rcases List.mem_cons.mp hfolder with rfl | hfolder
          · exact hfirst
          rcases List.mem_cons.mp hfolder with rfl | hfolder
          · omega
          · exact hmax folder (List.mem_cons_of_mem _ hfolder)

variable {folders : List Path} {p q best : Path}

theorem deepest_eq_none_iff :
    deepest folders p = none ↔ ∀ folder ∈ folders, p.startsWith folder = false := by
  rw [deepest]
  cases hkept : folders.filter fun folder => p.startsWith folder with
  | nil => simpa [List.filter_eq_nil_iff] using hkept
  | cons first rest =>
      obtain ⟨best, hbest, -⟩ := exists_foldl_deeper first rest
      rw [List.foldl_cons, deeper, hbest]
      refine iff_of_false (Option.some_ne_none best) fun hall => ?_
      have hfirst : first ∈ folders.filter fun folder => p.startsWith folder := by
        rw [hkept]
        exact List.mem_cons_self
      obtain ⟨hmem, hcontains⟩ := List.mem_filter.mp hfirst
      rw [hall first hmem] at hcontains
      cases hcontains

theorem isDeepest_of_deepest (h : deepest folders p = some best) : IsDeepest folders p best := by
  rw [deepest] at h
  cases hkept : folders.filter fun folder => p.startsWith folder with
  | nil =>
      rw [hkept] at h
      cases h
  | cons first rest =>
      obtain ⟨found, hfound, hmem, hmax⟩ := exists_foldl_deeper first rest
      rw [hkept, List.foldl_cons, deeper, hfound] at h
      cases h
      rw [← hkept] at hmem hmax
      obtain ⟨hmem, hcontains⟩ := List.mem_filter.mp hmem
      exact ⟨hmem, hcontains, fun folder hfolder h =>
        hmax folder (List.mem_filter.mpr ⟨hfolder, h⟩)⟩

theorem startsWith_iff : p.startsWith q = true ↔ q.components <+: p.components :=
  List.isPrefixOf_iff_prefix

/-- Folders that contain one path are the same if they are equally deep. -/
theorem components_eq_of_startsWith {a b : Path} (ha : p.startsWith a = true)
    (hb : p.startsWith b = true) (h : a.components.length = b.components.length) :
    a.components = b.components := by
  rw [startsWith_iff] at ha hb
  exact (List.prefix_of_prefix_length_le ha hb h.le).eq_of_length h

/-- Two paths lie in the same of these folders when each of them lies in that of the other. -/
theorem deepest_agree_iff :
    (deepest folders p).map Path.components = (deepest folders q).map Path.components ↔
      (∀ best, deepest folders p = some best → q.startsWith best = true) ∧
      (∀ best, deepest folders q = some best → p.startsWith best = true) := by
  cases hp : deepest folders p with
  | none =>
      cases hq : deepest folders q with
      | none => simp
      | some b =>
          have hb := isDeepest_of_deepest hq
          refine iff_of_false nofun fun ⟨_, h⟩ => ?_
          have hnone := deepest_eq_none_iff.mp hp b hb.mem
          rw [h b rfl] at hnone
          cases hnone
  | some a =>
      have ha := isDeepest_of_deepest hp
      cases hq : deepest folders q with
      | none =>
          refine iff_of_false nofun fun ⟨h, _⟩ => ?_
          have hnone := deepest_eq_none_iff.mp hq a ha.mem
          rw [h a rfl] at hnone
          cases hnone
      | some b =>
          have hb := isDeepest_of_deepest hq
          rw [Option.map_some, Option.map_some, Option.some.injEq]
          constructor
          · intro heq
            refine ⟨?_, ?_⟩
            · rintro _ ⟨⟩
              rw [startsWith_iff, heq]
              exact startsWith_iff.mp hb.contains
            · rintro _ ⟨⟩
              rw [startsWith_iff, ← heq]
              exact startsWith_iff.mp ha.contains
          · rintro ⟨hqa, hpb⟩
            refine components_eq_of_startsWith ha.contains (hpb b rfl) (le_antisymm ?_ ?_)
            · exact hb.deepest a ha.mem (hqa a rfl)
            · exact ha.deepest b hb.mem (hpb b rfl)

/-- A folder that is the path itself is the deepest there can be. -/
theorem deepest_of_same {folder : Path} (hmem : folder ∈ folders) (hsame : folder.Same p) :
    (deepest folders p).map Path.components = some p.components := by
  have hcomponents : folder.components = p.components := hsame
  have hcontains : p.startsWith folder = true :=
    startsWith_iff.mpr (hcomponents ▸ List.prefix_rfl)
  cases hdeepest : deepest folders p with
  | none =>
      rw [deepest_eq_none_iff.mp hdeepest folder hmem] at hcontains
      cases hcontains
  | some best =>
      have hbest := isDeepest_of_deepest hdeepest
      have hlength := hbest.deepest folder hmem hcontains
      rw [hcomponents] at hlength
      exact congrArg some ((startsWith_iff.mp hbest.contains).eq_of_length_le hlength)

/-! Normal forms before and after a file is new. -/

section Saving

variable {files saved : FileSystem} {site : Site} {dir : List String} {name : String}

theorem absolutize_cases (h : files.Gains saved dir name) (cwd : List String) (q : Path) :
    absolutize saved cwd q = absolutize files cwd q ∨
      absolutize saved cwd q = Path.ofNames (dir ++ [name]) ∧
        (Path.ofNames (dir ++ [name])).text.length ≤ 4095 := by
  unfold absolutize
  cases hafter : saved.canonical cwd q with
  | ok resolved =>
      rcases h.canonical_cases hafter with hbefore | ⟨rfl, hshort⟩
      · rw [hbefore]
        exact Or.inl rfl
      · exact Or.inr ⟨rfl, hshort⟩
  | error e =>
      cases hbefore : files.canonical cwd q with
      | ok resolved =>
          rw [h.canonical_of_ok hbefore] at hafter
          cases hafter
      | error e' =>
          rw [h.isDirectory_eq]
          exact Or.inl rfl

/-- Saving leaves every normal form as it is, but for what now leads to the saved file. -/
theorem normalize_cases (h : files.Gains saved dir name)
    (hland : files.land site.workingDirectory (expandTilde site.home p) = .ok (.vacant dir name))
    (q : Path) :
    normalize saved site q = normalize files site q ∨
      normalize saved site q = normalize saved site p := by
  have hsaved : (Path.ofNames (dir ++ [name])).text.length ≤ 4095 →
      normalize saved site p = Path.ofNames (dir ++ [name]) := by
    intro hshort
    have hlocate := FileSystem.locate_eq_ok_iff.mpr (h.land_of_vacant hland)
    rw [normalize, canonicalTilde,
      FileSystem.canonical_eq_ok_iff.mpr ⟨_, hlocate, rfl, hshort⟩]
  unfold normalize at hsaved ⊢
  cases hafter : canonicalTilde saved site q with
  | ok resolved =>
      rcases h.canonical_cases hafter with hbefore | ⟨rfl, hshort⟩
      · rw [show canonicalTilde files site q = .ok resolved from hbefore]
        exact Or.inl rfl
      · exact Or.inr (hsaved hshort).symm
  | error e =>
      cases hbefore : canonicalTilde files site q with
      | ok resolved =>
          rw [show canonicalTilde saved site q = .ok resolved from h.canonical_of_ok hbefore]
            at hafter
          cases hafter
      | error e' =>
          rcases absolutize_cases h site.workingDirectory q with hsame | ⟨hnew, hshort⟩
          · exact Or.inl hsame
          · exact Or.inr (hnew.trans (hsaved hshort).symm)

theorem normalize_of_missing
    (h : files.exists? site.workingDirectory (expandTilde site.home p) = false) :
    normalize files site p = absolutize files site.workingDirectory p := by
  rw [normalize]
  cases hresolved : canonicalTilde files site p with
  | error e => rfl
  | ok resolved =>
      obtain ⟨names, hnames, -⟩ := FileSystem.canonical_eq_ok_iff.mp hresolved
      rw [FileSystem.exists?_of_locate hnames] at h
      cases h

/-- Where no folder is the saved file itself, its folder stays just when that named before contains
the file's canonical form, and that named afterwards the absolute form it had before. Where one is,
that one is named afterwards. -/
theorem folder_kept_by_saving_iff (folders : List Path)
    (hmissing : files.exists? site.workingDirectory (expandTilde site.home p) = false)
    (hsaved : files.write site.workingDirectory (expandTilde site.home p) .empty false =
      .ok saved) :
    let before := folderOf files site folders p
    let after := folderOf saved site folders p
    let written := absolutize files site.workingDirectory p
    let canonical := normalize saved site p
    ((∀ folder ∈ folders, ¬(normalize saved site folder).Same canonical) →
      (before.map Path.components = after.map Path.components ↔
        (∀ best, before = some best → canonical.startsWith best = true) ∧
        (∀ best, after = some best → written.startsWith best = true))) ∧
    ((∃ folder ∈ folders, (normalize saved site folder).Same canonical) →
      after.map Path.components = some canonical.components) := by
  intro before after written canonical
  obtain ⟨dir, name, hland, hgains⟩ := FileSystem.gains_of_write hmissing hsaved
  constructor
  · intro hother
    have hfolders : folders.map (normalize files site) = folders.map (normalize saved site) := by
      refine List.map_congr_left fun folder hfolder => ?_
      rcases normalize_cases hgains hland folder with hkept | hsame
      · exact hkept.symm
      · exact absurd (congrArg Path.components hsame) (hother folder hfolder)
    have hbefore : before = deepest (folders.map (normalize saved site)) written :=
      calc before
          = deepest (folders.map (normalize files site)) (normalize files site p) := rfl
        _ = deepest (folders.map (normalize saved site)) written := by
            rw [hfolders, normalize_of_missing hmissing]
    rw [hbefore]
    exact deepest_agree_iff
  · rintro ⟨folder, hfolder, hsame⟩
    exact deepest_of_same (List.mem_map_of_mem hfolder) hsame

end Saving

/-- A home directory with a project in it. -/
def homeFiles : FileSystem :=
  ⟨.directory [("home", .directory [("u", .directory [("proj", .empty)])])], []⟩

/-- The same with a file in the project. -/
def homeFilesSaved : FileSystem :=
  homeFiles.put ["home", "u", "proj", "new.py"] (.file .empty false)

def homeSite : Site where
  host := Script.host ⟨[], [], [], []⟩
  home := some ⟨"/home/u"⟩
  workingDirectory := []
  temporaryDirectory := ⟨"/tmp"⟩
  temporaryMark := ""

theorem write_homeFiles :
    homeFiles.write [] ⟨"/home/u/proj/new.py"⟩ .empty false = .ok homeFilesSaved := by
  have hland : homeFiles.land [] ⟨"/home/u/proj/new.py"⟩ =
      .ok (.vacant ["home", "u", "proj"] "new.py") := by
    decide +kernel
  rw [FileSystem.write, hland]
  rfl

/-- Under its canonical path the file is in the project before it is saved, and stays there. -/
theorem project_kept_by_saving :
    (folderOf homeFiles homeSite [⟨"/home/u/proj"⟩] ⟨"/home/u/proj/new.py"⟩).map Path.components =
      (folderOf homeFilesSaved homeSite [⟨"/home/u/proj"⟩] ⟨"/home/u/proj/new.py"⟩).map
        Path.components := by
  have hexpand : expandTilde homeSite.home ⟨"/home/u/proj/new.py"⟩ = ⟨"/home/u/proj/new.py"⟩ := by
    decide +kernel
  have hmissing : homeFiles.exists? homeSite.workingDirectory
      (expandTilde homeSite.home ⟨"/home/u/proj/new.py"⟩) = false := by
    decide +kernel
  have hsaved : homeFiles.write homeSite.workingDirectory
      (expandTilde homeSite.home ⟨"/home/u/proj/new.py"⟩) .empty false = .ok homeFilesSaved := by
    rw [hexpand]
    exact write_homeFiles
  obtain ⟨hkept, -⟩ := folder_kept_by_saving_iff [⟨"/home/u/proj"⟩] hmissing hsaved
  refine (hkept ?_).mpr ⟨?_, ?_⟩
  · decide +kernel
  · decide +kernel
  · decide +kernel

/-- Under its tilde the file is in no folder until it is saved. -/
theorem folder_not_kept_by_saving :
    ¬∀ (files saved : FileSystem) (site : Site) (folders : List Path) (p : Path),
      files.exists? site.workingDirectory (expandTilde site.home p) = false →
      files.write site.workingDirectory (expandTilde site.home p) .empty false = .ok saved →
      (folderOf files site folders p).map Path.components =
        (folderOf saved site folders p).map Path.components := by
  intro hkept
  have hexpand : expandTilde homeSite.home ⟨"~/proj/new.py"⟩ = ⟨"/home/u/proj/new.py"⟩ := by
    decide +kernel
  have hbefore : folderOf homeFiles homeSite [⟨"/home/u/proj"⟩] ⟨"~/proj/new.py"⟩ = none := by
    decide +kernel
  have hafter : folderOf homeFilesSaved homeSite [⟨"/home/u/proj"⟩] ⟨"~/proj/new.py"⟩ =
      some ⟨"/home/u/proj"⟩ := by
    decide +kernel
  have hsame := hkept homeFiles homeFilesSaved homeSite [⟨"/home/u/proj"⟩] ⟨"~/proj/new.py"⟩
    (by rw [hexpand]; decide +kernel) (by rw [hexpand]; exact write_homeFiles)
  rw [hbefore, hafter] at hsame
  cases hsame

end EnvScout.Workspace
