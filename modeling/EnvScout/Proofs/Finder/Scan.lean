import EnvScout.Proofs.Files.Descent
import EnvScout.Proofs.Finder.Subdirectories
import EnvScout.Proofs.Text.Sorted
import EnvScout.Proofs.Venv.Packages

/-!
What the scan of subdirectories finds: of the entries that lead to an environment, the first by
name, tried as every kind before the next one is looked at. A tilde in front of the scanned
directory is taken for a name where its entries are listed, and for the home directory where an
entry is tried; a directory without such a tilde offers what is listed and in plain sight in it. A
directory that may not be listed offers nothing.
-/

namespace EnvScout

open Search Venv Text

/-- A listed entry of a directory that is a directory, or a link to one, and comes to an environment
when it is tried. -/
structure Offers (site : Site) (files : FileSystem) (dir : Path) (kind : VenvKind)
    (name : String) : Prop where
  listed : files.Lists site.workingDirectory dir name
  directory : files.isDirectory site.workingDirectory (dir.child name) = true
  comes : ((ofDirectory site kind (dir.child name)).value files).isSome = true

namespace Finder

variable {site : Site} {files : FileSystem} {dir : Path} {name : String} {kind : VenvKind}

section Tilde

theorem expandTilde_child (hdir : dir.text ≠ "") (htilde : dir.behindTilde? = none)
    (home : Option Path) (name : String) :
    expandTilde home (dir.child name) = dir.child name := by
  by_cases habsolute : (⟨name⟩ : Path).isAbsolute = true
  · rw [Path.child, Path.join, if_pos habsolute]
    exact expandTilde_of_isAbsolute habsolute home
  · refine expandTilde_of_behindTilde?_eq_none ?_ home
    rw [← Option.not_isSome_iff_eq_none]
    intro hsome
    obtain ⟨htext, hbehind⟩ := Path.isSome_behindTilde?_iff.mp hsome
    have hrelative := Bool.eq_false_iff.mpr habsolute
    have hdirSome : dir.behindTilde?.isSome := Path.isSome_behindTilde?_iff.mpr
      ⟨Path.isText_of_join hdir hrelative htext,
        isSome_behindTilde?_of_isPrefix hbehind (Path.isPrefix_join hrelative) hdir⟩
    rw [htilde] at hdirSome
    cases hdirSome

theorem text_ne_of_listing {cwd entries : List String}
    (h : files.listing cwd dir = .ok entries) : dir.text ≠ "" := by
  intro hempty
  obtain rfl : dir = ⟨""⟩ := congrArg Path.mk hempty
  cases h

/-- Without a tilde in front of it a directory offers what is listed and in plain sight. -/
theorem offers_iff_inSight (htilde : dir.behindTilde? = none) :
    Offers site files dir kind name ↔
      files.Lists site.workingDirectory dir name ∧ InSight site files dir kind name := by
  have hplace : files.Lists site.workingDirectory dir name →
      canonicalTilde files site (dir.child name) =
        files.canonical site.workingDirectory (dir.child name) := by
    rintro ⟨entries, hlisting, -⟩
    rw [canonicalTilde, expandTilde_child (text_ne_of_listing hlisting) htilde]
  constructor
  · rintro ⟨hlisted, hdirectory, hcomes⟩
    obtain ⟨venv, hvenv⟩ := Option.isSome_iff_exists.mp hcomes
    obtain ⟨place, hcanonical, hvalid, -⟩ := ofDirectory_eq_some_iff.mp hvenv
    rw [hplace hlisted] at hcanonical
    exact ⟨hlisted, hdirectory, place, hcanonical, hvalid⟩
  · rintro ⟨hlisted, hdirectory, place, hcanonical, hvalid⟩
    rw [← hplace hlisted] at hcanonical
    have hvenv := ofDirectory_eq_some_iff.mpr ⟨place, hcanonical, hvalid, rfl⟩
    exact ⟨hlisted, hdirectory, hvenv ▸ rfl⟩

end Tilde

/-- What comes of trying a candidate as every kind. -/
def tried (site : Site) (files : FileSystem) (p : Path) : Option Venv :=
  (tryCandidate site VenvKind.all p).value files

theorem tried_eq_some_iff {p : Path} {venv : Venv} :
    tried site files p = some venv ↔ files.isDirectory site.workingDirectory p = true ∧
      ∃ kind, (ofDirectory site kind p).value files = some venv ∧
        (kind = .conda → (ofDirectory site .pep405 p).value files = none) := by
  rw [tried, value_tryCandidate]
  split
  · rename_i hdirectory
    have hkinds : (VenvKind.all.findSome? fun kind => (ofDirectory site kind p).value files) =
        ((ofDirectory site .pep405 p).value files).or
          ((ofDirectory site .conda p).value files) := by
      rw [VenvKind.all, List.findSome?_cons]
      cases (ofDirectory site .pep405 p).value files with
      | some venv => rfl
      | none => exact List.findSome?_singleton
    rw [hkinds, Option.or_eq_some_iff]
    constructor
    · rintro (hvenv | ⟨hnone, hvenv⟩)
      · refine ⟨hdirectory, .pep405, hvenv, fun hkind => ?_⟩
        cases hkind
      · exact ⟨hdirectory, .conda, hvenv, fun _ => hnone⟩
    · rintro ⟨-, kind, hvenv, hnone⟩
      cases kind with
      | pep405 => exact Or.inl hvenv
      | conda => exact Or.inr ⟨hnone rfl, hvenv⟩
  · rename_i hdirectory
    exact iff_of_false (Option.some_ne_none venv).symm fun h => hdirectory h.1

/-- The candidates are tried in the order of their names; those that are no directories come to
nothing anyway. -/
theorem value_firstVenv_subdirectories (site : Site) (files : FileSystem) (dir : Path)
    (names : List String) :
    (firstVenv site VenvKind.all
        (subdirectories files site.workingDirectory dir names)).value files =
      names.mergeSort.findSome? fun name => tried site files (dir.child name) := by
  rw [value_firstVenv, subdirectories]
  generalize names.mergeSort = sorted
  induction sorted with
  | nil => rfl
  | cons name rest ih =>
      rw [List.map_cons, List.filter_cons, List.findSome?_cons]
      cases hdirectory : files.isDirectory site.workingDirectory (dir.child name) with
      | true =>
          rw [if_pos rfl, List.findSome?_cons, ih]
          rfl
      | false =>
          have hnone : tried site files (dir.child name) = none := by
            rw [tried, value_tryCandidate, hdirectory]
            rfl
          rw [if_neg Bool.false_ne_true, hnone, ih]

theorem isSome_tried_iff {p : Path} :
    (tried site files p).isSome = true ↔ files.isDirectory site.workingDirectory p = true ∧
      ∃ kind, ((ofDirectory site kind p).value files).isSome = true := by
  constructor
  · intro h
    obtain ⟨venv, hvenv⟩ := Option.isSome_iff_exists.mp h
    obtain ⟨hdirectory, kind, hkind, -⟩ := tried_eq_some_iff.mp hvenv
    exact ⟨hdirectory, kind, hkind ▸ rfl⟩
  · rintro ⟨hdirectory, kind, hkind⟩
    have hmem : kind ∈ VenvKind.all := by
      cases kind <;> decide
    rw [tried, value_tryCandidate, if_pos hdirectory, List.findSome?_isSome_iff]
    exact ⟨kind, hmem, hkind⟩

theorem offers_iff_tried {entries : List String}
    (hlisting : files.listing site.workingDirectory dir = .ok entries) :
    (∃ kind, Offers site files dir kind name) ↔
      name ∈ entries ∧ (tried site files (dir.child name)).isSome = true := by
  rw [isSome_tried_iff, ← FileSystem.lists_iff hlisting]
  constructor
  · rintro ⟨kind, hlisted, hdirectory, hcomes⟩
    exact ⟨hlisted, hdirectory, kind, hcomes⟩
  · rintro ⟨hlisted, hdirectory, kind, hcomes⟩
    exact ⟨kind, hlisted, hdirectory, hcomes⟩

theorem value_find_of_listing {entries : List String}
    (hlisting : files.listing site.workingDirectory dir = .ok entries) :
    (find site .anySubdirectory dir).value files =
      entries.mergeSort.findSome? fun name => tried site files (dir.child name) := by
  rw [value_find_anySubdirectory, value_listSubdirectories, hlisting,
    ← value_firstVenv_subdirectories]

theorem value_find_of_not_listed {e : FileError}
    (hlisting : files.listing site.workingDirectory dir = .error e) :
    (find site .anySubdirectory dir).value files = none := by
  rw [value_find_anySubdirectory, value_listSubdirectories, hlisting, value_firstVenv]
  rfl

theorem value_find_eq_some_iff {venv : Venv} :
    (find site .anySubdirectory dir).value files = some venv ↔ ∃ name kind,
      IsFirst (fun other => ∃ kind, Offers site files dir kind other) name ∧
      Offers site files dir kind name ∧ (kind = .conda → ¬Offers site files dir .pep405 name) ∧
      (ofDirectory site kind (dir.child name)).value files = some venv := by
  cases hlisting : files.listing site.workingDirectory dir with
  | error e =>
      rw [value_find_of_not_listed hlisting]
      refine iff_of_false nofun ?_
      rintro ⟨name, kind, -, ⟨⟨entries, hentries, -⟩, -, -⟩, -⟩
      rw [hlisting] at hentries
      cases hentries
  | ok entries =>
      rw [value_find_of_listing hlisting, findSome?_mergeSort_eq_some_iff]
      constructor
      · rintro ⟨name, htried, hfirst⟩
        obtain ⟨hdirectory, kind, hvenv, hpep⟩ := tried_eq_some_iff.mp htried
        refine ⟨name, kind, (isFirst_congr fun other => offers_iff_tried hlisting).mpr hfirst,
          ⟨(FileSystem.lists_iff hlisting).mpr hfirst.mem.1, hdirectory, hvenv ▸ rfl⟩,
          fun hkind hoffers => ?_, hvenv⟩
        have hcomes := hoffers.comes
        rw [hpep hkind] at hcomes
        cases hcomes
      · rintro ⟨name, kind, hfirst, hoffers, hpep, hvenv⟩
        refine ⟨name, tried_eq_some_iff.mpr ⟨hoffers.directory, kind, hvenv, fun hkind => ?_⟩,
          (isFirst_congr fun other => offers_iff_tried hlisting).mp hfirst⟩
        rw [← Option.not_isSome_iff_eq_none]
        exact fun hcomes => hpep hkind ⟨hoffers.listed, hoffers.directory, hcomes⟩

theorem value_find_eq_none_iff :
    (find site .anySubdirectory dir).value files = none ↔
      ∀ kind name, ¬Offers site files dir kind name := by
  cases hlisting : files.listing site.workingDirectory dir with
  | error e =>
      refine iff_of_true (value_find_of_not_listed hlisting) ?_
      rintro kind name ⟨⟨entries, hentries, -⟩, -, -⟩
      rw [hlisting] at hentries
      cases hentries
  | ok entries =>
      rw [value_find_of_listing hlisting, findSome?_mergeSort_eq_none_iff]
      constructor
      · intro hnone kind name hoffers
        obtain ⟨hname, hsome⟩ := (offers_iff_tried hlisting).mp ⟨kind, hoffers⟩
        rw [hnone name hname] at hsome
        cases hsome
      · intro hnone name hname
        rw [← Option.not_isSome_iff_eq_none]
        intro hsome
        obtain ⟨kind, hoffers⟩ := (offers_iff_tried hlisting).mpr ⟨hname, hsome⟩
        exact hnone kind name hoffers

/-- Whatever is found in place is among what the scan goes through, unless it may not list it. -/
theorem offers_or_refused_of_localDotVenv (hdir : dir.text ≠ "")
    (h : ((find site .localDotVenv dir).value files).isSome = true) :
    (∃ name, Offers site files dir .pep405 name) ∨
      files.listing site.workingDirectory dir = .error .permissionDenied := by
  obtain ⟨venv, hvenv⟩ := Option.isSome_iff_exists.mp h
  have hfind : find site .localDotVenv dir =
      firstVenv site [.pep405] [dir.child ".venv", dir.child "venv"] := rfl
  rw [hfind, value_firstVenv] at hvenv
  obtain ⟨p, hp, htry⟩ := List.exists_of_findSome?_eq_some hvenv
  obtain ⟨name, hname, rfl⟩ : ∃ name, Path.IsName name ∧ p = dir.child name := by
    rcases List.mem_pair.mp hp with rfl | rfl
    · exact ⟨".venv", by decide, rfl⟩
    · exact ⟨"venv", by decide, rfl⟩
  rw [value_tryCandidate] at htry
  split at htry
  · rename_i hdirectory
    rw [List.findSome?_singleton] at htry
    obtain ⟨found, hfound, -⟩ := FileSystem.isDirectory_iff.mp hdirectory
    refine (FileSystem.lists_or_refused_of_locate_child hdir hname.notVoid hname.notParent
      hname.noSeparator hfound).imp_left fun hlisted => ?_
    exact ⟨name, hlisted, hdirectory, htry ▸ rfl⟩
  · cases htry

/-- The candidates stand in the order of paths. -/
theorem pairwise_subdirectories (hfiles : files.WellNamed) {entries : List String}
    (hlisting : files.listing site.workingDirectory dir = .ok entries) :
    (subdirectories files site.workingDirectory dir entries).Pairwise fun p q => ¬q.Before p := by
  have hnames := hfiles.isName_of_listing hlisting
  refine List.Pairwise.filter _ (List.pairwise_map.mpr ?_)
  refine (pairwise_mergeSort_names entries).imp_of_mem fun ha hb hle => ?_
  rw [Path.before_child_iff dir (hnames _ (List.mem_mergeSort.mp hb))
    (hnames _ (List.mem_mergeSort.mp ha))]
  exact not_lt.mpr (bytes_le_iff.mpr hle)

/-- The scan finds the first by name of the entries that come to an environment, as one of conda's
only if it is none of the other kind, and nothing just when there is no such entry, in whichever
order the directory is listed; by name the candidates stand in the order of their paths. Without a
tilde in front of the directory these entries are the ones listed and in plain sight. Unless the
directory is empty text, what is in sight is listed and what is found in place is found by the scan
as well, except where listing the directory is refused. -/
theorem find_anySubdirectory_first (site : Site) (files : FileSystem) (dir : Path) :
    let cwd := site.workingDirectory
    let found := (find site .anySubdirectory dir).value files
    let offers := Offers site files dir
    let refused := files.listing cwd dir = .error .permissionDenied
    (∀ venv, found = some venv ↔ ∃ name kind,
      IsFirst (fun other => ∃ kind, offers kind other) name ∧ offers kind name ∧
      (kind = .conda → ¬offers .pep405 name) ∧
      (ofDirectory site kind (dir.child name)).value files = some venv) ∧
    (found = none ↔ ∀ kind name, ¬offers kind name) ∧
    (∀ entries names, files.listing cwd dir = .ok entries → names.Perm entries →
      found = (firstVenv site VenvKind.all (subdirectories files cwd dir names)).value files) ∧
    (files.WellNamed → ∀ entries, files.listing cwd dir = .ok entries →
      (subdirectories files cwd dir entries).Pairwise fun p q => ¬q.Before p) ∧
    (dir.behindTilde? = none → ∀ kind name,
      offers kind name ↔ files.Lists cwd dir name ∧ InSight site files dir kind name) ∧
    (dir.text ≠ "" → ∀ kind name, Path.IsName name → InSight site files dir kind name →
      files.Lists cwd dir name ∨ refused) ∧
    (dir.text ≠ "" → ((find site .localDotVenv dir).value files).isSome = true →
      found.isSome = true ∨ refused) := by
  intro cwd found offers refused
  refine ⟨fun venv => value_find_eq_some_iff, value_find_eq_none_iff,
    fun entries names hlisting hperm => ?_,
    fun hfiles entries hlisting => pairwise_subdirectories hfiles hlisting,
    fun htilde kind name => offers_iff_inSight htilde,
    fun hdir kind name hname hsight => hsight.lists_or_refused hdir hname,
    fun hdir hlocal => (offers_or_refused_of_localDotVenv hdir hlocal).imp_left ?_⟩
  · rw [value_firstVenv_subdirectories, mergeSort_eq_of_perm hperm]
    exact value_find_of_listing hlisting
  · rintro ⟨name, hoffers⟩
    rw [← Option.ne_none_iff_isSome]
    exact fun hnone => value_find_eq_none_iff.mp hnone .pep405 name hoffers

/-- A project with an environment of the one kind and, behind it, one of both kinds. -/
def projectOfTwo : FileSystem :=
  let python := ("bin", Node.directory [("python", .file ⟨#[]⟩ true)])
  ⟨.directory [("project", .directory [
    ("b", .directory [python, ("pyvenv.cfg", .file ⟨#[]⟩ false)]),
    ("a", .directory [python, ("conda-meta", .directory []),
      ("pyvenv.cfg", .file ⟨#[]⟩ false)])])], []⟩

/-- The last of the two in the listing is found, as it is the first by name, and that not as an
environment of conda's. -/
theorem first_by_name_found :
    ∃ venv, (find quietSite .anySubdirectory ⟨"/project"⟩).value projectOfTwo = some venv ∧
      venv.kind = .pep405 ∧ venv.directory = ⟨"/project/a"⟩ := by
  have hlisting : projectOfTwo.listing quietSite.workingDirectory ⟨"/project"⟩ = .ok ["b", "a"] :=
    rfl
  have hplace : ((ofDirectory quietSite .pep405 ⟨"/project/a"⟩).value projectOfTwo).map
      (fun venv => (venv.kind, venv.directory)) = some (.pep405, ⟨"/project/a"⟩) := by
    decide +kernel
  obtain ⟨venv, hvenv, hplace⟩ := Option.map_eq_some_iff.mp hplace
  have hoffers : Offers quietSite projectOfTwo ⟨"/project"⟩ .pep405 "a" :=
    ⟨⟨_, hlisting, by decide⟩, by decide +kernel, hvenv ▸ rfl⟩
  refine ⟨venv, ((find_anySubdirectory_first quietSite projectOfTwo ⟨"/project"⟩).1 venv).mpr
    ⟨"a", .pep405, ⟨⟨.pep405, hoffers⟩, ?_⟩, hoffers, nofun, hvenv⟩, congrArg Prod.fst hplace,
    congrArg Prod.snd hplace⟩
  rintro other ⟨kind, ⟨entries, hentries, hother⟩, -, -⟩
  rw [hlisting] at hentries
  cases hentries
  rcases List.mem_pair.mp hother with rfl | rfl <;> exact bytes_le_iff.mpr (by decide)

/-- An environment in the working directory, and one in a directory that is named by a tilde. -/
def venvsOutOfReach : FileSystem :=
  let venv := Node.directory [("bin", .directory [("python", .file ⟨#[]⟩ true)]),
    ("pyvenv.cfg", .file ⟨#[]⟩ false)]
  ⟨.directory [(".venv", venv), ("~", .directory [("env", venv)])], []⟩

/-- The entries of a directory named by a tilde are looked for in the home directory, and those of
the working directory, where it is given by an empty path, are not listed. -/
theorem scan_misses_venvs :
    venvsOutOfReach.Lists quietSite.workingDirectory ⟨"~"⟩ "env" ∧
    InSight quietSite venvsOutOfReach ⟨"~"⟩ .pep405 "env" ∧
    (find quietSite .anySubdirectory ⟨"~"⟩).value venvsOutOfReach = none ∧
    ((find quietSite .localDotVenv ⟨""⟩).value venvsOutOfReach).isSome = true ∧
    (find quietSite .anySubdirectory ⟨""⟩).value venvsOutOfReach = none := by
  refine ⟨⟨["env"], rfl, by decide⟩, ⟨by decide +kernel, ⟨"/~/env"⟩, rfl, by decide +kernel⟩, ?_,
    by decide +kernel, ?_⟩
  · rw [← Option.isNone_iff_eq_none]
    decide +kernel
  · rw [← Option.isNone_iff_eq_none]
    decide +kernel

end Finder

end EnvScout
