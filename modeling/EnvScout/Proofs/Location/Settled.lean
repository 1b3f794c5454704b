import EnvScout.Proofs.Files.Descent
import EnvScout.Proofs.Location
import EnvScout.Proofs.Path.Front
import EnvScout.Proofs.Venv.Describing

/-!
Paths that are in their final form. What a path is made absolute to stays what it is when it is made
absolute again: a canonical form is its own, and a path that leads nowhere leads nowhere from the
root either, once the working directory is written in front of it. Only for the empty path, which
leads nowhere, is that the working directory itself.
-/

namespace EnvScout

namespace Path

variable {names : List String} {p : Path}

/-- A relative path goes on behind the names in front of it. -/
theorem pieces_join_ofNames (hnames : ∀ name ∈ names, IsName name) (hp : p.isAbsolute = false) :
    ((ofNames names).join p).pieces = "" :: (names ++ p.pieces) := by
  rw [join, hp, if_neg Bool.false_ne_true, if_neg (text_ofNames_ne names)]
  by_cases hnil : names = []
  · subst hnil
    rw [if_pos (by rfl)]
    exact pieces_slash p.text
  · rw [if_neg (getLast?_ofNames hnames hnil), pieces_append_slash, pieces_ofNames hnames,
      if_neg hnil]
    rfl

/-- Going on by the empty path only adds a separator at the end. -/
theorem same_join_empty (hnames : ∀ name ∈ names, IsName name) :
    ((ofNames names).join ⟨""⟩).Same (ofNames names) := by
  have hjoined : ((ofNames names).join ⟨""⟩).pieces = "" :: (names ++ [""]) :=
    pieces_join_ofNames hnames rfl
  have hvoid : [""].filterMap Component.ofPiece? = [] := rfl
  have hend : (names ++ [""]).filterMap Component.ofPiece? =
      (if names = [] then [""] else names).filterMap Component.ofPiece? := by
    rw [List.filterMap_append, hvoid, List.append_nil]
    split
    · rename_i hnil
      rw [hnil]
      rfl
    · rfl
  rw [Same, components_of_pieces hjoined fun _ => List.append_ne_nil_of_right_ne_nil _ (by simp),
    components_of_pieces (pieces_ofNames hnames) fun _ => ?_, hend]
  split
  · exact List.cons_ne_nil _ _
  · assumption

end Path

namespace FileSystem

variable {files : FileSystem} {cwd names : List String} {p : Path} {landing : Landing}

theorem directory_of_here (h : files.isDirectory cwd ⟨"."⟩ = true) :
    files.shape? cwd = some .directory := by
  obtain ⟨found, hlocate, -⟩ := isDirectory_iff.mp h
  have hwalk : files.walk (files.follow 39) cwd ["."] = .ok (.found found) :=
    (land_eq_ok_iff.mp (locate_eq_ok_iff.mp hlocate)).2
  rw [walk_cons] at hwalk
  split at hwalk
  · assumption
  · cases hwalk
  · cases hwalk

/-- From the root a walk that starts with the names of a directory goes on behind them. -/
theorem follow_from_root (hnames : ∀ name ∈ names, Path.IsName name)
    (hdir : files.shape? names = some .directory) (links : Nat) (rest : List String) :
    files.follow links [] ("" :: (names ++ rest)) = files.follow links names rest := by
  have hwalk : ∀ jump, files.walk jump [] ("" :: (names ++ rest)) = files.walk jump names rest := by
    intro jump
    rw [walk_cons, directory_root_of_directory hdir]
    dsimp only
    rw [if_pos (show Path.isVoid "" = true from rfl), walk_append_of_directory hnames hdir,
      List.nil_append]
  cases links with
  | zero => exact hwalk _
  | succ links => exact hwalk _

/-- With the working directory written in front of it, a path leads where it led before, if it is
not too long for that. -/
theorem land_of_land_join (hnames : ∀ name ∈ cwd, Path.IsName name)
    (hdir : files.shape? cwd = some .directory) (hp : p.isAbsolute = false) (hne : p.text ≠ "")
    (h : files.land cwd ((Path.ofNames cwd).join p) = .ok landing) :
    files.land cwd p = .ok landing := by
  obtain ⟨htell, hfollow⟩ := land_eq_ok_iff.mp h
  have hstart : startOf cwd ((Path.ofNames cwd).join p) = [] := by
    rw [startOf, if_pos (Path.isAbsolute_join (Path.isAbsolute_ofNames cwd) p)]
  rw [hstart, Path.pieces_join_ofNames hnames hp, follow_from_root hnames hdir] at hfollow
  obtain ⟨written, hwritten⟩ := Path.exists_join_eq (Path.isAbsolute_ofNames cwd)
  rw [hwritten p hp] at htell
  have hshort := htell.short
  rw [String.length_append] at hshort
  refine land_eq_ok_iff.mpr ⟨⟨fun hmem => htell.noNul ?_, hne, by omega⟩, ?_⟩
  · rw [String.toList_append]
    exact List.mem_append_right _ hmem
  · rw [startOf, hp, if_neg Bool.false_ne_true]
    exact hfollow

theorem canonical_of_canonical_join {resolved : Path} (hnames : ∀ name ∈ cwd, Path.IsName name)
    (hdir : files.shape? cwd = some .directory) (hp : p.isAbsolute = false) (hne : p.text ≠ "")
    (h : files.canonical cwd ((Path.ofNames cwd).join p) = .ok resolved) :
    files.canonical cwd p = .ok resolved := by
  obtain ⟨names, hlocate, hresolved⟩ := canonical_eq_ok_iff.mp h
  have hland := land_of_land_join hnames hdir hp hne (locate_eq_ok_iff.mp hlocate)
  exact canonical_eq_ok_iff.mpr ⟨names, locate_eq_ok_iff.mpr hland, hresolved⟩

end FileSystem

/-! Making a path absolute. -/

section Absolute

variable {files : FileSystem} {cwd : List String} {p resolved : Path}

theorem absolutize_of_canonical (h : files.canonical cwd p = .ok resolved) :
    absolutize files cwd p = resolved := by
  rw [absolutize, h]

theorem absolutize_of_isAbsolute {e : FileError} (h : files.canonical cwd p = .error e)
    (hp : p.isAbsolute = true) : absolutize files cwd p = p := by
  rw [absolutize, h]
  exact if_pos hp

theorem absolutize_of_relative {e : FileError} (hcwd : files.isDirectory cwd ⟨"."⟩ = true)
    (h : files.canonical cwd p = .error e) (hp : p.isAbsolute = false) :
    absolutize files cwd p = (Path.ofNames cwd).join p := by
  rw [absolutize, h]
  dsimp only
  rw [hp, if_neg Bool.false_ne_true, if_pos hcwd]

theorem canonical_join_empty {files : FileSystem} (hnames : ∀ name ∈ cwd, Path.IsName name)
    (hdir : files.shape? cwd = some .directory)
    (h : files.canonical cwd ((Path.ofNames cwd).join ⟨""⟩) = .ok resolved) :
    resolved = Path.ofNames cwd := by
  obtain ⟨names, hlocate, rfl, -⟩ := FileSystem.canonical_eq_ok_iff.mp h
  obtain ⟨-, hfollow⟩ := FileSystem.land_eq_ok_iff.mp (FileSystem.locate_eq_ok_iff.mp hlocate)
  rw [FileSystem.startOf, if_pos (Path.isAbsolute_join (Path.isAbsolute_ofNames cwd) _),
    Path.pieces_join_ofNames hnames rfl, FileSystem.follow_from_root hnames hdir] at hfollow
  have hwalk : files.walk (files.follow 39) cwd [""] = .ok (.found names) := hfollow
  rw [FileSystem.walk_cons, hdir] at hwalk
  cases hwalk
  rfl

/-- Making a path absolute twice makes the same path of it as making it absolute once. -/
theorem same_absolutize_absolutize (hfiles : files.WellNamed)
    (hcwd : files.isDirectory cwd ⟨"."⟩ = true) (p : Path) :
    (absolutize files cwd (absolutize files cwd p)).Same (absolutize files cwd p) := by
  cases hcanonical : files.canonical cwd p with
  | ok resolved =>
      rw [absolutize_of_canonical hcanonical, absolutize_of_canonical
        (FileSystem.canonical_of_canonical hfiles hcanonical cwd)]
      rfl
  | error e =>
      cases hp : p.isAbsolute with
      | true =>
          rw [absolutize_of_isAbsolute hcanonical hp, absolutize_of_isAbsolute hcanonical hp]
          rfl
      | false =>
          have hdir := FileSystem.directory_of_here hcwd
          have hnames := hfiles.isName_of_directory hdir
          rw [absolutize_of_relative hcwd hcanonical hp]
          cases hjoined : files.canonical cwd ((Path.ofNames cwd).join p) with
          | error e =>
              rw [absolutize_of_isAbsolute hjoined
                (Path.isAbsolute_join (Path.isAbsolute_ofNames cwd) p)]
              rfl
          | ok resolved =>
              by_cases hempty : p.text = ""
              · obtain rfl : p = ⟨""⟩ := congrArg Path.mk hempty
                rw [absolutize_of_canonical hjoined, canonical_join_empty hnames hdir hjoined]
                exact (Path.same_join_empty hnames).symm
              · rw [FileSystem.canonical_of_canonical_join hnames hdir hp hempty hjoined]
                  at hcanonical
                cases hcanonical

end Absolute

/-! Looking up an existing path. -/

section Existing

variable {files : FileSystem} {site : Site} {p resolved : Path}

/-- What is at the path, if anything is, has a canonical form. Only a place too deep for any
absolute path has none. -/
def FileSystem.Canonicalizes (files : FileSystem) (cwd : List String) (p : Path) : Prop :=
  files.exists? cwd p = true → ∃ resolved, files.canonical cwd p = .ok resolved

theorem FileSystem.canonicalizes_iff {cwd : List String} :
    files.Canonicalizes cwd p ↔ ∀ names, files.locate cwd p = .ok names →
      (Path.ofNames names).text.length ≤ 4095 := by
  constructor
  · intro h names hlocate
    obtain ⟨resolved, hresolved⟩ := h (exists?_of_locate hlocate)
    obtain ⟨found, hfound, rfl, hshort⟩ := canonical_eq_ok_iff.mp hresolved
    rw [hlocate] at hfound
    cases hfound
    exact hshort
  · intro h hthere
    rw [exists?, node?] at hthere
    split at hthere
    · rename_i names hlocate
      exact ⟨_, canonical_eq_ok_iff.mpr ⟨names, hlocate, rfl, h names hlocate⟩⟩
    · cases hthere

theorem resolveExisting_eq_some_iff (site : Site) (p : Path) (world : World) :
    (resolveExisting site p world).1 = some resolved ↔
      canonicalTilde world.files site p = .ok resolved := by
  rw [((still_resolveExisting site p).through site.host).value_eq, value_resolveExisting]
  cases canonicalTilde world.files site p <;> simp [Except.toOption]

/-- The canonical form of a path that is there is what the path is made absolute to. -/
theorem exists_of_canonical {cwd : List String} (h : files.canonical cwd p = .ok resolved) :
    files.exists? cwd p = true ∧ absolutize files cwd p = resolved := by
  obtain ⟨names, hlocate, -⟩ := FileSystem.canonical_eq_ok_iff.mp h
  exact ⟨FileSystem.exists?_of_locate hlocate, absolutize_of_canonical h⟩

end Existing

/-- Every path can be made absolute, and making it so again gives the same path. What an existing
path is resolved to is absolute, is resolved to itself and made absolute to itself. Without a tilde
in front, what a path is resolved to is what it is made absolute to, provided that it is there; as
long as what is there has a canonical form, that is all it takes. -/
theorem normal_forms_settled (site : Site) (world : World) (hfiles : world.files.WellNamed)
    (hcwd : world.files.isDirectory site.workingDirectory ⟨"."⟩ = true) (p : Path) :
    let absolute := absolutize world.files site.workingDirectory
    let resolved := fun q => (resolveExisting site q world).1
    let isThere := world.files.exists? site.workingDirectory p
    (absolute p).isAbsolute = true ∧
      (absolute (absolute p)).Same (absolute p) ∧
      (∀ r, resolved p = some r →
        r.isAbsolute = true ∧ resolved r = some r ∧ absolute r = r) ∧
      (p.text.toList.head? ≠ some '~' →
        (∀ r, resolved p = some r → isThere = true ∧ absolute p = r) ∧
        (world.files.Canonicalizes site.workingDirectory p ↔
          ∀ r, resolved p = some r ↔ isThere = true ∧ absolute p = r)) := by
  intro absolute resolved isThere
  refine ⟨isAbsolute_absolutize hcwd p, same_absolutize_absolutize hfiles hcwd p,
    fun r hr => ?_, fun htilde => ?_⟩
  · have hcanonical := (resolveExisting_eq_some_iff site p world).mp hr
    exact ⟨FileSystem.isAbsolute_of_canonical hcanonical,
      (resolveExisting_eq_some_iff site r world).mpr
        (canonicalTilde_of_canonical hfiles hcanonical site),
      absolutize_of_canonical
        (FileSystem.canonical_of_canonical hfiles hcanonical site.workingDirectory)⟩
  · have hresolved : ∀ r, resolved p = some r ↔
        world.files.canonical site.workingDirectory p = .ok r := fun r => by
      rw [resolveExisting_eq_some_iff site p world, canonicalTilde,
        expandTilde_of_head?_ne htilde]
    have hthere : ∀ r, resolved p = some r → isThere = true ∧ absolute p = r :=
      fun r hr => exists_of_canonical ((hresolved r).mp hr)
    refine ⟨hthere, fun hcanonical r => ⟨hthere r, ?_⟩, fun hall hp => ?_⟩
    · rintro ⟨hp, rfl⟩
      obtain ⟨r, hr⟩ := hcanonical hp
      rw [hresolved, hr]
      exact congrArg Except.ok (absolutize_of_canonical hr).symm
    · exact ⟨absolute p, (hresolved _).mp ((hall _).mpr ⟨hp, rfl⟩)⟩

/-- A working directory with a project in it and a link to the project. -/
def linkedProject : FileSystem :=
  ⟨.directory [("w", .directory [("proj", .empty), ("link", .link ⟨"proj"⟩)])], []⟩

def linkedProjectSite : Site where
  host := Script.host ⟨[], [], [], []⟩
  home := some ⟨"/home/u"⟩
  workingDirectory := ["w"]
  temporaryDirectory := ⟨"/tmp"⟩
  temporaryMark := ""

theorem wellNamed_linkedProject : linkedProject.WellNamed :=
  .cons (by decide) (.cons (by decide) .nil (.cons (by decide) (.link _) .nil)) .nil

/-- The link is resolved to the project, in the form that it is made absolute to. -/
theorem linked_project_settled :
    linkedProject.isDirectory linkedProjectSite.workingDirectory ⟨"."⟩ = true ∧
      (resolveExisting linkedProjectSite ⟨"link"⟩ (World.ofFiles linkedProject)).1 =
        some ⟨"/w/proj"⟩ := by
  have hcwd : linkedProject.isDirectory linkedProjectSite.workingDirectory ⟨"."⟩ = true := by
    decide +kernel
  have hcanonical : linkedProject.canonical linkedProjectSite.workingDirectory ⟨"link"⟩ =
      .ok ⟨"/w/proj"⟩ := by
    decide +kernel
  obtain ⟨-, -, -, hplain⟩ := normal_forms_settled linkedProjectSite (World.ofFiles linkedProject)
    wellNamed_linkedProject hcwd ⟨"link"⟩
  obtain ⟨-, hiff⟩ := hplain (by decide)
  exact ⟨hcwd, (hiff.mp (fun _ => ⟨_, hcanonical⟩) ⟨"/w/proj"⟩).mpr
    (exists_of_canonical hcanonical)⟩

end EnvScout
