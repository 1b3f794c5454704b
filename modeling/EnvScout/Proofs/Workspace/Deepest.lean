import EnvScout.Proofs.Venv.Describing
import EnvScout.Proofs.Workspace

/-!
Which workspace folder is found. It is the deepest of those that contain the file, going by the
normal forms of both. Two folders that contain one file are the same path if they are equally deep,
so neither the order in which the folders are listed nor how often each of them is has a say.
-/

namespace EnvScout.Workspace

open Search

theorem still_normalizeReporting (site : Site) (p : Path) : Still (normalizeReporting site p) := by
  rw [normalizeReporting]
  refine .bind (still_resolveExisting site p) fun resolved => ?_
  cases resolved with
  | some resolved => exact .pure _
  | none => exact .look _

theorem value_normalizeReporting (site : Site) (p : Path) (files : FileSystem) :
    (normalizeReporting site p).value files = normalize files site p := by
  rw [normalizeReporting, normalize]
  refine (value_still_bind (still_resolveExisting site p) site.host (fun resolved => ?_)
    files).trans ?_
  · cases resolved with
    | some resolved => exact .pure _
    | none => exact .look _
  · rw [value_resolveExisting]
    cases canonicalTilde files site p <;> rfl

theorem still_closestFolder (site : Site) (folders : List Path) (p : Path) :
    Still (do
      let folders ← folders.mapM (normalizeReporting site)
      pure (deepest folders p)) :=
  .bind (still_mapM (still_normalizeReporting site) folders) fun _ => .pure _

theorem still_findFolder (site : Site) (folders : List Path) (p : Path) :
    Still (findFolder site folders p) :=
  .bind (still_normalizeReporting site p) (still_closestFolder site folders)

theorem value_findFolder (site : Site) (folders : List Path) (p : Path) (files : FileSystem) :
    (findFolder site folders p).value files = folderOf files site folders p := by
  rw [findFolder, value_still_bind (still_normalizeReporting site p) site.host
    fun q => (still_closestFolder site folders q).through site.host,
    value_still_bind (still_mapM (still_normalizeReporting site) folders) site.host
      fun _ => .pure _,
    value_mapM (still_normalizeReporting site) site.host, value_normalizeReporting]
  simp only [value_normalizeReporting]
  rfl

variable {folders others : List Path} {p a b : Path}

/-- Folders that are the deepest in lists with the same members are the same path. -/
theorem IsDeepest.components_eq (ha : IsDeepest folders p a) (hb : IsDeepest others p b)
    (h : ∀ folder, folder ∈ folders ↔ folder ∈ others) : a.components = b.components := by
  refine components_eq_of_startsWith ha.contains hb.contains (le_antisymm ?_ ?_)
  · exact hb.deepest a ((h a).mp ha.mem) ha.contains
  · exact ha.deepest b ((h b).mpr hb.mem) hb.contains

theorem deepest_eq_none_congr (h : ∀ folder, folder ∈ folders ↔ folder ∈ others) :
    deepest folders p = none ↔ deepest others p = none := by
  rw [deepest_eq_none_iff, deepest_eq_none_iff]
  exact forall_congr' fun folder => imp_congr_left (h folder)

/-- The deepest folder is one and the same path in all lists that have the same members. -/
theorem components_deepest_congr (h : ∀ folder, folder ∈ folders ↔ folder ∈ others) :
    (deepest folders p).map Path.components = (deepest others p).map Path.components := by
  cases hfolders : deepest folders p with
  | none => rw [(deepest_eq_none_congr h).mp hfolders]
  | some a =>
      cases hothers : deepest others p with
      | none =>
          rw [(deepest_eq_none_congr h).mpr hothers] at hfolders
          cases hfolders
      | some b =>
          have hsame :=
            (isDeepest_of_deepest hfolders).components_eq (isDeepest_of_deepest hothers) h
          exact congrArg some hsame

/-- There is no folder just when none of those listed contains the file; otherwise it is one of
them, none that contains the file has more components, and however the same folders are listed, it
is the same path. -/
theorem findFolder_finds_deepest (site : Site) (world : World) (folders : List Path) (p : Path) :
    let normal := normalize world.files site
    let found := (findFolder site folders p world).1
    (found = none ↔ ∀ folder ∈ folders, ¬(normal folder).components <+: (normal p).components) ∧
    (∀ best, found = some best →
      (∃ folder ∈ folders, best = normal folder) ∧ best.components <+: (normal p).components ∧
      ∀ folder ∈ folders, (normal folder).components <+: (normal p).components →
        (normal folder).components.length ≤ best.components.length) ∧
    ∀ others : List Path, (∀ folder, folder ∈ others ↔ folder ∈ folders) →
      ((findFolder site others p world).1).map Path.components = found.map Path.components := by
  intro normal found
  have hvalue : ∀ listed, (findFolder site listed p world).1 =
      deepest (listed.map normal) (normal p) := fun listed => by
    rw [((still_findFolder site listed p).through site.host).value_eq, value_findFolder]
    rfl
  have hfound : found = deepest (folders.map normal) (normal p) := hvalue folders
  refine ⟨?_, fun best hbest => ?_, fun others h => ?_⟩
  · rw [hfound, deepest_eq_none_iff]
    simp only [List.forall_mem_map, ← startsWith_iff, Bool.not_eq_true]
  · obtain ⟨hmem, hcontains, hdeepest⟩ := isDeepest_of_deepest (hfound ▸ hbest)
    obtain ⟨folder, hfolder, rfl⟩ := List.mem_map.mp hmem
    refine ⟨⟨folder, hfolder, rfl⟩, startsWith_iff.mp hcontains, fun other hother h => ?_⟩
    exact hdeepest (normal other) (List.mem_map_of_mem hother) (startsWith_iff.mpr h)
  · rw [hvalue, hfound]
    refine components_deepest_congr fun folder => ?_
    simp only [List.mem_map, h]

example : deepest [⟨"/w/proj/"⟩, ⟨"/w"⟩, ⟨"/w//proj"⟩, ⟨"/w/pro"⟩] ⟨"/w/proj/a.py"⟩ =
    some ⟨"/w//proj"⟩ := by
  decide +kernel

end EnvScout.Workspace
