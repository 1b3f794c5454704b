import EnvScout.Proofs.Settings.Pointing

/-!
Which entries of the list of extra paths are the same path. Merging leaves entries that are pairwise
different as paths. Pointing at an environment compares the spelling of the packages with the
entries, so a list of different paths stays one unless an entry spells the path of the packages in
another way.
-/

namespace EnvScout.Settings

/-- The entries are pairwise different as paths. -/
def Apart (texts : List String) : Prop :=
  texts.Pairwise fun a b => ¬(Path.ofText a).Same (.ofText b)

instance (texts : List String) : Decidable (Apart texts) :=
  inferInstanceAs (Decidable (List.Pairwise _ _))

/-- The entries with the spelling of the packages, if any, in front where none of them is it. -/
def withSpelling (packages : Option Path) (texts : List String) : List String :=
  match packages with
  | some dir => if dir.shown ∈ texts then texts else dir.shown :: texts
  | none => texts

/-- Every entry that is the path of the packages spells it as they do. -/
def SpelledAlike (packages : Option Path) (texts : List String) : Prop :=
  ∀ dir, packages = some dir →
    dir.shown ∈ texts ∨ ∀ text ∈ texts, ¬(Path.ofText text).Same (.ofText dir.shown)

variable {members : Members} {items : List Json} {texts : List String}

theorem apart_iff_nodup : Apart texts ↔ (texts.map pathKey).Nodup := by
  rw [List.Nodup, List.pairwise_map]
  rfl

theorem apart_cons_iff {text : String} :
    Apart (text :: texts) ↔
      (∀ other ∈ texts, ¬(Path.ofText other).Same (.ofText text)) ∧ Apart texts := by
  rw [Apart, List.pairwise_cons]
  exact and_congr_left' (forall₂_congr fun _ _ => not_congr eq_comm)

theorem apart_merge (order : MergeOrder) (new current : List String) :
    Apart (merge order new current) := by
  rw [apart_iff_nodup, merge_eq]
  exact nodup_map_firstsBy _

theorem apart_withSpelling_iff (packages : Option Path) (h : Apart texts) :
    Apart (withSpelling packages texts) ↔ SpelledAlike packages texts := by
  cases packages with
  | none => exact iff_of_true h nofun
  | some dir =>
      simp only [SpelledAlike, Option.some.injEq, forall_eq']
      rw [withSpelling]
      by_cases hlisted : dir.shown ∈ texts
      · rw [if_pos hlisted]
        exact iff_of_true h (.inl hlisted)
      · rw [if_neg hlisted, or_iff_right hlisted, apart_cons_iff, and_iff_left h]

/-! The list in the settings. -/

theorem lists_of_extraPaths? (h : extraPaths? members = some items) :
    Lists (.object members) items := by
  rcases extraPaths?_cases members with ⟨listed, hlisted, hlists⟩ | ⟨hnone, -⟩
  · rw [h] at hlisted
    cases hlisted
    exact hlists
  · rw [h] at hnone
    cases hnone

theorem lists_object_iff : Lists (.object members) items ↔ extraPaths? members = some items :=
  ⟨extraPaths?_of_lists, lists_of_extraPaths?⟩

theorem string_mem_map_iff {text : String} :
    Json.string text ∈ texts.map Json.string ↔ text ∈ texts :=
  List.mem_map_of_injective fun _ _ => Json.string.inj

/-- Pointing puts the spelling of the packages into the list. -/
theorem lists_pointAt (venv : Venv) (packages : Option Path)
    (h : Lists (.object members) (texts.map Json.string)) :
    ∃ written, pointAt venv packages (.object members) = .object written ∧
      Lists (.object written) ((withSpelling packages texts).map Json.string) := by
  obtain ⟨written, hwritten, hpointed⟩ := pointed_pointAt venv packages members
  refine ⟨written, hwritten, ?_⟩
  have hkept : written.lookup "analysis" = members.lookup "analysis" →
      Lists (.object written) (texts.map Json.string) := by
    intro hanalysis
    rwa [lists_object_iff, extraPaths?_congr hanalysis, ← lists_object_iff]
  cases packages with
  | none => exact hkept (hpointed.analysis_of_no_packages rfl)
  | some dir =>
      rw [withSpelling]
      by_cases hlisted : dir.shown ∈ texts
      · rw [if_pos hlisted]
        exact hkept (hpointed.analysis_of_listed dir _ rfl h (string_mem_map_iff.mpr hlisted))
      · rw [if_neg hlisted]
        obtain ⟨analysis, hanalysis, hlist, -⟩ :=
          hpointed.analysis_of_new dir _ rfl h (mt string_mem_map_iff.mp hlisted)
        exact .listed hanalysis hlist

theorem lists_applyVenvReporting (site : Site) (world : World) (venv : Venv)
    (h : Lists (.object members) (texts.map Json.string)) :
    ∃ written, (applyVenvReporting site venv (.object members) world).1 = .object written ∧
      Lists (.object written) ((withSpelling
        (venv.sitePackages? world.files site.workingDirectory) texts).map Json.string) := by
  rw [((still_applyVenvReporting site venv (.object members)).through site.host).value_eq,
    value_applyVenvReporting, applyVenv]
  exact lists_pointAt venv _ h

/-- Merging leaves entries that are different paths. -/
theorem lists_inject (order : MergeOrder) (paths : List String)
    (h : Lists (.object members) items) :
    ∃ written, inject order paths (.object members) = .object written ∧
      Lists (.object written) ((mergedPaths order paths items).map Json.string) ∧
      Apart (mergedPaths order paths items) :=
  ⟨_, inject_of_extraPaths? order paths (extraPaths?_of_lists h),
    lists_of_extraPaths? (extraPaths?_setExtraPaths members _), apart_merge ..⟩

/-- A list has no second reading as a list of texts. -/
theorem texts_eq_of_lists {other : List String}
    (h : Lists (.object members) (texts.map Json.string))
    (hother : Lists (.object members) (other.map Json.string)) : texts = other := by
  have hitems := (extraPaths?_of_lists h).symm.trans (extraPaths?_of_lists hother)
  exact List.map_injective_iff.mpr (fun _ _ => Json.string.inj) (Option.some.inj hitems)

open Venv (packagesOfTwo quietSite)

/-- An environment at the later of two versions. -/
def laterOfTwo : Venv :=
  ⟨.pep405, ⟨"/env"⟩, "", "3.10.4", "", none⟩

theorem packages_laterOfTwo :
    laterOfTwo.sitePackages? packagesOfTwo quietSite.workingDirectory =
      some ⟨"/env/lib/python3.10/site-packages"⟩ := by
  decide +kernel

/-- Settings with one entry in the list. -/
def listing (text : String) : Members :=
  [("analysis", .object [("extraPaths", .array [.string text])])]

theorem lists_listing (text : String) :
    Lists (.object (listing text)) ([text].map Json.string) :=
  .listed rfl rfl

/-- Pointing settings whose entries are different paths at an environment keeps the entries and puts
the packages in front, if there are any and no entry has their spelling. The entries are different
paths then exactly if none of them spells the path of the packages in another way while none spells
it as they do; merging into the list makes them so in any case. -/
theorem applyVenvReporting_apart_iff (site : Site) (world : World) (venv : Venv)
    (h : Lists (.object members) (texts.map Json.string)) (hapart : Apart texts) :
    ∃ listed written, (applyVenvReporting site venv (.object members) world).1 = .object written ∧
      Lists (.object written) (listed.map Json.string) ∧
      listed = withSpelling (venv.sitePackages? world.files site.workingDirectory) texts ∧
      (Apart listed ↔
        SpelledAlike (venv.sitePackages? world.files site.workingDirectory) texts) ∧
      ∀ order paths, ∃ merged again, inject order paths (.object written) = .object again ∧
        Lists (.object again) (merged.map Json.string) ∧ Apart merged := by
  obtain ⟨written, hwritten, hlists⟩ := lists_applyVenvReporting site world venv h
  refine ⟨_, written, hwritten, hlists, rfl, apart_withSpelling_iff _ hapart, ?_⟩
  intro order paths
  exact ⟨_, lists_inject order paths hlists⟩

/-- The packages come in front of another path. -/
theorem packages_apart_from_sources :
    Lists (.object (listing "/src")) (["/src"].map Json.string) ∧ Apart ["/src"] ∧
      ∃ written, (applyVenvReporting quietSite laterOfTwo (.object (listing "/src"))
          (.ofFiles packagesOfTwo)).1 = .object written ∧
        Lists (.object written)
          (["/env/lib/python3.10/site-packages", "/src"].map Json.string) ∧
        Apart ["/env/lib/python3.10/site-packages", "/src"] := by
  have hlists := lists_listing "/src"
  have hapart : Apart ["/src"] := List.pairwise_singleton ..
  obtain ⟨listed, written, hwritten, hlisted, heq, hiff, -⟩ :=
    applyVenvReporting_apart_iff quietSite (.ofFiles packagesOfTwo) laterOfTwo hlists hapart
  rw [World.ofFiles, packages_laterOfTwo] at heq hiff
  subst heq
  refine ⟨hlists, hapart, written, hwritten, hlisted, hiff.mpr ?_⟩
  rintro _ ⟨⟩
  exact .inr (by decide +kernel)

/-- With a separator behind it the path of the packages is another text, and they are listed
twice. -/
theorem packages_listed_twice :
    ¬∀ (site : Site) (world : World) (venv : Venv) (members : Members) (texts : List String),
      Lists (.object members) (texts.map Json.string) → Apart texts →
      ∃ listed written, (applyVenvReporting site venv (.object members) world).1 =
          .object written ∧
        Lists (.object written) (listed.map Json.string) ∧ Apart listed := by
  intro hall
  have hlists := lists_listing "/env/lib/python3.10/site-packages/"
  obtain ⟨listed, written, hwritten, hlisted, hapart⟩ :=
    hall quietSite (.ofFiles packagesOfTwo) laterOfTwo _ _ hlists (List.pairwise_singleton ..)
  obtain ⟨again, hagain, htwice⟩ :=
    lists_applyVenvReporting quietSite (.ofFiles packagesOfTwo) laterOfTwo hlists
  rw [hwritten] at hagain
  cases hagain
  rw [World.ofFiles, packages_laterOfTwo] at htwice
  rw [texts_eq_of_lists hlisted htwice] at hapart
  exact absurd hapart (by decide +kernel)

end EnvScout.Settings
