import EnvScout.Proofs.Settings.ExtraPaths
import EnvScout.Proofs.Venv.Packages

/-!
Pointing settings at an environment. At most two members are touched: the interpreter, where none is
set, and the list of extra paths, where there is a place for it and the packages are not in it yet.
Settings that are pointed at the environment are settled, so pointing them there again changes
nothing.
-/

namespace EnvScout

open Search

theorem Json.others_comm (key other : String) (members : List (String × Json)) :
    others key (others other members) = others other (others key members) := by
  simp only [others, List.filter_filter]
  exact List.filter_congr fun member _ => Bool.and_comm ..

namespace Settings

/-- No interpreter is set, or only to null or to an empty text. -/
def Unset (members : Members) : Prop :=
  members.lookup "pythonPath" = none ∨ members.lookup "pythonPath" = some .null ∨
    members.lookup "pythonPath" = some (.string "")

/-- What the members of settings come to that are pointed at an environment with the given packages,
if it has any. -/
structure Pointed (venv : Venv) (packages : Option Path) (members written : Members) : Prop where
  others : Json.others "pythonPath" (Json.others "analysis" written) =
    Json.others "pythonPath" (Json.others "analysis" members)
  python_of_unset : Unset members →
    written.lookup "pythonPath" = some (.string venv.python.shown)
  python_of_set : ¬Unset members → written.lookup "pythonPath" = members.lookup "pythonPath"
  analysis_of_no_packages : packages = none →
    written.lookup "analysis" = members.lookup "analysis"
  analysis_of_unlistable : Unlistable (.object members) →
    written.lookup "analysis" = members.lookup "analysis"
  analysis_of_listed : ∀ dir items, packages = some dir → Lists (.object members) items →
    Json.string dir.shown ∈ items → written.lookup "analysis" = members.lookup "analysis"
  analysis_of_new : ∀ dir items, packages = some dir → Lists (.object members) items →
    Json.string dir.shown ∉ items → ∃ analysis,
      written.lookup "analysis" = some (.object analysis) ∧
      analysis.lookup "extraPaths" = some (.array (.string dir.shown :: items)) ∧
      Json.others "extraPaths" analysis = Json.others "extraPaths" (analysisOf members)

variable {members : Members} {items : List Json} {dir python : Path}

theorem isText_iff {text : String} {value : Json} :
    isText text value = true ↔ value = .string text := by
  cases value <;> simp [isText]

theorem any_isText_iff {text : String} :
    items.any (isText text) = true ↔ .string text ∈ items := by
  simp [List.any_eq_true, isText_iff]

theorem extraPaths?_congr {other : Members}
    (h : members.lookup "analysis" = other.lookup "analysis") :
    extraPaths? members = extraPaths? other := by
  rw [extraPaths?, h, extraPaths?]

theorem extraPaths?_of_lists (h : Lists (.object members) items) :
    extraPaths? members = some items := by
  cases h with
  | listed hanalysis hlist => simp [extraPaths?, hanalysis, hlist]
  | null hanalysis hlist => simp [extraPaths?, hanalysis, hlist]
  | unlisted hanalysis hlist => simp [extraPaths?, hanalysis, hlist]
  | unanalysed hanalysis => simp [extraPaths?, hanalysis]

theorem extraPaths?_of_unlistable (h : Unlistable (.object members)) :
    extraPaths? members = none := by
  cases h with
  | settings h => exact absurd rfl (h members)
  | @analysis _ value hanalysis h =>
      cases value with
      | object analysis => exact absurd rfl (h analysis)
      | _ => simp [extraPaths?, hanalysis]
  | @list _ analysis value hanalysis hlist hnull h =>
      cases value with
      | null => exact absurd rfl hnull
      | array items => exact absurd rfl (h items)
      | _ => simp [extraPaths?, hanalysis, hlist]

/-! The packages in the list. -/

/-- The list has the packages, if there is a list at all. -/
def Settled (dir : Path) (members : Members) : Prop :=
  ∀ items, extraPaths? members = some items → Json.string dir.shown ∈ items

theorem settled_of_unlistable (dir : Path) (h : Unlistable (.object members)) :
    Settled dir members := by
  intro items hitems
  rw [extraPaths?_of_unlistable h] at hitems
  cases hitems

theorem settled_iff_of_lists (h : Lists (.object members) items) :
    Settled dir members ↔ Json.string dir.shown ∈ items := by
  simp [Settled, extraPaths?_of_lists h]

/-- Settled members are left alone; others have a list, and the packages are put in front of it. -/
theorem withPackages_cases (dir : Path) (members : Members) :
    Settled dir members ∧ withPackages dir members = members ∨
      ∃ items, extraPaths? members = some items ∧ Json.string dir.shown ∉ items ∧
        withPackages dir members = setExtraPaths members (.string dir.shown :: items) := by
  rw [withPackages, Settled]
  cases extraPaths? members with
  | none => exact .inl ⟨nofun, rfl⟩
  | some items =>
      by_cases hlisted : items.any (isText dir.shown) = true
      · refine .inl ⟨?_, if_pos hlisted⟩
        rintro _ ⟨⟩
        exact any_isText_iff.mp hlisted
      · exact .inr ⟨items, rfl, fun hmem => hlisted (any_isText_iff.mpr hmem), if_neg hlisted⟩

theorem withPackages_of_settled (h : Settled dir members) : withPackages dir members = members := by
  rcases withPackages_cases dir members with ⟨-, hkept⟩ | ⟨items, hitems, hnew, -⟩
  · exact hkept
  · exact absurd (h items hitems) hnew

theorem settled_withPackages (dir : Path) (members : Members) :
    Settled dir (withPackages dir members) := by
  rcases withPackages_cases dir members with ⟨hsettled, hkept⟩ | ⟨items, -, -, hset⟩
  · rwa [hkept]
  · intro listed hlisted
    rw [hset, extraPaths?_setExtraPaths] at hlisted
    cases hlisted
    exact List.mem_cons_self

theorem others_withPackages (dir : Path) (members : Members) :
    Json.others "analysis" (withPackages dir members) = Json.others "analysis" members := by
  rcases withPackages_cases dir members with ⟨-, hkept⟩ | ⟨items, -, -, hset⟩
  · rw [hkept]
  · rw [hset, setExtraPaths_eq, Json.others_setMember]

theorem lookup_withPackages (dir : Path) (members : Members) {key : String}
    (h : key ≠ "analysis") : (withPackages dir members).lookup key = members.lookup key := by
  rcases withPackages_cases dir members with ⟨-, hkept⟩ | ⟨items, -, -, hset⟩
  · rw [hkept]
  · rw [hset, setExtraPaths_eq, Json.lookup_setMember, if_neg h]

/-- Packages that are new to the list come first in it, and the rest of the object stays. -/
theorem relisted_withPackages (h : Lists (.object members) items)
    (hnew : Json.string dir.shown ∉ items) :
    Relisted (.object members) (.object (withPackages dir members))
      (.string dir.shown :: items) := by
  rcases withPackages_cases dir members with ⟨hsettled, -⟩ | ⟨listed, hlisted, -, hset⟩
  · exact absurd ((settled_iff_of_lists h).mp hsettled) hnew
  · rw [extraPaths?_of_lists h] at hlisted
    cases hlisted
    rw [hset]
    exact relisted_setExtraPaths members _

/-! The interpreter. -/

theorem hasPython_eq_true_iff : hasPython members = true ↔ ¬Unset members := by
  rw [← Bool.not_eq_false, hasPython_eq_false_iff, Unset]

theorem withPython_of_set (h : ¬Unset members) : withPython python members = members := by
  rw [withPython, hasPython_eq_true_iff.mpr h, if_pos rfl]

theorem withPython_of_unset (h : Unset members) :
    withPython python members = Json.setMember "pythonPath" (.string python.shown) members := by
  rw [withPython, hasPython_eq_false_iff.mpr h, if_neg Bool.false_ne_true]

theorem lookup_withPython_of_ne (python : Path) (members : Members) {key : String}
    (h : key ≠ "pythonPath") : (withPython python members).lookup key = members.lookup key := by
  rw [withPython]
  split
  · rfl
  · rw [Json.lookup_setMember, if_neg h]

theorem others_withPython (python : Path) (members : Members) :
    Json.others "pythonPath" (withPython python members) = Json.others "pythonPath" members := by
  rw [withPython]
  split
  · rfl
  · exact Json.others_setMember ..

theorem withPython_withPython (python : Path) (members : Members) :
    withPython python (withPython python members) = withPython python members := by
  by_cases hunset : Unset members
  · by_cases hstill : Unset (withPython python members)
    · rw [withPython_of_unset hstill, withPython_of_unset hunset, Json.setMember_setMember]
    · exact withPython_of_set hstill
  · rw [withPython_of_set hunset, withPython_of_set hunset]

/-- The interpreter has no say in where the list is. -/
theorem Settled.withPython (h : Settled dir members) (python : Path) :
    Settled dir (withPython python members) := by
  intro items hitems
  rw [extraPaths?_congr (lookup_withPython_of_ne python members (by decide))] at hitems
  exact h items hitems

/-! Both of them. -/

/-- The members with the packages, if any, in the list. -/
def withPackagesOf : Option Path → Members → Members
  | some dir, members => withPackages dir members
  | none, members => members

theorem pointAt_object (venv : Venv) (packages : Option Path) (members : Members) :
    pointAt venv packages (.object members) =
      .object (withPython venv.python (withPackagesOf packages members)) := by
  cases packages <;> rfl

theorem pointAt_pointAt (venv : Venv) (packages : Option Path) (settings : Json) :
    pointAt venv packages (pointAt venv packages settings) = pointAt venv packages settings := by
  cases settings with
  | object members =>
      simp only [pointAt_object]
      cases packages with
      | none => rw [withPackagesOf, withPackagesOf, withPython_withPython]
      | some dir =>
          -- The packages are in the list by now, and the interpreter set beside it is no matter.
          have hsettled : Settled dir (withPython venv.python (withPackages dir members)) :=
            (settled_withPackages dir members).withPython venv.python
          rw [withPackagesOf, withPackagesOf, withPackages_of_settled hsettled,
            withPython_withPython]
  | _ => rfl

theorem pointed_pointAt (venv : Venv) (packages : Option Path) (members : Members) :
    ∃ written, pointAt venv packages (.object members) = .object written ∧
      Pointed venv packages members written := by
  refine ⟨_, pointAt_object venv packages members, ?_⟩
  have hpython : (withPackagesOf packages members).lookup "pythonPath" =
      members.lookup "pythonPath" := by
    cases packages with
    | none => rfl
    | some dir => exact lookup_withPackages dir members (by decide)
  have hunset : Unset (withPackagesOf packages members) ↔ Unset members := by
    rw [Unset, hpython, Unset]
  have hanalysis : (withPython venv.python (withPackagesOf packages members)).lookup "analysis" =
      (withPackagesOf packages members).lookup "analysis" :=
    lookup_withPython_of_ne _ _ (by decide)
  have hkept : (∀ dir, packages = some dir → Settled dir members) →
      (withPython venv.python (withPackagesOf packages members)).lookup "analysis" =
        members.lookup "analysis" := by
    intro hsettled
    rw [hanalysis]
    cases packages with
    | none => rfl
    | some dir => rw [withPackagesOf, withPackages_of_settled (hsettled dir rfl)]
  constructor
  case others =>
    rw [Json.others_comm, others_withPython, Json.others_comm]
    cases packages with
    | none => rfl
    | some dir => exact congrArg (Json.others "pythonPath") (others_withPackages dir members)
  case python_of_unset =>
    intro h
    rw [withPython_of_unset (hunset.mpr h), Json.lookup_setMember, if_pos rfl]
  case python_of_set =>
    intro h
    rw [withPython_of_set (mt hunset.mp h), hpython]
  case analysis_of_no_packages =>
    rintro rfl
    exact hkept nofun
  case analysis_of_unlistable =>
    intro h
    exact hkept fun dir _ => settled_of_unlistable dir h
  case analysis_of_listed =>
    rintro dir items rfl h hmem
    refine hkept ?_
    rintro _ ⟨⟩
    exact (settled_iff_of_lists h).mpr hmem
  case analysis_of_new =>
    rintro dir items rfl h hnew
    rw [hanalysis]
    cases relisted_withPackages h hnew with
    | intro hobject hlist _ hothers => exact ⟨_, hobject, hlist, hothers⟩

/-- Settings without an interpreter have that of the environment they are pointed at. -/
theorem python_pointAt (venv : Venv) {members : Members} (packages : Option Path)
    (h : hasPython members = false) :
    ∃ written, pointAt venv packages (.object members) = .object written ∧
      written.lookup "pythonPath" = some (.string venv.python.shown) := by
  obtain ⟨written, hwritten, hpointed⟩ := pointed_pointAt venv packages members
  exact ⟨written, hwritten, hpointed.python_of_unset (hasPython_eq_false_iff.mp h)⟩

theorem still_applyVenvReporting (site : Site) (venv : Venv) (settings : Json) :
    Still (applyVenvReporting site venv settings) := by
  cases settings with
  | object members => exact .bind (venv.still_sitePackages site) fun _ => .pure _
  | _ => exact .bind (.report _) fun _ => .pure _

theorem value_applyVenvReporting (site : Site) (venv : Venv) (settings : Json)
    (files : FileSystem) :
    (applyVenvReporting site venv settings).value files =
      applyVenv files site.workingDirectory venv settings := by
  cases settings with
  | object members =>
      rw [applyVenv, ← venv.value_sitePackages]
      exact value_still_bind (venv.still_sitePackages site) site.host (fun _ => .pure _) files
  | _ => rfl

/-- Settings that are no object stay as they are. In an object nothing changes but the interpreter,
which is that of the environment where none was set, and the list of extra paths, where the packages
come first if there is a place for the list and it did not have them. Doing it again changes
nothing. -/
theorem applyVenvReporting_settles (site : Site) (world : World) (venv : Venv) (settings : Json) :
    let applied := (applyVenvReporting site venv settings world).1
    ((applyVenvReporting site venv settings >>= applyVenvReporting site venv) world).1 = applied ∧
    ((∀ members, settings ≠ .object members) → applied = settings) ∧
    ∀ members, settings = .object members → ∃ written, applied = .object written ∧
      Pointed venv (venv.sitePackages? world.files site.workingDirectory) members written := by
  intro applied
  have hvalue : ∀ (given : Json) (now : World), now.files = world.files →
      (applyVenvReporting site venv given now).1 =
        pointAt venv (venv.sitePackages? world.files site.workingDirectory) given := by
    intro given now hnow
    rw [((still_applyVenvReporting site venv given).through site.host).value_eq,
      value_applyVenvReporting, hnow, applyVenv]
  have happlied : applied =
      pointAt venv (venv.sitePackages? world.files site.workingDirectory) settings :=
    hvalue settings world rfl
  refine ⟨?_, fun hother => ?_, ?_⟩
  · have hlater := ((still_applyVenvReporting site venv settings).apply_eq world).1
    calc ((applyVenvReporting site venv settings >>= applyVenvReporting site venv) world).1
        = (applyVenvReporting site venv applied
            (applyVenvReporting site venv settings world).2).1 := rfl
      _ = pointAt venv (venv.sitePackages? world.files site.workingDirectory) applied :=
          hvalue applied _ hlater
      _ = applied := by rw [happlied, pointAt_pointAt]
  · cases settings with
    | object members => exact absurd rfl (hother members)
    | _ => exact happlied
  · rintro members rfl
    rw [happlied]
    exact pointed_pointAt venv _ members

end Settings

end EnvScout
