import EnvScout.Config.Basic
import EnvScout.Proofs.Embedded
import EnvScout.Proofs.Text.Blank

/-!
Configurations without a fault: no name of a finder is blank, and the application is one that is
known, with something for its binary. So applying a configuration can fail, but never for the name
of its application.
-/

namespace EnvScout.Config

theorem fault?_eq_none_iff {config : Config} :
    config.fault? = none ↔ (∀ name ∈ config.finderNames, Text.trimmed name ≠ "") ∧
      ∀ setting, config.application = some setting →
        (setting.name = "blender" ∨ setting.name = "gdb") ∧ Text.trimmed setting.binary ≠ "" := by
  rw [fault?]
  cases hany : config.finderNames.any Text.isBlankText with
  | true =>
      obtain ⟨name, hmem, hblank⟩ := List.any_eq_true.mp hany
      exact iff_of_false (by simp) fun h => h.1 name hmem (Text.isBlankText_iff.mp hblank)
  | false =>
      have hnames : ∀ name ∈ config.finderNames, Text.trimmed name ≠ "" := fun name hmem hempty =>
        List.any_eq_false.mp hany name hmem (Text.isBlankText_iff.mpr hempty)
      rw [if_neg Bool.false_ne_true]
      cases config.application with
      | none => exact iff_of_true rfl ⟨hnames, fun _ h => by cases h⟩
      | some setting =>
          simp only [Option.some.injEq, forall_eq', ← Application.isSome_ofName?_iff]
          cases Application.ofName? setting.name with
          | none => simp
          | some application =>
              cases hblank : Text.isBlankText setting.binary with
              | true => simp [Text.isBlankText_iff.mp hblank]
              | false =>
                  have hbinary : Text.trimmed setting.binary ≠ "" := fun hempty =>
                    Bool.eq_false_iff.mp hblank (Text.isBlankText_iff.mpr hempty)
                  exact iff_of_true (if_neg Bool.false_ne_true) ⟨hnames, rfl, hbinary⟩

theorem validate_eq_ok_iff {config : Config} : config.validate = .ok () ↔ config.fault? = none := by
  rw [validate]
  cases config.fault? <;> simp

theorem not_blank_of_mem_names : ∀ name ∈ Finder.names, Text.trimmed name ≠ "" := by
  decide +kernel

theorem knowsName_applyApplication {config : Config} (h : config.fault? = none) (site : Site)
    (settings : Json) :
    (config.applyApplication site settings).Gives Application.KnowsName := by
  unfold applyApplication
  cases happlication : config.application with
  | none => exact Search.gives_pure (Application.knowsName_ok _)
  | some setting =>
      have hname := ((fault?_eq_none_iff.mp h).2 setting happlication).1
      obtain ⟨application, hknown⟩ :=
        Option.isSome_iff_exists.mp (Application.isSome_ofName?_iff.mpr hname)
      simp only [hknown]
      refine Search.Gives.bind (Application.knowsName_apply site application _ settings)
        fun result hresult => ?_
      cases result with
      | error failure => exact Search.gives_pure hresult.error
      | ok settings => exact Search.gives_pure (Application.knowsName_ok _)

end EnvScout.Config
