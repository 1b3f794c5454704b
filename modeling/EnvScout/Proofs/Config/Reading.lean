import EnvScout.Config.Basic
import EnvScout.Proofs.Json.Given
import EnvScout.Proofs.Json.Records

/-!
Reading a configuration, member by member: each member of an object bears on the one field that goes
by its name, so a configuration is read exactly if every field is filled by the values given to it.
-/

namespace EnvScout.Config

open Json Json.SyntaxTree Json.Decoder

theorem readAlone_applicationFields : ReadAlone applicationFields := by
  intro field hfield state
  simp only [applicationFields, List.mem_cons, List.not_mem_nil, or_false] at hfield
  rcases hfield with rfl | rfl
  · have h := reads_into reads_string fun value => { state with name := some value }
    exact h.on_eq ▸ h
  · have h := reads_into reads_string fun value => { state with binary := some value }
    exact h.on_eq ▸ h

/-- The value of an application's setting. -/
def setting? (tree : SyntaxTree) : Option ApplicationSetting :=
  (recordOf? applicationFields {} tree).map fun draft =>
    ⟨draft.name.getD "", draft.binary.getD ""⟩

theorem reads_applicationSetting : Reads applicationSetting setting? := by
  have hread := reads_record readAlone_applicationFields "DevEnvironmentConfig" {}
  have hinto : applicationSetting = into (record "DevEnvironmentConfig" applicationFields {})
      fun draft => ⟨draft.name.getD "", draft.binary.getD ""⟩ := by
    funext tokens
    rw [applicationSetting, into]
    cases record "DevEnvironmentConfig" applicationFields {} tokens <;> rfl
  rw [hinto]
  exact reads_into hread _

theorem readAlone_fields : ReadAlone fields := by
  intro field hfield state
  simp only [fields, List.mem_cons, List.not_mem_nil, or_false] at hfield
  rcases hfield with rfl | rfl | rfl
  · have h := reads_into (reads_list reads_string) fun value =>
      { state with finderNames := some value }
    exact h.on_eq ▸ h
  · have h := reads_into (reads_optional reads_string) fun value =>
      { state with explicitPath := some value }
    exact h.on_eq ▸ h
  · have h := reads_into (reads_optional reads_applicationSetting) fun value =>
      { state with application := some value }
    exact h.on_eq ▸ h

theorem put_applicationFields (draft : ApplicationDraft) (key : String) (tree : SyntaxTree) :
    put applicationFields draft (some key, tree) =
      if key ∈ ["name"] then
        if draft.name.isSome then none
        else (text? tree).map fun value => { draft with name := some value }
      else if key ∈ ["binary"] then
        if draft.binary.isSome then none
        else (text? tree).map fun value => { draft with binary := some value }
      else some draft := by
  rw [applicationFields, put_cons, put_cons, put_nil]
  simp only [(reads_into reads_string _).on_eq]

theorem gather_applicationFields_iff {draft final : ApplicationDraft} {members : List Member} :
    gather applicationFields draft members = some final ↔
      Named members ∧
      Filled text? draft.name (given ["name"] members) final.name ∧
      Filled text? draft.binary (given ["binary"] members) final.binary := by
  induction members generalizing draft with
  | nil =>
      constructor
      · intro h
        cases h
        exact ⟨named_nil, rfl, rfl⟩
      · rintro ⟨-, hname, hbinary⟩
        have heq : final = draft := by
          cases final
          cases draft
          exact (ApplicationDraft.mk.injEq ..).mpr ⟨hname, hbinary⟩
        rw [heq, gather]
  | cons member rest ih =>
      obtain ⟨name, tree⟩ := member
      cases name with
      | none => simp [gather, put]
      | some key =>
          rw [gather, put_applicationFields, given_cons, given_cons]
          obtain ⟨name, binary⟩ := draft
          by_cases hname : key ∈ ["name"]
          · have hbinary : key ∉ ["binary"] := by
              rw [List.mem_singleton.mp hname]
              decide
            rw [if_pos hname, if_pos hname, if_neg hbinary]
            cases name <;> cases htext : text? tree <;> simp [Filled, ih, htext]
          · rw [if_neg hname, if_neg hname]
            by_cases hbinary : key ∈ ["binary"]
            · rw [if_pos hbinary, if_pos hbinary]
              cases binary <;> cases htext : text? tree <;> simp [Filled, ih, htext]
            · rw [if_neg hbinary, if_neg hbinary]
              simp [ih]

theorem missing?_applicationFields_eq_none_iff {draft : ApplicationDraft} :
    missing? applicationFields draft = none ↔ draft.name.isSome ∧ draft.binary.isSome := by
  simp [missing?, applicationFields, Option.ne_none_iff_isSome]

/-- A text that was needed was given exactly once. -/
theorem trees_of_filled_text {trees : List SyntaxTree} {final : Option String}
    (h : Filled text? none trees final) (hset : final.isSome) :
    trees = [.string (some (final.getD ""))] := by
  rcases filled_none_iff.mp h with ⟨-, rfl⟩ | ⟨tree, text, rfl, htext, rfl⟩
  · cases hset
  · rw [text?_eq_some_iff.mp htext]
    rfl

theorem filled_text {trees : List SyntaxTree} {text : String} (h : trees = [.string (some text)]) :
    Filled text? none trees (some text) :=
  filled_none_iff.mpr (.inr ⟨_, text, h, rfl, rfl⟩)

/-- How the setting of an application can be written: as an object with exactly one name and one
binary among its members, or as an array of the two. -/
def Writes (tree : SyntaxTree) (setting : ApplicationSetting) : Prop :=
  (∃ members, tree = .object members ∧ Named members ∧
    given ["name"] members = [.string (some setting.name)] ∧
    given ["binary"] members = [.string (some setting.binary)]) ∨
  tree = .array [.string (some setting.name), .string (some setting.binary)]

theorem setting?_object_eq_some_iff {members : List Member} {setting : ApplicationSetting} :
    setting? (.object members) = some setting ↔
      Named members ∧
      given ["name"] members = [.string (some setting.name)] ∧
      given ["binary"] members = [.string (some setting.binary)] := by
  constructor
  · intro h
    obtain ⟨draft, hfilter, rfl⟩ := Option.map_eq_some_iff.mp h
    obtain ⟨hgather, hmissing⟩ := Option.filter_eq_some_iff.mp hfilter
    obtain ⟨hnamed, hname, hbinary⟩ := gather_applicationFields_iff.mp hgather
    obtain ⟨hnameSet, hbinarySet⟩ :=
      missing?_applicationFields_eq_none_iff.mp (Option.isNone_iff_eq_none.mp hmissing)
    exact ⟨hnamed, trees_of_filled_text hname hnameSet, trees_of_filled_text hbinary hbinarySet⟩
  · rintro ⟨hnamed, hname, hbinary⟩
    have hgather : gather applicationFields {} members =
        some ⟨some setting.name, some setting.binary⟩ :=
      gather_applicationFields_iff.mpr ⟨hnamed, filled_text hname, filled_text hbinary⟩
    rw [setting?, recordOf?, hgather]
    rfl

theorem setting?_array_eq_some_iff {items : List SyntaxTree} {setting : ApplicationSetting} :
    setting? (.array items) = some setting ↔
      items = [.string (some setting.name), .string (some setting.binary)] := by
  constructor
  · intro h
    obtain ⟨draft, hplace, rfl⟩ := Option.map_eq_some_iff.mp h
    simp only [recordOf?, applicationFields] at hplace
    rcases items with _ | ⟨name, _ | ⟨binary, _ | ⟨third, rest⟩⟩⟩
    · simp [place] at hplace
    · simp [place] at hplace
    · simp only [place, (reads_into reads_string _).on_eq, Option.bind_eq_some_iff,
        Option.map_eq_some_iff] at hplace
      obtain ⟨_, ⟨nameText, hname, rfl⟩, _, ⟨binaryText, hbinary, rfl⟩, hend⟩ := hplace
      cases hend
      rw [text?_eq_some_iff.mp hname, text?_eq_some_iff.mp hbinary]
      rfl
    · simp [place] at hplace
  · rintro rfl
    rfl

theorem setting?_eq_some_iff {tree : SyntaxTree} {setting : ApplicationSetting} :
    setting? tree = some setting ↔ Writes tree setting := by
  cases tree with
  | object members => simp [setting?_object_eq_some_iff, Writes]
  | array items => simp [setting?_array_eq_some_iff, Writes]
  | _ => simp [setting?, recordOf?, Writes]

theorem put_fields (draft : Draft) (key : String) (tree : SyntaxTree) :
    put fields draft (some key, tree) =
      if key ∈ ["finder_names", "venvStrategies"] then
        if draft.finderNames.isSome then none
        else (items? text? tree).map fun value => { draft with finderNames := some value }
      else if key ∈ ["explicit_python_path", "pythonPath"] then
        if draft.explicitPath.isSome then none
        else (orNull? text? tree).map fun value => { draft with explicitPath := some value }
      else if key ∈ ["dev_environment"] then
        if draft.application.isSome then none
        else (orNull? setting? tree).map fun value => { draft with application := some value }
      else some draft := by
  rw [fields, put_cons, put_cons, put_cons, put_nil]
  simp only [(reads_into (reads_list reads_string) _).on_eq,
    (reads_into (reads_optional reads_string) _).on_eq,
    (reads_into (reads_optional reads_applicationSetting) _).on_eq]

theorem gather_fields_iff {draft final : Draft} {members : List Member} :
    gather fields draft members = some final ↔
      Named members ∧
      Filled (items? text?) draft.finderNames
        (given ["finder_names", "venvStrategies"] members) final.finderNames ∧
      Filled (orNull? text?) draft.explicitPath
        (given ["explicit_python_path", "pythonPath"] members) final.explicitPath ∧
      Filled (orNull? setting?) draft.application
        (given ["dev_environment"] members) final.application := by
  induction members generalizing draft with
  | nil =>
      constructor
      · intro h
        cases h
        exact ⟨named_nil, rfl, rfl, rfl⟩
      · rintro ⟨-, hfinders, hexplicit, happlication⟩
        have heq : final = draft := by
          cases final
          cases draft
          exact (Draft.mk.injEq ..).mpr ⟨hfinders, hexplicit, happlication⟩
        rw [heq, gather]
  | cons member rest ih =>
      obtain ⟨name, tree⟩ := member
      cases name with
      | none => simp [gather, put]
      | some key =>
          rw [gather, put_fields, given_cons, given_cons, given_cons]
          obtain ⟨finders, explicit, application⟩ := draft
          by_cases hfinders : key ∈ ["finder_names", "venvStrategies"]
          · have hothers : key ∉ ["explicit_python_path", "pythonPath"] ∧
                key ∉ ["dev_environment"] :=
              (by decide : ∀ name ∈ ["finder_names", "venvStrategies"],
                name ∉ ["explicit_python_path", "pythonPath"] ∧ name ∉ ["dev_environment"])
                key hfinders
            rw [if_pos hfinders, if_pos hfinders, if_neg hothers.1, if_neg hothers.2]
            cases finders <;> cases hvalue : items? text? tree <;> simp [Filled, ih, hvalue]
          rw [if_neg hfinders, if_neg hfinders]
          by_cases hexplicit : key ∈ ["explicit_python_path", "pythonPath"]
          · have hother : key ∉ ["dev_environment"] :=
              (by decide : ∀ name ∈ ["explicit_python_path", "pythonPath"],
                name ∉ ["dev_environment"]) key hexplicit
            rw [if_pos hexplicit, if_pos hexplicit, if_neg hother]
            cases explicit <;> cases hvalue : orNull? text? tree <;> simp [Filled, ih, hvalue]
          rw [if_neg hexplicit, if_neg hexplicit]
          by_cases happlication : key ∈ ["dev_environment"]
          · rw [if_pos happlication, if_pos happlication]
            cases application <;> cases hvalue : orNull? setting? tree <;>
              simp [Filled, ih, hvalue]
          · rw [if_neg happlication, if_neg happlication]
            simp [ih]

end EnvScout.Config
