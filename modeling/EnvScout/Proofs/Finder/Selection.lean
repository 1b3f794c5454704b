import EnvScout.Finder.Basic
import EnvScout.Proofs.Firsts
import Mathlib.Data.List.Nodup

/-!
Which finders a list of names selects: those that are named in it, and each of them once, where it
is first named. So a list can be cleaned of names of no finder and of names that come again without
selecting anything else.
-/

namespace EnvScout.Finder

theorem name_injective : Function.Injective name := by
  intro finder other h
  refine Option.some.inj ?_
  rw [← ofName?_name finder, h, ofName?_name]

theorem nodup_add {selection : Selection} (h : selection.finders.Nodup) (name : String) :
    (selection.add name).finders.Nodup := by
  rw [Selection.add]
  split
  · split
    · exact h
    · rename_i finder _ hnew
      exact h.append (List.nodup_singleton finder) (List.disjoint_singleton.mpr hnew)
  · exact h

/-- No finder is selected twice. -/
theorem nodup_select (names : List String) : (select names).finders.Nodup := by
  have hall : ∀ selection : Selection, selection.finders.Nodup →
      (names.foldl Selection.add selection).finders.Nodup := by
    induction names with
    | nil => exact fun _ h => h
    | cons name rest ih => exact fun selection h => ih _ (nodup_add h name)
  exact hall ⟨[], []⟩ List.nodup_nil

theorem mem_add {selection : Selection} {name : String} {finder : Finder} :
    finder ∈ (selection.add name).finders ↔ finder ∈ selection.finders ∨ finder.name = name := by
  rw [Selection.add]
  cases hname : ofName? name with
  | none =>
      have hne : finder.name ≠ name := by
        rintro rfl
        rw [ofName?_name] at hname
        cases hname
      simp [hne]
  | some named =>
      have hfinder : finder.name = name ↔ finder = named := by
        rw [← name_of_ofName? hname]
        exact name_injective.eq_iff
      rw [hfinder]
      dsimp only
      split
      · rename_i hmem
        exact ⟨Or.inl, fun h => h.elim id fun heq => heq ▸ hmem⟩
      · rw [List.mem_append, List.mem_singleton]

/-- The finders selected are those that are named. -/
theorem mem_select {names : List String} {finder : Finder} :
    finder ∈ (select names).finders ↔ finder.name ∈ names := by
  have hall : ∀ selection : Selection, finder ∈ (names.foldl Selection.add selection).finders ↔
      finder ∈ selection.finders ∨ finder.name ∈ names := by
    induction names with
    | nil => exact fun selection => by simp
    | cons name rest ih =>
        intro selection
        rw [List.foldl_cons, ih, mem_add, List.mem_cons, or_assoc]
  rw [select, hall]
  simp

theorem mem_names_iff {name : String} : name ∈ names ↔ ∃ finder, ofName? name = some finder := by
  constructor
  · intro h
    obtain ⟨finder, -, rfl⟩ := List.mem_map.mp h
    exact ⟨finder, ofName?_name finder⟩
  · rintro ⟨finder, h⟩
    rw [← name_of_ofName? h]
    exact List.mem_map_of_mem (mem_all finder)

theorem not_mem_names_of_ofName? {name : String} (h : ofName? name = none) : name ∉ names := by
  intro hmem
  obtain ⟨finder, hfinder⟩ := mem_names_iff.mp hmem
  rw [h] at hfinder
  cases hfinder

theorem select_concat (names : List String) (name : String) :
    select (names ++ [name]) = (select names).add name := by
  rw [select, List.foldl_append]
  rfl

/-- The names of finders, each of them once and where it comes first. -/
def cleaned (names : List String) : List String :=
  firstsBy id (names.filter (· ∈ Finder.names))

theorem cleaned_concat_of_known {name : String} (h : name ∈ Finder.names) (names : List String) :
    cleaned (names ++ [name]) =
      if name ∈ names then cleaned names else cleaned names ++ [name] := by
  have hseen : id name ∈ (names.filter (· ∈ Finder.names)).map id ↔ name ∈ names := by
    simp [h]
  rw [cleaned, List.filter_append, List.filter_singleton, decide_eq_true h, Bool.cond_true,
    firstsBy_concat]
  exact if_congr hseen rfl rfl

theorem cleaned_concat_of_unknown {name : String} (h : name ∉ Finder.names)
    (names : List String) : cleaned (names ++ [name]) = cleaned names := by
  rw [cleaned, List.filter_append, List.filter_singleton, decide_eq_false h, Bool.cond_false,
    List.append_nil, cleaned]

/-- The finders selected are those that the cleaned list names, in its order. -/
theorem map_name_select (names : List String) :
    (select names).finders.map name = cleaned names := by
  induction names using List.reverseRecOn with
  | nil => rfl
  | append_singleton names name ih =>
      rw [select_concat, Selection.add]
      cases hname : ofName? name with
      | some finder =>
          have hfinder := name_of_ofName? hname
          have hselected : finder ∈ (select names).finders ↔ name ∈ names := by
            rw [mem_select, hfinder]
          rw [cleaned_concat_of_known (mem_names_iff.mpr ⟨finder, hname⟩)]
          dsimp only
          split
          · rename_i hmem
            rw [if_pos (hselected.mp hmem), ih]
          · rename_i hmem
            rw [if_neg fun h => hmem (hselected.mpr h), List.map_append, ih, List.map_singleton,
              hfinder]
      | none =>
          rw [cleaned_concat_of_unknown (not_mem_names_of_ofName? hname)]
          exact ih

/-- The unknown names are those of no finder, each as often as it comes. -/
theorem unknown_select (names : List String) :
    (select names).unknown = names.filter (· ∉ Finder.names) := by
  induction names using List.reverseRecOn with
  | nil => rfl
  | append_singleton names name ih =>
      rw [select_concat, Selection.add, List.filter_append, ← ih, List.filter_singleton]
      cases hname : ofName? name with
      | some finder =>
          have hknown : name ∈ Finder.names := mem_names_iff.mpr ⟨finder, hname⟩
          rw [decide_eq_false (not_not_intro hknown), Bool.cond_false, List.append_nil]
          dsimp only
          split <;> rfl
      | none =>
          rw [decide_eq_true (not_mem_names_of_ofName? hname), Bool.cond_true]

theorem mem_names_of_mem_cleaned {names : List String} {name : String} (h : name ∈ cleaned names) :
    name ∈ Finder.names := by
  rw [cleaned, ← List.map_id (firstsBy id _), mem_map_firstsBy, List.map_id, List.mem_filter] at h
  exact of_decide_eq_true h.2

theorem filter_cleaned (names : List String) :
    (cleaned names).filter (· ∈ Finder.names) = cleaned names :=
  List.filter_eq_self.mpr fun _ h => decide_eq_true (mem_names_of_mem_cleaned h)

theorem cleaned_cleaned (names : List String) : cleaned (cleaned names) = cleaned names := by
  have hnodup : ((cleaned names).map id).Nodup := nodup_map_firstsBy _
  rw [cleaned, filter_cleaned]
  exact firstsBy_of_nodup hnodup

/-- A cleaned list selects the same finders and has no unknown names. -/
theorem select_cleaned (names : List String) :
    select (cleaned names) = ⟨(select names).finders, []⟩ := by
  have hfinders : (select (cleaned names)).finders = (select names).finders := by
    refine List.map_injective_iff.mpr name_injective ?_
    rw [map_name_select, map_name_select, cleaned_cleaned]
  have hunknown : (select (cleaned names)).unknown = [] := by
    rw [unknown_select, List.filter_eq_nil_iff]
    exact fun name h => by simpa using mem_names_of_mem_cleaned h
  exact (Selection.mk.injEq ..).mpr ⟨hfinders, hunknown⟩

end EnvScout.Finder
