import Mathlib.Data.List.Induction
import Mathlib.Data.List.Nodup

/-!
The first occurrences in a list. Of the items with one key the first is kept, where it stands, and
those after it are left out. Leaving them out of a part of the list beforehand makes no difference,
so lists that are put together again and again can be cleaned at any time.
-/

namespace EnvScout

variable {α κ : Type} [DecidableEq κ]

/-- The items whose key none of those before them has. -/
def firstsBy (key : α → κ) (items : List α) : List α :=
  (items.zipIdx.filter fun entry => key entry.1 ∉ (items.take entry.2).map key).map Prod.fst

variable {key : α → κ}

@[simp]
theorem firstsBy_nil : firstsBy key [] = [] :=
  rfl

/-- An item at the end is kept exactly if its key is new. -/
theorem firstsBy_concat (items : List α) (item : α) :
    firstsBy key (items ++ [item]) =
      if key item ∈ items.map key then firstsBy key items else firstsBy key items ++ [item] := by
  have hfront : items.zipIdx.filter
      (fun entry => key entry.1 ∉ ((items ++ [item]).take entry.2).map key) =
        items.zipIdx.filter fun entry => key entry.1 ∉ (items.take entry.2).map key := by
    refine List.filter_congr fun entry hentry => ?_
    obtain ⟨-, hlt, -⟩ := List.mem_zipIdx hentry
    rw [List.take_append_of_le_length (by omega)]
  rw [firstsBy, List.zipIdx_append, List.filter_append, hfront, List.map_append]
  by_cases hold : key item ∈ items.map key <;> simp [firstsBy, hold]

theorem mem_map_firstsBy {items : List α} {k : κ} :
    k ∈ (firstsBy key items).map key ↔ k ∈ items.map key := by
  induction items using List.reverseRecOn with
  | nil => rfl
  | append_singleton items item ih =>
      rw [firstsBy_concat, List.map_append, List.mem_append, ← ih]
      split
      · rename_i hold
        rw [ih, or_iff_left_of_imp]
        intro hk
        rwa [List.mem_singleton.mp hk]
      · rw [List.map_append, List.mem_append]

/-- No key is kept twice. -/
theorem nodup_map_firstsBy (items : List α) : ((firstsBy key items).map key).Nodup := by
  induction items using List.reverseRecOn with
  | nil => exact List.nodup_nil
  | append_singleton items item ih =>
      rw [firstsBy_concat]
      split
      · exact ih
      · rename_i hnew
        rw [List.map_append]
        refine ih.append (List.nodup_singleton _) (List.disjoint_singleton.mpr fun hmem => ?_)
        exact hnew (mem_map_firstsBy.mp hmem)

theorem firstsBy_of_nodup {items : List α} (h : (items.map key).Nodup) :
    firstsBy key items = items := by
  induction items using List.reverseRecOn with
  | nil => rfl
  | append_singleton items item ih =>
      rw [List.map_append, List.map_singleton, List.nodup_append] at h
      obtain ⟨hitems, -, hnew⟩ := h
      have hnotin : key item ∉ items.map key := fun hmem =>
        hnew _ hmem _ (List.mem_singleton_self _) rfl
      rw [firstsBy_concat, if_neg hnotin, ih hitems]

/-- Two lists with the same keys and the same first occurrences go on alike. -/
theorem firstsBy_append_congr {front other : List α} (h : firstsBy key front = firstsBy key other)
    (rest : List α) : firstsBy key (front ++ rest) = firstsBy key (other ++ rest) := by
  have hkeys : ∀ k, k ∈ front.map key ↔ k ∈ other.map key := fun k => by
    rw [← mem_map_firstsBy, h, mem_map_firstsBy]
  induction rest using List.reverseRecOn with
  | nil => rwa [List.append_nil, List.append_nil]
  | append_singleton rest item ih =>
      rw [← List.append_assoc, ← List.append_assoc, firstsBy_concat, firstsBy_concat, ih]
      simp only [List.map_append, List.mem_append, hkeys]

theorem firstsBy_firstsBy_append (front rest : List α) :
    firstsBy key (firstsBy key front ++ rest) = firstsBy key (front ++ rest) :=
  firstsBy_append_congr (firstsBy_of_nodup (nodup_map_firstsBy front)) rest

theorem firstsBy_append_firstsBy (front rest : List α) :
    firstsBy key (front ++ firstsBy key rest) = firstsBy key (front ++ rest) := by
  induction rest using List.reverseRecOn with
  | nil => rfl
  | append_singleton rest item ih =>
      rw [firstsBy_concat, ← List.append_assoc front rest, firstsBy_concat]
      by_cases hold : key item ∈ rest.map key
      · rw [if_pos hold, ih, if_pos]
        rw [List.map_append]
        exact List.mem_append_right _ hold
      · rw [if_neg hold, ← List.append_assoc, firstsBy_concat, ih]
        simp only [List.map_append, List.mem_append, mem_map_firstsBy]

/-- What is there already is not kept again. -/
theorem firstsBy_append_of_subset {front rest : List α}
    (h : ∀ item ∈ rest, key item ∈ front.map key) :
    firstsBy key (front ++ rest) = firstsBy key front := by
  induction rest using List.reverseRecOn with
  | nil => rw [List.append_nil]
  | append_singleton rest item ih =>
      rw [List.forall_mem_append, List.forall_mem_singleton] at h
      obtain ⟨hrest, hitem⟩ := h
      rw [← List.append_assoc, firstsBy_concat, if_pos, ih hrest]
      rw [List.map_append]
      exact List.mem_append_left _ hitem

end EnvScout
