import EnvScout.Proofs.Lookup
import EnvScout.Table
import Mathlib.Data.List.Sort

/-!
A table seen through its look-up: what a key has after a row is set, and that tables which say the
same of every key are one and the same. So setting the rows of a table one after the other, from
nothing, makes that table again.
-/

namespace EnvScout.Table

theorem lookup_setRow (key value : String) (rows : List (String × String)) (other : String) :
    (setRow key value rows).lookup other =
      if other = key then some value else rows.lookup other := by
  induction rows with
  | nil => rw [setRow, lookup_cons_eq]
  | cons row rest ih =>
      rw [setRow]
      split
      · rw [lookup_cons_eq]
      · split
        · rename_i heq
          rw [lookup_cons_eq, lookup_cons_eq, heq]
          split <;> rfl
        · rename_i hne
          rw [lookup_cons_eq, lookup_cons_eq, ih]
          split
          · rename_i hother
            rw [if_neg fun h => hne (h.symm.trans hother)]
          · rfl

theorem lookup_eq_none_of_lt {key : String} {rows : List (String × String)}
    (h : ∀ row ∈ rows, key < row.1) : rows.lookup key = none := by
  refine List.lookup_eq_none_iff.mpr fun row hrow => ?_
  exact bne_iff_ne.mpr (Std.ne_of_lt (h row hrow))

theorem lookup_of_mem {rows : List (String × String)} {row : String × String}
    (hsorted : rows.Pairwise fun a b => a.1 < b.1) (hmem : row ∈ rows) :
    rows.lookup row.1 = some row.2 := by
  have hnodup : (rows.map Prod.fst).Nodup :=
    List.pairwise_map.mpr (hsorted.imp fun hlt => Std.ne_of_lt hlt)
  exact lookup_of_mem_of_nodup hnodup hmem

variable (t other : Table) (key value : String)

theorem get?_set (looked : String) :
    (t.set key value).get? looked = if looked = key then some value else t.get? looked :=
  lookup_setRow key value t.rows looked

@[simp]
theorem get?_set_self : (t.set key value).get? key = some value := by
  rw [get?_set, if_pos rfl]

variable {t other}

theorem mem_rows_iff {row : String × String} : row ∈ t.rows ↔ t.get? row.1 = some row.2 := by
  constructor
  · exact lookup_of_mem t.sorted
  · exact fun h => mem_of_lookup h

/-- Tables that say the same of every key are the same. -/
theorem ext_get? (h : ∀ key, t.get? key = other.get? key) : t = other := by
  have hrows : t.rows = other.rows := by
    refine t.sorted.eq_of_mem_iff other.sorted fun row => ?_
    rw [mem_rows_iff, mem_rows_iff, h]
  cases t
  cases other
  cases hrows
  rfl

theorem set_set (value next : String) : (t.set key value).set key next = t.set key next := by
  refine ext_get? fun looked => ?_
  rw [get?_set, get?_set, get?_set]
  split <;> rfl

theorem get?_foldl_set {rows : List (String × String)}
    (hsorted : rows.Pairwise fun a b => a.1 < b.1) (t : Table) (key : String) :
    (rows.foldl (fun table row => table.set row.1 row.2) t).get? key =
      (rows.lookup key <|> t.get? key) := by
  induction rows generalizing t with
  | nil => rfl
  | cons row rest ih =>
      obtain ⟨hrow, hrest⟩ := List.pairwise_cons.mp hsorted
      rw [List.foldl_cons, ih hrest, get?_set, lookup_cons_eq]
      split
      · rename_i hkey
        rw [hkey, lookup_eq_none_of_lt hrow]
        rfl
      · rfl

theorem get?_override (t other : Table) (key : String) :
    (t.override other).get? key = (other.get? key <|> t.get? key) :=
  get?_foldl_set other.sorted t key

theorem empty_override (t : Table) : empty.override t = t :=
  ext_get? fun key => by
    rw [get?_override]
    cases t.get? key <;> rfl

end EnvScout.Table
