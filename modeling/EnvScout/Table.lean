/-!
Tables from keys to texts, kept in the order of the keys. Each key has one row, so two tables with
the same values are equal.
-/

namespace EnvScout

structure Table where
  rows : List (String × String)
  sorted : rows.Pairwise fun a b => a.1 < b.1

namespace Table

def empty : Table :=
  ⟨[], .nil⟩

def isEmpty (t : Table) : Bool :=
  t.rows.isEmpty

def get? (t : Table) (key : String) : Option String :=
  t.rows.lookup key

/-- The rows with the one of `key` put in its place. -/
def setRow (key value : String) : List (String × String) → List (String × String)
  | [] => [(key, value)]
  | row :: rest =>
    if key < row.1 then (key, value) :: row :: rest
    else if key = row.1 then (key, value) :: rest
    else row :: setRow key value rest

theorem lt_of_not_lt_of_ne {a b : String} (hlt : ¬ a < b) (hne : a ≠ b) : b < a :=
  Decidable.byContradiction fun h =>
    hne (String.le_antisymm (String.not_lt.mp h) (String.not_lt.mp hlt))

theorem lt_of_mem_setRow {low key value : String} {rows : List (String × String)}
    (hkey : low < key) (hrows : ∀ row ∈ rows, low < row.1) :
    ∀ row ∈ setRow key value rows, low < row.1 := by
  induction rows with
  | nil => simpa [setRow] using hkey
  | cons row rest ih =>
    have hrest : ∀ other ∈ rest, low < other.1 := fun other h => hrows other (.tail _ h)
    intro found hfound
    simp only [setRow] at hfound
    split at hfound
    · cases hfound with
      | head => exact hkey
      | tail _ h => exact hrows found h
    · split at hfound
      · cases hfound with
        | head => exact hkey
        | tail _ h => exact hrest found h
      · cases hfound with
        | head => exact hrows row (.head _)
        | tail _ h => exact ih hrest found h

theorem setRow_sorted (key value : String) {rows : List (String × String)}
    (h : rows.Pairwise fun a b => a.1 < b.1) :
    (setRow key value rows).Pairwise fun a b => a.1 < b.1 := by
  induction rows with
  | nil => simp [setRow]
  | cons row rest ih =>
    obtain ⟨hrow, hrest⟩ := List.pairwise_cons.mp h
    simp only [setRow]
    split
    case isTrue hlt =>
      refine List.pairwise_cons.mpr ⟨fun other hother => ?_, h⟩
      cases hother with
      | head => exact hlt
      | tail _ hmem => exact String.lt_trans hlt (hrow other hmem)
    case isFalse hlt =>
      split
      case isTrue heq =>
        refine List.pairwise_cons.mpr ⟨fun other hother => ?_, hrest⟩
        rw [show (key, value).1 = row.1 from heq]
        exact hrow other hother
      case isFalse hne =>
        exact List.pairwise_cons.mpr
          ⟨lt_of_mem_setRow (lt_of_not_lt_of_ne hlt hne) hrow, ih hrest⟩

def set (t : Table) (key value : String) : Table :=
  ⟨setRow key value t.rows, setRow_sorted key value t.sorted⟩

/-- The table with the rows of `other` set over its own. -/
def override (t other : Table) : Table :=
  other.rows.foldl (fun table row => table.set row.1 row.2) t

end Table

end EnvScout
