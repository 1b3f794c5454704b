import Mathlib.Data.String.Basic

/-!
The order of names by their bytes. Each byte of a name is kept as the character of its number, so
names stand in the same order by their bytes as by the strings they are kept in.
-/

namespace EnvScout.Text

/-- The bytes that a string keeps, as numbers. -/
def bytes (s : String) : List Nat :=
  s.toList.map Char.toNat

theorem bytes_lt_of_lt {a b : String} (h : a < b) : bytes a < bytes b := by
  rw [String.lt_iff_toList_lt] at h
  rw [bytes, bytes]
  generalize a.toList = cs at h
  generalize b.toList = ds at h
  induction h with
  | nil => exact List.nil_lt_cons _ _
  | rel hcd => exact List.cons_lt_cons_iff.mpr (Or.inl hcd)
  | cons _ ih => exact List.cons_lt_cons_iff.mpr (Or.inr ⟨rfl, ih⟩)

/-- Names stand in the same order by their bytes as by their characters. -/
theorem bytes_lt_iff {a b : String} : bytes a < bytes b ↔ a < b := by
  refine ⟨fun h => ?_, bytes_lt_of_lt⟩
  rcases lt_trichotomy a b with hlt | rfl | hlt
  · exact hlt
  · exact absurd h (List.lt_irrefl _)
  · exact absurd (bytes_lt_of_lt hlt) (List.lt_asymm h)

theorem bytes_le_iff {a b : String} : bytes a ≤ bytes b ↔ a ≤ b := by
  rw [← not_lt, ← not_lt]
  exact not_congr bytes_lt_iff

end EnvScout.Text
