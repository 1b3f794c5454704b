import EnvScout.Text.Replace
import Mathlib.Data.List.Infix

/-!
Where a pattern cannot begin, replacing it and cutting at it pass by. Two things keep it from
beginning in a text: a character of it that does not occur there, or its second character not
occurring in the text while its first one is not what the text ends in.
-/

namespace EnvScout.Text

/-- Nowhere in `front` does the pattern begin, when `rest` is written behind it. -/
def Clear (pattern front rest : List Char) : Prop :=
  ∀ tail, tail ≠ [] → tail <:+ front → ¬pattern <+: tail ++ rest

variable {pattern new front rest : List Char} {c first second : Char}

theorem clear_cons_iff :
    Clear pattern (c :: front) rest ↔
      ¬pattern <+: c :: front ++ rest ∧ Clear pattern front rest := by
  constructor
  · intro h
    exact ⟨h _ (List.cons_ne_nil _ _) (List.suffix_refl _),
      fun tail hne htail => h tail hne (htail.trans (List.suffix_cons _ _))⟩
  · rintro ⟨hhere, hlater⟩ tail hne htail
    rcases List.suffix_cons_iff.mp htail with rfl | htail
    · exact hhere
    · exact hlater tail hne htail

/-- A pattern is written out in full, so it does not begin where one of its characters is
missing. -/
theorem clear_of_not_mem (hc : c ∈ pattern) (hfront : c ∉ front) : Clear pattern front [] := by
  intro tail _ htail hpattern
  rw [List.append_nil] at hpattern
  exact hfront (htail.subset (hpattern.subset hc))

theorem clear_of_second {more : List Char} (hsecond : second ∉ front)
    (hlast : front.getLast? ≠ some first) : Clear (first :: second :: more) front rest := by
  intro tail hne htail hpattern
  cases tail with
  | nil => exact hne rfl
  | cons x tail =>
      obtain ⟨hfirst, hpattern⟩ := List.cons_prefix_cons.mp hpattern
      cases tail with
      | nil =>
          obtain ⟨before, rfl⟩ := htail
          exact hlast (hfirst ▸ List.getLast?_concat)
      | cons y tail =>
          obtain ⟨rfl, -⟩ := List.cons_prefix_cons.mp hpattern
          exact hsecond (htail.subset (List.mem_cons_of_mem _ List.mem_cons_self))

theorem replace_append_of_clear (h : Clear pattern front rest) :
    replace pattern new (front ++ rest) = front ++ replace pattern new rest := by
  induction front with
  | nil => rfl
  | cons c front ih =>
      obtain ⟨hhere, hlater⟩ := clear_cons_iff.mp h
      rw [← List.isPrefixOf_iff_prefix] at hhere
      calc replace pattern new (c :: front ++ rest)
          = c :: replace pattern new (front ++ rest) := if_neg hhere
        _ = c :: front ++ replace pattern new rest := by rw [ih hlater, List.cons_append]

theorem replaceFrom_passed (passed rest : List Char) :
    replaceFrom pattern new passed.length (passed ++ rest) = replace pattern new rest := by
  induction passed with
  | nil => rfl
  | cons c passed ih => exact ih

theorem replace_occurrence (more rest : List Char) :
    replace (first :: more) new (first :: more ++ rest) =
      new ++ replace (first :: more) new rest := by
  have hprefix : (first :: more).isPrefixOf (first :: (more ++ rest)) = true :=
    List.isPrefixOf_iff_prefix.mpr (List.prefix_append (first :: more) rest)
  calc replace (first :: more) new (first :: more ++ rest)
      = new ++ replaceFrom (first :: more) new more.length (more ++ rest) := if_pos hprefix
    _ = new ++ replace (first :: more) new rest := by rw [replaceFrom_passed]

theorem replace_of_not_mem (hc : c ∈ pattern) (h : c ∉ front) :
    replace pattern new front = front := by
  calc replace pattern new front
      = replace pattern new (front ++ []) := by rw [List.append_nil]
    _ = front ++ replace pattern new [] := replace_append_of_clear (clear_of_not_mem hc h)
    _ = front := List.append_nil front

theorem cutAt_append_of_clear (h : Clear pattern front rest) :
    cutAt pattern (front ++ rest) =
      (cutAt pattern rest).map fun (before, after) => (front ++ before, after) := by
  induction front with
  | nil => cases hrest : cutAt pattern rest <;> simp [hrest]
  | cons c front ih =>
      obtain ⟨hhere, hlater⟩ := clear_cons_iff.mp h
      rw [← List.isPrefixOf_iff_prefix] at hhere
      calc cutAt pattern (c :: front ++ rest)
          = (cutAt pattern (front ++ rest)).map fun (before, after) => (c :: before, after) :=
            if_neg hhere
        _ = _ := by
            rw [ih hlater, Option.map_map]
            rfl

theorem cutAt_occurrence (more rest : List Char) :
    cutAt (first :: more) (first :: more ++ rest) = some ([], rest) := by
  have hprefix : (first :: more).isPrefixOf (first :: (more ++ rest)) = true :=
    List.isPrefixOf_iff_prefix.mpr (List.prefix_append (first :: more) rest)
  rw [List.cons_append, cutAt, if_pos hprefix, ← List.cons_append, List.drop_left]

theorem cutAt_of_not_mem (hc : c ∈ pattern) (h : c ∉ front) : cutAt pattern front = none := by
  have hempty : cutAt pattern [] = none := by
    rw [cutAt, if_neg]
    rintro rfl
    exact List.not_mem_nil hc
  have hclear := cutAt_append_of_clear (clear_of_not_mem hc h)
  rwa [List.append_nil, hempty] at hclear

end EnvScout.Text
