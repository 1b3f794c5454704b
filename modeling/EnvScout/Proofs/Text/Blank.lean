import EnvScout.Text.Blank
import Mathlib.Data.List.DropRight

/-!
White space at the ends of a text. What trimming leaves begins and ends with other characters, and
that is all it takes for a text to be left as it is; blanks put around a text make no difference to
what is left of it.
-/

namespace EnvScout.Text

theorem trimRight_eq_rdropWhile (cs : List Char) : trimRight cs = cs.rdropWhile isBlank :=
  rfl

theorem trimLeft_eq_nil_iff {cs : List Char} : trimLeft cs = [] ↔ ∀ c ∈ cs, isBlank c = true :=
  List.dropWhile_eq_nil_iff

theorem head?_trimLeft {cs : List Char} {c : Char} (h : (trimLeft cs).head? = some c) :
    isBlank c = false := by
  have hnot := List.head?_dropWhile_not isBlank cs
  rw [show cs.dropWhile isBlank = trimLeft cs from rfl, h] at hnot
  simpa using hnot

theorem getLast?_trimRight {cs : List Char} {c : Char} (h : (trimRight cs).getLast? = some c) :
    isBlank c = false := by
  rw [trimRight, List.getLast?_reverse] at h
  exact head?_trimLeft h

theorem trimLeft_eq_self_iff {cs : List Char} :
    trimLeft cs = cs ↔ ∀ c, cs.head? = some c → isBlank c = false := by
  constructor
  · intro h c hc
    exact head?_trimLeft (h.symm ▸ hc)
  · intro h
    cases cs with
    | nil => rfl
    | cons c cs => exact trimLeft_cons_of_not_blank (h c rfl) cs

theorem trimRight_eq_self_iff {cs : List Char} :
    trimRight cs = cs ↔ ∀ c, cs.getLast? = some c → isBlank c = false := by
  rw [trimRight, List.reverse_eq_iff]
  exact trimLeft_eq_self_iff.trans (by rw [List.head?_reverse])

theorem head?_of_head?_trimRight {cs : List Char} {c : Char}
    (h : (trimRight cs).head? = some c) : cs.head? = some c := by
  obtain ⟨back, hback⟩ := List.rdropWhile_prefix isBlank cs
  rw [← trimRight_eq_rdropWhile] at hback
  rw [← hback, List.head?_append, h]
  rfl

theorem trimLeft_trimRight {cs : List Char} (h : trimLeft cs = cs) :
    trimLeft (trimRight cs) = trimRight cs :=
  trimLeft_eq_self_iff.mpr fun c hc =>
    trimLeft_eq_self_iff.mp h c (head?_of_head?_trimRight hc)

theorem trimLeft_trim (cs : List Char) : trimLeft (trim cs) = trim cs :=
  trimLeft_trimRight (List.dropWhile_idempotent isBlank cs)

/-- A text is as trimming leaves it when both its ends are something other than white space. -/
theorem trim_eq_self_iff {cs : List Char} :
    trim cs = cs ↔ (∀ c, cs.head? = some c → isBlank c = false) ∧
      ∀ c, cs.getLast? = some c → isBlank c = false := by
  rw [← trimLeft_eq_self_iff, ← trimRight_eq_self_iff]
  constructor
  · intro h
    have hleft : trimLeft cs = cs := by
      rw [← h]
      exact trimLeft_trim cs
    rw [trim, hleft] at h
    exact ⟨hleft, h⟩
  · rintro ⟨hleft, hright⟩
    rw [trim, hleft, hright]

@[simp]
theorem trim_trim (cs : List Char) : trim (trim cs) = trim cs :=
  trim_eq_self_iff.mpr
    ⟨trimLeft_eq_self_iff.mp (trimLeft_trim cs), fun _ h => getLast?_trimRight h⟩

theorem mem_of_mem_trim {c : Char} {cs : List Char} (h : c ∈ trim cs) : c ∈ cs :=
  (List.dropWhile_sublist isBlank).subset ((List.rdropWhile_prefix isBlank _).subset h)

theorem trim_eq_nil_iff {cs : List Char} : trim cs = [] ↔ ∀ c ∈ cs, isBlank c = true := by
  rw [← trimLeft_eq_nil_iff]
  constructor
  · intro h
    by_contra hne
    obtain ⟨c, rest, hcs⟩ := List.exists_cons_of_ne_nil hne
    have hblank : isBlank c = true :=
      List.rdropWhile_eq_nil_iff.mp h c (hcs ▸ List.mem_cons_self)
    have hnot : isBlank c = false := head?_trimLeft (by rw [hcs]; rfl)
    rw [hblank] at hnot
    cases hnot
  · intro h
    rw [trim, h, trimRight_nil]

theorem trim_eq_nil_of_blank {cs : List Char} (h : ∀ c ∈ cs, isBlank c = true) : trim cs = [] :=
  trim_eq_nil_iff.mpr h

theorem isBlankText_iff {s : String} : isBlankText s = true ↔ trimmed s = "" := by
  rw [isBlankText, List.all_eq_true, trimmed, String.ofList_eq_empty_iff, trim_eq_nil_iff]

theorem trim_append_left {front : List Char} (h : ∀ c ∈ front, isBlank c = true)
    (cs : List Char) : trim (front ++ cs) = trim cs := by
  rw [trim, trimLeft, List.dropWhile_append_of_pos h]
  rfl

theorem trimRight_append_right {back : List Char} (h : ∀ c ∈ back, isBlank c = true)
    (cs : List Char) : trimRight (cs ++ back) = trimRight cs := by
  rw [trimRight, List.reverse_append,
    List.dropWhile_append_of_pos fun c hc => h c (List.mem_reverse.mp hc)]
  rfl

theorem trim_append_right {back : List Char} (h : ∀ c ∈ back, isBlank c = true)
    (cs : List Char) : trim (cs ++ back) = trim cs := by
  by_cases hcs : ∀ c ∈ cs, isBlank c = true
  · rw [trim_append_left hcs, trim_eq_nil_of_blank h, trim_eq_nil_of_blank hcs]
  · have hne : (cs.dropWhile isBlank).isEmpty = false := by
      rw [List.isEmpty_eq_false_iff]
      exact fun hnil => hcs (trimLeft_eq_nil_iff.mp hnil)
    rw [trim, trimLeft, List.dropWhile_append, hne, if_neg (by decide), trimRight_append_right h]
    rfl

/-- What is cut off the end of a text is blank. -/
theorem exists_trimRight_append (cs : List Char) :
    ∃ blanks, trimRight cs ++ blanks = cs ∧ ∀ c ∈ blanks, isBlank c = true := by
  refine ⟨(cs.reverse.takeWhile isBlank).reverse, ?_, fun c hc => ?_⟩
  · rw [trimRight, ← List.reverse_append, List.takeWhile_append_dropWhile, List.reverse_reverse]
  · exact List.mem_takeWhile_imp (List.mem_reverse.mp hc)

theorem trim_trimRight (cs : List Char) : trim (trimRight cs) = trim cs := by
  obtain ⟨blanks, hcut, hblanks⟩ := exists_trimRight_append cs
  have htrim := trim_append_right hblanks (trimRight cs)
  rw [hcut] at htrim
  exact htrim.symm

end EnvScout.Text
