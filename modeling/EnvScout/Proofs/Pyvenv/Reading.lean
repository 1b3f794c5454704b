import EnvScout.Proofs.Text.Blank
import EnvScout.Pyvenv

/-!
What one line of a configuration can do: close the open key, do nothing, go on with the value of the
open key, or assign a value to a key. Whatever else a configuration is proved to have is proved from
these four cases.
-/

namespace EnvScout.Pyvenv

open Text

/-- The key that stands in front of a separator. -/
def keyOf (front : List Char) : String :=
  String.ofList (lower (trim front))

/-- A reading after a line, told by what the line is. -/
inductive Taken (reading : Reading) (line : List Char) : Reading → Prop
  | closed : Taken reading line { reading with openKey := none }
  | ignored : Taken reading line reading
  | continued {key value : String} (hopen : reading.openKey = some key)
      (hvalue : reading.entries.get? key = some value) (hline : trim line ≠ [])
      (hmark : ∀ c, (trim line).head? = some c → isCommentMark c = false) :
      Taken reading line
        { reading with entries := reading.entries.set key (extend value (trim line)) }
  | assigned {front back : List Char} {sep : Char} (hline : trim line = front ++ sep :: back)
      (hmark : ∀ c, (trim line).head? = some c → isCommentMark c = false)
      (hfront : ∀ c ∈ front, isSeparator c = false) (hkey : lower (trim front) ≠ []) :
      Taken reading line
        ⟨reading.entries.set (keyOf front) (String.ofList (trim back)), some (keyOf front)⟩

/-- A line is blank, or a comment, or has something to say. -/
theorem line_cases (line : List Char) :
    trim line = [] ∨ (∃ mark rest, trim line = mark :: rest ∧ isCommentMark mark = true) ∨
      trim line ≠ [] ∧ ∀ c, (trim line).head? = some c → isCommentMark c = false := by
  cases trim line with
  | nil => exact .inl rfl
  | cons first rest =>
      cases hmark : isCommentMark first with
      | true => exact .inr (.inl ⟨first, rest, rfl, hmark⟩)
      | false =>
          refine .inr (.inr ⟨List.cons_ne_nil first rest, ?_⟩)
          rintro _ ⟨⟩
          exact hmark

/-- A line has no separator, or is cut at the first one. -/
theorem separator_cases (line : List Char) :
    (∀ c ∈ line, isSeparator c = false) ∨ ∃ front sep back, line = front ++ sep :: back ∧
      isSeparator sep = true ∧ ∀ c ∈ front, isSeparator c = false := by
  cases hfind : line.find? isSeparator with
  | none =>
      exact .inl fun c hc => Bool.eq_false_iff.mpr (List.find?_eq_none.mp hfind c hc)
  | some sep =>
      obtain ⟨hsep, front, back, hline, hfront⟩ := List.find?_eq_some_iff_append.mp hfind
      exact .inr ⟨front, sep, back, hline, hsep, fun c hc => by simpa using hfront c hc⟩

namespace Reading

variable (reading : Reading)

theorem assign_of_no_separator {line : List Char} (h : ∀ c ∈ line, isSeparator c = false) :
    reading.assign line = { reading with openKey := none } := by
  have hnil : (line.dropWhile fun c => !isSeparator c) = [] :=
    List.dropWhile_eq_nil_iff.mpr fun c hc => by rw [h c hc]; rfl
  rw [assign, hnil]

theorem assign_append {front back : List Char} {sep : Char}
    (hfront : ∀ c ∈ front, isSeparator c = false) (hsep : isSeparator sep = true) :
    reading.assign (front ++ sep :: back) =
      if lower (trim front) = [] then { reading with openKey := none }
      else ⟨reading.entries.set (keyOf front) (String.ofList (trim back)), some (keyOf front)⟩ := by
  have hpos : ∀ c ∈ front, (!isSeparator c) = true := fun c hc => by rw [hfront c hc]; rfl
  have hdrop : ((front ++ sep :: back).dropWhile fun c => !isSeparator c) = sep :: back := by
    rw [List.dropWhile_append_of_pos hpos, List.dropWhile_cons_of_neg (by simp [hsep])]
  have htake : ((front ++ sep :: back).takeWhile fun c => !isSeparator c) = front := by
    rw [List.takeWhile_append_of_pos hpos, List.takeWhile_cons_of_neg (by simp [hsep]),
      List.append_nil]
  rw [assign, hdrop, htake]
  simp only [keyOf, String.ofList_eq_empty_iff]

theorem step_of_blank {line : List Char} (h : trim line = []) :
    reading.step line = { reading with openKey := none } := by
  rw [step, h]

theorem step_of_comment {line rest : List Char} {mark : Char} (h : trim line = mark :: rest)
    (hmark : isCommentMark mark = true) : reading.step line = reading := by
  rw [step, h]
  exact if_pos hmark

theorem step_of_indented {line : List Char} {key value : String}
    (hline : trim line ≠ []) (hmark : ∀ c, (trim line).head? = some c → isCommentMark c = false)
    (hindent : line.head?.any isBlank = true) (hopen : reading.openKey = some key)
    (hvalue : reading.entries.get? key = some value) :
    reading.step line =
      { reading with entries := reading.entries.set key (extend value (trim line)) } := by
  obtain ⟨first, rest, htrim⟩ := List.exists_cons_of_ne_nil hline
  have hfirst : isCommentMark first = false := hmark first (by rw [htrim]; rfl)
  rw [step, htrim]
  simp [hfirst, hindent, hopen, hvalue]

/-- A line that has no value to go on with is read as an assignment, indented or not. -/
theorem step_of_free {line : List Char} (hline : trim line ≠ [])
    (hmark : ∀ c, (trim line).head? = some c → isCommentMark c = false)
    (hfree : line.head?.any isBlank = true → ∀ key, reading.openKey = some key →
      reading.entries.get? key = none) :
    reading.step line = reading.assign (trim line) := by
  obtain ⟨first, rest, htrim⟩ := List.exists_cons_of_ne_nil hline
  have hfirst : isCommentMark first = false := hmark first (by rw [htrim]; rfl)
  rw [step, htrim]
  cases hindent : line.head?.any isBlank with
  | false => simp [hfirst]
  | true =>
      cases hopen : reading.openKey with
      | none => simp [hfirst]
      | some key => simp [hfirst, hfree hindent key hopen]

theorem taken_assign {line : List Char}
    (hmark : ∀ c, (trim line).head? = some c → isCommentMark c = false) :
    Taken reading line (reading.assign (trim line)) := by
  rcases separator_cases (trim line) with hnone | ⟨front, sep, back, hline, hsep, hfront⟩
  · rw [reading.assign_of_no_separator hnone]
    exact .closed
  · rw [hline, reading.assign_append hfront hsep]
    split
    · exact .closed
    · rename_i hkey
      exact .assigned hline hmark hfront hkey

theorem taken_step (line : List Char) : Taken reading line (reading.step line) := by
  rcases line_cases line with hblank | ⟨mark, rest, htrim, hmark⟩ | ⟨hline, hmark⟩
  · rw [reading.step_of_blank hblank]
    exact .closed
  · rw [reading.step_of_comment htrim hmark]
    exact .ignored
  -- The line has something to say: it goes on with a value if there is one.
  by_cases hgoesOn : line.head?.any isBlank = true ∧
      ∃ key value, reading.openKey = some key ∧ reading.entries.get? key = some value
  · obtain ⟨hindent, key, value, hopen, hvalue⟩ := hgoesOn
    rw [reading.step_of_indented hline hmark hindent hopen hvalue]
    exact .continued hopen hvalue hline hmark
  · rw [reading.step_of_free hline hmark fun hindent key hopen =>
      Option.eq_none_iff_forall_ne_some.mpr fun value hvalue =>
        hgoesOn ⟨hindent, key, value, hopen, hvalue⟩]
    exact reading.taken_assign hmark

end Reading

end EnvScout.Pyvenv
