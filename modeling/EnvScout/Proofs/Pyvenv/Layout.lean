import EnvScout.Proofs.Pyvenv.Reading
import EnvScout.Proofs.Text.Split
import Mathlib.Logic.Relation

/-!
The layout of a configuration. What a line does depends on what is left of it without the white
space around it and on whether it is indented at all, and a comment does nothing. So the layout of a
text may be changed in many places, even inside a value, and the same is read from it.
-/

namespace EnvScout.Pyvenv

open Text

/-- Lines of which the same is left without the white space around it, both indented or neither; of
a blank line there is no telling whether it is indented. -/
structure SameLine (line other : List Char) : Prop where
  trimmed : trim line = trim other
  indented : trim line ≠ [] → line.head?.any isBlank = other.head?.any isBlank

namespace Reading

theorem step_congr {line other : List Char} (h : SameLine line other) (reading : Reading) :
    reading.step line = reading.step other := by
  rw [step, step, ← h.trimmed]
  cases htrim : trim line with
  | nil => rfl
  | cons first rest =>
      have hne : trim line ≠ [] := by
        rw [htrim]
        exact List.cons_ne_nil first rest
      rw [h.indented hne]

end Reading

/-- Blanks within a line. -/
def IsBlanks (text : String) : Prop :=
  ∀ c ∈ text.toList, isBlank c = true ∧ c ≠ '\n'

instance (text : String) : Decidable (IsBlanks text) :=
  List.decidableBAll _ text.toList

/-- A line whose first character other than white space is the mark of a comment. -/
structure IsComment (line : String) : Prop where
  one_line : '\n' ∉ line.toList
  marked : ∃ mark, line.toList.find? (fun c => !isBlank c) = some mark ∧ isCommentMark mark = true

/-- A text behind which a line begins: it is empty or its last line is ended. -/
def BeginsLine (front : String) : Prop :=
  ∀ c ∈ front.toList.getLast?, c = '\n'

instance (front : String) : Decidable (BeginsLine front) :=
  Option.decidableForallMem front.toList.getLast?

/-- A text in front of which a line ends: it is empty or begins with a newline. -/
def EndsLine (back : String) : Prop :=
  ∀ c ∈ back.toList.head?, c = '\n'

instance (back : String) : Decidable (EndsLine back) :=
  Option.decidableForallMem back.toList.head?

/-- A change of the layout of a text, at one place of it. -/
inductive Relaid : String → String → Prop
  /-- A comment is put in where a line begins. -/
  | comment {front line back : String} (hfront : BeginsLine front) (hline : IsComment line) :
      Relaid (front ++ back) (front ++ line ++ "\n" ++ back)
  /-- A comment is put behind the last line. -/
  | lastComment {text line : String} (hline : IsComment line) :
      Relaid text (text ++ "\n" ++ line)
  /-- The end of a line gets a carriage return. -/
  | carriageReturn (front back : String) : Relaid (front ++ "\n" ++ back) (front ++ "\r\n" ++ back)
  /-- The blanks at the end of a line become others; there may be none of either. -/
  | trailing {front blanks others back : String} (hback : EndsLine back) (hblanks : IsBlanks blanks)
      (hothers : IsBlanks others) : Relaid (front ++ blanks ++ back) (front ++ others ++ back)
  /-- The blanks at the beginning of a line become others; there are some of both. -/
  | indentation {front blanks others back : String} (hfront : BeginsLine front)
      (hblanks : IsBlanks blanks) (hothers : IsBlanks others) (hsome : blanks ≠ "")
      (hother : others ≠ "") : Relaid (front ++ blanks ++ back) (front ++ others ++ back)
  /-- The last line is ended. -/
  | finalNewline (text : String) : Relaid text (text ++ "\n")

theorem sameLine_trailing {last blanks others : List Char}
    (hblanks : ∀ c ∈ blanks, isBlank c = true) (hothers : ∀ c ∈ others, isBlank c = true) :
    SameLine (last ++ blanks) (last ++ others) where
  trimmed := by rw [trim_append_right hblanks, trim_append_right hothers]
  indented hne := by
    cases last with
    | nil => exact absurd (trim_eq_nil_of_blank hblanks) hne
    | cons c last => rfl

theorem sameLine_indentation {blanks others first : List Char}
    (hblanks : ∀ c ∈ blanks, isBlank c = true) (hothers : ∀ c ∈ others, isBlank c = true)
    (hsome : blanks ≠ []) (hother : others ≠ []) :
    SameLine (blanks ++ first) (others ++ first) where
  trimmed := by rw [trim_append_left hblanks, trim_append_left hothers]
  indented _ := by
    obtain ⟨c, blanks, rfl⟩ := List.exists_cons_of_ne_nil hsome
    obtain ⟨d, others, rfl⟩ := List.exists_cons_of_ne_nil hother
    rw [List.cons_append, List.cons_append, List.head?_cons, List.head?_cons, Option.any_some,
      Option.any_some, hblanks c List.mem_cons_self, hothers d List.mem_cons_self]

/-- Texts that differ within one line, where the line stays the same line, are read alike. -/
theorem parse_congr {front mid other back : String} (hmid : '\n' ∉ mid.toList)
    (hother : '\n' ∉ other.toList)
    (h : ∀ last first, (BeginsLine front → last = []) → (EndsLine back → first = []) →
      SameLine (last ++ mid.toList ++ first) (last ++ other.toList ++ first)) :
    parse (front ++ mid ++ back) = parse (front ++ other ++ back) := by
  obtain ⟨above, last, hlast, hsplit, hbegins⟩ := exists_last_piece '\n' front.toList
  obtain ⟨first, below, -, hcut, hends⟩ := exists_first_piece '\n' back.toList
  have hlines : ∀ text : String, '\n' ∉ text.toList → splitOn '\n' (front ++ text ++ back).toList =
      above ++ (last ++ text.toList ++ first) :: below := by
    intro text htext
    rw [String.toList_append, String.toList_append, List.append_assoc, hsplit, ← List.append_assoc,
      hcut _ fun hmem => (List.mem_append.mp hmem).elim hlast htext]
  rw [parse, parse, hlines mid hmid, hlines other hother, List.foldl_append, List.foldl_append,
    List.foldl_cons, List.foldl_cons, Reading.step_congr (h last first hbegins hends)]

theorem parse_trailing {front blanks others back : String} (hback : EndsLine back)
    (hblanks : IsBlanks blanks) (hothers : IsBlanks others) :
    parse (front ++ blanks ++ back) = parse (front ++ others ++ back) := by
  refine parse_congr (fun h => (hblanks _ h).2 rfl) (fun h => (hothers _ h).2 rfl) ?_
  intro last first _ hfirst
  rw [hfirst hback, List.append_nil, List.append_nil]
  exact sameLine_trailing (fun c hc => (hblanks c hc).1) fun c hc => (hothers c hc).1

theorem IsComment.step {line : String} (h : IsComment line) (reading : Reading) :
    reading.step line.toList = reading := by
  obtain ⟨mark, hfind, hmark⟩ := h.marked
  have hblank : isBlank mark = false := by simpa using List.find?_some hfind
  cases htrim : trim line.toList with
  | nil =>
      have hall := trim_eq_nil_iff.mp htrim mark (List.mem_of_find?_eq_some hfind)
      rw [hblank] at hall
      cases hall
  | cons first rest =>
      have hhead : (trimLeft line.toList).head? = some first :=
        head?_of_head?_trimRight (by rw [← trim, htrim]; rfl)
      rw [List.find?_eq_head?_dropWhile_not] at hfind
      simp only [Bool.not_not] at hfind
      have hfirst : mark = first := Option.some.inj (hfind.symm.trans hhead)
      exact reading.step_of_comment htrim (hfirst ▸ hmark)

theorem Relaid.parse_eq {text other : String} (h : Relaid text other) :
    parse text = parse other := by
  cases h with
  | @comment front line back hfront hline =>
      obtain ⟨above, last, -, hsplit, hbegins⟩ := exists_last_piece '\n' front.toList
      rw [hbegins hfront] at hsplit
      have hlines : splitOn '\n' (front ++ line ++ "\n" ++ back).toList =
          above ++ line.toList :: splitOn '\n' back.toList := by
        have htext : (front ++ line ++ "\n" ++ back).toList =
            front.toList ++ (line.toList ++ '\n' :: back.toList) := by
          simp
        rw [htext, hsplit, List.nil_append, splitOn_append_cons hline.one_line]
      rw [parse, parse, hlines, String.toList_append, hsplit, List.nil_append, List.foldl_append,
        List.foldl_append, List.foldl_cons, hline.step]
  | @lastComment _ line hline =>
      have hlines : splitOn '\n' (text ++ "\n" ++ line).toList =
          splitOn '\n' text.toList ++ [line.toList] := by
        have htext : (text ++ "\n" ++ line).toList = text.toList ++ '\n' :: line.toList := by
          simp
        rw [htext, splitOn_append_sep, splitOn_of_not_mem hline.one_line]
      rw [parse, parse, hlines, List.foldl_append, List.foldl_cons, List.foldl_nil, hline.step]
  | carriageReturn front back =>
      have hback : EndsLine ("\n" ++ back) := by
        rintro c hc
        rw [String.toList_append] at hc
        exact (Option.some.inj hc).symm
      have hplain : front ++ "\n" ++ back = front ++ "" ++ ("\n" ++ back) := by
        rw [String.append_empty, String.append_assoc]
      have hreturn : front ++ "\r\n" ++ back = front ++ "\r" ++ ("\n" ++ back) := by
        rw [show "\r\n" = "\r" ++ "\n" from rfl]
        simp only [String.append_assoc]
      rw [hplain, hreturn]
      exact parse_trailing hback (by decide) (by decide)
  | trailing hback hblanks hothers => exact parse_trailing hback hblanks hothers
  | indentation hfront hblanks hothers hsome hother =>
      refine parse_congr (fun h => (hblanks _ h).2 rfl) (fun h => (hothers _ h).2 rfl) ?_
      intro last first hlast _
      rw [hlast hfront, List.nil_append, List.nil_append]
      exact sameLine_indentation (fun c hc => (hblanks c hc).1) (fun c hc => (hothers c hc).1)
        (mt String.toList_eq_nil_iff.mp hsome) (mt String.toList_eq_nil_iff.mp hother)
  | finalNewline =>
      have hlines : splitOn '\n' (text ++ "\n").toList = splitOn '\n' text.toList ++ [[]] := by
        rw [String.toList_append]
        exact splitOn_append_sep text.toList []
      rw [parse, parse, hlines, List.foldl_append, List.foldl_cons, List.foldl_nil,
        Reading.step_of_blank _ trim_nil]

/-- However the layout of a text is changed, the same entries are read from it. -/
theorem parse_of_relaid {text other : String} (h : Relation.EqvGen Relaid text other) :
    parse text = parse other := by
  induction h with
  | rel text other hrelaid => exact hrelaid.parse_eq
  | refl text => rfl
  | symm text other _ ih => exact ih.symm
  | trans text between other _ _ hfirst hsecond => exact hfirst.trans hsecond

/-- A value that goes on in a second line, laid out in another way: the first line ends with a
carriage return, a comment stands between the two, the second line is indented by a tab and has
blanks at its end, and it is ended. -/
theorem further_line_laid_out_anew :
    parse "k = a\n  b" = parse "k = a\r\n ;c\n\tb  \n" ∧
      (parse "k = a\r\n ;c\n\tb  \n").entries.rows = [("k", "a\nb")] := by
  have hreturn : Relaid "k = a\n  b" "k = a\r\n  b" := .carriageReturn "k = a" "  b"
  have hcomment : Relaid "k = a\r\n  b" "k = a\r\n ;c\n  b" :=
    @Relaid.comment "k = a\r\n" " ;c" "  b" (by decide) ⟨by decide, ';', by decide⟩
  have hindent : Relaid "k = a\r\n ;c\n  b" "k = a\r\n ;c\n\tb" :=
    @Relaid.indentation "k = a\r\n ;c\n" "  " "\t" "b" (by decide) (by decide) (by decide)
      (by decide) (by decide)
  have htrailing : Relaid "k = a\r\n ;c\n\tb" "k = a\r\n ;c\n\tb  " :=
    @Relaid.trailing "k = a\r\n ;c\n\tb" "" "  " "" (by decide) (by decide) (by decide)
  have hend : Relaid "k = a\r\n ;c\n\tb  " "k = a\r\n ;c\n\tb  \n" := .finalNewline _
  refine ⟨parse_of_relaid ?_, by decide +kernel⟩
  exact .trans _ _ _ (.rel _ _ hreturn) (.trans _ _ _ (.rel _ _ hcomment)
    (.trans _ _ _ (.rel _ _ hindent) (.trans _ _ _ (.rel _ _ htrailing) (.rel _ _ hend))))

end EnvScout.Pyvenv
