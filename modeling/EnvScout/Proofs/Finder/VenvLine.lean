import EnvScout.Finder.Tool
import EnvScout.Proofs.Text.Pattern

/-!
The line that gives an environment behind `venv:`. Whatever else a tool prints, its answer is what
stands on the first line that begins with this word, without the white space around it: the white
space that the pattern takes in may reach over the end of the line, but the marked part never does.
-/

namespace EnvScout

open Text Pattern

section Steps

variable {line rest : List Char}

theorem matchHere_lineEnd {previous : Option Char} {cs part : List Char} :
    matchHere [.lineEnd] previous cs = some part ↔ (∀ c ∈ cs.head?, c = '\n') ∧ part = [] := by
  rw [matchHere, matchHere]
  cases cs <;> simp [eq_comm]

theorem eq_nil_of_matchHere_blanks {previous : Option Char} {cs part : List Char}
    (h : matchHere [.run isBlank true false, .lineEnd] previous cs = some part) : part = [] := by
  rw [matchHere] at h
  obtain ⟨n, -, hn⟩ := List.exists_of_findSome?_eq_some h
  obtain ⟨_, hend, rfl⟩ := Option.map_eq_some_iff.mp hn
  exact (matchHere_lineEnd.mp hend).2

/-- White space up to the end of a line is there just when nothing else is. -/
theorem matchHere_blanks (previous : Option Char) (hline : '\n' ∉ line)
    (hrest : ∀ c ∈ rest.head?, c = '\n') :
    matchHere [.run isBlank true false, .lineEnd] previous (line ++ rest) =
      if line.all isBlank then some [] else none := by
  split
  · rename_i hblank
    rw [List.all_eq_true] at hblank
    have hsome : (matchHere [.run isBlank true false, .lineEnd] previous (line ++ rest)).isSome :=
      isSome_matchHere_run_iff.mpr ⟨line, rest, rfl, hblank,
        Option.isSome_of_eq_some (matchHere_lineEnd.mpr ⟨hrest, rfl⟩)⟩
    obtain ⟨part, hpart⟩ := Option.isSome_iff_exists.mp hsome
    rw [hpart, eq_nil_of_matchHere_blanks hpart]
  · rename_i hblank
    rw [List.all_eq_true] at hblank
    rw [← Option.not_isSome_iff_eq_none, isSome_matchHere_run_iff]
    rintro ⟨taken, left, hcut, htaken, hsome⟩
    obtain ⟨part, hpart⟩ := Option.isSome_iff_exists.mp hsome
    have hleft := (matchHere_lineEnd.mp hpart).1
    rcases List.append_eq_append_iff.mp hcut with ⟨more, rfl, -⟩ | ⟨more, rfl, rfl⟩
    · exact hblank fun c hc => htaken c (List.mem_append_left _ hc)
    · cases more with
      | nil => exact hblank (by simpa using htaken)
      | cons c more => exact hline (hleft c rfl ▸ List.mem_append_right _ List.mem_cons_self)

/-- The rest of a line, as little of it as has nothing but white space behind it. -/
def restSteps : Pattern :=
  [.run (fun c => c != '\n') false true, .run isBlank true false, .lineEnd]

theorem matchHere_restSteps (previous : Option Char) (hline : '\n' ∉ line)
    (hrest : ∀ c ∈ rest.head?, c = '\n') :
    matchHere restSteps previous (line ++ rest) = some (trimRight line) := by
  obtain ⟨blanks, hcut, hblanks⟩ := exists_trimRight_append line
  have hinside : ∀ more : List Char, more ++ blanks <:+ line → ∀ previous,
      matchHere [.run isBlank true false, .lineEnd] previous (more ++ (blanks ++ rest)) =
        if (more ++ blanks).all isBlank then some [] else none := by
    intro more hmore previous
    rw [← List.append_assoc]
    exact matchHere_blanks previous (fun hmem => hline (hmore.subset hmem)) hrest
  have hshorter : ∀ front more, trimRight line = front ++ more → more ≠ [] → ∀ previous,
      matchHere [.run isBlank true false, .lineEnd] previous (more ++ (blanks ++ rest)) = none := by
    intro front more hfront hmore previous
    rw [hinside more ⟨front, by rw [← List.append_assoc, ← hfront, hcut]⟩]
    refine if_neg fun hall => ?_
    have hlast : (trimRight line).getLast? = some (more.getLast hmore) := by
      rw [hfront, List.getLast?_append_of_ne_nil _ hmore, List.getLast?_eq_some_getLast hmore]
    have hblank := List.all_eq_true.mp hall _ (List.mem_append_left _ (List.getLast_mem hmore))
    rw [getLast?_trimRight hlast] at hblank
    cases hblank
  have hend : matchHere [.run isBlank true false, .lineEnd]
      ((trimRight line).getLast?.or previous) (blanks ++ rest) = some [] := by
    have hnone := hinside [] ⟨trimRight line, hcut⟩ ((trimRight line).getLast?.or previous)
    rw [List.nil_append, List.nil_append, if_pos (List.all_eq_true.mpr hblanks)] at hnone
    exact hnone
  have htaken : ∀ c ∈ trimRight line, (c != '\n') = true := fun c hc =>
    bne_iff_ne.mpr fun heq => hline (heq ▸ hcut ▸ List.mem_append_left _ hc)
  calc matchHere restSteps previous (line ++ rest)
      = matchHere restSteps previous (trimRight line ++ (blanks ++ rest)) := by
        rw [← List.append_assoc, hcut]
    _ = some (trimRight line ++ []) := matchHere_run_shortest htaken hshorter hend
    _ = some (trimRight line) := by rw [List.append_nil]

/-- A tab or a space. -/
def isTab (c : Char) : Bool :=
  c == ' ' || c == '\t'

/-- What stands on a line behind the word in front of it. -/
def partBehind (word line : List Char) : Option (List Char) :=
  if word <+: line then some (trimRight ((line.drop word.length).dropWhile isTab)) else none

theorem venvLinePattern_eq : venvLinePattern =
    .lineStart :: ("venv:".toList.map Step.char ++ .run isTab true false :: restSteps) := rfl

theorem matchHere_tabs (previous : Option Char) (hline : '\n' ∉ line)
    (hrest : ∀ c ∈ rest.head?, c = '\n') :
    matchHere (.run isTab true false :: restSteps) previous (line ++ rest) =
      some (trimRight (line.dropWhile isTab)) := by
  have hleft : (line.dropWhile isTab ++ rest).takeWhile isTab = [] := by
    have hhead := List.head?_dropWhile_not isTab line
    cases hdrop : line.dropWhile isTab with
    | cons c behind =>
        rw [hdrop, List.head?_cons] at hhead
        rw [List.cons_append, List.takeWhile_cons_of_neg (by simpa using hhead)]
    | nil =>
        cases rest with
        | nil => rfl
        | cons c more => rw [hrest c rfl]; rfl
  have hbehind : '\n' ∉ line.dropWhile isTab :=
    fun hmem => hline ((List.dropWhile_suffix isTab).subset hmem)
  have hfits := matchHere_restSteps ((line.takeWhile isTab).getLast?.or previous) hbehind hrest
  have htabs : ∀ c ∈ line.takeWhile isTab, isTab c = true := fun c hc => List.mem_takeWhile_imp hc
  calc matchHere (.run isTab true false :: restSteps) previous (line ++ rest)
      = matchHere (.run isTab true false :: restSteps) previous
          (line.takeWhile isTab ++ (line.dropWhile isTab ++ rest)) := by
        rw [← List.append_assoc, List.takeWhile_append_dropWhile]
    _ = some (trimRight (line.dropWhile isTab)) := matchHere_run_longest htabs hleft hfits

theorem matchHere_behind_word {word : List Char} (hword : '\n' ∉ word) (previous : Option Char)
    (hline : '\n' ∉ line) (hrest : ∀ c ∈ rest.head?, c = '\n') :
    matchHere (word.map Step.char ++ .run isTab true false :: restSteps) previous (line ++ rest) =
      partBehind word line := by
  rw [partBehind]
  split
  · rename_i h
    obtain ⟨behind, rfl⟩ := h
    have hbehind : '\n' ∉ behind := fun hmem => hline (List.mem_append_right _ hmem)
    rw [List.append_assoc, matchHere_chars, matchHere_tabs _ hbehind hrest, List.drop_left]
  · rename_i h
    refine matchHere_chars_of_not_prefix fun hfront => h ?_
    have hcompare := List.prefix_or_prefix_of_prefix hfront (List.prefix_append line rest)
    rcases hcompare with h | ⟨more, rfl⟩
    · exact h
    · cases more with
      | nil => exact ⟨[], by simp⟩
      | cons c more =>
          have hmore := (List.prefix_append_right_inj line).mp hfront
          obtain ⟨_, rfl⟩ := hmore
          exact absurd (hrest c rfl ▸ List.mem_append_right _ List.mem_cons_self) hword

end Steps

theorem search_venvLinePattern (text : List Char) :
    venvLinePattern.search none text =
      (splitOn '\n' text).findSome? (partBehind "venv:".toList) := by
  have hword : '\n' ∉ "venv:".toList := by decide
  rw [venvLinePattern_eq, search_lines fun line rest previous hline hrest =>
    matchHere_behind_word hword previous hline hrest]
  exact if_pos (Or.inl rfl)

theorem trim_dropWhile_isTab (cs : List Char) : trim (cs.dropWhile isTab) = trim cs := by
  have htabs : ∀ c ∈ cs.takeWhile isTab, isBlank c = true := by
    intro c hc
    have htab := List.mem_takeWhile_imp hc
    simp only [isTab, Bool.or_eq_true, beq_iff_eq] at htab
    rcases htab with rfl | rfl <;> rfl
  have htrim := trim_append_left htabs (cs.dropWhile isTab)
  rwa [List.takeWhile_append_dropWhile, eq_comm] at htrim

theorem partBehind_eq_some_iff {word line part : List Char} :
    partBehind word line = some part ↔
      ∃ behind, line = word ++ behind ∧ trimRight (behind.dropWhile isTab) = part := by
  rw [partBehind]
  constructor
  · intro h
    split at h
    · rename_i hword
      obtain ⟨behind, rfl⟩ := hword
      rw [List.drop_left] at h
      exact ⟨behind, rfl, Option.some.inj h⟩
    · cases h
  · rintro ⟨behind, rfl, rfl⟩
    rw [if_pos (List.prefix_append word behind), List.drop_left]

theorem partBehind_eq_none_iff {word line : List Char} :
    partBehind word line = none ↔ ¬word <+: line := by
  rw [partBehind, ite_eq_right_iff]
  simp only [reduceCtorEq, imp_false]

/-- The first line of a text that begins with the word goes on with `behind`. -/
def FirstBehind (word text behind : List Char) : Prop :=
  ∃ above below, splitOn '\n' text = above ++ (word ++ behind) :: below ∧
    ∀ other ∈ above, ¬word <+: other

theorem findSome?_partBehind_eq_some_iff {word text part : List Char} :
    (splitOn '\n' text).findSome? (partBehind word) = some part ↔
      ∃ behind, FirstBehind word text behind ∧ trimRight (behind.dropWhile isTab) = part := by
  rw [List.findSome?_eq_some_iff]
  constructor
  · rintro ⟨above, _, below, hlines, hline, habove⟩
    obtain ⟨behind, rfl, hpart⟩ := partBehind_eq_some_iff.mp hline
    refine ⟨behind, ⟨above, below, hlines, fun other hother => ?_⟩, hpart⟩
    exact partBehind_eq_none_iff.mp (habove other hother)
  · rintro ⟨behind, ⟨above, below, hlines, habove⟩, hpart⟩
    refine ⟨above, _, below, hlines, partBehind_eq_some_iff.mpr ⟨behind, rfl, hpart⟩,
      fun other hother => ?_⟩
    exact partBehind_eq_none_iff.mpr (habove other hother)

theorem extract_venvLine {stdout value : String} (hvalue : value ≠ "") :
    AnswerForm.venvLine.extract stdout = value ↔ ∃ behind,
      FirstBehind "venv:".toList stdout.toList behind ∧ value = String.ofList (trim behind) := by
  rw [AnswerForm.extract, search_venvLinePattern]
  cases hpart : (splitOn '\n' stdout.toList).findSome? (partBehind "venv:".toList) with
  | some part =>
      obtain ⟨behind, hbehind, rfl⟩ := findSome?_partBehind_eq_some_iff.mp hpart
      dsimp only
      rw [trim_trimRight, trim_dropWhile_isTab]
      constructor
      · rintro rfl
        exact ⟨behind, hbehind, rfl⟩
      · rintro ⟨other, hother, rfl⟩
        rw [findSome?_partBehind_eq_some_iff.mpr ⟨other, hother, rfl⟩, Option.some_inj] at hpart
        have htrim := congrArg trim hpart
        rw [trim_trimRight, trim_trimRight, trim_dropWhile_isTab, trim_dropWhile_isTab] at htrim
        rw [htrim]
  | none =>
      refine iff_of_false hvalue.symm ?_
      rintro ⟨behind, hbehind, -⟩
      rw [findSome?_partBehind_eq_some_iff.mpr ⟨behind, hbehind, rfl⟩] at hpart
      cases hpart

theorem Tool.answer_eq_some_iff {tool : Tool} {output : Output} {value : String} :
    tool.answer output = some value ↔ (tool.needsSuccess = true → output.success = true) ∧
      value ≠ "" ∧ tool.form.extract output.stdout = value := by
  rw [answer]
  split
  · rename_i hfailed
    rw [Bool.and_eq_true, Bool.not_eq_true'] at hfailed
    refine iff_of_false nofun fun h => ?_
    rw [h.1 hfailed.1] at hfailed
    cases hfailed.2
  · rename_i hfailed
    have hsuccess : tool.needsSuccess = true → output.success = true := by
      simpa using hfailed
    constructor
    · intro h
      dsimp only at h
      split at h
      · cases h
      · rename_i hvalue
        cases h
        exact ⟨hsuccess, hvalue, rfl⟩
    · rintro ⟨-, hvalue, rfl⟩
      exact if_neg hvalue

/-- The answer of the tool that prints such a line is the rest of the first one, without the white
space around it, unless nothing is left of it. So no other line has a part in the answer: not the
one after an empty one, not one with a longer word, not an indented one. -/
theorem answer_of_first_venv_line :
    ∃ tool, Finder.rye.tool? = some tool ∧ ∀ output : Output,
      (∀ value, tool.answer output = some value ↔ value ≠ "" ∧ ∃ behind,
        FirstBehind "venv:".toList output.stdout.toList behind ∧
          value = String.ofList (trim behind)) ∧
      ∀ value, tool.answer output = some value → '\n' ∉ value.toList := by
  refine ⟨_, rfl, fun output => ?_⟩
  have hanswer : ∀ value,
      Tool.answer ⟨"rye", ["show"], ["pyproject.toml"], .venvLine, false⟩ output = some value ↔
        value ≠ "" ∧ ∃ behind, FirstBehind "venv:".toList output.stdout.toList behind ∧
          value = String.ofList (trim behind) := by
    intro value
    rw [Tool.answer_eq_some_iff, and_iff_right nofun]
    exact and_congr_right extract_venvLine
  refine ⟨hanswer, fun value hvalue hnewline => ?_⟩
  obtain ⟨-, behind, ⟨above, below, hlines, -⟩, rfl⟩ := (hanswer value).mp hvalue
  rw [String.toList_ofList] at hnewline
  have hline : "venv:".toList ++ behind ∈ splitOn '\n' output.stdout.toList :=
    hlines ▸ List.mem_append_right _ List.mem_cons_self
  exact not_mem_of_mem_splitOn hline (List.mem_append_right _ (mem_of_mem_trim hnewline))

example : Finder.rye.tool?.bind (fun tool => tool.answer
    ⟨"venv python: 3\n venv: a\nvenv:\t b \r\nvenv: c", "", 1⟩) = some "b" := by
  decide +kernel

example : Finder.rye.tool?.bind (fun tool => tool.answer ⟨"venv: \nvenv: a", "", 0⟩) = none := by
  decide +kernel

end EnvScout
