import EnvScout.Text.Split

/-!
Cutting a text undoes putting pieces together, as long as no piece has the separator in it; and the
pieces of a text never have. Where two texts meet, the last piece of the one and the first of the
other are one piece.
-/

namespace EnvScout.Text

variable {sep : Char}

theorem splitOn_of_not_mem {cs : List Char} (h : sep ∉ cs) : splitOn sep cs = [cs] := by
  induction cs with
  | nil => rfl
  | cons c cs ih =>
      have hne : c ≠ sep := Ne.symm (List.ne_of_not_mem_cons h)
      exact splitOn_cons_of_ne hne (ih (List.not_mem_of_not_mem_cons h))

/-- The pieces of two texts with a separator between them are those of the one and the other. -/
theorem splitOn_append_sep (front rest : List Char) :
    splitOn sep (front ++ sep :: rest) = splitOn sep front ++ splitOn sep rest := by
  induction front with
  | nil => exact splitOn_cons_self sep rest
  | cons c front ih =>
      by_cases hc : c = sep
      · rw [hc, List.cons_append, splitOn_cons_self, ih, splitOn_cons_self, List.cons_append]
      · cases hs : splitOn sep front with
        | nil => exact absurd hs (splitOn_ne_nil sep front)
        | cons piece pieces =>
            rw [hs] at ih
            rw [List.cons_append, splitOn_cons_of_ne hc ih, splitOn_cons_of_ne hc hs]
            rfl

theorem splitOn_append_cons {front : List Char} (h : sep ∉ front) (rest : List Char) :
    splitOn sep (front ++ sep :: rest) = front :: splitOn sep rest := by
  rw [splitOn_append_sep, splitOn_of_not_mem h, List.singleton_append]

theorem splitOn_append_of_not_mem {front cs piece : List Char} {rest : List (List Char)}
    (h : sep ∉ front) (hs : splitOn sep cs = piece :: rest) :
    splitOn sep (front ++ cs) = (front ++ piece) :: rest := by
  induction front with
  | nil => exact hs
  | cons c front ih =>
      have hne : c ≠ sep := Ne.symm (List.ne_of_not_mem_cons h)
      exact splitOn_cons_of_ne hne (ih (List.not_mem_of_not_mem_cons h))

theorem splitOn_joinWith {pieces : List (List Char)} (hne : pieces ≠ [])
    (h : ∀ piece ∈ pieces, sep ∉ piece) : splitOn sep (joinWith sep pieces) = pieces := by
  induction pieces with
  | nil => exact absurd rfl hne
  | cons piece rest ih =>
      have hpiece := h piece List.mem_cons_self
      cases rest with
      | nil => exact splitOn_of_not_mem hpiece
      | cons next rest =>
          rw [joinWith, splitOn_append_cons hpiece, ih (List.cons_ne_nil _ _)
            fun other hother => h other (List.mem_cons_of_mem _ hother)]
          exact List.cons_ne_nil _ _

theorem joinWith_append {front rest : List (List Char)} (hfront : front ≠ []) (hrest : rest ≠ []) :
    joinWith sep (front ++ rest) = joinWith sep front ++ sep :: joinWith sep rest := by
  induction front with
  | nil => exact absurd rfl hfront
  | cons piece front ih =>
      cases front with
      | nil =>
          obtain ⟨next, more, rfl⟩ := List.exists_cons_of_ne_nil hrest
          rfl
      | cons next front =>
          calc joinWith sep (piece :: next :: front ++ rest)
              = piece ++ sep :: joinWith sep (next :: front ++ rest) := rfl
            _ = piece ++ sep :: (joinWith sep (next :: front) ++ sep :: joinWith sep rest) := by
                rw [ih (List.cons_ne_nil _ _)]
            _ = joinWith sep (piece :: next :: front) ++ sep :: joinWith sep rest := by
                rw [← List.cons_append, ← List.append_assoc]
                rfl

theorem joinWith_concat {pieces : List (List Char)} (hne : pieces ≠ [])
    (last : List Char) : joinWith sep (pieces ++ [last]) = joinWith sep pieces ++ sep :: last :=
  joinWith_append hne (List.cons_ne_nil _ _)

/-- Lines that are each ended, and the empty text behind the last of them. -/
theorem splitOn_ended {lines : List (List Char)} (h : ∀ line ∈ lines, sep ∉ line) :
    splitOn sep (lines.flatMap fun line => line ++ [sep]) = lines ++ [[]] := by
  induction lines with
  | nil => rfl
  | cons line rest ih =>
      obtain ⟨hline, hrest⟩ := List.forall_mem_cons.mp h
      rw [List.flatMap_cons, List.append_assoc, List.singleton_append, splitOn_append_cons hline,
        ih hrest]
      rfl

theorem not_mem_of_mem_splitOn {cs piece : List Char} (h : piece ∈ splitOn sep cs) :
    sep ∉ piece := by
  induction cs generalizing piece with
  | nil =>
      rw [splitOn_nil, List.mem_singleton] at h
      simp [h]
  | cons c cs ih =>
      by_cases hc : c = sep
      · rw [hc, splitOn_cons_self, List.mem_cons] at h
        rcases h with rfl | h
        · exact List.not_mem_nil
        · exact ih h
      · cases hs : splitOn sep cs with
        | nil => exact absurd hs (splitOn_ne_nil sep cs)
        | cons first rest =>
            rw [splitOn_cons_of_ne hc hs, List.mem_cons] at h
            rcases h with rfl | h
            · have hfirst : sep ∉ first := ih (hs ▸ List.mem_cons_self)
              exact List.not_mem_cons_of_ne_of_not_mem (Ne.symm hc) hfirst
            · exact ih (hs ▸ List.mem_cons_of_mem _ h)

/-- Whatever is written behind a text goes on with the last piece of it. -/
theorem exists_last_piece (sep : Char) (front : List Char) :
    ∃ above last, sep ∉ last ∧
      (∀ rest, splitOn sep (front ++ rest) = above ++ splitOn sep (last ++ rest)) ∧
      ((∀ c, front.getLast? = some c → c = sep) → last = []) := by
  by_cases h : sep ∈ front
  · obtain ⟨last, before, hfront, hlast⟩ := List.eq_append_cons_of_mem (List.mem_reverse.mpr h)
    have hcut : front = before.reverse ++ sep :: last.reverse := by
      rw [← List.reverse_reverse front, hfront]
      simp
    refine ⟨splitOn sep before.reverse, last.reverse, by simpa using hlast, fun rest => ?_,
      fun hend => ?_⟩
    · rw [hcut, List.append_assoc, List.cons_append, splitOn_append_sep]
    · cases last with
      | nil => rfl
      | cons c last =>
          have hc : c = sep := hend c (by rw [← List.head?_reverse, hfront]; rfl)
          exact absurd (hc ▸ List.mem_cons_self) hlast
  · refine ⟨[], front, h, fun _ => rfl, fun hend => ?_⟩
    cases hlast : front.getLast? with
    | none => exact List.getLast?_eq_none_iff.mp hlast
    | some c => exact absurd (hend c hlast ▸ List.mem_of_getLast? hlast) h

/-- Whatever is written in front of a text goes on with the first piece of it. -/
theorem exists_first_piece (sep : Char) (back : List Char) :
    ∃ first below, sep ∉ first ∧
      (∀ front, sep ∉ front → splitOn sep (front ++ back) = (front ++ first) :: below) ∧
      ((∀ c, back.head? = some c → c = sep) → first = []) := by
  by_cases h : sep ∈ back
  · obtain ⟨first, rest, rfl, hfirst⟩ := List.eq_append_cons_of_mem h
    refine ⟨first, splitOn sep rest, hfirst, fun front hfront => ?_, fun hbegin => ?_⟩
    · rw [← List.append_assoc, splitOn_append_cons]
      exact fun hmem => (List.mem_append.mp hmem).elim hfront hfirst
    · cases first with
      | nil => rfl
      | cons c first => exact absurd (hbegin c rfl ▸ List.mem_cons_self) hfirst
  · refine ⟨back, [], h, fun front hfront => splitOn_of_not_mem ?_, fun hbegin => ?_⟩
    · exact fun hmem => (List.mem_append.mp hmem).elim hfront h
    · cases back with
      | nil => rfl
      | cons c back => exact absurd (hbegin c rfl ▸ List.mem_cons_self) h

/-- Pieces put together begin with the first of them, and what follows begins with the separator. -/
theorem exists_joinWith_cons (first : List Char) (others : List (List Char)) :
    ∃ rest, joinWith sep (first :: others) = first ++ rest ∧ ∀ c ∈ rest.head?, c = sep := by
  cases others with
  | nil => exact ⟨[], (List.append_nil first).symm, fun _ h => nomatch h⟩
  | cons next others =>
      refine ⟨sep :: joinWith sep (next :: others), rfl, ?_⟩
      rintro c hc
      exact (Option.some.inj hc).symm

theorem exists_rest_of_splitOn {text first : List Char} {others : List (List Char)}
    (h : splitOn sep text = first :: others) :
    ∃ rest, text = first ++ rest ∧ ∀ c ∈ rest.head?, c = sep := by
  have htext := joinWith_splitOn sep text
  rw [h] at htext
  rw [← htext]
  exact exists_joinWith_cons first others

end EnvScout.Text
