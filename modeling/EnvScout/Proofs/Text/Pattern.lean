import EnvScout.Proofs.Text.Blank
import EnvScout.Proofs.Text.Split
import EnvScout.Text.Pattern

/-!
How a pattern fits. Each run takes a front of the text that is left, made of its own characters, and
hands the rest to the next step; which front it takes first is said by its preference. A pattern
that begins at the start of a line and never goes by what follows the line finds the first line that
fits.
-/

namespace EnvScout.Text.Pattern

variable {steps : Pattern} {among : Char → Bool} {longest marked : Bool} {previous : Option Char}

theorem mem_lengths {most n : Nat} : n ∈ lengths longest most ↔ n ≤ most := by
  have hrange : n ∈ List.range (most + 1) ↔ n ≤ most := List.mem_range.trans Nat.lt_succ_iff
  cases longest with
  | true => rw [lengths, if_pos rfl, List.mem_reverse, hrange]
  | false => rw [lengths, if_neg Bool.false_ne_true, hrange]

theorem lengths_longest (most : Nat) :
    lengths true most = most :: (List.range most).reverse := by
  rw [lengths, if_pos rfl, List.range_succ, List.reverse_append]
  rfl

theorem exists_lengths_shortest {most n : Nat} (h : n ≤ most) :
    ∃ longer, lengths false most = List.range n ++ n :: longer := by
  refine ⟨(List.range (most - n)).map fun more => n + (more + 1), ?_⟩
  rw [lengths, if_neg Bool.false_ne_true, show most + 1 = n + (most - n + 1) by omega,
    List.range_add, List.range_succ_eq_map, List.map_cons, List.map_map]
  rfl

theorem length_le_takeWhile {taken left : List Char} (h : ∀ c ∈ taken, among c = true) :
    taken.length ≤ ((taken ++ left).takeWhile among).length := by
  rw [List.takeWhile_append_of_pos h, List.length_append]
  exact Nat.le_add_right _ _

theorem among_of_mem_take {cs : List Char} {n : Nat} (h : n ≤ (cs.takeWhile among).length) :
    ∀ c ∈ cs.take n, among c = true := by
  intro c hc
  have hfront : cs.take n <+: cs.takeWhile among :=
    List.prefix_of_prefix_length_le (List.take_prefix _ _) (List.takeWhile_prefix _)
      ((List.length_take_le n cs).trans h)
  exact List.mem_takeWhile_imp (hfront.subset hc)

theorem before_append (previous : Option Char) (taken left : List Char) :
    before previous (taken ++ left) taken.length = taken.getLast?.or previous := by
  rw [before, List.take_left]

/-- What a run comes to when it takes just this front. -/
theorem run_append (steps : Pattern) (marked : Bool) (previous : Option Char)
    (taken left : List Char) :
    ((matchHere steps (before previous (taken ++ left) taken.length)
      ((taken ++ left).drop taken.length)).map fun part =>
        if marked then (taken ++ left).take taken.length ++ part else part) =
      (matchHere steps (taken.getLast?.or previous) left).map fun part =>
        if marked then taken ++ part else part := by
  rw [before_append, List.drop_left, List.take_left]

/-- A run fits when the rest fits behind some front of its characters. -/
theorem isSome_matchHere_run_iff {cs : List Char} :
    (matchHere (.run among longest marked :: steps) previous cs).isSome = true ↔
      ∃ taken left, cs = taken ++ left ∧ (∀ c ∈ taken, among c = true) ∧
        (matchHere steps (taken.getLast?.or previous) left).isSome = true := by
  rw [matchHere, List.findSome?_isSome_iff]
  constructor
  · rintro ⟨n, hn, hsome⟩
    rw [mem_lengths] at hn
    have hlength : (cs.take n).length = n :=
      List.length_take_of_le (hn.trans (List.takeWhile_prefix _).length_le)
    refine ⟨cs.take n, cs.drop n, (List.take_append_drop n cs).symm, among_of_mem_take hn, ?_⟩
    rwa [Option.isSome_map] at hsome
  · rintro ⟨taken, left, rfl, htaken, hsome⟩
    refine ⟨taken.length, mem_lengths.mpr (length_le_takeWhile htaken), ?_⟩
    rw [run_append, Option.isSome_map]
    exact hsome

/-- A run that prefers to be long takes all there is, if the rest fits behind it. -/
theorem matchHere_run_longest {taken left part : List Char} (htaken : ∀ c ∈ taken, among c = true)
    (hleft : left.takeWhile among = [])
    (h : matchHere steps (taken.getLast?.or previous) left = some part) :
    matchHere (.run among true marked :: steps) previous (taken ++ left) =
      some (if marked then taken ++ part else part) := by
  have hlength : ((taken ++ left).takeWhile among).length = taken.length := by
    rw [List.takeWhile_append_of_pos htaken, hleft, List.append_nil]
  rw [matchHere, hlength, lengths_longest, List.findSome?_cons, run_append, h]
  rfl

/-- A run that prefers to be short takes the first front behind which the rest fits. -/
theorem matchHere_run_shortest {taken left part : List Char}
    (htaken : ∀ c ∈ taken, among c = true)
    (hshorter : ∀ front more, taken = front ++ more → more ≠ [] → ∀ previous,
      matchHere steps previous (more ++ left) = none)
    (h : matchHere steps (taken.getLast?.or previous) left = some part) :
    matchHere (.run among false marked :: steps) previous (taken ++ left) =
      some (if marked then taken ++ part else part) := by
  obtain ⟨longer, hlengths⟩ :=
    exists_lengths_shortest (@length_le_takeWhile among taken left htaken)
  rw [matchHere, hlengths, List.findSome?_eq_some_iff]
  refine ⟨_, _, _, rfl, ?_, fun n hn => ?_⟩
  · rw [run_append, h]
    rfl
  · rw [List.mem_range] at hn
    rw [Option.map_eq_none_iff, List.drop_append_of_le_length hn.le]
    refine hshorter (taken.take n) _ (List.take_append_drop n taken).symm ?_ _
    rw [ne_eq, List.drop_eq_nil_iff, not_le]
    exact hn

/-- Single characters fit where the text goes on with them. -/
theorem matchHere_chars (steps : Pattern) (text : List Char) (previous : Option Char)
    (cs : List Char) :
    matchHere (text.map .char ++ steps) previous (text ++ cs) =
      matchHere steps (text.getLast?.or previous) cs := by
  induction text generalizing previous with
  | nil => rfl
  | cons c text ih =>
      have hlast : text.getLast?.or (some c) = (c :: text).getLast?.or previous := by
        rw [List.getLast?_cons]
        cases text.getLast? <;> rfl
      rw [List.map_cons, List.cons_append, List.cons_append, matchHere, if_pos rfl, ih, hlast]

theorem matchHere_chars_of_not_prefix {text cs : List Char} (h : ¬text <+: cs) :
    matchHere (text.map .char ++ steps) previous cs = none := by
  induction text generalizing previous cs with
  | nil => exact absurd List.nil_prefix h
  | cons c text ih =>
      cases cs with
      | nil => rfl
      | cons d cs =>
          rw [List.map_cons, List.cons_append, matchHere]
          split
          · rename_i hc
            exact ih fun htext => h (List.cons_prefix_cons.mpr ⟨hc, htext⟩)
          · rfl

section Lines

variable {value : List Char → Option (List Char)}

/-- The character in front of a place tells whether a line begins there. -/
def AtLineStart (previous : Option Char) : Prop :=
  previous = none ∨ previous = some '\n'

instance (previous : Option Char) : Decidable (AtLineStart previous) :=
  inferInstanceAs (Decidable (_ ∨ _))

theorem matchHere_lineStart (steps : Pattern) (previous : Option Char) (cs : List Char) :
    matchHere (.lineStart :: steps) previous cs =
      if AtLineStart previous then matchHere steps previous cs else none := rfl

/-- What a pattern finds that begins at the start of a line and goes by nothing but that line: what
the first line has that fits. A line that has begun already is passed over. -/
theorem search_lines
    (hsteps : ∀ line rest previous, '\n' ∉ line → (∀ c ∈ rest.head?, c = '\n') →
      matchHere steps previous (line ++ rest) = value line)
    (previous : Option Char) (text : List Char) :
    search (.lineStart :: steps) previous text =
      if AtLineStart previous then (splitOn '\n' text).findSome? value
      else (splitOn '\n' text).tail.findSome? value := by
  induction text generalizing previous with
  | nil =>
      have hempty : matchHere steps previous [] = value [] :=
        hsteps [] [] previous List.not_mem_nil (fun _ h => nomatch h)
      rw [search, matchHere_lineStart, hempty, splitOn_nil, List.findSome?_singleton]
      rfl
  | cons c cs ih =>
      obtain ⟨line, others, hsplit⟩ := List.exists_cons_of_ne_nil (splitOn_ne_nil '\n' (c :: cs))
      have hnewline : '\n' ∉ line := not_mem_of_mem_splitOn (hsplit ▸ List.mem_cons_self)
      obtain ⟨rest, htext, hrest⟩ := exists_rest_of_splitOn hsplit
      have hbehind : search (.lineStart :: steps) (some c) cs = others.findSome? value := by
        rw [ih]
        by_cases hc : c = '\n'
        · rw [hc, splitOn_cons_self] at hsplit
          obtain ⟨-, rfl⟩ := List.cons_eq_cons.mp hsplit
          exact if_pos (Or.inr (congrArg some hc))
        · obtain ⟨piece, pieces, hpieces⟩ := List.exists_cons_of_ne_nil (splitOn_ne_nil '\n' cs)
          rw [splitOn_cons_of_ne hc hpieces] at hsplit
          obtain ⟨-, rfl⟩ := List.cons_eq_cons.mp hsplit
          rw [hpieces, List.tail_cons]
          refine if_neg ?_
          rintro (h | h)
          · cases h
          · exact hc (Option.some.inj h)
      rw [search, matchHere_lineStart, hsplit, List.tail_cons, List.findSome?_cons, hbehind]
      by_cases hprevious : AtLineStart previous
      · rw [if_pos hprevious, if_pos hprevious, htext, hsteps line rest previous hnewline hrest]
        cases value line <;> rfl
      · rw [if_neg hprevious, if_neg hprevious]

end Lines

end EnvScout.Text.Pattern
