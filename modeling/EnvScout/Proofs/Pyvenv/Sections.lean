import EnvScout.Proofs.Pyvenv.Reading
import EnvScout.Proofs.Table
import EnvScout.Proofs.Text.Split

/-!
Two configurations with a blank line between them. The blank line closes whatever key is open, so
the lines behind it are read as they would be alone, and what they assign goes over what was read
before: no value is gone on with across the blank line, and a key that comes again starts afresh.
-/

namespace EnvScout

theorem Table.override_set (t other : Table) (key value : String) :
    t.override (other.set key value) = (t.override other).set key value := by
  refine ext_get? fun looked => ?_
  rw [get?_override, get?_set, get?_set, get?_override]
  split <;> rfl

namespace Pyvenv

open Text

/-- One reading has come as far as another, but has the entries `below` under its own. The key that
is open has a value in both of them, so going on with it does not reach what is below. -/
structure Over (below : Table) (reading whole : Reading) : Prop where
  entries : whole.entries = below.override reading.entries
  openKey : whole.openKey = reading.openKey
  assigned : ∀ key, reading.openKey = some key → ∃ value, reading.entries.get? key = some value

namespace Over

variable {below : Table} {reading whole : Reading}

theorem start (below : Table) : Over below ⟨.empty, none⟩ ⟨below, none⟩ where
  entries := rfl
  openKey := rfl
  assigned _ h := nomatch h

theorem close (h : Over below reading whole) :
    Over below { reading with openKey := none } { whole with openKey := none } where
  entries := h.entries
  openKey := rfl
  assigned _ hopen := nomatch hopen

theorem set (h : Over below reading whole) (key value : String) :
    Over below ⟨reading.entries.set key value, some key⟩
      ⟨whole.entries.set key value, some key⟩ where
  entries := by rw [h.entries, Table.override_set]
  openKey := rfl
  assigned opened hopen := by
    cases hopen
    exact ⟨value, Table.get?_set_self reading.entries key value⟩

theorem assign (h : Over below reading whole) (line : List Char) :
    Over below (reading.assign line) (whole.assign line) := by
  rcases separator_cases line with hnone | ⟨front, sep, back, rfl, hsep, hfront⟩
  · rw [reading.assign_of_no_separator hnone, whole.assign_of_no_separator hnone]
    exact h.close
  · rw [reading.assign_append hfront hsep, whole.assign_append hfront hsep]
    split
    · exact h.close
    · exact h.set _ _

/-- A line does the same to both readings. -/
theorem step (h : Over below reading whole) (line : List Char) :
    Over below (reading.step line) (whole.step line) := by
  rcases line_cases line with hblank | ⟨mark, rest, htrim, hmark⟩ | ⟨hline, hmark⟩
  · rw [reading.step_of_blank hblank, whole.step_of_blank hblank]
    exact h.close
  · rw [reading.step_of_comment htrim hmark, whole.step_of_comment htrim hmark]
    exact h
  -- The key that is open decides, and it is the same one in both, with a value of its own.
  cases hopen : reading.openKey with
  | none =>
      have hwhole : whole.openKey = none := h.openKey.trans hopen
      rw [reading.step_of_free hline hmark (by simp [hopen]),
        whole.step_of_free hline hmark (by simp [hwhole])]
      exact h.assign (trim line)
  | some key =>
      cases hindent : line.head?.any isBlank with
      | false =>
          rw [reading.step_of_free hline hmark (by simp [hindent]),
            whole.step_of_free hline hmark (by simp [hindent])]
          exact h.assign (trim line)
      | true =>
          have hwhole : whole.openKey = some key := h.openKey.trans hopen
          obtain ⟨value, hvalue⟩ := h.assigned key hopen
          have habove : whole.entries.get? key = some value := by
            rw [h.entries, Table.get?_override, hvalue]
            rfl
          rw [reading.step_of_indented hline hmark hindent hopen hvalue,
            whole.step_of_indented hline hmark hindent hwhole habove, hopen, hwhole]
          exact h.set key _

theorem foldl_step (h : Over below reading whole) (lines : List (List Char)) :
    Over below (lines.foldl Reading.step reading) (lines.foldl Reading.step whole) := by
  induction lines generalizing reading whole with
  | nil => exact h
  | cons line rest ih => exact ih (h.step line)

end Over

/-- Whatever stands before a blank line and behind it, the entries behind it go over those before
it: a key has the value it is given behind, and if it is given none there, the one it has before. -/
theorem parse_across_blank_line (front back : String) :
    (parse (front ++ "\n\n" ++ back)).entries =
      (parse front).entries.override (parse back).entries ∧
    ∀ key, (parse (front ++ "\n\n" ++ back)).entries.get? key =
      ((parse back).entries.get? key).or ((parse front).entries.get? key) := by
  have hlines : splitOn '\n' (front ++ "\n\n" ++ back).toList =
      splitOn '\n' front.toList ++ [] :: splitOn '\n' back.toList := by
    have htext : (front ++ "\n\n" ++ back).toList =
        front.toList ++ '\n' :: '\n' :: back.toList := by
      simp
    rw [htext, splitOn_append_sep, splitOn_cons_self]
  have hentries : (parse (front ++ "\n\n" ++ back)).entries =
      (parse front).entries.override (parse back).entries := by
    rw [parse, hlines, List.foldl_append, List.foldl_cons, Reading.step_of_blank _ trim_nil]
    exact ((Over.start (parse front).entries).foldl_step (splitOn '\n' back.toList)).entries
  refine ⟨hentries, fun key => ?_⟩
  rw [hentries, Table.get?_override]
  exact Option.orElse_eq_or ..

example : (parse "home = /usr\n  bin\nversion: 3\r\n\n  lost\nHome =").entries.rows =
    [("home", ""), ("version", "3")] := by
  decide +kernel

end Pyvenv

end EnvScout
