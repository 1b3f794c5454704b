import EnvScout.Embedded
import EnvScout.Proofs.Text.Split
import Mathlib.Data.List.TakeWhile

/-!
Finding the report of an application behind whatever else it prints. The report starts with the
first line that begins with a brace and a quote, so lines in front of it that do not begin so make
no difference, whatever they hold further on; and without such a line there is no report.
-/

namespace EnvScout.Application

open Text

/-- The text begins as a report does. -/
def OpensReport (text : List Char) : Prop :=
  ['{', '"'] <+: text

instance (text : List Char) : Decidable (OpensReport text) :=
  inferInstanceAs (Decidable (_ <+: _))

variable {line rest : List Char}

theorem opensReport_cons_iff {c : Char} {cs : List Char} :
    OpensReport (c :: cs) ↔ c = '{' ∧ cs.head? = some '"' := by
  rw [OpensReport, List.cons_prefix_cons, List.singleton_prefix_iff_head?_eq_some, eq_comm]

/-- A line is a report's first one by what stands in the line itself. -/
theorem opensReport_line_iff : OpensReport (line ++ '\n' :: rest) ↔ OpensReport line := by
  cases line with
  | nil => simp [OpensReport]
  | cons c line =>
      rw [List.cons_append, opensReport_cons_iff, opensReport_cons_iff]
      cases line <;> simp

theorem fromReport_of_opens {text : List Char} (h : OpensReport text) :
    fromReport true text = some text := by
  cases text with
  | nil => simp [OpensReport] at h
  | cons c cs =>
      obtain ⟨rfl, hquote⟩ := opensReport_cons_iff.mp h
      simp [fromReport, hquote]

theorem fromReport_cons_inside (c : Char) (cs : List Char) :
    fromReport false (c :: cs) = fromReport (c == '\n') cs :=
  rfl

theorem fromReport_cons_of_not_opens {c : Char} {cs : List Char} (h : ¬OpensReport (c :: cs)) :
    fromReport true (c :: cs) = fromReport (c == '\n') cs := by
  rw [fromReport, if_neg]
  simpa [opensReport_cons_iff] using h

theorem inside_line {c : Char} (h : '\n' ∉ c :: line) : (c == '\n') = false ∧ '\n' ∉ line :=
  ⟨beq_eq_false_iff_ne.mpr (List.ne_of_not_mem_cons h).symm, List.not_mem_of_not_mem_cons h⟩

/-- Inside a line no report starts. -/
theorem fromReport_inside (hline : '\n' ∉ line) (rest : List Char) :
    fromReport false (line ++ rest) = fromReport false rest := by
  induction line with
  | nil => rfl
  | cons c line ih =>
      obtain ⟨hc, hline⟩ := inside_line hline
      rw [List.cons_append, fromReport_cons_inside, hc, ih hline]

/-- A line that does not begin as a report does is passed over. -/
theorem fromReport_line (hline : '\n' ∉ line) (h : ¬OpensReport line) (rest : List Char) :
    fromReport true (line ++ '\n' :: rest) = fromReport true rest := by
  have hstart : ¬OpensReport (line ++ '\n' :: rest) := mt opensReport_line_iff.mp h
  cases line with
  | nil => exact fromReport_cons_of_not_opens hstart
  | cons c line =>
      obtain ⟨hc, hline⟩ := inside_line hline
      rw [List.cons_append] at hstart ⊢
      rw [fromReport_cons_of_not_opens hstart, hc, fromReport_inside hline,
        fromReport_cons_inside]
      rfl

theorem fromReport_last_line (hline : '\n' ∉ line) (h : ¬OpensReport line) :
    fromReport true line = none := by
  cases line with
  | nil => rfl
  | cons c line =>
      obtain ⟨hc, hline⟩ := inside_line hline
      have hinside := fromReport_inside hline []
      rw [List.append_nil] at hinside
      rw [fromReport_cons_of_not_opens h, hc, hinside, fromReport]

/-- The lines from the first one on that begins as a report does, as one text. -/
def reportLines (lines : List (List Char)) : Option (List Char) :=
  match lines.dropWhile fun line => !decide (OpensReport line) with
  | [] => none
  | found => some (joinWith '\n' found)

theorem reportLines_of_opens {lines : List (List Char)} (h : OpensReport line) :
    reportLines (line :: lines) = some (joinWith '\n' (line :: lines)) := by
  rw [reportLines, List.dropWhile_cons_of_neg (by simpa using h)]

theorem reportLines_of_not_opens {front : List (List Char)} (h : ∀ line ∈ front, ¬OpensReport line)
    (lines : List (List Char)) : reportLines (front ++ lines) = reportLines lines := by
  rw [reportLines, List.dropWhile_append_of_pos, ← reportLines]
  intro line hline
  simpa using h line hline

theorem reportLines_eq_none_iff {lines : List (List Char)} :
    reportLines lines = none ↔ ∀ line ∈ lines, ¬OpensReport line := by
  have hnil : reportLines lines = none ↔
      (lines.dropWhile fun line => !decide (OpensReport line)) = [] := by
    rw [reportLines]
    split
    · rename_i hempty
      simp [hempty]
    · rename_i found hfound
      simpa using hfound
  rw [hnil, List.dropWhile_eq_nil_iff]
  simp

theorem fromReport_joinWith {lines : List (List Char)} (hne : lines ≠ [])
    (hlines : ∀ line ∈ lines, '\n' ∉ line) :
    fromReport true (joinWith '\n' lines) = reportLines lines := by
  induction lines with
  | nil => exact absurd rfl hne
  | cons line lines ih =>
      obtain ⟨hline, hrest⟩ := List.forall_mem_cons.mp hlines
      by_cases hopens : OpensReport line
      · obtain ⟨rest, hjoined, -⟩ := @exists_joinWith_cons '\n' line lines
        rw [reportLines_of_opens hopens, fromReport_of_opens]
        rw [hjoined]
        exact List.IsPrefix.trans hopens (List.prefix_append line rest)
      have hpassed : reportLines (line :: lines) = reportLines lines :=
        reportLines_of_not_opens (List.forall_mem_singleton.mpr hopens) lines
      cases lines with
      | nil =>
          rw [joinWith, fromReport_last_line hline hopens, hpassed]
          rfl
      | cons next lines =>
          rw [joinWith, fromReport_line hline hopens, hpassed, ih (List.cons_ne_nil _ _) hrest]
          exact List.cons_ne_nil _ _

/-- Where the report starts is a matter of the lines. -/
theorem fromReport_eq (text : List Char) :
    fromReport true text = reportLines (splitOn '\n' text) := by
  rw [← fromReport_joinWith (splitOn_ne_nil '\n' text) fun line => not_mem_of_mem_splitOn,
    joinWith_splitOn]

theorem fromReport_behind {banner : List Char}
    (hbanner : ∀ line ∈ splitOn '\n' banner, ¬OpensReport line) {report : List Char}
    (hreport : OpensReport report) :
    fromReport true (banner ++ '\n' :: report) = some report := by
  rw [fromReport_eq, splitOn_append_sep, reportLines_of_not_opens hbanner, ← fromReport_eq,
    fromReport_of_opens hreport]

theorem readReport_blender_of_found {stdout report : String}
    (h : fromReport true stdout.toList = some report.toList) :
    readReport blender stdout = readReport gdb report := by
  simp only [readReport, h]

theorem readReport_gdb_ne_noReport (stdout : String) :
    readReport gdb stdout ≠ .error .noReport := by
  simp only [readReport]
  split <;> nofun

theorem readReport_blender_eq_noReport_iff {stdout : String} :
    readReport blender stdout = .error .noReport ↔
      ∀ line ∈ splitOn '\n' stdout.toList, ¬OpensReport line := by
  rw [← reportLines_eq_none_iff, ← fromReport_eq]
  cases hfound : fromReport true stdout.toList with
  | none => simp only [readReport, hfound]
  | some report =>
      have hreport : fromReport true stdout.toList = some (String.ofList report).toList := by
        rw [hfound, String.toList_ofList]
      rw [readReport_blender_of_found hreport]
      exact iff_of_false (readReport_gdb_ne_noReport _) nofun

/-- What Blender prints before its report is of no account: with or without it the report is read as
the same report from GDB is, whether that succeeds or fails. Only where no line begins as a report
does is the output not what was expected. -/
theorem readReport_behind_banner :
    (∀ banner report : String, (∀ line ∈ splitOn '\n' banner.toList, ¬OpensReport line) →
      OpensReport report.toList →
        readReport blender report = readReport gdb report ∧
        readReport blender (banner ++ "\n" ++ report) = readReport gdb report) ∧
    ∀ stdout : String, readReport blender stdout = .error .noReport ↔
      ∀ line ∈ splitOn '\n' stdout.toList, ¬OpensReport line := by
  refine ⟨fun banner report hbanner hreport => ⟨?_, ?_⟩, fun stdout =>
    readReport_blender_eq_noReport_iff⟩
  · exact readReport_blender_of_found (fromReport_of_opens hreport)
  · refine readReport_blender_of_found ?_
    rw [← fromReport_behind hbanner hreport, String.toList_append, String.toList_append,
      List.append_assoc]
    rfl

/-- Lines with a brace and a quote in them, none at the beginning. -/
def busyBanner : String :=
  "Blender 4.1.0\nRead prefs: \x7b\"a\": 1\x7d\n \x7b\"paths\": []\x7d\n\x7b\n\""

def lineReport : String :=
  "\x7b\"paths\": [\"/modules\"]\x7d"

theorem lineReport_behind_busyBanner :
    (∀ line ∈ splitOn '\n' busyBanner.toList, ¬OpensReport line) ∧ OpensReport lineReport.toList ∧
      readReport blender (busyBanner ++ "\n" ++ lineReport) = readReport gdb lineReport ∧
      readReport blender busyBanner = .error .noReport := by
  have hbanner : ∀ line ∈ splitOn '\n' busyBanner.toList, ¬OpensReport line := by
    decide +kernel
  have hreport : OpensReport lineReport.toList := by decide +kernel
  obtain ⟨hbehind, hmissing⟩ := readReport_behind_banner
  exact ⟨hbanner, hreport, (hbehind busyBanner lineReport hbanner hreport).2,
    (hmissing busyBanner).mpr hbanner⟩

end EnvScout.Application
