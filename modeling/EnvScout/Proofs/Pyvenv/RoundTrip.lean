import EnvScout.Proofs.Pyvenv.Regular

/-!
A configuration in its canonical form: each entry in the order of the keys, the further lines of a
value indented. Whatever text the entries were parsed from, their canonical form gives them back.
-/

namespace EnvScout.Pyvenv

open Text

/-- The lines that write one entry. -/
def entryLines (key value : String) : List (List Char) :=
  let lines := splitOn '\n' value.toList
  (key.toList ++ " = ".toList ++ lines.headD []) :: lines.tail.map fun line => "    ".toList ++ line

def renderedLines (cfg : Pyvenv) : List (List Char) :=
  cfg.entries.rows.flatMap fun row => entryLines row.1 row.2

/-- The canonical text of a configuration; every line of it is ended. -/
def render (cfg : Pyvenv) : String :=
  String.ofList (cfg.renderedLines.flatMap fun line => line ++ ['\n'])

theorem toList_extend {value : String} (h : value ≠ "") (line : List Char) :
    (extend value line).toList = value.toList ++ '\n' :: line := by
  simp [extend, h]

/-- The lines of a value are what it was put together from. -/
theorem IsValue.splitOn {value : String} (h : IsValue value) :
    ∃ first further, Text.splitOn '\n' value.toList = first :: further ∧ IsFirstLine first ∧
      (∀ line ∈ further, IsFurtherLine line) ∧
      further.foldl extend (String.ofList first) = value := by
  induction h with
  | @first line hline =>
      refine ⟨line, [], ?_, hline, List.forall_mem_nil _, rfl⟩
      rw [String.toList_ofList, splitOn_of_not_mem hline.not_newline]
  | @further value line _ hline ih =>
      by_cases hempty : value = ""
      · refine ⟨line, [], ?_, hline.toIsFirstLine, List.forall_mem_nil _, ?_⟩
        · rw [extend, if_pos hempty, String.toList_ofList, splitOn_of_not_mem hline.not_newline]
        · rw [extend, if_pos hempty, List.foldl_nil]
      · obtain ⟨first, further, hlines, hfirst, hfurther, hvalue⟩ := ih
        refine ⟨first, further ++ [line], ?_, hfirst, ?_, ?_⟩
        · rw [toList_extend hempty, splitOn_append_sep, hlines,
            splitOn_of_not_mem hline.not_newline, List.cons_append]
        · intro other hother
          rcases List.mem_append.mp hother with hother | hother
          · exact hfurther other hother
          · exact List.mem_singleton.mp hother ▸ hline
        · rw [List.foldl_concat, hvalue]

theorem blank_space : ∀ c ∈ [' '], isBlank c = true :=
  List.forall_mem_singleton.mpr rfl

theorem blank_indentation : ∀ c ∈ "    ".toList, isBlank c = true :=
  List.all_eq_true.mp rfl

/-- The line that writes a key with the first line of its value, cut behind the separator. An empty
first line leaves a blank there that trimming takes away. -/
theorem trim_entry {key first : List Char} (hkey : IsKey key) (hfirst : IsFirstLine first) :
    ∃ back, trim (key ++ " = ".toList ++ first) = key ++ [' '] ++ '=' :: back ∧
      trim back = first := by
  have hhead : ∀ rest c, (key ++ rest).head? = some c → isBlank c = false := by
    intro rest c hc
    obtain ⟨d, tail, rfl⟩ := List.exists_cons_of_ne_nil hkey.ne_nil
    exact (trim_eq_self_iff.mp hkey.trimmed).1 c hc
  by_cases hempty : first = []
  · refine ⟨[], ?_, hempty.symm⟩
    have hend : key ++ " = ".toList ++ first = key ++ [' ', '='] ++ [' '] := by
      simp [hempty]
    rw [hend, trim_append_right blank_space, trim_eq_self_iff.mpr ⟨hhead _, ?_⟩]
    · simp
    · intro c hc
      rw [List.getLast?_append_cons] at hc
      cases hc
      rfl
  · refine ⟨' ' :: first, ?_, ?_⟩
    · have hwhole : key ++ " = ".toList ++ first = key ++ (" = ".toList ++ first) :=
        List.append_assoc ..
      rw [hwhole, trim_eq_self_iff.mpr ⟨hhead _, ?_⟩]
      · simp
      · intro c hc
        obtain ⟨last, hlast⟩ := Option.isSome_iff_exists.mp (List.getLast?_isSome.mpr hempty)
        rw [List.getLast?_append, List.getLast?_append, hlast] at hc
        cases hc
        exact (trim_eq_self_iff.mp hfirst.trimmed).2 _ hlast
    · rw [← List.singleton_append, trim_append_left blank_space, hfirst.trimmed]

namespace Reading

variable (reading : Reading)

/-- A line that writes a key with the first line of its value sets just that. -/
theorem step_entry {key first : List Char} (hkey : IsKey key) (hfirst : IsFirstLine first) :
    reading.step (key ++ " = ".toList ++ first) =
      ⟨reading.entries.set (String.ofList key) (String.ofList first),
        some (String.ofList key)⟩ := by
  obtain ⟨back, htrim, hback⟩ := trim_entry hkey hfirst
  obtain ⟨c, rest, rfl⟩ := List.exists_cons_of_ne_nil hkey.ne_nil
  have hne : trim (c :: rest ++ " = ".toList ++ first) ≠ [] := by
    rw [htrim]
    exact List.cons_ne_nil _ _
  have hmark : ∀ d, (trim (c :: rest ++ " = ".toList ++ first)).head? = some d →
      isCommentMark d = false := by
    intro d hd
    rw [htrim] at hd
    exact hkey.not_mark d hd
  have hblank : isBlank c = false := (trim_eq_self_iff.mp hkey.trimmed).1 c rfl
  have hfront : ∀ d ∈ c :: rest ++ [' '], isSeparator d = false := by
    intro d hd
    rcases List.mem_append.mp hd with hd | hd
    · exact hkey.not_separator d hd
    · exact List.mem_singleton.mp hd ▸ rfl
  have hname : lower (trim (c :: rest ++ [' '])) = c :: rest := by
    rw [trim_append_right blank_space, hkey.trimmed, hkey.lowered]
  rw [step_of_free _ hne hmark fun hindent => ?_, htrim, assign_append reading hfront rfl,
    hname, if_neg (List.cons_ne_nil _ _), keyOf, hname, hback]
  rw [List.cons_append, List.cons_append, List.head?_cons, Option.any_some, hblank] at hindent
  cases hindent

/-- An indented line goes on with the value of the open key. -/
theorem step_further {t : Table} {key value : String} {line : List Char}
    (hline : IsFurtherLine line) :
    Reading.step ⟨t.set key value, some key⟩ ("    ".toList ++ line) =
      ⟨t.set key (extend value line), some key⟩ := by
  have htrim : trim ("    ".toList ++ line) = line := by
    rw [trim_append_left blank_indentation, hline.trimmed]
  rw [step_of_indented _ (htrim.symm ▸ hline.ne_nil) (htrim.symm ▸ hline.not_mark) rfl rfl
    (Table.get?_set_self t key value), htrim, Table.set_set]

theorem foldl_step_further {t : Table} {key value : String} {further : List (List Char)}
    (h : ∀ line ∈ further, IsFurtherLine line) :
    (further.map fun line => "    ".toList ++ line).foldl step ⟨t.set key value, some key⟩ =
      ⟨t.set key (further.foldl extend value), some key⟩ := by
  induction further generalizing value with
  | nil => rfl
  | cons line rest ih =>
      obtain ⟨hline, hrest⟩ := List.forall_mem_cons.mp h
      rw [List.map_cons, List.foldl_cons, step_further hline, ih hrest, List.foldl_cons]

/-- The lines that write an entry set its row, whatever was read before them. -/
theorem foldl_step_entryLines {key value : String} (hkey : IsKey key.toList)
    (hvalue : IsValue value) :
    (entryLines key value).foldl step reading = ⟨reading.entries.set key value, some key⟩ := by
  obtain ⟨first, further, hlines, hfirst, hfurther, hjoined⟩ := hvalue.splitOn
  rw [entryLines, hlines]
  simp only [List.headD_cons, List.tail_cons, List.foldl_cons]
  rw [step_entry reading hkey hfirst, String.ofList_toList, foldl_step_further hfurther, hjoined]

theorem entries_foldl_step_rows {rows : List (String × String)}
    (h : ∀ row ∈ rows, IsKey row.1.toList ∧ IsValue row.2) :
    ((rows.flatMap fun row => entryLines row.1 row.2).foldl step reading).entries =
      rows.foldl (fun table row => table.set row.1 row.2) reading.entries := by
  induction rows generalizing reading with
  | nil => rfl
  | cons row rest ih =>
      obtain ⟨⟨hkey, hvalue⟩, hrest⟩ := List.forall_mem_cons.mp h
      rw [List.flatMap_cons, List.foldl_append, foldl_step_entryLines reading hkey hvalue,
        ih _ hrest, List.foldl_cons]

end Reading

theorem not_newline_of_mem_entryLines {key value : String} {line : List Char}
    (hkey : IsKey key.toList) (hvalue : IsValue value) (hmem : line ∈ entryLines key value) :
    '\n' ∉ line := by
  obtain ⟨first, further, hlines, hfirst, hfurther, -⟩ := hvalue.splitOn
  rw [entryLines, hlines] at hmem
  simp only [List.headD_cons, List.tail_cons] at hmem
  rcases List.mem_cons.mp hmem with rfl | hmem
  · simp [hkey.not_newline, hfirst.not_newline]
  · obtain ⟨line, hline, rfl⟩ := List.mem_map.mp hmem
    simp [(hfurther line hline).not_newline]

/-- Regular entries are read back from their canonical text. -/
theorem parse_render_of_regular {cfg : Pyvenv} (h : Regular cfg.entries) :
    parse cfg.render = cfg := by
  have hrows : ∀ row ∈ cfg.entries.rows, IsKey row.1.toList ∧ IsValue row.2 :=
    fun row hrow => h row.1 row.2 (Table.mem_rows_iff.mp hrow)
  have hlines : ∀ line ∈ cfg.renderedLines, '\n' ∉ line := by
    intro line hline
    obtain ⟨row, hrow, hline⟩ := List.mem_flatMap.mp hline
    exact not_newline_of_mem_entryLines (hrows row hrow).1 (hrows row hrow).2 hline
  have hentries : ((cfg.renderedLines ++ [[]]).foldl Reading.step ⟨.empty, none⟩).entries =
      cfg.entries :=
    calc ((cfg.renderedLines ++ [[]]).foldl Reading.step ⟨.empty, none⟩).entries
        = (cfg.renderedLines.foldl Reading.step ⟨.empty, none⟩).entries := by
          rw [List.foldl_concat, Reading.step_of_blank _ trim_nil]
      _ = Table.empty.override cfg.entries := Reading.entries_foldl_step_rows _ hrows
      _ = cfg.entries := Table.empty_override cfg.entries
  rw [parse, render, String.toList_ofList, splitOn_ended hlines, hentries]

/-- Regular entries are just those that some text gives. -/
theorem exists_parse_eq_iff {cfg : Pyvenv} : (∃ text, parse text = cfg) ↔ Regular cfg.entries := by
  constructor
  · rintro ⟨text, rfl⟩
    exact regular_parse text
  · intro h
    exact ⟨cfg.render, parse_render_of_regular h⟩

/-- Whatever a text says, writing its entries in canonical form and parsing that gives them
again. -/
theorem parse_render_parse (text : String) : parse (parse text).render = parse text :=
  parse_render_of_regular (regular_parse text)

example : (parse "Version: 3\n# no entry\nHOME =\n\t/usr\n  bin\n= lost").render =
    "home = /usr\n    bin\nversion = 3\n" := by
  decide +kernel

end EnvScout.Pyvenv
