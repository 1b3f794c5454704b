import EnvScout.Proofs.Pyvenv.Reading
import EnvScout.Proofs.Table
import EnvScout.Proofs.Text.Case
import EnvScout.Proofs.Text.Split

/-!
What a configuration looks like once it is parsed. Keys are trimmed and lower-cased and hold no
separator, values are made of trimmed lines, and neither a key nor a further line of a value could
be taken for a comment. Every line that is read keeps this.
-/

namespace EnvScout.Pyvenv

open Text

/-- The characters of a key. -/
structure IsKey (key : List Char) : Prop where
  ne_nil : key ≠ []
  trimmed : trim key = key
  lowered : lower key = key
  not_separator : ∀ c ∈ key, isSeparator c = false
  not_newline : '\n' ∉ key
  not_mark : ∀ c, key.head? = some c → isCommentMark c = false

/-- The first line of a value, which may be empty. -/
structure IsFirstLine (line : List Char) : Prop where
  trimmed : trim line = line
  not_newline : '\n' ∉ line

/-- A further line of a value. -/
structure IsFurtherLine (line : List Char) : Prop extends IsFirstLine line where
  ne_nil : line ≠ []
  not_mark : ∀ c, line.head? = some c → isCommentMark c = false

/-- A value is its first line, to which further ones may have been added. -/
inductive IsValue : String → Prop
  | first {line : List Char} (h : IsFirstLine line) : IsValue (String.ofList line)
  | further {value : String} {line : List Char} (hvalue : IsValue value)
      (hline : IsFurtherLine line) : IsValue (extend value line)

/-- All keys and values of a table are such as parsing gives them. -/
def Regular (t : Table) : Prop :=
  ∀ key value, t.get? key = some value → IsKey key.toList ∧ IsValue value

theorem isFurtherLine_trim {line : List Char} (hnewline : '\n' ∉ line) (hline : trim line ≠ [])
    (hmark : ∀ c, (trim line).head? = some c → isCommentMark c = false) :
    IsFurtherLine (trim line) where
  trimmed := trim_trim line
  not_newline h := hnewline (mem_of_mem_trim h)
  ne_nil := hline
  not_mark := hmark

/-- What stands before the first separator of a line begins as the line does. -/
theorem head?_of_head?_trim_front {line front back : List Char} {sep c : Char}
    (hline : trim line = front ++ sep :: back) (h : (trim front).head? = some c) :
    (trim line).head? = some c := by
  have hfront : trimLeft front = front := by
    refine trimLeft_eq_self_iff.mpr fun first hfirst => ?_
    refine (trim_eq_self_iff.mp (trim_trim line)).1 first ?_
    rw [hline, List.head?_append, hfirst]
    rfl
  rw [trim, hfront] at h
  rw [hline, List.head?_append, head?_of_head?_trimRight h]
  rfl

theorem isKey_of_front {line front back : List Char} {sep : Char} (hnewline : '\n' ∉ line)
    (hline : trim line = front ++ sep :: back)
    (hmark : ∀ c, (trim line).head? = some c → isCommentMark c = false)
    (hfront : ∀ c ∈ front, isSeparator c = false) (hkey : lower (trim front) ≠ []) :
    IsKey (lower (trim front)) where
  ne_nil := hkey
  trimmed := trim_lower (trim_trim front)
  lowered := lower_lower (trim front)
  not_separator c hc := by
    rw [Bool.eq_false_iff]
    intro hsep
    have hsign : c.toNat ≤ 0x60 := by
      simp only [isSeparator, Bool.or_eq_true, beq_iff_eq] at hsep
      rcases hsep with rfl | rfl <;> decide
    have hmem : c ∈ front := mem_of_mem_trim (mem_of_mem_lower hc hsign)
    exact Bool.eq_false_iff.mp (hfront c hmem) hsep
  not_newline hmem := by
    have hfront : '\n' ∈ front := mem_of_mem_trim (mem_of_mem_lower hmem (by decide))
    exact hnewline (mem_of_mem_trim (hline ▸ List.mem_append_left _ hfront))
  not_mark c hc := by
    rw [Bool.eq_false_iff]
    intro hsign
    have hbelow : c.toNat ≤ 0x60 := by
      simp only [isCommentMark, Bool.or_eq_true, beq_iff_eq] at hsign
      rcases hsign with rfl | rfl <;> decide
    have hhead := head?_of_head?_trim_front hline (head?_of_head?_lower hc hbelow)
    exact Bool.eq_false_iff.mp (hmark c hhead) hsign

theorem isFirstLine_of_back {line front back : List Char} {sep : Char} (hnewline : '\n' ∉ line)
    (hline : trim line = front ++ sep :: back) : IsFirstLine (trim back) where
  trimmed := trim_trim back
  not_newline h :=
    hnewline (mem_of_mem_trim (hline ▸ List.mem_append_right _
      (List.mem_cons_of_mem _ (mem_of_mem_trim h))))

theorem regular_empty : Regular .empty := by
  intro key value h
  cases h

theorem Regular.set {t : Table} {key value : String} (ht : Regular t) (hkey : IsKey key.toList)
    (hvalue : IsValue value) : Regular (t.set key value) := by
  intro looked found h
  rw [Table.get?_set] at h
  split at h
  · rename_i heq
    rw [Option.some_inj] at h
    exact ⟨heq ▸ hkey, h ▸ hvalue⟩
  · exact ht looked found h

/-- Reading a line keeps the entries regular. -/
theorem Regular.taken {reading after : Reading} {line : List Char} (hnewline : '\n' ∉ line)
    (h : Regular reading.entries) (htaken : Taken reading line after) : Regular after.entries := by
  cases htaken with
  | closed => exact h
  | ignored => exact h
  | continued hopen hvalue hline hmark =>
      obtain ⟨hkey, hvalue⟩ := h _ _ hvalue
      exact h.set hkey (.further hvalue (isFurtherLine_trim hnewline hline hmark))
  | assigned hline hmark hfront hkey =>
      refine h.set ?_ (.first (isFirstLine_of_back hnewline hline))
      rw [keyOf, String.toList_ofList]
      exact isKey_of_front hnewline hline hmark hfront hkey

theorem Regular.foldl_step {reading : Reading} {lines : List (List Char)}
    (hlines : ∀ line ∈ lines, '\n' ∉ line) (h : Regular reading.entries) :
    Regular (lines.foldl Reading.step reading).entries := by
  induction lines generalizing reading with
  | nil => exact h
  | cons line rest ih =>
      obtain ⟨hline, hrest⟩ := List.forall_mem_cons.mp hlines
      exact ih hrest (h.taken hline (reading.taken_step line))

/-- Whatever the text, its entries are regular. -/
theorem regular_parse (text : String) : Regular (parse text).entries :=
  regular_empty.foldl_step fun _ => not_mem_of_mem_splitOn

end EnvScout.Pyvenv
