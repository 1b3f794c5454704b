import EnvScout.Location
import EnvScout.Proofs.Files.Landing
import EnvScout.Proofs.Path.Text

/-!
The forms in which paths are kept. An absolute path has no tilde to expand, a canonical one is its
own canonical form wherever it is looked up, and every path can be made absolute as long as the
working directory is there.
-/

namespace EnvScout

section Tilde

open Text.Utf8

/-- What is behind a tilde that stands for the home directory, without the separators between. -/
def behindTilde? (text : String) : Option String :=
  match text.toList with
  | '~' :: rest =>
    if rest.isEmpty || rest.head?.any isSeparator then
      some (String.ofList (rest.dropWhile isSeparator))
    else none
  | _ => none

variable {text rest : String} {home : Option Path} {p : Path}

theorem behindTilde?_eq_some_iff :
    behindTilde? text = some rest ↔
      ∃ cs, text.toList = '~' :: cs ∧ (∀ c ∈ cs.head?, isSeparator c = true) ∧
        String.ofList (cs.dropWhile isSeparator) = rest := by
  rw [behindTilde?]
  split
  · rename_i cs heq
    have hstands : (cs.isEmpty || cs.head?.any isSeparator) = true ↔
        ∀ c ∈ cs.head?, isSeparator c = true := by
      cases cs <;> simp
    simp [heq, hstands]
  · rename_i hother
    refine iff_of_false nofun ?_
    rintro ⟨cs, heq, -⟩
    exact hother cs heq

theorem head?_of_behindTilde? (h : behindTilde? text = some rest) :
    text.toList.head? = some '~' := by
  obtain ⟨cs, htext, -⟩ := behindTilde?_eq_some_iff.mp h
  rw [htext]
  rfl

/-- What is behind the tilde of a path that is a text. -/
def Path.behindTilde? (p : Path) : Option String :=
  if p.isText then EnvScout.behindTilde? p.text else none

theorem Path.isSome_behindTilde?_iff :
    p.behindTilde?.isSome ↔ p.isText = true ∧ (EnvScout.behindTilde? p.text).isSome := by
  rw [Path.behindTilde?]
  split <;> simp [*]

theorem expandTilde_eq (home : Option Path) (p : Path) :
    expandTilde home p =
      match home, p.behindTilde? with
      | some home, some rest => home.join ⟨rest⟩
      | _, _ => p := by
  rw [expandTilde.eq_def, Path.behindTilde?, behindTilde?]
  generalize p.text.toList = cs
  cases home with
  | none => rfl
  | some home =>
      rcases cs with _ | ⟨c, cs⟩
      · cases p.isText <;> rfl
      · by_cases hc : c = '~'
        · subst hc
          cases p.isText with
          | false => rfl
          | true =>
              cases hstands : cs.isEmpty || cs.head?.any isSeparator <;> simp only [hstands] <;> rfl
        · cases p.isText <;> simp [hc]

theorem expandTilde_of_behindTilde?_eq_none (h : p.behindTilde? = none)
    (home : Option Path) : expandTilde home p = p := by
  rw [expandTilde_eq, h]
  cases home <;> rfl

theorem isSeparator_lt {c : Char} (h : isSeparator c = true) : c.toNat < 128 := by
  rw [isSeparator, Bool.or_eq_true, beq_iff_eq, beq_iff_eq] at h
  rcases h with rfl | rfl <;> decide

/-- The bytes behind the tilde of a text are those of what is behind it. -/
theorem behindTilde?_encoded (text : String) :
    behindTilde? (encoded text) = (behindTilde? text).map encoded := by
  rw [behindTilde?, behindTilde?, toList_encoded]
  rcases text.toList with _ | ⟨c, cs⟩
  · rfl
  · by_cases hc : c = '~'
    · subst hc
      rw [List.flatMap_cons, encodedChar_of_lt (by decide), List.singleton_append]
      simp only [isEmpty_flatMap, any_head?_flatMap fun c => isSeparator_lt,
        dropWhile_flatMap fun c => isSeparator_lt]
      split
      · rw [Option.map_some, encoded, String.toList_ofList]
      · rfl
    · obtain ⟨b, more, hb, hsame⟩ := exists_encodedChar_eq c
      have htilde : (b == '~') = (c == '~') :=
        hsame (· == '~') fun d hd => beq_iff_eq.mp hd ▸ (by decide)
      have hbyte : b ≠ '~' := fun h => hc (by simpa [h] using htilde.symm)
      rw [List.flatMap_cons, hb, List.cons_append]
      simp [hc, hbyte]

theorem behindTilde?_ofText (text : String) :
    (Path.ofText text).behindTilde? = (behindTilde? text).map encoded := by
  rw [Path.behindTilde?, Path.isText_ofText, if_pos rfl]
  exact behindTilde?_encoded text

/-- What is behind the tilde does not start afresh. -/
theorem not_isAbsolute_of_behindTilde? (h : behindTilde? text = some rest) :
    (⟨rest⟩ : Path).isAbsolute = false := by
  obtain ⟨cs, -, -, rfl⟩ := behindTilde?_eq_some_iff.mp h
  rw [Path.isAbsolute, String.toList_ofList, beq_eq_false_iff_ne]
  intro hslash
  have hhead := List.head?_dropWhile_not isSeparator cs
  rw [hslash] at hhead
  exact absurd hhead (by decide)

/-- A text that begins with such a tilde still does when it is cut short, unless nothing is left. -/
theorem isSome_behindTilde?_of_isPrefix {front : String} (h : (behindTilde? text).isSome)
    (hfront : front.toList <+: text.toList) (hne : front ≠ "") :
    (behindTilde? front).isSome := by
  obtain ⟨rest, hrest⟩ := Option.isSome_iff_exists.mp h
  obtain ⟨cs, htext, hstands, -⟩ := behindTilde?_eq_some_iff.mp hrest
  obtain ⟨c, front', hfrontList⟩ := List.exists_cons_of_ne_nil (mt String.toList_eq_nil_iff.mp hne)
  rw [hfrontList, htext, List.cons_prefix_cons] at hfront
  obtain ⟨rfl, behind, rfl⟩ := hfront
  refine Option.isSome_iff_exists.mpr ⟨_, behindTilde?_eq_some_iff.mpr
    ⟨front', hfrontList, fun c hc => hstands c ?_, rfl⟩⟩
  rw [List.head?_append, hc]
  rfl

/-- A text of this kind is its tilde, with the separators, and what is behind; the latter may be
cut short. -/
theorem exists_tilde_of_behindTilde? (h : behindTilde? text = some rest) :
    ∃ tilde : String, text = tilde ++ rest ∧ ∀ front : String, front ≠ "" →
      front.toList <+: rest.toList → behindTilde? (tilde ++ front) = some front := by
  obtain ⟨cs, htext, hstands, rfl⟩ := behindTilde?_eq_some_iff.mp h
  refine ⟨String.ofList ('~' :: cs.takeWhile isSeparator), ?_, fun front hne hfront => ?_⟩
  · apply String.toList_injective
    rw [htext, String.toList_append, String.toList_ofList, String.toList_ofList, List.cons_append,
      List.takeWhile_append_dropWhile]
  · have hall : ∀ c ∈ cs.takeWhile isSeparator, isSeparator c = true := fun c hc =>
      List.mem_takeWhile_imp hc
    rw [String.toList_ofList] at hfront
    obtain ⟨c, front', hlist⟩ := List.exists_cons_of_ne_nil (mt String.toList_eq_nil_iff.mp hne)
    obtain ⟨behind, hbehind⟩ := hfront
    have hhead : isSeparator c = false := by
      have hnot := List.head?_dropWhile_not isSeparator cs
      rw [← hbehind, hlist] at hnot
      simpa using hnot
    refine behindTilde?_eq_some_iff.mpr ⟨cs.takeWhile isSeparator ++ front.toList, ?_, ?_, ?_⟩
    · rw [String.toList_append, String.toList_ofList, List.cons_append]
    · cases cs with
      | nil => simp [hlist] at hbehind
      | cons first cs =>
          rw [List.takeWhile_cons_of_pos (hstands first rfl)]
          exact hstands
    · rw [List.dropWhile_append_of_pos hall, hlist,
        List.dropWhile_cons_of_neg (by rw [hhead]; exact Bool.false_ne_true), ← hlist,
        String.ofList_toList]

theorem expandTilde_of_head?_ne (h : p.text.toList.head? ≠ some '~') (home : Option Path) :
    expandTilde home p = p := by
  refine expandTilde_of_behindTilde?_eq_none ?_ home
  rw [← Option.not_isSome_iff_eq_none, Path.isSome_behindTilde?_iff]
  rintro ⟨-, hsome⟩
  obtain ⟨rest, hrest⟩ := Option.isSome_iff_exists.mp hsome
  exact h (head?_of_behindTilde? hrest)

theorem expandTilde_of_isAbsolute (h : p.isAbsolute = true) (home : Option Path) :
    expandTilde home p = p := by
  rw [Path.isAbsolute, beq_iff_eq] at h
  refine expandTilde_of_head?_ne ?_ home
  rw [h]
  decide

end Tilde

/-- A canonical path is its own canonical form at every site. -/
theorem canonicalTilde_of_canonical {files : FileSystem} {cwd : List String} {p resolved : Path}
    (hfiles : files.WellNamed) (h : files.canonical cwd p = .ok resolved) (site : Site) :
    canonicalTilde files site resolved = .ok resolved := by
  rw [canonicalTilde, expandTilde_of_isAbsolute (FileSystem.isAbsolute_of_canonical h)]
  exact FileSystem.canonical_of_canonical hfiles h site.workingDirectory

theorem isAbsolute_absolutize {files : FileSystem} {cwd : List String}
    (hcwd : files.isDirectory cwd ⟨"."⟩ = true) (p : Path) :
    (absolutize files cwd p).isAbsolute = true := by
  rw [absolutize]
  split
  · rename_i resolved h
    exact FileSystem.isAbsolute_of_canonical h
  · split
    · assumption
    · exact Path.isAbsolute_join (Path.isAbsolute_ofNames cwd) p

end EnvScout
