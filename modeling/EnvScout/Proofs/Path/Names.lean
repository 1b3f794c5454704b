import EnvScout.Proofs.Path.Components

/-!
Paths that go down from the root through names, as a canonical path does. Such a path is absolute,
its pieces are its names, and its file name is the last of them. Going one name down adds the name,
and going up takes it away again.
-/

namespace EnvScout.Path

open Text

/-- What can stand as the name of an entry in a directory. -/
structure IsName (name : String) : Prop where
  notVoid : isVoid name = false
  notParent : name ≠ ".."
  noSeparator : '/' ∉ name.toList
  noNul : '\x00' ∉ name.toList
  short : name.length ≤ 255

theorem isName_iff {name : String} :
    IsName name ↔ isVoid name = false ∧ name ≠ ".." ∧ '/' ∉ name.toList ∧
      '\x00' ∉ name.toList ∧ name.length ≤ 255 :=
  ⟨fun h => ⟨h.1, h.2, h.3, h.4, h.5⟩, fun ⟨h₁, h₂, h₃, h₄, h₅⟩ => ⟨h₁, h₂, h₃, h₄, h₅⟩⟩

instance (name : String) : Decidable (IsName name) :=
  decidable_of_iff _ isName_iff.symm

theorem pieces_ne_nil (p : Path) : p.pieces ≠ [] := by
  rw [pieces, ne_eq, List.map_eq_nil_iff]
  exact splitOn_ne_nil '/' p.text.toList

variable {names : List String} {name : String}

theorem toList_ofNames (names : List String) :
    (ofNames names).text.toList = '/' :: joinWith '/' (names.map String.toList) := by
  show ("/" ++ String.ofList (joinWith '/' (names.map String.toList))).toList = _
  rw [String.toList_append]
  exact congrArg ('/' :: ·) String.toList_ofList

theorem isAbsolute_ofNames (names : List String) : (ofNames names).isAbsolute = true := by
  rw [isAbsolute, toList_ofNames]
  rfl

theorem text_ofNames_ne (names : List String) : (ofNames names).text ≠ "" := by
  intro hempty
  have htext := toList_ofNames names
  rw [hempty] at htext
  cases htext

theorem mem_of_mem_joinWith {c sep : Char} {pieces : List (List Char)}
    (h : c ∈ joinWith sep pieces) : c = sep ∨ ∃ piece ∈ pieces, c ∈ piece := by
  induction pieces with
  | nil => cases h
  | cons piece rest ih =>
      cases rest with
      | nil => exact Or.inr ⟨piece, List.mem_cons_self, h⟩
      | cons next rest =>
          rw [joinWith, List.mem_append, List.mem_cons] at h
          · rcases h with h | h | h
            · exact Or.inr ⟨piece, List.mem_cons_self, h⟩
            · exact Or.inl h
            · obtain hsep | ⟨found, hfound, hc⟩ := ih h
              · exact Or.inl hsep
              · exact Or.inr ⟨found, List.mem_cons_of_mem _ hfound, hc⟩
          · exact List.cons_ne_nil _ _

theorem noNul_ofNames (h : ∀ name ∈ names, IsName name) :
    '\x00' ∉ (ofNames names).text.toList := by
  rw [toList_ofNames, List.mem_cons, not_or]
  refine ⟨by decide, fun hmem => ?_⟩
  obtain hsep | ⟨piece, hpiece, hc⟩ := mem_of_mem_joinWith hmem
  · exact absurd hsep (by decide)
  · obtain ⟨name, hname, rfl⟩ := List.mem_map.mp hpiece
    exact (h name hname).noNul hc

/-- The root's own path has one void piece behind its slash. -/
theorem pieces_ofNames (h : ∀ name ∈ names, IsName name) :
    (ofNames names).pieces = "" :: if names = [] then [""] else names := by
  rw [ofNames, ofAnchored, pieces_slash]
  by_cases hnames : names = []
  · rw [hnames, if_pos rfl]
    rfl
  · rw [if_neg hnames]
    exact congrArg _ (pieces_ofPieces hnames fun name hname => (h name hname).noSeparator)

theorem ofPiece?_of_isName {name : String} (h : IsName name) :
    Component.ofPiece? name = some (.name name) := by
  rw [Component.ofPiece?, h.notVoid, if_neg Bool.false_ne_true, if_neg h.notParent]

theorem components_ofNames (h : ∀ name ∈ names, IsName name) :
    (ofNames names).components = .root :: names.map Component.name := by
  have hfits : Anchor.root.Fits names := ⟨fun name hname => (h name hname).noSeparator, nofun⟩
  have hnamed : names.filterMap Component.ofPiece? = names.map Component.name := by
    rw [← List.filterMap_eq_map]
    exact List.filterMap_congr fun name hname => ofPiece?_of_isName (h name hname)
  rw [ofNames, components_ofAnchored hfits, hnamed]
  rfl

theorem fileName?_ofNames (h : ∀ name ∈ names, IsName name) :
    (ofNames names).fileName? = names.getLast? := by
  rw [fileName?, components_ofNames h]
  cases names using List.reverseRecOn with
  | nil => rfl
  | append_singleton front last =>
      rw [List.map_append, ← List.cons_append, List.map_singleton, List.getLast?_concat,
        List.getLast?_concat]

theorem toList_ne_nil_of_isName (h : IsName name) : name.toList ≠ [] := by
  intro hnil
  have hempty : name = "" := String.toList_eq_nil_iff.mp hnil
  have hvoid := h.notVoid
  rw [hempty] at hvoid
  exact absurd hvoid (by decide)

/-- The path ends with a slash only at the root. -/
theorem getLast?_ofNames (h : ∀ name ∈ names, IsName name) (hne : names ≠ []) :
    (ofNames names).text.toList.getLast? ≠ some '/' := by
  obtain ⟨front, last, rfl⟩ := names.eq_nil_or_concat'.resolve_left hne
  have hlast := h last List.mem_concat_self
  have hchars := toList_ne_nil_of_isName hlast
  have hend : ∃ before, (ofNames (front ++ [last])).text.toList = before ++ last.toList := by
    rw [toList_ofNames, List.map_append, List.map_singleton]
    cases front with
    | nil => exact ⟨['/'], rfl⟩
    | cons first front =>
        refine ⟨'/' :: (joinWith '/' ((first :: front).map String.toList) ++ ['/']), ?_⟩
        rw [joinWith_concat (by simp)]
        simp
  obtain ⟨before, hend⟩ := hend
  rw [hend, List.getLast?_append_of_ne_nil _ hchars]
  intro hslash
  exact hlast.noSeparator (List.mem_of_getLast? hslash)

/-- Going one name down from such a path. -/
theorem child_ofNames (h : ∀ name ∈ names, IsName name) (hname : IsName name) :
    (ofNames names).child name = ofNames (names ++ [name]) := by
  have hrelative : (⟨name⟩ : Path).isAbsolute = false := by
    rw [isAbsolute, beq_eq_false_iff_ne]
    exact fun hhead => hname.noSeparator (List.mem_of_head? hhead)
  have hlist : ((ofNames names).child name).text.toList =
      (ofNames (names ++ [name])).text.toList := by
    rw [child, join, hrelative, if_neg Bool.false_ne_true, if_neg (text_ofNames_ne names),
      toList_ofNames (names ++ [name])]
    by_cases hnil : names = []
    · subst hnil
      rw [if_pos (by rfl)]
      exact String.toList_append
    · rw [if_neg (getLast?_ofNames h hnil), List.map_append, List.map_singleton,
        joinWith_concat (by simpa using hnil)]
      simp [toList_ofNames]
  exact congrArg Path.mk (String.toList_injective hlist)

theorem parent?_ofNames_concat (h : ∀ name ∈ names, IsName name) (hname : IsName name) :
    (ofNames (names ++ [name])).parent? = some (ofNames names) := by
  have hall : ∀ other ∈ names ++ [name], IsName other := by
    intro other hother
    rcases List.mem_append.mp hother with hmem | hmem
    · exact h other hmem
    · exact List.mem_singleton.mp hmem ▸ hname
  have hfits : Anchor.root.Fits (names ++ [name]) :=
    ⟨fun other hother => (hall other hother).noSeparator, nofun⟩
  have hanchored : (ofNames (names ++ [name])).anchored = (.root, names ++ [name]) :=
    anchored_ofAnchored hfits (List.append_ne_nil_of_right_ne_nil _ (List.cons_ne_nil _ _))
  have hcut : cutLast (names ++ [name]) = some (names, name) := by
    rw [cutLast, List.reverse_concat, List.dropWhile_cons_of_neg (by rw [hname.notVoid]; decide)]
    simp
  have htrim : trimEnd names = names := by
    refine List.rdropWhile_eq_self_iff.mpr fun hne => ?_
    rw [(h _ (List.getLast_mem hne)).notVoid]
    exact Bool.false_ne_true
  rw [parent?, hanchored]
  dsimp only
  rw [hcut]
  dsimp only
  rw [htrim]
  rfl

end EnvScout.Path
