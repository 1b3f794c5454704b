import EnvScout.Proofs.Path.Front
import EnvScout.Proofs.Path.Names
import EnvScout.Proofs.Text.Bytes

/-!
Going one name down from a path, whatever it begins with, and the order of the paths so reached.
Paths are ordered by their components and names among these by their bytes, so paths that differ in
one name stand in the order of the names, even where one name is the beginning of the other.
-/

namespace EnvScout.Path

open Text

variable {p q : Path} {name : String}

theorem isAbsolute_of_no_separator (h : '/' ∉ name.toList) :
    (⟨name⟩ : Path).isAbsolute = false := by
  rw [isAbsolute, beq_eq_false_iff_ne]
  exact fun hhead => h (List.mem_of_head? hhead)

theorem pieces_of_no_separator (h : '/' ∉ name.toList) : (⟨name⟩ : Path).pieces = [name] := by
  rw [pieces, splitOn_of_not_mem h, List.map_singleton, String.ofList_toList]

/-- The name is written behind the path, with a separator before it unless there is one. -/
theorem exists_child_eq (hp : p.text ≠ "") (hname : '/' ∉ name.toList) :
    ∃ x, (p.text = x ∨ p.text = x ++ "/") ∧ p.child name = ⟨x ++ "/" ++ name⟩ := by
  rw [child, join, isAbsolute_of_no_separator hname, if_neg Bool.false_ne_true, if_neg hp]
  by_cases hslash : p.text.toList.getLast? = some '/'
  · obtain ⟨cs, hcs⟩ := List.getLast?_eq_some_iff.mp hslash
    have htext : p.text = String.ofList cs ++ "/" := by
      rw [← String.toList_inj, hcs, String.toList_append, String.toList_ofList]
      rfl
    rw [if_pos hslash]
    exact ⟨String.ofList cs, Or.inr htext, by rw [htext]⟩
  · rw [if_neg hslash]
    exact ⟨p.text, Or.inl rfl, rfl⟩

theorem exists_text_child (hp : p.text ≠ "") (hname : '/' ∉ name.toList) :
    ∃ between, (p.child name).text = p.text ++ between ++ name := by
  obtain ⟨x, htext, hchild⟩ := exists_child_eq hp hname
  rw [hchild]
  rcases htext with htext | htext
  · exact ⟨"/", by rw [htext]⟩
  · exact ⟨"", by rw [htext, String.append_empty]⟩

/-- The pieces of a path one name down; a separator at the end of the path makes no piece more. -/
theorem exists_pieces_child (hp : p.text ≠ "") (hname : '/' ∉ name.toList) :
    ∃ front, (p.pieces = front ∨ p.pieces = front ++ [""]) ∧
      (p.child name).pieces = front ++ [name] := by
  obtain ⟨x, htext, hchild⟩ := exists_child_eq hp hname
  refine ⟨(⟨x⟩ : Path).pieces, ?_, ?_⟩
  · rcases htext with htext | htext
    · exact Or.inl (congrArg (fun text => pieces ⟨text⟩) htext)
    · right
      have hend : x ++ "/" ++ "" = x ++ "/" := String.append_empty
      calc p.pieces = (⟨x ++ "/" ++ ""⟩ : Path).pieces := by rw [hend, ← htext]
        _ = (⟨x⟩ : Path).pieces ++ [""] := pieces_append_slash x ""
  · rw [hchild, pieces_append_slash, pieces_of_no_separator hname]

theorem isAbsolute_child_eq (hp : p.text ≠ "") (hname : '/' ∉ name.toList) :
    (p.child name).isAbsolute = p.isAbsolute := by
  have hfirst : ∀ back : String, (⟨p.text ++ back⟩ : Path).isAbsolute = p.isAbsolute := by
    intro back
    obtain ⟨c, cs, hcs⟩ := List.exists_cons_of_ne_nil (mt String.toList_eq_nil_iff.mp hp)
    rw [isAbsolute, isAbsolute, String.toList_append, hcs]
    rfl
  rw [child, join, isAbsolute_of_no_separator hname, if_neg Bool.false_ne_true, if_neg hp]
  split
  · exact hfirst name
  · rw [String.append_assoc]
    exact hfirst _

theorem isAbsolute_child_of_relative (hp : p.isAbsolute = false) (hname : '/' ∉ name.toList) :
    (p.child name).isAbsolute = false := by
  by_cases hempty : p.text = ""
  · rw [child, join, isAbsolute_of_no_separator hname, if_neg Bool.false_ne_true, if_pos hempty]
    exact isAbsolute_of_no_separator hname
  · rw [isAbsolute_child_eq hempty hname, hp]

/-- What the first piece of a path says. -/
def firstComponents (first : String) : List Component :=
  if first = "" then [.root] else if first = "." then [.current]
  else [first].filterMap Component.ofPiece?

theorem components_of_pieces {first : String} {rest : List String} (h : p.pieces = first :: rest)
    (hrest : first = "" → rest ≠ []) :
    p.components = firstComponents first ++ rest.filterMap Component.ofPiece? := by
  rw [components, anchored, h, firstComponents]
  split
  · rename_i heq
    obtain ⟨rfl, rfl⟩ := List.cons.inj heq
    rfl
  · rename_i heq
    obtain ⟨rfl, rfl⟩ := List.cons.inj heq
    rfl
  · rename_i hroot hdot
    have hempty : first ≠ "" := by
      rintro rfl
      obtain ⟨piece, others, rfl⟩ := List.exists_cons_of_ne_nil (hrest rfl)
      exact hroot piece others rfl
    have hbare : first ≠ "." := by
      rintro rfl
      exact hdot rest rfl
    rw [if_neg hempty, if_neg hbare, ← List.filterMap_append]
    rfl

theorem child_empty (hname : '/' ∉ name.toList) : (⟨""⟩ : Path).child name = ⟨name⟩ := by
  rw [child, join, isAbsolute_of_no_separator hname]
  rfl

theorem text_child_ne_of_text_ne (hp : p.text ≠ "") (hname : '/' ∉ name.toList) :
    (p.child name).text ≠ "" := by
  obtain ⟨between, htext⟩ := exists_text_child hp hname
  rw [htext, ne_eq, String.append_eq_empty_iff, String.append_eq_empty_iff]
  exact fun h => hp h.1.1

theorem text_child_ne (p : Path) (hname : IsName name) : (p.child name).text ≠ "" := by
  by_cases hp : p.text = ""
  · obtain rfl : p = ⟨""⟩ := congrArg Path.mk hp
    rw [child_empty hname.noSeparator]
    rintro rfl
    cases hname.notVoid
  · exact text_child_ne_of_text_ne hp hname.noSeparator

/-- Going one name down adds the name. -/
theorem components_child (p : Path) (hname : IsName name) :
    (p.child name).components = p.components ++ [.name name] := by
  have hstep : [name].filterMap Component.ofPiece? = [.name name] := by
    rw [List.filterMap_cons_some (ofPiece?_of_isName hname)]
    rfl
  by_cases hp : p.text = ""
  · obtain rfl : p = ⟨""⟩ := congrArg Path.mk hp
    have hempty : name ≠ "" ∧ name ≠ "." := by
      have hvoid := hname.notVoid
      rw [isVoid, Bool.or_eq_false_iff, beq_eq_false_iff_ne, beq_eq_false_iff_ne] at hvoid
      exact hvoid
    rw [child_empty hname.noSeparator, components_of_pieces
      (pieces_of_no_separator hname.noSeparator) fun h => absurd h hempty.1, firstComponents,
      if_neg hempty.1, if_neg hempty.2, hstep]
    rfl
  obtain ⟨front, hfront, hchild⟩ := exists_pieces_child hp hname.noSeparator
  have hlone : p.pieces ≠ [""] := by
    intro hpieces
    have htext := ofPieces_pieces p
    rw [hpieces] at htext
    exact hp (congrArg text htext.symm)
  have hvoid : [""].filterMap Component.ofPiece? = [] := rfl
  cases front with
  | nil =>
      rcases hfront with hfront | hfront
      · exact absurd hfront (pieces_ne_nil p)
      · exact absurd hfront hlone
  | cons first rest =>
      rw [List.cons_append] at hfront hchild
      have hlast := components_of_pieces hchild
        fun _ => List.append_ne_nil_of_right_ne_nil rest (List.cons_ne_nil name [])
      have hpath : p.components = firstComponents first ++ rest.filterMap Component.ofPiece? := by
        rcases hfront with hfront | hfront
        · refine components_of_pieces hfront ?_
          rintro rfl rfl
          exact hlone hfront
        · rw [components_of_pieces hfront
            fun _ => List.append_ne_nil_of_right_ne_nil rest (List.cons_ne_nil "" []),
            List.filterMap_append, hvoid, List.append_nil]
      rw [hlast, hpath, List.filterMap_append, hstep, List.append_assoc]

/-! The order of paths. -/

/-- The kinds of components in their order. -/
def Component.rank : Component → Nat
  | .root => 0
  | .current => 1
  | .parent => 2
  | .name _ => 3

def Component.Before : Component → Component → Prop
  | .name a, .name b => bytes a < bytes b
  | a, b => a.rank < b.rank

/-- The order in which paths are sorted. -/
def Before (p q : Path) : Prop :=
  List.Lex Component.Before p.components q.components

theorem Component.not_before_self (c : Component) : ¬c.Before c := by
  cases c with
  | name text => exact List.lt_irrefl (bytes text)
  | _ => exact Nat.lt_irrefl _

theorem lex_append_iff (front x y : List Component) :
    List.Lex Component.Before (front ++ x) (front ++ y) ↔ List.Lex Component.Before x y := by
  induction front with
  | nil => rfl
  | cons c front ih =>
      rw [← ih, List.cons_append, List.cons_append]
      constructor
      · intro h
        cases h with
        | cons h => exact h
        | rel h => exact absurd h (Component.not_before_self c)
      · exact List.Lex.cons

/-- Paths that differ in one name stand in the order of the names. -/
theorem before_iff_of_components {front back : List Component} {a b : String}
    (hp : p.components = front ++ .name a :: back) (hq : q.components = front ++ .name b :: back) :
    p.Before q ↔ bytes a < bytes b := by
  have hirrefl : ¬List.Lex Component.Before back back := by
    have hend := lex_append_iff back [] []
    rw [List.append_nil] at hend
    rw [hend]
    exact nofun
  rw [Before, hp, hq, lex_append_iff]
  constructor
  · intro h
    cases h with
    | cons h => exact absurd h hirrefl
    | rel h => exact h
  · exact fun h => List.Lex.rel h

theorem before_child_iff (p : Path) {a b : String} (ha : IsName a) (hb : IsName b) :
    (p.child a).Before (p.child b) ↔ bytes a < bytes b :=
  before_iff_of_components (components_child p ha) (components_child p hb)

end EnvScout.Path
