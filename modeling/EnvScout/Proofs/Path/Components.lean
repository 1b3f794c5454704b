import EnvScout.Path.Basic
import EnvScout.Proofs.Text.Split
import Mathlib.Data.List.DropRight

/-!
What a path says, part by part. A path is read back from its beginning and the pieces behind it, so
its parent has the same components without the last one, and the paths above a path are its parents
up to one that has none. Above and below an absolute path all paths are absolute.
-/

namespace EnvScout.Path

open Text

/-- Pieces that can stand behind such a beginning: none has a separator in it, and behind no
beginning the first one is neither a dot nor empty with more to come. -/
structure Anchor.Fits (anchor : Anchor) (body : List String) : Prop where
  plain : ∀ piece ∈ body, '/' ∉ piece.toList
  bare : anchor = .bare → ∀ first rest, body = first :: rest →
    first ≠ "." ∧ (first = "" → rest = [])

theorem pieces_ofPieces {body : List String} (hne : body ≠ [])
    (h : ∀ piece ∈ body, '/' ∉ piece.toList) : (ofPieces body).pieces = body := by
  have hplain : ∀ piece ∈ body.map String.toList, '/' ∉ piece := by
    simpa using h
  rw [pieces, ofPieces, String.toList_ofList,
    splitOn_joinWith (fun hnil => hne (List.map_eq_nil_iff.mp hnil)) hplain, List.map_map]
  simp

theorem not_mem_of_mem_pieces {p : Path} {piece : String} (h : piece ∈ p.pieces) :
    '/' ∉ piece.toList := by
  obtain ⟨cs, hcs, rfl⟩ := List.mem_map.mp h
  rw [String.toList_ofList]
  exact not_mem_of_mem_splitOn hcs

theorem anchored_fits (p : Path) : p.anchored.1.Fits p.anchored.2 := by
  have hplain := @not_mem_of_mem_pieces p
  rw [anchored]
  split
  · rename_i piece rest heq
    rw [heq] at hplain
    exact ⟨fun other h => hplain (List.mem_cons_of_mem _ h), nofun⟩
  · rename_i rest heq
    rw [heq] at hplain
    exact ⟨fun other h => hplain (List.mem_cons_of_mem _ h), nofun⟩
  · rename_i hroot hdot
    refine ⟨fun other h => hplain h, fun _ first rest heq => ⟨?_, ?_⟩⟩
    · rintro rfl
      exact hdot rest heq
    · rintro rfl
      cases rest with
      | nil => rfl
      | cons next rest => exact absurd heq (hroot next rest)

theorem Anchor.Fits.of_isPrefix {anchor : Anchor} {body front : List String}
    (h : anchor.Fits body) (hfront : front <+: body) : anchor.Fits front := by
  refine ⟨fun piece hpiece => h.plain piece (hfront.subset hpiece), ?_⟩
  rintro hbare first rest rfl
  obtain ⟨tail, rfl⟩ := hfront
  obtain ⟨hdot, hempty⟩ := h.bare hbare first (rest ++ tail) rfl
  exact ⟨hdot, fun hfirst => (List.append_eq_nil_iff.mp (hempty hfirst)).1⟩

theorem pieces_slash (text : String) :
    (⟨"/" ++ text⟩ : Path).pieces = "" :: (⟨text⟩ : Path).pieces := by
  have hcut : splitOn '/' ("/" ++ text).toList = [] :: splitOn '/' text.toList := by
    rw [String.toList_append]
    exact splitOn_cons_self '/' text.toList
  rw [pieces, hcut]
  rfl

theorem pieces_dot_slash (text : String) :
    (⟨"./" ++ text⟩ : Path).pieces = "." :: (⟨text⟩ : Path).pieces := by
  have hdot : '/' ∉ ['.'] := by decide
  have hcut : splitOn '/' ("./" ++ text).toList = ['.'] :: splitOn '/' text.toList := by
    rw [String.toList_append]
    exact splitOn_append_cons hdot text.toList
  rw [pieces, hcut]
  rfl

theorem anchored_ofAnchored {anchor : Anchor} {body : List String} (h : anchor.Fits body)
    (hne : body ≠ []) : (ofAnchored anchor body).anchored = (anchor, body) := by
  have hpieces := pieces_ofPieces hne h.plain
  cases body with
  | nil => exact absurd rfl hne
  | cons first rest =>
      cases anchor with
      | root =>
          have hroot : (ofAnchored .root (first :: rest)).pieces = "" :: first :: rest := by
            rw [ofAnchored, pieces_slash, hpieces]
          rw [anchored, hroot]
          rfl
      | dot =>
          have hdot : (ofAnchored .dot (first :: rest)).pieces = "." :: first :: rest := by
            rw [ofAnchored, pieces_dot_slash, hpieces]
            exact List.cons_ne_nil _ _
          rw [anchored, hdot]
          rfl
      | bare =>
          obtain ⟨hdot, hempty⟩ := h.bare rfl first rest rfl
          rw [ofAnchored, anchored, hpieces]
          split
          · rename_i heq
            obtain ⟨rfl, rfl⟩ := List.cons.inj heq
            cases hempty rfl
          · rename_i heq
            exact absurd (List.cons.inj heq).1 hdot
          · rfl

theorem components_ofAnchored {anchor : Anchor} {body : List String} (h : anchor.Fits body) :
    (ofAnchored anchor body).components =
      anchor.components ++ body.filterMap Component.ofPiece? := by
  by_cases hne : body = []
  · subst hne
    cases anchor <;> decide
  · rw [components, anchored_ofAnchored h hne]

theorem filterMap_ofPiece?_of_void {body : List String} (h : ∀ piece ∈ body, isVoid piece = true) :
    body.filterMap Component.ofPiece? = [] := by
  rw [List.filterMap_eq_nil_iff]
  intro piece hpiece
  rw [Component.ofPiece?, if_pos (h piece hpiece)]

theorem ofPiece?_of_not_void {piece : String} (h : isVoid piece = false) :
    ∃ c, Component.ofPiece? piece = some c := by
  rw [Component.ofPiece?, h]
  split
  · contradiction
  · split <;> exact ⟨_, rfl⟩

theorem trimEnd_isPrefix (body : List String) : trimEnd body <+: body :=
  List.rdropWhile_prefix isVoid body

theorem filterMap_trimEnd (body : List String) :
    (trimEnd body).filterMap Component.ofPiece? = body.filterMap Component.ofPiece? := by
  have hvoid : (body.rtakeWhile isVoid).filterMap Component.ofPiece? = [] :=
    filterMap_ofPiece?_of_void fun _ => List.mem_rtakeWhile_imp
  calc (trimEnd body).filterMap Component.ofPiece?
      = (trimEnd body ++ body.rtakeWhile isVoid).filterMap Component.ofPiece? := by
        rw [List.filterMap_append, hvoid, List.append_nil]
    _ = body.filterMap Component.ofPiece? := by
        rw [show trimEnd body = body.rdropWhile isVoid from rfl,
          List.rdropWhile_append_rtakeWhile]

theorem trimEnd_of_cutLast {body front : List String} {last : String}
    (h : cutLast body = some (front, last)) :
    trimEnd body = front ++ [last] ∧ isVoid last = false := by
  rw [cutLast] at h
  split at h
  · cases h
  · rename_i heq
    cases h
    rw [trimEnd, heq, List.reverse_cons]
    have hhead := List.head?_dropWhile_not isVoid body.reverse
    rw [heq] at hhead
    simpa using hhead

theorem trimEnd_isPrefix_of_cutLast {body front : List String} {last : String}
    (h : cutLast body = some (front, last)) : trimEnd front <+: body := by
  have hconcat : front ++ [last] <+: body := (trimEnd_of_cutLast h).1 ▸ trimEnd_isPrefix body
  exact (trimEnd_isPrefix front).trans ((List.prefix_append front [last]).trans hconcat)

theorem trimEnd_of_cutLast_eq_none {body : List String} (h : cutLast body = none) :
    trimEnd body = [] := by
  rw [cutLast] at h
  split at h
  · rename_i heq
    rw [trimEnd, heq]
    rfl
  · cases h

theorem filterMap_of_cutLast_eq_none {body : List String} (h : cutLast body = none) :
    body.filterMap Component.ofPiece? = [] := by
  rw [← filterMap_trimEnd, trimEnd_of_cutLast_eq_none h]
  rfl

/-- The parent is the path without its last component. -/
theorem components_of_parent? {p q : Path} (h : p.parent? = some q) :
    ∃ c, p.components = q.components ++ [c] := by
  have hfits := anchored_fits p
  rw [components]
  rw [parent?] at h
  split at h
  · rename_i anchor body front last hanchored hcut
    cases h
    rw [hanchored] at hfits hcut ⊢
    obtain ⟨htrim, hlast⟩ := trimEnd_of_cutLast hcut
    obtain ⟨c, hc⟩ := ofPiece?_of_not_void hlast
    refine ⟨c, ?_⟩
    rw [components_ofAnchored (hfits.of_isPrefix (trimEnd_isPrefix_of_cutLast hcut)),
      filterMap_trimEnd,
      ← filterMap_trimEnd body, htrim, List.filterMap_append, List.append_assoc]
    simp [hc]
  · rename_i body hanchored hcut
    cases h
    rw [hanchored] at hcut ⊢
    exact ⟨.current, by rw [filterMap_of_cutLast_eq_none hcut]; rfl⟩
  · cases h

theorem isAbsolute_join {p : Path} (h : p.isAbsolute = true) (q : Path) :
    (p.join q).isAbsolute = true := by
  have happend : ∀ text : String, (⟨p.text ++ text⟩ : Path).isAbsolute = true := by
    intro text
    rw [isAbsolute, beq_iff_eq] at h ⊢
    rw [String.toList_append, List.head?_append, h]
    rfl
  rw [join]
  split
  · assumption
  · split
    · rename_i hempty
      rw [isAbsolute, hempty] at h
      exact absurd h (by decide)
    · split
      · exact happend _
      · rw [String.append_assoc]
        exact happend _

theorem isAbsolute_child {p : Path} (h : p.isAbsolute = true) (name : String) :
    (p.child name).isAbsolute = true :=
  isAbsolute_join h _

theorem text_ne_of_isAbsolute {p : Path} (h : p.isAbsolute = true) : p.text ≠ "" := by
  intro hempty
  rw [isAbsolute, hempty] at h
  cases h

theorem anchored_of_isAbsolute {p : Path} (h : p.isAbsolute = true) : p.anchored.1 = .root := by
  rw [isAbsolute, beq_iff_eq, List.head?_eq_some_iff] at h
  obtain ⟨cs, hcs⟩ := h
  have hpieces : p.pieces = "" :: (splitOn '/' cs).map String.ofList := by
    rw [pieces, hcs, splitOn_cons_self]
    rfl
  obtain ⟨piece, rest, hrest⟩ := List.exists_cons_of_ne_nil (splitOn_ne_nil '/' cs)
  rw [anchored, hpieces, hrest]
  rfl

theorem isAbsolute_of_parent? {p q : Path} (hp : p.isAbsolute = true) (h : p.parent? = some q) :
    q.isAbsolute = true := by
  have hroot := anchored_of_isAbsolute hp
  rw [parent?] at h
  split at h
  · rename_i anchor body front last hanchored hcut
    cases h
    rw [hanchored] at hroot
    cases hroot
    rw [isAbsolute, ofAnchored, String.toList_append]
    rfl
  · rename_i body hanchored hcut
    rw [hanchored] at hroot
    cases hroot
  · cases h

/-- The path so many steps up, if there are so many. -/
def ancestor? : Nat → Path → Option Path
  | 0, p => some p
  | n + 1, p => p.parent?.bind (ancestor? n)

theorem getElem?_upward {n : Nat} {p : Path} (h : p.components.length ≤ n) (i : Nat) :
    (upward n p)[i]? = p.ancestor? i := by
  induction n generalizing p i with
  | zero =>
      have htop : p.parent? = none := by
        rw [Option.eq_none_iff_forall_ne_some]
        intro q hq
        obtain ⟨c, hc⟩ := components_of_parent? hq
        simp [hc] at h
      cases i with
      | zero => rfl
      | succ i => simp [upward, ancestor?, htop]
  | succ n ih =>
      cases i with
      | zero => rfl
      | succ i =>
          rw [upward, ancestor?, List.getElem?_cons_succ]
          cases hq : p.parent? with
          | none => rfl
          | some q =>
              obtain ⟨c, hc⟩ := components_of_parent? hq
              rw [hc, List.length_append, List.length_singleton] at h
              exact ih (by omega) i

/-- What is above a path are its parents, one after the other, up to one that has none. -/
theorem getElem?_ancestors (p : Path) (i : Nat) : p.ancestors[i]? = p.ancestor? i :=
  getElem?_upward (Nat.le_refl _) i

theorem length_components_of_ancestor? {p q : Path} {n : Nat} (h : p.ancestor? n = some q) :
    q.components.length + n = p.components.length := by
  induction n generalizing p with
  | zero =>
      cases h
      rfl
  | succ n ih =>
      obtain ⟨parent, hparent, hq⟩ := Option.bind_eq_some_iff.mp h
      obtain ⟨c, hc⟩ := components_of_parent? hparent
      rw [hc, List.length_append, List.length_singleton, ← ih hq]
      omega

theorem isAbsolute_of_ancestor? {p q : Path} {n : Nat} (hp : p.isAbsolute = true)
    (h : p.ancestor? n = some q) : q.isAbsolute = true := by
  induction n generalizing p with
  | zero =>
      cases h
      exact hp
  | succ n ih =>
      obtain ⟨parent, hparent, hq⟩ := Option.bind_eq_some_iff.mp h
      exact ih (isAbsolute_of_parent? hp hparent) hq

/-- Paths at different heights differ in their components. -/
theorem height_eq_of_components {p q r : Path} {m n : Nat} (hm : p.ancestor? m = some q)
    (hn : p.ancestor? n = some r) (h : q.components = r.components) : m = n := by
  have hq := length_components_of_ancestor? hm
  have hr := length_components_of_ancestor? hn
  rw [h] at hq
  omega

end EnvScout.Path
