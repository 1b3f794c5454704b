import EnvScout.Proofs.Path.Front
import EnvScout.Proofs.Text.Utf8

/-!
Paths that are texts. A text is had back from the path it spells, and a path that is a text from
what is shown of it. Whether a path is a text is for each of its pieces to say, so above a path that
is a text all paths are.
-/

namespace EnvScout.Path

open Text Utf8

variable {p q : Path}

@[simp]
theorem shown_ofText (text : String) : (ofText text).shown = text :=
  decoded_encoded text

theorem isText_iff : p.isText = true ↔ ∃ text, p = ofText text := by
  rw [isText, beq_iff_eq]
  refine ⟨fun h => ⟨p.shown, h.symm⟩, ?_⟩
  rintro ⟨text, rfl⟩
  rw [shown_ofText]

theorem isText_ofText (text : String) : (ofText text).isText = true :=
  isText_iff.mpr ⟨text, rfl⟩

theorem ofText_shown (h : p.isText = true) : ofText p.shown = p :=
  beq_iff_eq.mp h

theorem eq_of_shown_eq (hp : p.isText = true) (hq : q.isText = true) (h : p.shown = q.shown) :
    p = q := by
  rw [← ofText_shown hp, h, ofText_shown hq]

theorem ofText_append (a b : String) : ofText (a ++ b) = ⟨(ofText a).text ++ (ofText b).text⟩ := by
  refine congrArg Path.mk (String.toList_injective ?_)
  simp [ofText]

/-- The bytes of a text. -/
def IsEncoded (piece : String) : Prop :=
  ∃ text, encoded text = piece

theorem isEncoded_of_mem_pieces {piece : String} (h : p.isText = true) (hpiece : piece ∈ p.pieces) :
    IsEncoded piece := by
  obtain ⟨text, rfl⟩ := isText_iff.mp h
  rw [pieces, ofText, toList_encoded, splitOn_flatMap (by decide), List.map_map] at hpiece
  obtain ⟨cs, -, rfl⟩ := List.mem_map.mp hpiece
  exact ⟨String.ofList cs, by rw [encoded, String.toList_ofList]; rfl⟩

theorem isText_ofPieces {body : List String} (h : ∀ piece ∈ body, IsEncoded piece) :
    (ofPieces body).isText = true := by
  induction body with
  | nil => exact isText_ofText ""
  | cons first rest ih =>
      obtain ⟨hfirst, hrest⟩ := List.forall_mem_cons.mp h
      obtain ⟨text, rfl⟩ := hfirst
      by_cases hne : rest = []
      · rw [hne, ofPieces_singleton]
        exact isText_ofText text
      · obtain ⟨more, hmore⟩ := isText_iff.mp (ih hrest)
        rw [ofPieces_cons _ hne, hmore]
        refine isText_iff.mpr ⟨text ++ "/" ++ more, ?_⟩
        rw [ofText_append, ofText_append]
        rfl

theorem isText_ofAnchored (anchor : Anchor) {body : List String}
    (h : ∀ piece ∈ body, IsEncoded piece) : (ofAnchored anchor body).isText = true := by
  obtain ⟨text, htext⟩ := isText_iff.mp (isText_ofPieces h)
  cases anchor with
  | root =>
      refine isText_iff.mpr ⟨"/" ++ text, ?_⟩
      rw [ofAnchored, htext, ofText_append]
      rfl
  | dot =>
      cases body with
      | nil => exact isText_ofText "."
      | cons first rest =>
          refine isText_iff.mpr ⟨"./" ++ text, ?_⟩
          rw [ofAnchored, htext, ofText_append]
          · rfl
          · exact List.cons_ne_nil _ _
  | bare => exact isText_ofPieces h

theorem mem_pieces_of_mem_anchored {piece : String} (h : piece ∈ p.anchored.2) :
    piece ∈ p.pieces := by
  rw [anchored] at h
  split at h
  · rename_i heq
    rw [heq]
    exact List.mem_cons_of_mem _ h
  · rename_i heq
    rw [heq]
    exact List.mem_cons_of_mem _ h
  · exact h

theorem isText_of_parent? (hp : p.isText = true) (h : p.parent? = some q) : q.isText = true := by
  have hbody : ∀ piece ∈ p.anchored.2, IsEncoded piece := fun piece hpiece =>
    isEncoded_of_mem_pieces hp (mem_pieces_of_mem_anchored hpiece)
  rw [parent?] at h
  split at h
  · rename_i anchor body front last hanchored hcut
    cases h
    rw [hanchored] at hbody hcut
    exact isText_ofAnchored anchor fun piece hpiece =>
      hbody piece ((trimEnd_isPrefix_of_cutLast hcut).subset hpiece)
  · cases h
    exact isText_ofText ""
  · cases h

/-- A path is a text when each of its pieces is. -/
theorem isText_of_pieces (h : ∀ piece ∈ p.pieces, IsEncoded piece) : p.isText = true := by
  rw [← ofPieces_pieces p]
  exact isText_ofPieces h

theorem isText_of_append_slash {x y : String} (h : (⟨x ++ "/" ++ y⟩ : Path).isText = true) :
    (⟨x⟩ : Path).isText = true ∧ (⟨x ++ "/"⟩ : Path).isText = true := by
  have hpieces : ∀ piece ∈ (⟨x⟩ : Path).pieces, IsEncoded piece := fun piece hpiece =>
    isEncoded_of_mem_pieces h (pieces_append_slash x y ▸ List.mem_append_left _ hpiece)
  obtain ⟨text, htext⟩ := isText_iff.mp (isText_of_pieces hpieces)
  refine ⟨isText_iff.mpr ⟨text, htext⟩, isText_iff.mpr ⟨text ++ "/", ?_⟩⟩
  rw [ofText_append, ← htext]
  rfl

/-- What goes on from a path that is no text is no text either. -/
theorem isText_of_join (hp : p.text ≠ "") (hq : q.isAbsolute = false)
    (h : (p.join q).isText = true) : p.isText = true := by
  rw [join, if_neg (by rw [hq]; exact Bool.false_ne_true), if_neg hp] at h
  split at h
  · rename_i hslash
    obtain ⟨cs, hcs⟩ := List.getLast?_eq_some_iff.mp hslash
    have htext : p.text = String.ofList cs ++ "/" := by
      apply String.toList_injective
      rw [hcs, String.toList_append, String.toList_ofList]
      rfl
    rw [htext] at h
    have hp : p = ⟨String.ofList cs ++ "/"⟩ := congrArg Path.mk htext
    rw [hp]
    exact (isText_of_append_slash h).2
  · exact (isText_of_append_slash h).1

theorem isPrefix_join (hq : q.isAbsolute = false) : p.text.toList <+: (p.join q).text.toList := by
  rw [join, if_neg (by rw [hq]; exact Bool.false_ne_true)]
  split
  · rename_i hempty
    rw [hempty]
    exact List.nil_prefix
  · split
    · rw [String.toList_append]
      exact List.prefix_append _ _
    · rw [String.toList_append, String.toList_append, List.append_assoc]
      exact List.prefix_append _ _

end EnvScout.Path
