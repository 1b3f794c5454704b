import EnvScout.Proofs.Path.Front

/-!
The steps of a path. They and whether the path is absolute are all that counts for where a path
leads that ends in a directory. A path has the steps of its parent and then its file name, and is
absolute if its parent is.
-/

namespace EnvScout.Path

/-- The pieces that lead somewhere, out of some. -/
def stepsOf (pieces : List String) : List String :=
  pieces.filter fun piece => !isVoid piece

variable {p q : Path} {anchor : Anchor} {body : List String} {name : String}

theorem steps_eq (p : Path) : p.steps = stepsOf p.pieces := rfl

theorem stepsOf_append (front rest : List String) :
    stepsOf (front ++ rest) = stepsOf front ++ stepsOf rest :=
  List.filter_append ..

theorem stepsOf_cons_of_void {piece : String} (h : isVoid piece = true) (rest : List String) :
    stepsOf (piece :: rest) = stepsOf rest := by
  rw [stepsOf, List.filter_cons, h]
  rfl

theorem stepsOf_cons_of_step {piece : String} (h : isVoid piece = false) (rest : List String) :
    stepsOf (piece :: rest) = piece :: stepsOf rest := by
  rw [stepsOf, List.filter_cons, h]
  rfl

theorem stepsOf_stepsOf (pieces : List String) : stepsOf (stepsOf pieces) = stepsOf pieces := by
  simp [stepsOf]

theorem stepsOf_trimEnd (body : List String) : stepsOf (trimEnd body) = stepsOf body := by
  have hvoid : stepsOf (body.rtakeWhile isVoid) = [] := by
    rw [stepsOf, List.filter_eq_nil_iff]
    intro piece hpiece
    simp [List.mem_rtakeWhile_imp hpiece]
  calc stepsOf (trimEnd body)
      = stepsOf (trimEnd body ++ body.rtakeWhile isVoid) := by
        rw [stepsOf_append, hvoid, List.append_nil]
    _ = stepsOf body := by
        rw [show trimEnd body = body.rdropWhile isVoid from rfl,
          List.rdropWhile_append_rtakeWhile]

theorem steps_anchored (p : Path) : p.steps = stepsOf p.anchored.2 := by
  rw [steps_eq, anchored]
  split
  · rename_i heq
    rw [heq, stepsOf_cons_of_void rfl]
  · rename_i heq
    rw [heq, stepsOf_cons_of_void rfl]
  · rfl

theorem isAbsolute_iff_anchored : p.isAbsolute = true ↔ p.anchored.1 = .root := by
  refine ⟨anchored_of_isAbsolute, fun h => ?_⟩
  rw [← ofAnchored_anchored p, h, isAbsolute, ofAnchored, String.toList_append]
  rfl

/-- A path that is put together has the steps and the beginning it is put together from. -/
theorem steps_ofAnchored (h : anchor.Fits body) :
    (ofAnchored anchor body).steps = stepsOf body ∧
      ((ofAnchored anchor body).isAbsolute = true ↔ anchor = .root) := by
  by_cases hne : body = []
  · subst hne
    cases anchor <;> decide
  · rw [steps_anchored, isAbsolute_iff_anchored, anchored_ofAnchored h hne]
    exact ⟨rfl, Iff.rfl⟩

theorem isAbsolute_parent?_eq (h : p.parent? = some q) : q.isAbsolute = p.isAbsolute := by
  have hfits := anchored_fits p
  rw [Bool.eq_iff_iff, @isAbsolute_iff_anchored p]
  rw [parent?] at h
  split at h
  · rename_i anchor body front last hanchored hcut
    cases h
    rw [hanchored] at hfits hcut ⊢
    exact (steps_ofAnchored (hfits.of_isPrefix (trimEnd_isPrefix_of_cutLast hcut))).2
  · rename_i body hanchored hcut
    cases h
    rw [hanchored]
    exact iff_of_false (by decide) (show Anchor.dot ≠ Anchor.root by decide)
  · cases h

theorem components_eq_steps (p : Path) :
    p.components = p.anchored.1.components ++ p.steps.filterMap Component.ofPiece? := by
  have hvoid : ∀ pieces : List String,
      (stepsOf pieces).filterMap Component.ofPiece? = pieces.filterMap Component.ofPiece? := by
    intro pieces
    rw [stepsOf, List.filterMap_filter]
    congr
    funext piece
    cases h : isVoid piece <;> simp [Component.ofPiece?, h]
  rw [components, steps_anchored, hvoid]

/-- The parent has the steps of the path but the last one; only a path without steps has an empty
parent instead. -/
theorem steps_of_parent? (h : p.parent? = some q) :
    (∃ last, p.steps = q.steps ++ [last] ∧ isVoid last = false) ∨ p.steps = [] ∧ q.text = "" := by
  have hfits := anchored_fits p
  rw [steps_anchored]
  rw [parent?] at h
  split at h
  · rename_i anchor body front last hanchored hcut
    cases h
    rw [hanchored] at hfits hcut ⊢
    obtain ⟨htrim, hlast⟩ := trimEnd_of_cutLast hcut
    refine .inl ⟨last, ?_, hlast⟩
    rw [(steps_ofAnchored (hfits.of_isPrefix (trimEnd_isPrefix_of_cutLast hcut))).1,
      stepsOf_trimEnd, ← stepsOf_trimEnd body, htrim, stepsOf_append, stepsOf_cons_of_step hlast]
    rfl
  · rename_i body hanchored hcut
    cases h
    rw [hanchored] at hcut ⊢
    refine .inr ⟨?_, rfl⟩
    rw [← stepsOf_trimEnd, trimEnd_of_cutLast_eq_none hcut]
    rfl
  · cases h

/-- The last step of a path that has a file name is this name, and the parent has the others. -/
theorem steps_of_fileName? (h : p.parent? = some q) (hname : p.fileName? = some name) :
    p.steps = q.steps ++ [name] ∧ isVoid name = false ∧ name ≠ ".." := by
  rw [fileName?, components_eq_steps] at hname
  rcases steps_of_parent? h with ⟨last, hsteps, hlast⟩ | ⟨hnone, -⟩
  · obtain ⟨c, hc⟩ := ofPiece?_of_not_void hlast
    rw [hsteps, List.filterMap_append, List.filterMap_cons_some hc, ← List.append_assoc,
      List.filterMap_nil, List.getLast?_concat] at hname
    rw [Component.ofPiece?, hlast, if_neg Bool.false_ne_true] at hc
    split at hc <;> cases hc <;> cases hname
    rename_i hparent
    exact ⟨hsteps, hlast, hparent⟩
  · rw [hnone] at hname
    cases hanchor : p.anchored.1 <;> rw [hanchor] at hname <;> cases hname

end EnvScout.Path
