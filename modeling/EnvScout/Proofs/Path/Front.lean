import EnvScout.Proofs.Path.Components

/-!
The front of a path as it is written. The parent of a path is written as the front of it, and where
a path ends with one more step behind a piece that leads somewhere, its parent is what stands before
the separator, letter by letter, whatever the path begins with.
-/

namespace EnvScout

namespace Text

variable {sep : Char}

theorem joinWith_isPrefix {front pieces : List (List Char)} (h : front <+: pieces) :
    joinWith sep front <+: joinWith sep pieces := by
  induction front generalizing pieces with
  | nil => exact List.nil_prefix
  | cons piece front ih =>
      obtain ⟨others, rfl⟩ := h
      cases front with
      | nil =>
          cases others with
          | nil => exact List.prefix_rfl
          | cons next others => exact List.prefix_append _ _
      | cons next front =>
          obtain ⟨more, hmore⟩ := ih (List.prefix_append (next :: front) others)
          refine ⟨more, ?_⟩
          show (piece ++ sep :: joinWith sep (next :: front)) ++ more =
            piece ++ sep :: joinWith sep (next :: front ++ others)
          rw [← hmore, List.append_assoc, List.cons_append]

/-- Writing something in front of a text changes its pieces at most in the first of them. -/
theorem exists_splitOn_append (written : List Char) {text first : List Char}
    {others : List (List Char)} (h : splitOn sep text = first :: others) :
    ∃ front glued, splitOn sep (written ++ text) = front ++ (glued ++ first) :: others := by
  induction written with
  | nil => exact ⟨[], [], h⟩
  | cons c written ih =>
      obtain ⟨front, glued, hsplit⟩ := ih
      by_cases hc : c = sep
      · refine ⟨[] :: front, glued, ?_⟩
        rw [hc, List.cons_append, splitOn_cons_self, hsplit, List.cons_append]
      · cases front with
        | nil =>
            refine ⟨[], c :: glued, ?_⟩
            rw [List.cons_append, splitOn_cons_of_ne hc hsplit]
            rfl
        | cons piece front =>
            refine ⟨(c :: piece) :: front, glued, ?_⟩
            rw [List.cons_append, splitOn_cons_of_ne hc hsplit]
            rfl

end Text

namespace Path

open Text

theorem ofPieces_pieces (p : Path) : ofPieces p.pieces = p := by
  rw [ofPieces, pieces, List.map_map]
  have hid : String.toList ∘ String.ofList = id := by
    funext cs
    exact String.toList_ofList
  rw [hid, List.map_id, joinWith_splitOn, String.ofList_toList]

theorem ofPieces_append {front rest : List String} (hfront : front ≠ []) (hrest : rest ≠ []) :
    ofPieces (front ++ rest) = ⟨(ofPieces front).text ++ "/" ++ (ofPieces rest).text⟩ := by
  refine congrArg Path.mk (String.toList_injective ?_)
  simp [ofPieces, joinWith_append, hfront, hrest]

theorem ofPieces_singleton (piece : String) : ofPieces [piece] = ⟨piece⟩ :=
  congrArg Path.mk String.ofList_toList

theorem ofPieces_cons (first : String) {rest : List String} (h : rest ≠ []) :
    ofPieces (first :: rest) = ⟨first ++ "/" ++ (ofPieces rest).text⟩ := by
  rw [← List.singleton_append, ofPieces_append (List.cons_ne_nil _ _) h, ofPieces_singleton]

/-- A path is written as its beginning and the pieces behind it. -/
theorem ofAnchored_anchored (p : Path) : ofAnchored p.anchored.1 p.anchored.2 = p := by
  rw [anchored]
  split
  · rename_i piece rest heq
    have htext := ofPieces_pieces p
    rw [heq, ofPieces_cons _ (List.cons_ne_nil _ _)] at htext
    exact htext
  · rename_i rest heq
    have htext := ofPieces_pieces p
    rw [heq] at htext
    cases rest with
    | nil => exact htext
    | cons next rest =>
        rw [ofPieces_cons _ (List.cons_ne_nil _ _)] at htext
        exact htext
  · exact ofPieces_pieces p

theorem toList_ofAnchored_isPrefix (anchor : Anchor) {front body : List String}
    (h : front <+: body) :
    (ofAnchored anchor front).text.toList <+: (ofAnchored anchor body).text.toList := by
  have hpieces : (ofPieces front).text.toList <+: (ofPieces body).text.toList := by
    simp only [ofPieces, String.toList_ofList]
    exact joinWith_isPrefix (h.map String.toList)
  cases anchor with
  | root =>
      simp only [ofAnchored, String.toList_append]
      exact (List.prefix_append_right_inj _).mpr hpieces
  | bare => exact hpieces
  | dot =>
      cases body with
      | nil =>
          obtain rfl := List.prefix_nil.mp h
          exact List.prefix_rfl
      | cons piece rest =>
          cases front with
          | nil => exact ⟨'/' :: (ofPieces (piece :: rest)).text.toList, by simp [ofAnchored]⟩
          | cons first front =>
              simp only [ofAnchored, String.toList_append]
              exact (List.prefix_append_right_inj _).mpr hpieces

/-- The parent of a path is written as the front of it. -/
theorem toList_isPrefix_of_parent? {p q : Path} (h : p.parent? = some q) :
    q.text.toList <+: p.text.toList := by
  rw [← ofAnchored_anchored p]
  rw [parent?] at h
  split at h
  · rename_i anchor body front last hanchored hcut
    cases h
    rw [hanchored] at hcut ⊢
    exact toList_ofAnchored_isPrefix anchor (trimEnd_isPrefix_of_cutLast hcut)
  · cases h
    exact List.nil_prefix
  · cases h

/-- The pieces that lead somewhere. -/
def steps (p : Path) : List String :=
  p.pieces.filter fun piece => !isVoid piece

/-- The last piece leads somewhere. -/
def EndsInStep (p : Path) : Prop :=
  ∃ front last, p.pieces = front ++ [last] ∧ isVoid last = false

variable {x y : String}

theorem pieces_append_slash (x y : String) :
    (⟨x ++ "/" ++ y⟩ : Path).pieces = (⟨x⟩ : Path).pieces ++ (⟨y⟩ : Path).pieces := by
  have htext : (x ++ "/" ++ y).toList = x.toList ++ '/' :: y.toList := by simp
  rw [pieces, htext, splitOn_append_sep, List.map_append]
  rfl

/-- A piece that leads somewhere still does with something written in front of it. -/
theorem isVoid_append {last : List Char} (h : isVoid (String.ofList last) = false)
    (glued : List Char) : isVoid (String.ofList (glued ++ last)) = false := by
  have hvoid : ∀ cs, isVoid (String.ofList cs) = true ↔ cs = [] ∨ cs = ['.'] := fun cs => by
    rw [isVoid, Bool.or_eq_true, beq_iff_eq, beq_iff_eq, ← String.toList_inj, ← String.toList_inj,
      String.toList_ofList]
    rfl
  rw [← Bool.not_eq_true, hvoid] at h ⊢
  rintro (hnil | hdot)
  · exact h (.inl (List.append_eq_nil_iff.mp hnil).2)
  · rcases List.append_eq_singleton_iff.mp hdot with ⟨-, hlast⟩ | ⟨-, hlast⟩
    · exact h (.inr hlast)
    · exact h (.inl hlast)

theorem EndsInStep.ne_empty (h : EndsInStep ⟨x⟩) : x ≠ "" := by
  rintro rfl
  obtain ⟨front, last, hpieces, hlast⟩ := h
  have hone : [] ++ [""] = front ++ [last] := hpieces
  obtain rfl : "" = last := List.singleton_inj.mp (List.append_inj' hone rfl).2
  cases hlast

theorem EndsInStep.append (h : EndsInStep ⟨x⟩) (written : String) :
    EndsInStep ⟨written ++ x⟩ := by
  obtain ⟨front, last, hpieces, hlast⟩ := h
  obtain ⟨first, others, hsplit⟩ := List.exists_cons_of_ne_nil (splitOn_ne_nil '/' x.toList)
  obtain ⟨before, glued, hwritten⟩ := exists_splitOn_append written.toList hsplit
  rw [pieces, hsplit, List.map_cons] at hpieces
  rw [EndsInStep, pieces, String.toList_append, hwritten, List.map_append, List.map_cons]
  cases others using List.reverseRecOn with
  | nil =>
      have hfirst : String.ofList first = last := by
        simpa using congrArg List.getLast? hpieces
      exact ⟨before.map String.ofList, _, rfl, isVoid_append (hfirst ▸ hlast) glued⟩
  | append_singleton others final _ =>
      rw [List.map_append, ← List.cons_append] at hpieces
      have hfinal : String.ofList final = last :=
        List.singleton_inj.mp (List.append_inj' hpieces rfl).2
      refine ⟨before.map String.ofList ++ String.ofList (glued ++ first) ::
        others.map String.ofList, String.ofList final, ?_, hfinal ▸ hlast⟩
      simp

theorem cutLast_append_of_step (body : List String) {pieces : List String} {step : String}
    (h : (pieces.filter fun piece => !isVoid piece) = [step]) :
    ∃ voids, cutLast (body ++ pieces) = some (body ++ voids, step) ∧
      ∀ piece ∈ voids, isVoid piece = true := by
  obtain ⟨voids, behind, rfl, hvoids, hstep, hbehind⟩ := List.filter_eq_cons_iff.mp h
  have hbehind := List.filter_eq_nil_iff.mp hbehind
  simp only [Bool.not_eq_true', Bool.not_eq_false] at hvoids hstep hbehind
  refine ⟨voids, ?_, hvoids⟩
  have hreverse : (body ++ (voids ++ step :: behind)).reverse =
      behind.reverse ++ step :: (body ++ voids).reverse := by simp
  rw [cutLast, hreverse, List.dropWhile_append_of_pos fun piece hpiece =>
    hbehind piece (List.mem_reverse.mp hpiece),
    List.dropWhile_cons_of_neg (by rw [hstep]; exact Bool.false_ne_true)]
  simp only [List.reverse_reverse]

theorem trimEnd_concat_append {front voids : List String} {last : String}
    (hlast : isVoid last = false) (hvoids : ∀ piece ∈ voids, isVoid piece = true) :
    trimEnd (front ++ [last] ++ voids) = front ++ [last] := by
  rw [trimEnd, List.reverse_append, List.dropWhile_append_of_pos fun piece hpiece =>
    hvoids piece (List.mem_reverse.mp hpiece), List.reverse_concat,
    List.dropWhile_cons_of_neg (by rw [hlast]; exact Bool.false_ne_true)]
  simp

/-- However a path begins, what is written behind its last step only adds to its pieces. -/
theorem exists_anchored_append {p q : Path} (hp : p.EndsInStep) {more : List String}
    (hq : q.pieces = p.pieces ++ more) :
    ∃ anchor body last, p.anchored = (anchor, body ++ [last]) ∧
      q.anchored = (anchor, body ++ [last] ++ more) ∧ isVoid last = false := by
  obtain ⟨front, last, hpieces, hlast⟩ := hp
  rw [hpieces] at hq
  have hbare : ∀ (r : Path) (first : String) (rest : List String), r.pieces = first :: rest →
      first ≠ "" → first ≠ "." → r.anchored = (.bare, first :: rest) := by
    intro r first rest hr hempty hdot
    rw [anchored, hr]
    split
    · rename_i heq
      exact absurd (List.cons.inj heq).1 hempty
    · rename_i heq
      exact absurd (List.cons.inj heq).1 hdot
    · rfl
  cases front with
  | nil =>
      have hempty : last ≠ "" := by
        rintro rfl
        cases hlast
      have hdot : last ≠ "." := by
        rintro rfl
        cases hlast
      exact ⟨.bare, [], last, hbare p last [] hpieces hempty hdot,
        hbare q last more hq hempty hdot, hlast⟩
  | cons first front =>
      by_cases hempty : first = ""
      · subst hempty
        refine ⟨.root, front, last, ?_, ?_, hlast⟩
        · rw [anchored, hpieces]
          cases front <;> rfl
        · rw [anchored, hq]
          cases front <;> rfl
      · by_cases hdot : first = "."
        · subst hdot
          refine ⟨.dot, front, last, ?_, ?_, hlast⟩
          · rw [anchored, hpieces]
            rfl
          · rw [anchored, hq]
            rfl
        · exact ⟨.bare, first :: front, last, hbare p first _ hpieces hempty hdot,
            hbare q first _ hq hempty hdot, hlast⟩

/-- Going on from an absolute path writes the same in front of every relative one. -/
theorem exists_join_eq {p : Path} (h : p.isAbsolute = true) :
    ∃ written, ∀ q : Path, q.isAbsolute = false → p.join q = ⟨written ++ q.text⟩ := by
  have hne : p.text ≠ "" := by
    intro hempty
    rw [isAbsolute, hempty] at h
    cases h
  by_cases hslash : p.text.toList.getLast? = some '/'
  · refine ⟨p.text, fun q hq => ?_⟩
    rw [join, hq, if_neg Bool.false_ne_true, if_neg hne, if_pos hslash]
  · refine ⟨p.text ++ "/", fun q hq => ?_⟩
    rw [join, hq, if_neg Bool.false_ne_true, if_neg hne, if_neg hslash]

theorem parent?_of_step {step : String} (hx : EndsInStep ⟨x⟩)
    (hy : (⟨y⟩ : Path).steps = [step]) : (⟨x ++ "/" ++ y⟩ : Path).parent? = some ⟨x⟩ := by
  obtain ⟨anchor, body, last, hanchored, hmore, hlast⟩ :=
    exists_anchored_append hx (pieces_append_slash x y)
  obtain ⟨voids, hcut, hvoids⟩ := cutLast_append_of_step (body ++ [last]) hy
  have htext := ofAnchored_anchored ⟨x⟩
  rw [hanchored] at htext
  rw [parent?, hmore]
  simp only [hcut]
  rw [trimEnd_concat_append hlast hvoids]
  exact congrArg some htext

/-- A path with two steps can be cut behind the last but one. -/
theorem exists_cut_of_steps {p : Path} (h : 2 ≤ p.steps.length) :
    ∃ x y step, p = ⟨x ++ "/" ++ y⟩ ∧ EndsInStep ⟨x⟩ ∧ (⟨y⟩ : Path).steps = [step] ∧
      (⟨x⟩ : Path).steps.length + 1 = p.steps.length := by
  obtain ⟨early, late, hsteps⟩ : ∃ early late, p.steps = early ++ late ∧ late.length = 2 :=
    ⟨_, _, (List.take_append_drop (p.steps.length - 2) p.steps).symm, by
      rw [List.length_drop]
      omega⟩
  obtain ⟨hsteps, hlate⟩ := hsteps
  obtain ⟨last, step, rfl⟩ := List.length_eq_two.mp hlate
  obtain ⟨before, behind, hpieces, hbefore, hbehind⟩ := List.filter_eq_append_iff.mp hsteps
  obtain ⟨voids, rest, rfl, hvoids, hlast, hrest⟩ := List.filter_eq_cons_iff.mp hbehind
  have hplain : ∀ piece ∈ before ++ (voids ++ last :: rest), '/' ∉ piece.toList := fun piece hmem =>
    not_mem_of_mem_pieces (hpieces ▸ hmem)
  have hrestne : rest ≠ [] := by
    rintro rfl
    cases hrest
  have hsplit : before ++ (voids ++ last :: rest) = (before ++ voids ++ [last]) ++ rest := by simp
  rw [hsplit] at hpieces hplain
  obtain ⟨hplainFront, hplainRest⟩ := List.forall_mem_append.mp hplain
  have hfront : (ofPieces (before ++ voids ++ [last])).pieces = before ++ voids ++ [last] :=
    pieces_ofPieces (by simp) hplainFront
  refine ⟨(ofPieces (before ++ voids ++ [last])).text, (ofPieces rest).text, step, ?_, ?_, ?_, ?_⟩
  · rw [← ofPieces_append (by simp) hrestne, ← hpieces, ofPieces_pieces]
  · exact ⟨_, last, hfront, by simpa using hlast⟩
  · exact (congrArg (List.filter _) (pieces_ofPieces hrestne hplainRest)).trans hrest
  · have hx : (ofPieces (before ++ voids ++ [last])).steps = early ++ [last] := by
      rw [steps, hfront, List.filter_append, List.filter_append, hbefore,
        List.filter_eq_nil_iff.mpr hvoids, List.append_nil, List.filter_singleton, hlast, cond_true]
    rw [hsteps, hx]
    simp

end Path

end EnvScout
