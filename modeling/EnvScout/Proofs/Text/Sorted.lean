import EnvScout.Proofs.Text.Bytes

/-!
Searching sorted names from the front. What is found comes from the first name by its bytes that
gives anything, and it makes no difference in which order the names were before.
-/

namespace EnvScout.Text

variable {β : Type} {names others : List String}

theorem pairwise_mergeSort_names (names : List String) :
    names.mergeSort.Pairwise fun a b => a ≤ b := by
  have htrans : ∀ a b c : String, decide (a ≤ b) = true → decide (b ≤ c) = true →
      decide (a ≤ c) = true := by
    intro a b c hab hbc
    exact decide_eq_true (le_trans (of_decide_eq_true hab) (of_decide_eq_true hbc))
  have htotal : ∀ a b : String, (decide (a ≤ b) || decide (b ≤ a)) = true := by
    intro a b
    simpa using le_total a b
  exact (List.pairwise_mergeSort htrans htotal names).imp of_decide_eq_true

theorem mergeSort_eq_of_perm (h : names.Perm others) : names.mergeSort = others.mergeSort := by
  have hperm : names.mergeSort.Perm others.mergeSort :=
    (List.mergeSort_perm _ _).trans (h.trans (List.mergeSort_perm _ _).symm)
  exact hperm.eq_of_pairwise (fun a b _ _ => le_antisymm) (pairwise_mergeSort_names names)
    (pairwise_mergeSort_names others)

/-- The first of these texts by its bytes. -/
structure IsFirst (among : String → Prop) (name : String) : Prop where
  mem : among name
  least : ∀ other, among other → bytes name ≤ bytes other

theorem IsFirst.eq {among : String → Prop} {a b : String} (ha : IsFirst among a)
    (hb : IsFirst among b) : a = b :=
  le_antisymm (bytes_le_iff.mp (ha.least b hb.mem)) (bytes_le_iff.mp (hb.least a ha.mem))

theorem isFirst_congr {among others : String → Prop} {name : String}
    (h : ∀ other, among other ↔ others other) : IsFirst among name ↔ IsFirst others name := by
  constructor
  · rintro ⟨hname, hleast⟩
    exact ⟨(h name).mp hname, fun other hother => hleast other ((h other).mpr hother)⟩
  · rintro ⟨hname, hleast⟩
    exact ⟨(h name).mpr hname, fun other hother => hleast other ((h other).mp hother)⟩

variable {result : String → Option β}

theorem isFirst_of_findSome? {found : β} (h : names.mergeSort.findSome? result = some found) :
    ∃ name, result name = some found ∧
      IsFirst (fun other => other ∈ names ∧ (result other).isSome) name := by
  obtain ⟨front, name, back, hsplit, hname, hfront⟩ := List.findSome?_eq_some_iff.mp h
  have hmem : ∀ other, other ∈ names ↔ other ∈ front ++ name :: back := by
    intro other
    rw [← hsplit, List.mem_mergeSort]
  have hsorted := pairwise_mergeSort_names names
  rw [hsplit] at hsorted
  refine ⟨name, hname, ⟨(hmem name).mpr List.mem_append_cons_self, hname ▸ rfl⟩, ?_⟩
  rintro other ⟨hother, hsome⟩
  rw [hmem, List.mem_append, List.mem_cons] at hother
  rcases hother with hearly | rfl | hlate
  · rw [hfront other hearly] at hsome
    cases hsome
  · exact bytes_le_iff.mpr le_rfl
  · exact bytes_le_iff.mpr
      (List.rel_of_pairwise_cons (List.pairwise_append.mp hsorted).2.1 hlate)

/-- The first text by its bytes that gives something is the one that a search from the front of the
sorted texts stops at. -/
theorem findSome?_mergeSort_eq_some_iff {found : β} :
    names.mergeSort.findSome? result = some found ↔ ∃ name, result name = some found ∧
      IsFirst (fun other => other ∈ names ∧ (result other).isSome) name := by
  refine ⟨isFirst_of_findSome?, ?_⟩
  rintro ⟨name, hname, hfirst⟩
  cases hsearch : names.mergeSort.findSome? result with
  | none =>
      rw [List.findSome?_eq_none_iff] at hsearch
      rw [hsearch name (List.mem_mergeSort.mpr hfirst.mem.1)] at hname
      cases hname
  | some other =>
      obtain ⟨stop, hstop, hstopFirst⟩ := isFirst_of_findSome? hsearch
      rw [hstopFirst.eq hfirst, hname] at hstop
      exact hstop.symm

theorem findSome?_mergeSort_eq_none_iff :
    names.mergeSort.findSome? result = none ↔ ∀ name ∈ names, result name = none := by
  rw [List.findSome?_eq_none_iff]
  exact forall_congr' fun name => imp_congr_left List.mem_mergeSort

end EnvScout.Text
