import EnvScout.Proofs.Path.Components
import EnvScout.Resolution

/-!
Who is asked about what, with its place in the order: by the level of the directory above the first
one, and on one level by the place of the finder among the chosen ones. The search goes through the
asks that are eligible from the earliest on.
-/

namespace EnvScout.Resolution

/-- A finder asked about a directory: so many levels up, at that place among the finders. -/
structure Ask where
  level : Nat
  position : Nat
  dir : Path
  finder : Finder
  deriving DecidableEq

def Ask.visit (ask : Ask) : Path × Finder :=
  (ask.dir, ask.finder)

/-- The directory is so many levels above `top` and the finder at its place, and above `top` only a
finder whose answer depends on the directory is asked. -/
def Ask.Eligible (top : Path) (finders : List Finder) (ask : Ask) : Prop :=
  top.ancestor? ask.level = some ask.dir ∧ finders[ask.position]? = some ask.finder ∧
    (ask.level = 0 ∨ ask.finder.dependsOnDirectory = true)

instance (top : Path) (finders : List Finder) (ask : Ask) :
    Decidable (ask.Eligible top finders) :=
  inferInstanceAs (Decidable (_ ∧ _ ∧ (_ ∨ _)))

/-- Nearer directories come first, and on one level the finders in their order. -/
def Ask.Before (a b : Ask) : Prop :=
  a.level < b.level ∨ a.level = b.level ∧ a.position < b.position

instance (a b : Ask) : Decidable (a.Before b) :=
  inferInstanceAs (Decidable (_ ∨ _))

theorem Ask.Before.irrefl (a : Ask) : ¬a.Before a := by
  rintro (h | ⟨_, h⟩)
  · exact Nat.lt_irrefl _ h
  · exact Nat.lt_irrefl _ h

theorem Ask.Before.asymm {a b : Ask} (h : a.Before b) : ¬b.Before a := by
  unfold Before at *
  omega

/-- The asks about the directory at one level. -/
def asksAt (finders : List Finder) (dir : Path) (level : Nat) : List Ask :=
  (finders.zipIdx.filter fun place => level == 0 || place.1.dependsOnDirectory).map fun place =>
    ⟨level, place.2, dir, place.1⟩

/-- All asks about `top` and what is above it, in order. -/
def asks (top : Path) (finders : List Finder) : List Ask :=
  top.ancestors.zipIdx.flatMap fun place => asksAt finders place.1 place.2

variable {top dir : Path} {finders : List Finder} {level : Nat} {ask : Ask}

theorem mem_asksAt :
    ask ∈ asksAt finders dir level ↔ ask.level = level ∧ ask.dir = dir ∧
      finders[ask.position]? = some ask.finder ∧
        (level = 0 ∨ ask.finder.dependsOnDirectory = true) := by
  rw [asksAt, List.mem_map]
  constructor
  · rintro ⟨⟨finder, position⟩, hplace, rfl⟩
    obtain ⟨hmem, hasked⟩ := List.mem_filter.mp hplace
    exact ⟨rfl, rfl, List.mk_mem_zipIdx_iff_getElem?.mp hmem, by simpa using hasked⟩
  · rintro ⟨rfl, rfl, hfinder, hasked⟩
    refine ⟨(ask.finder, ask.position), List.mem_filter.mpr ⟨?_, by simpa using hasked⟩, rfl⟩
    exact List.mk_mem_zipIdx_iff_getElem?.mpr hfinder

theorem mem_asks : ask ∈ asks top finders ↔ ask.Eligible top finders := by
  rw [asks, List.mem_flatMap]
  constructor
  · rintro ⟨⟨dir, level⟩, hplace, hask⟩
    obtain ⟨rfl, rfl, hfinder, hasked⟩ := mem_asksAt.mp hask
    refine ⟨?_, hfinder, hasked⟩
    rw [← Path.getElem?_ancestors]
    exact List.mk_mem_zipIdx_iff_getElem?.mp hplace
  · rintro ⟨hdir, hfinder, hasked⟩
    refine ⟨(ask.dir, ask.level), ?_, mem_asksAt.mpr ⟨rfl, rfl, hfinder, hasked⟩⟩
    rw [List.mk_mem_zipIdx_iff_getElem?, Path.getElem?_ancestors]
    exact hdir

theorem pairwise_zipIdx {α : Type} (items : List α) :
    items.zipIdx.Pairwise fun a b => a.2 < b.2 := by
  have hplaces : (items.zipIdx.map Prod.snd).Pairwise (· < ·) := by
    rw [List.zipIdx_map_snd]
    exact List.pairwise_lt_range'
  exact List.pairwise_map.mp hplaces

theorem asksAt_pairwise (finders : List Finder) (dir : Path) (level : Nat) :
    (asksAt finders dir level).Pairwise Ask.Before := by
  rw [asksAt, List.pairwise_map]
  exact ((pairwise_zipIdx finders).filter _).imp fun h => Or.inr ⟨rfl, h⟩

theorem asks_pairwise (top : Path) (finders : List Finder) :
    (asks top finders).Pairwise Ask.Before := by
  rw [asks, List.pairwise_flatMap]
  constructor
  · rintro ⟨dir, level⟩ _
    exact asksAt_pairwise finders dir level
  · refine (pairwise_zipIdx top.ancestors).imp fun hlevel a ha b hb => Or.inl ?_
    rw [(mem_asksAt.mp ha).1, (mem_asksAt.mp hb).1]
    exact hlevel

/-- What comes before an ask in the list is what comes before it in the order. -/
theorem filter_before {before after : List Ask}
    (hsplit : asks top finders = before ++ ask :: after) :
    (asks top finders).filter (fun other => other.Before ask) = before := by
  have hpairwise := asks_pairwise top finders
  rw [hsplit, List.pairwise_append, List.pairwise_cons] at hpairwise
  obtain ⟨_, ⟨hafter, _⟩, hbefore⟩ := hpairwise
  have hkept : before.filter (fun other => other.Before ask) = before := by
    rw [List.filter_eq_self]
    intro other hother
    exact decide_eq_true (hbefore other hother ask List.mem_cons_self)
  have hdropped : (ask :: after).filter (fun other => other.Before ask) = [] := by
    rw [List.filter_eq_nil_iff]
    intro other hother h
    rcases List.mem_cons.mp hother with rfl | hother
    · exact Ask.Before.irrefl _ (of_decide_eq_true h)
    · exact (hafter other hother).asymm (of_decide_eq_true h)
  rw [hsplit, List.filter_append, hkept, hdropped, List.append_nil]

theorem mem_before_iff {before after : List Ask} {other : Ask}
    (hsplit : asks top finders = before ++ ask :: after) :
    other ∈ before ↔ other.Eligible top finders ∧ other.Before ask := by
  rw [← filter_before hsplit, List.mem_filter, mem_asks, decide_eq_true_iff]

theorem map_visit_asksAt (finders : List Finder) (dir : Path) (level : Nat) :
    (asksAt finders dir level).map Ask.visit =
      (finders.filter fun finder => level == 0 || finder.dependsOnDirectory).map (dir, ·) := by
  have hfirst := List.zipIdx_map_fst 0 finders
  conv_rhs => rw [← hfirst]
  rw [asksAt, List.map_map, List.filter_map, List.map_map]
  rfl

/-- The asks, in their order, are what the search visits. -/
theorem map_visit_asks (top : Path) (finders : List Finder) :
    (asks top finders).map Ask.visit = visits top.ancestors finders := by
  rw [asks, List.map_flatMap]
  cases top.ancestors with
  | nil => rfl
  | cons first above =>
      rw [List.zipIdx_cons, List.flatMap_cons, map_visit_asksAt, visits]
      congr 1
      · simp
      · calc (above.zipIdx 1).flatMap (fun place => (asksAt finders place.1 place.2).map Ask.visit)
            = (above.zipIdx 1).flatMap fun place =>
                (finders.filter Finder.dependsOnDirectory).map (place.1, ·) := by
              refine List.flatMap_congr fun place hplace => ?_
              have hlevel := List.le_snd_of_mem_zipIdx hplace
              rw [map_visit_asksAt, beq_false_of_ne (by omega)]
              simp
          _ = ((above.zipIdx 1).map Prod.fst).flatMap fun dir =>
                (finders.filter Finder.dependsOnDirectory).map (dir, ·) := by
              rw [List.flatMap_map]
          _ = above.flatMap fun dir =>
                (finders.filter Finder.dependsOnDirectory).map (dir, ·) := by
              rw [List.zipIdx_map_fst]

end EnvScout.Resolution
