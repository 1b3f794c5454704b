import EnvScout.Proofs.Text.Blank
import EnvScout.Text.Case

/-!
Lower-casing a text that has been lower-cased changes nothing, and what lower-casing puts for a
character is neither white space nor a sign. Both are read off the runs of the table: no run moves
a letter into a run of the table or into the ranges that hold white space and signs.
-/

namespace EnvScout.Text

open CaseTable

section Runs

/-- The number a run moves a number to. -/
def Shift.target (shift : Shift) (n : Nat) : Nat :=
  (n + shift.distance).toNat

/-- None of the characters of a run is moved into the range from `first` to `last`. -/
def Shift.misses (shift : Shift) (first last : Nat) : Bool :=
  (shift.target shift.last).blt first || last.blt (shift.target shift.first)

/-- None of the characters of a run is moved to one that `other` covers: they are moved past that
run or, where it takes every second character, between two of its characters. -/
def Shift.avoids (shift other : Shift) : Bool :=
  shift.misses other.first other.last ||
    (shift.step == 2 || shift.first == shift.last) && other.step == 2 &&
      (shift.target shift.first + other.first) % 2 == 1

/-- Ranges that hold all white space behind the small letters, the capital with a dot, and the
numbers that are no characters. -/
def reserved : List (Nat × Nat) :=
  [(0x85, 0xA0), (0x130, 0x130), (0x1680, 0x1680), (0x2000, 0x205F), (0x3000, 0x3000),
    (0xD800, 0xDFFF)]

theorem lowerShifts_between :
    (lowerShifts.all fun shift => Nat.blt 0x60 (shift.target shift.first) &&
      (shift.target shift.last).blt 0x110000) = true := by
  decide +kernel

theorem lowerShifts_avoid :
    (lowerShifts.all fun shift => lowerShifts.all fun other => shift.avoids other) = true := by
  decide +kernel

theorem lowerShifts_miss :
    (lowerShifts.all fun shift =>
      reserved.all fun range => shift.misses range.1 range.2) = true := by
  decide +kernel

variable {shift other : Shift} {c d : Char}

theorem Shift.covers_iff : shift.covers c = true ↔
    shift.first ≤ c.toNat ∧ c.toNat ≤ shift.last ∧ (c.toNat - shift.first) % shift.step = 0 := by
  simp [covers, and_assoc]

theorem Shift.outside_of_misses {first last : Nat} (hc : shift.covers c = true)
    (h : shift.misses first last = true) :
    shift.target c.toNat < first ∨ last < shift.target c.toNat := by
  obtain ⟨hfirst, hlast, -⟩ := covers_iff.mp hc
  simp only [misses, target, Bool.or_eq_true, Nat.blt_eq] at h ⊢
  omega

theorem Shift.not_covers_of_avoids (hpos : 0 < shift.target shift.first)
    (hc : shift.covers c = true) (hd : d.toNat = shift.target c.toNat)
    (h : shift.avoids other = true) : other.covers d = false := by
  rw [Bool.eq_false_iff, ne_eq, covers_iff]
  rintro ⟨hfirst, hlast, hstep⟩
  simp only [avoids, Bool.or_eq_true, Bool.and_eq_true, beq_iff_eq] at h
  rcases h with hmiss | ⟨⟨hsecond, hother⟩, hodd⟩
  · have := outside_of_misses hc hmiss
    omega
  · obtain ⟨hlow, hhigh, hcovered⟩ := covers_iff.mp hc
    rw [hother] at hstep
    rw [target] at hd hodd hpos
    rcases hsecond with hsecond | hsingle
    · rw [hsecond] at hcovered
      omega
    · omega

theorem target_between (hmem : shift ∈ lowerShifts) :
    0x60 < shift.target shift.first ∧ shift.target shift.last < 0x110000 := by
  have h := List.all_eq_true.mp lowerShifts_between shift hmem
  simpa only [Bool.and_eq_true, Nat.blt_eq] using h

theorem target_outside (hmem : shift ∈ lowerShifts) (hc : shift.covers c = true) :
    ∀ range ∈ reserved, shift.target c.toNat < range.1 ∨ range.2 < shift.target c.toNat := by
  intro range hrange
  exact Shift.outside_of_misses hc
    (List.all_eq_true.mp (List.all_eq_true.mp lowerShifts_miss shift hmem) range hrange)

/-- Where the table moves a letter there is a character. -/
theorem toNat_move (hmem : shift ∈ lowerShifts) (hc : shift.covers c = true) :
    (shift.move c).toNat = shift.target c.toNat := by
  have hscalar := target_outside hmem hc (0xD800, 0xDFFF) (by decide)
  have hbelow : shift.target c.toNat < 0x110000 := by
    obtain ⟨-, hlast, -⟩ := Shift.covers_iff.mp hc
    have := (target_between hmem).2
    rw [Shift.target] at this ⊢
    omega
  have hvalid : (shift.target c.toNat).isValidChar := by
    rcases hscalar with h | h
    · exact .inl h
    · exact .inr ⟨h, hbelow⟩
  change (Char.ofNat (shift.target c.toNat)).toNat = shift.target c.toNat
  rw [Char.ofNat, dif_pos hvalid]
  rfl

end Runs

/-- A character that lower-casing leaves alone wherever it stands. -/
def Settled (c : Char) : Prop :=
  c ≠ 'İ' ∧ moved? lowerShifts c = none

instance (c : Char) : Decidable (Settled c) :=
  inferInstanceAs (Decidable (_ ∧ _))

/-- A character that lower-casing may put for another one. -/
structure IsSmall (c : Char) : Prop where
  settled : Settled c
  letters : 0x60 < c.toNat
  not_blank : isBlank c = false

theorem isSmall_of_moved? {c d : Char} (h : moved? lowerShifts c = some d) : IsSmall d := by
  obtain ⟨shift, hfind, rfl⟩ := Option.map_eq_some_iff.mp h
  have hmem := List.mem_of_find?_eq_some hfind
  have hc : shift.covers c = true := by simpa using List.find?_some hfind
  have hmove := toNat_move hmem hc
  have hletters : 0x60 < (shift.move c).toNat := by
    have hfirst := (target_between hmem).1
    obtain ⟨hlow, -⟩ := Shift.covers_iff.mp hc
    rw [hmove, Shift.target] at *
    omega
  have houtside := target_outside hmem hc
  rw [← hmove] at houtside
  refine ⟨⟨?_, ?_⟩, hletters, ?_⟩
  · intro hdot
    have := houtside (0x130, 0x130) (by decide)
    rw [hdot] at this
    revert this
    decide
  · rw [moved?, Option.map_eq_none_iff, List.find?_eq_none]
    intro other hother
    rw [Bool.not_eq_true]
    exact Shift.not_covers_of_avoids (Nat.lt_trans (by decide) (target_between hmem).1) hc hmove
      (List.all_eq_true.mp (List.all_eq_true.mp lowerShifts_avoid shift hmem) other hother)
  · simp only [reserved, List.forall_mem_cons] at houtside
    simp only [isBlank, Bool.or_eq_false_iff, Bool.and_eq_false_iff, beq_eq_false_iff_ne,
      decide_eq_false_iff_not]
    omega

/-- The letters that stand for the two capitals with a rule of their own. -/
theorem isSmall_of_mem {c : Char} (h : c ∈ ['i', '\u0307', 'ς', 'σ']) : IsSmall c := by
  have hall : (['i', '\u0307', 'ς', 'σ'].all fun c => (moved? lowerShifts c).isNone &&
      c != 'İ' && Nat.blt 0x60 c.toNat && !isBlank c) = true := by
    decide +kernel
  have hc := List.all_eq_true.mp hall c h
  simp only [Bool.and_eq_true, Option.isNone_iff_eq_none, bne_iff_ne, Nat.blt_eq,
    Bool.not_eq_true'] at hc
  exact ⟨⟨hc.1.1.2, hc.1.1.1⟩, hc.1.2, hc.2⟩

theorem lowerChar_of_settled {c : Char} (h : Settled c) : lowerChar c = [c] := by
  rw [lowerChar, if_neg h.1, h.2]
  rfl

theorem not_settled_sigma : ¬Settled 'Σ' := by
  decide +kernel

theorem mem_lowerChar {c d : Char} (h : d ∈ lowerChar c) : d = c ∧ Settled c ∨ IsSmall d := by
  by_cases hdot : c = 'İ'
  · rw [lowerChar, if_pos hdot] at h
    exact .inr (isSmall_of_mem (List.mem_append_left ['ς', 'σ'] h))
  · rw [lowerChar, if_neg hdot, List.mem_singleton] at h
    cases hmoved : moved? lowerShifts c with
    | none =>
        rw [hmoved] at h
        exact .inl ⟨h, hdot, hmoved⟩
    | some small =>
        rw [hmoved] at h
        rw [h]
        exact .inr (isSmall_of_moved? hmoved)

/-- What lower-casing puts for the character `c` between `before` and `after`. -/
def lowerHere (before : List Char) (c : Char) (after : List Char) : List Char :=
  if c = 'Σ' then [if beginsCased before && !beginsCased after then 'ς' else 'σ'] else lowerChar c

theorem lowerAfter_cons (before : List Char) (c : Char) (cs : List Char) :
    lowerAfter before (c :: cs) = lowerHere before c cs ++ lowerAfter (c :: before) cs :=
  rfl

theorem mem_lowerHere {before after : List Char} {c d : Char} (h : d ∈ lowerHere before c after) :
    d = c ∧ Settled c ∨ IsSmall d := by
  rw [lowerHere] at h
  split at h
  · rw [List.mem_singleton] at h
    refine .inr (isSmall_of_mem ?_)
    rw [h]
    split <;> decide
  · exact mem_lowerChar h

theorem lowerHere_ne_nil (before : List Char) (c : Char) (after : List Char) :
    lowerHere before c after ≠ [] := by
  rw [lowerHere, lowerChar]
  split
  · exact List.cons_ne_nil _ _
  · split <;> exact List.cons_ne_nil _ _

theorem lowerAfter_eq_nil_iff {before cs : List Char} : lowerAfter before cs = [] ↔ cs = [] := by
  cases cs with
  | nil => exact iff_of_true rfl rfl
  | cons c cs =>
      rw [lowerAfter_cons, List.append_eq_nil_iff]
      exact iff_of_false (fun h => lowerHere_ne_nil _ _ _ h.1) (List.cons_ne_nil _ _)

theorem mem_lowerAfter {before cs : List Char} {d : Char} (h : d ∈ lowerAfter before cs) :
    d ∈ cs ∧ Settled d ∨ IsSmall d := by
  induction cs generalizing before with
  | nil => cases h
  | cons c cs ih =>
      rw [lowerAfter_cons, List.mem_append] at h
      rcases h with h | h
      · rcases mem_lowerHere h with ⟨rfl, hc⟩ | hsmall
        · exact .inl ⟨List.mem_cons_self, hc⟩
        · exact .inr hsmall
      · rcases ih h with ⟨hmem, hd⟩ | hsmall
        · exact .inl ⟨List.mem_cons_of_mem _ hmem, hd⟩
        · exact .inr hsmall

theorem lowerAfter_of_settled {before cs : List Char} (h : ∀ c ∈ cs, Settled c) :
    lowerAfter before cs = cs := by
  induction cs generalizing before with
  | nil => rfl
  | cons c cs ih =>
      obtain ⟨hc, hcs⟩ := List.forall_mem_cons.mp h
      have hsigma : c ≠ 'Σ' := fun heq => not_settled_sigma (heq ▸ hc)
      rw [lowerAfter_cons, lowerHere, if_neg hsigma, lowerChar_of_settled hc, ih hcs]
      rfl

theorem head?_lowerAfter {before cs : List Char} {d : Char}
    (h : (lowerAfter before cs).head? = some d) : cs.head? = some d ∨ IsSmall d := by
  cases cs with
  | nil => cases h
  | cons c cs =>
      obtain ⟨first, rest, hhere⟩ := List.exists_cons_of_ne_nil (lowerHere_ne_nil before c cs)
      rw [lowerAfter_cons, hhere, List.cons_append, List.head?_cons, Option.some_inj] at h
      have hmem : d ∈ lowerHere before c cs := by
        rw [hhere, h]
        exact List.mem_cons_self
      rcases mem_lowerHere hmem with ⟨rfl, -⟩ | hsmall
      · exact .inl rfl
      · exact .inr hsmall

theorem getLast?_lowerAfter {before cs : List Char} {d : Char}
    (h : (lowerAfter before cs).getLast? = some d) : cs.getLast? = some d ∨ IsSmall d := by
  induction cs generalizing before with
  | nil => cases h
  | cons c cs ih =>
      rw [lowerAfter_cons] at h
      cases cs with
      | nil =>
          rw [lowerAfter, List.append_nil] at h
          rcases mem_lowerHere (List.mem_of_getLast? h) with ⟨rfl, -⟩ | hsmall
          · exact .inl rfl
          · exact .inr hsmall
      | cons next cs =>
          have hne : lowerAfter (c :: before) (next :: cs) ≠ [] :=
            fun hnil => List.cons_ne_nil _ _ (lowerAfter_eq_nil_iff.mp hnil)
          rw [List.getLast?_append, Option.or_of_isSome (List.getLast?_isSome.mpr hne)] at h
          rw [List.getLast?_cons_cons]
          exact ih h

variable {cs : List Char} {d : Char}

theorem settled_of_mem_lower (h : d ∈ lower cs) : Settled d := by
  rcases mem_lowerAfter h with ⟨-, hd⟩ | hsmall
  · exact hd
  · exact hsmall.settled

theorem lower_lower (cs : List Char) : lower (lower cs) = lower cs :=
  lowerAfter_of_settled fun _ => settled_of_mem_lower

/-- Lower-casing brings in no white space and no sign: what stands before the small letters was
there before. -/
theorem mem_of_mem_lower (h : d ∈ lower cs) (hd : d.toNat ≤ 0x60) : d ∈ cs := by
  rcases mem_lowerAfter h with ⟨hmem, -⟩ | hsmall
  · exact hmem
  · exact absurd hsmall.letters (Nat.not_lt.mpr hd)

theorem head?_of_head?_lower (h : (lower cs).head? = some d) (hd : d.toNat ≤ 0x60) :
    cs.head? = some d := by
  rcases head?_lowerAfter h with hhead | hsmall
  · exact hhead
  · exact absurd hsmall.letters (Nat.not_lt.mpr hd)

theorem trim_lower (h : trim cs = cs) : trim (lower cs) = lower cs := by
  obtain ⟨hhead, hlast⟩ := trim_eq_self_iff.mp h
  refine trim_eq_self_iff.mpr ⟨fun c hc => ?_, fun c hc => ?_⟩
  · rcases head?_lowerAfter hc with hc | hsmall
    · exact hhead c hc
    · exact hsmall.not_blank
  · rcases getLast?_lowerAfter hc with hc | hsmall
    · exact hlast c hc
    · exact hsmall.not_blank

end EnvScout.Text
