import EnvScout.Proofs.Text.Split
import EnvScout.Text.Utf8
import Mathlib.Data.String.Basic

/-!
Texts and the bytes kept of them. What the bytes of a text are read as is the text again. A
character of the first 128 is its own byte, and no other character has that byte among its own; so a
text and its bytes are cut at such a character into the same pieces.
-/

namespace EnvScout.Text.Utf8

section Reading

variable {b : UInt8} {bytes taken : List UInt8} {bits low high v : Nat}

theorem partsFrom_first {u : Unfinished} (h : start b = ([], some u)) :
    partsFrom none (b :: bytes) = partsFrom (some u) bytes := by
  rw [partsFrom, h]
  rfl

theorem toNat_later (v : Nat) : (UInt8.ofNat (v % 64 + 128)).toNat = v % 64 + 128 := by
  rw [UInt8.toNat_ofNat']
  omega

theorem partsFrom_next (missing : Nat) (hlow : low ≤ v % 64 + 128) (hhigh : v % 64 + 128 ≤ high) :
    partsFrom (some ⟨taken, bits, missing + 2, low, high⟩) (UInt8.ofNat (v % 64 + 128) :: bytes) =
      partsFrom (some ⟨taken ++ [UInt8.ofNat (v % 64 + 128)], bits * 64 + v % 64, missing + 1,
        0x80, 0xBF⟩) bytes := by
  simp only [partsFrom, proceed, toNat_later, hlow, hhigh, and_self, if_true]
  rw [if_neg (by omega), Nat.add_sub_cancel]
  rfl

theorem partsFrom_last (hlow : low ≤ v % 64 + 128) (hhigh : v % 64 + 128 ≤ high) :
    partsFrom (some ⟨taken, bits, 1, low, high⟩) (UInt8.ofNat (v % 64 + 128) :: bytes) =
      .char (Char.ofNat (bits * 64 + v % 64)) :: partsFrom none bytes := by
  simp only [partsFrom, proceed, toNat_later, hlow, hhigh, and_self, if_true]
  rw [if_pos le_rfl, Nat.add_sub_cancel]
  rfl

theorem start_one (h : v ≤ 0x7f) : start (UInt8.ofNat v) = ([.char (Char.ofNat v)], none) := by
  have hb : (UInt8.ofNat v).toNat = v := by
    rw [UInt8.toNat_ofNat']
    omega
  rw [start, hb]
  exact if_pos (by omega)

theorem start_two (h : 0x7f < v) (h' : v ≤ 0x7ff) :
    start (UInt8.ofNat (v / 64 % 32 + 192)) =
      ([], some ⟨[UInt8.ofNat (v / 64 % 32 + 192)], v / 64, 1, 0x80, 0xBF⟩) := by
  have hb : (UInt8.ofNat (v / 64 % 32 + 192)).toNat = v / 64 + 192 := by
    rw [UInt8.toNat_ofNat']
    omega
  rw [start, hb, if_neg (by omega), if_neg (by omega), if_pos (by omega), Nat.add_sub_cancel]

theorem start_three (h : 0x7ff < v) (h' : v ≤ 0xffff) :
    start (UInt8.ofNat (v / 4096 % 16 + 224)) =
      ([], some ⟨[UInt8.ofNat (v / 4096 % 16 + 224)], v / 4096, 2,
        if v / 4096 = 0 then 0xA0 else 0x80, if v / 4096 = 13 then 0x9F else 0xBF⟩) := by
  have hb : (UInt8.ofNat (v / 4096 % 16 + 224)).toNat = v / 4096 + 224 := by
    rw [UInt8.toNat_ofNat']
    omega
  have hfirst : (v / 4096 + 224 = 0xE0) = (v / 4096 = 0) := propext (by omega)
  have hsurrogate : (v / 4096 + 224 = 0xED) = (v / 4096 = 13) := propext (by omega)
  rw [start, hb, if_neg (by omega), if_neg (by omega), if_neg (by omega), if_pos (by omega),
    Nat.add_sub_cancel]
  simp only [hfirst, hsurrogate]

theorem start_four (h : 0xffff < v) (h' : v < 0x110000) :
    start (UInt8.ofNat (v / 262144 % 8 + 240)) =
      ([], some ⟨[UInt8.ofNat (v / 262144 % 8 + 240)], v / 262144, 3,
        if v / 262144 = 0 then 0x90 else 0x80, if v / 262144 = 4 then 0x8F else 0xBF⟩) := by
  have hb : (UInt8.ofNat (v / 262144 % 8 + 240)).toNat = v / 262144 + 240 := by
    rw [UInt8.toNat_ofNat']
    omega
  have hfirst : (v / 262144 + 240 = 0xF0) = (v / 262144 = 0) := propext (by omega)
  have hlast : (v / 262144 + 240 = 0xF4) = (v / 262144 = 4) := propext (by omega)
  rw [start, hb, if_neg (by omega), if_neg (by omega), if_neg (by omega), if_neg (by omega),
    if_pos (by omega), Nat.add_sub_cancel]
  simp only [hfirst, hlast]

/-- The bytes of a character are read as the character. -/
theorem partsFrom_utf8EncodeChar (c : Char) (bytes : List UInt8) :
    partsFrom none (String.utf8EncodeChar c ++ bytes) = .char c :: partsFrom none bytes := by
  have hvalid : c.toNat < 0xd800 ∨ 0xdfff < c.toNat ∧ c.toNat < 0x110000 := c.valid
  have hback : Char.ofNat c.toNat = c := Char.ofNat_toNat c
  unfold String.utf8EncodeChar
  rw [show c.val.toNat = c.toNat from rfl]
  generalize c.toNat = v at hvalid hback
  dsimp only
  split_ifs with h₁ h₂ h₃
  · rw [List.cons_append, List.nil_append, partsFrom, start_one h₁, hback]
    rfl
  · have hbits : v / 64 * 64 + v % 64 = v := by omega
    calc partsFrom none (UInt8.ofNat (v / 64 % 32 + 192) :: UInt8.ofNat (v % 64 + 128) :: bytes)
        = _ := partsFrom_first (start_two (by omega) h₂)
      _ = .char (Char.ofNat (v / 64 * 64 + v % 64)) :: partsFrom none bytes :=
          partsFrom_last (by omega) (by omega)
      _ = .char c :: partsFrom none bytes := by rw [hbits, hback]
  · -- The bounds on the second byte are those that overlong spellings and surrogates fall outside.
    have hlow : (if v / 4096 = 0 then 0xA0 else 0x80) ≤ v / 64 % 64 + 128 := by
      split_ifs <;> omega
    have hhigh : v / 64 % 64 + 128 ≤ if v / 4096 = 13 then 0x9F else 0xBF := by
      split_ifs <;> omega
    have hbits : (v / 4096 * 64 + v / 64 % 64) * 64 + v % 64 = v := by omega
    calc partsFrom none (UInt8.ofNat (v / 4096 % 16 + 224) :: UInt8.ofNat (v / 64 % 64 + 128) ::
          UInt8.ofNat (v % 64 + 128) :: bytes)
        = _ := partsFrom_first (start_three (by omega) h₃)
      _ = _ := partsFrom_next 0 hlow hhigh
      _ = .char (Char.ofNat ((v / 4096 * 64 + v / 64 % 64) * 64 + v % 64)) ::
            partsFrom none bytes := partsFrom_last (by omega) (by omega)
      _ = .char c :: partsFrom none bytes := by rw [hbits, hback]
  · have hlow : (if v / 262144 = 0 then 0x90 else 0x80) ≤ v / 4096 % 64 + 128 := by
      split_ifs <;> omega
    have hhigh : v / 4096 % 64 + 128 ≤ if v / 262144 = 4 then 0x8F else 0xBF := by
      split_ifs <;> omega
    have hbits : ((v / 262144 * 64 + v / 4096 % 64) * 64 + v / 64 % 64) * 64 + v % 64 = v := by
      omega
    calc partsFrom none (UInt8.ofNat (v / 262144 % 8 + 240) :: UInt8.ofNat (v / 4096 % 64 + 128) ::
          UInt8.ofNat (v / 64 % 64 + 128) :: UInt8.ofNat (v % 64 + 128) :: bytes)
        = _ := partsFrom_first (start_four (by omega) (by omega))
      _ = _ := partsFrom_next 1 hlow hhigh
      _ = _ := partsFrom_next 0 (by omega) (by omega)
      _ = .char (Char.ofNat (((v / 262144 * 64 + v / 4096 % 64) * 64 + v / 64 % 64) * 64 +
            v % 64)) :: partsFrom none bytes := partsFrom_last (by omega) (by omega)
      _ = .char c :: partsFrom none bytes := by rw [hbits, hback]

end Reading

section Keeping

theorem toNat_keep (b : UInt8) : (keep b).toNat = b.toNat := by
  have hvalid : b.toNat.isValidChar := Or.inl (by have := b.toNat_lt; omega)
  rw [keep, Char.ofNat, dif_pos hvalid]
  rfl

theorem kept_keepAll (bytes : List UInt8) : kept (keepAll bytes) = bytes := by
  rw [kept, keepAll, String.toList_ofList, List.map_map]
  refine List.map_id'' (fun b => ?_) bytes
  rw [Function.comp_apply, toNat_keep, UInt8.ofNat_toNat]

theorem encoded_eq (s : String) :
    encoded s = keepAll (s.toList.flatMap String.utf8EncodeChar) := by
  rw [encoded, keepAll, List.map_flatMap]
  rfl

theorem partsFrom_flatMap (cs : List Char) :
    partsFrom none (cs.flatMap String.utf8EncodeChar) = cs.map .char := by
  induction cs with
  | nil => rfl
  | cons c cs ih => rw [List.flatMap_cons, partsFrom_utf8EncodeChar, ih, List.map_cons]

/-- The bytes of a text are read as the text. -/
@[simp]
theorem decoded_encoded (s : String) : decoded (encoded s) = s := by
  rw [decoded, encoded_eq, kept_keepAll, partsFrom_flatMap, List.map_map]
  exact (congrArg String.ofList (List.map_id _)).trans String.ofList_toList

@[simp]
theorem toList_encoded (s : String) : (encoded s).toList = s.toList.flatMap encodedChar :=
  String.toList_ofList

theorem partsFrom_some_ne_nil (u : Unfinished) (bytes : List UInt8) :
    partsFrom (some u) bytes ≠ [] := by
  induction bytes generalizing u with
  | nil => exact List.cons_ne_nil _ _
  | cons b bytes ih =>
      rw [partsFrom, proceed]
      split_ifs
      · exact List.cons_ne_nil _ _
      · exact ih _
      · exact List.cons_ne_nil _ _

theorem start_cases (b : UInt8) :
    (∃ part, start b = ([part], none)) ∨ ∃ u, start b = ([], some u) := by
  rw [start]
  split_ifs <;> simp

theorem partsFrom_cons_ne_nil (b : UInt8) (bytes : List UInt8) :
    partsFrom none (b :: bytes) ≠ [] := by
  rcases start_cases b with ⟨part, hb⟩ | ⟨u, hb⟩
  · rw [partsFrom, hb]
    exact List.cons_ne_nil _ _
  · rw [partsFrom_first hb]
    exact partsFrom_some_ne_nil _ _

/-- Something is shown of whatever is there. -/
theorem decoded_eq_empty_iff {s : String} : decoded s = "" ↔ s = "" := by
  refine ⟨fun h => ?_, fun h => by rw [h]; rfl⟩
  rw [decoded, ← String.toList_eq_nil_iff, String.toList_ofList, List.map_eq_nil_iff, kept] at h
  cases hs : s.toList with
  | nil => exact String.toList_eq_nil_iff.mp hs
  | cons c cs =>
      rw [hs, List.map_cons] at h
      exact absurd h (partsFrom_cons_ne_nil _ _)

end Keeping

section Ascii

variable {c sep : Char}

theorem encodedChar_of_lt (h : c.toNat < 128) : encodedChar c = [c] := by
  have hbyte : String.utf8EncodeChar c = [UInt8.ofNat c.toNat] :=
    if_pos (show c.val.toNat ≤ 0x7f from Nat.le_of_lt_succ h)
  have hnumber : (UInt8.ofNat c.toNat).toNat = c.toNat := by
    rw [UInt8.toNat_ofNat']
    omega
  rw [encodedChar, hbyte, List.map_singleton, keep, hnumber, Char.ofNat_toNat]

theorem le_of_mem_encodedChar (hc : 128 ≤ c.toNat) {b : Char} (h : b ∈ encodedChar c) :
    128 ≤ b.toNat := by
  have hvalid : c.toNat < 0xd800 ∨ 0xdfff < c.toNat ∧ c.toNat < 0x110000 := c.valid
  obtain ⟨byte, hbyte, rfl⟩ := List.mem_map.mp h
  rw [toNat_keep]
  unfold String.utf8EncodeChar at hbyte
  rw [show c.val.toNat = c.toNat from rfl] at hbyte
  generalize c.toNat = v at hc hvalid hbyte
  dsimp only at hbyte
  split_ifs at hbyte <;> simp only [List.mem_cons, List.not_mem_nil, or_false] at hbyte
  · omega
  · rcases hbyte with rfl | rfl <;> rw [UInt8.toNat_ofNat'] <;> omega
  · rcases hbyte with rfl | rfl | rfl <;> rw [UInt8.toNat_ofNat'] <;> omega
  · rcases hbyte with rfl | rfl | rfl | rfl <;> rw [UInt8.toNat_ofNat'] <;> omega

theorem mem_encodedChar_iff (hsep : sep.toNat < 128) : sep ∈ encodedChar c ↔ c = sep := by
  by_cases hc : c.toNat < 128
  · rw [encodedChar_of_lt hc, List.mem_singleton, eq_comm]
  · refine iff_of_false (fun h => ?_) (fun h => hc (h ▸ hsep))
    exact absurd (le_of_mem_encodedChar (Nat.not_lt.mp hc) h) (Nat.not_le.mpr hsep)

/-- A text and its bytes are cut at a character of the first 128 into the same pieces. -/
theorem splitOn_flatMap (hsep : sep.toNat < 128) (cs : List Char) :
    splitOn sep (cs.flatMap encodedChar) = (splitOn sep cs).map (·.flatMap encodedChar) := by
  induction cs with
  | nil => rfl
  | cons c cs ih =>
      rw [List.flatMap_cons]
      by_cases hc : c = sep
      · rw [hc, encodedChar_of_lt hsep, List.singleton_append, splitOn_cons_self, ih,
          splitOn_cons_self, List.map_cons]
        rfl
      · have hnot : sep ∉ encodedChar c := fun h => hc ((mem_encodedChar_iff hsep).mp h)
        cases hs : splitOn sep cs with
        | nil => exact absurd hs (splitOn_ne_nil sep cs)
        | cons piece rest =>
            rw [hs] at ih
            rw [splitOn_append_of_not_mem hnot ih, splitOn_cons_of_ne hc hs]
            rfl

/-- The first byte of a character is told from the first 128 as the character is. -/
theorem exists_encodedChar_eq (c : Char) :
    ∃ b more, encodedChar c = b :: more ∧
      ∀ p : Char → Bool, (∀ d, p d = true → d.toNat < 128) → p b = p c := by
  have hne : encodedChar c ≠ [] := by
    rw [encodedChar, Ne, List.map_eq_nil_iff]
    exact String.utf8EncodeChar_ne_nil
  obtain ⟨b, more, hb⟩ := List.exists_cons_of_ne_nil hne
  refine ⟨b, more, hb, fun p hp => Bool.eq_iff_iff.mpr ⟨fun h => ?_, fun h => ?_⟩⟩
  · have hmem : b ∈ encodedChar c := hb ▸ List.mem_cons_self
    rwa [(mem_encodedChar_iff (hp b h)).mp hmem]
  · rw [encodedChar_of_lt (hp c h)] at hb
    rwa [← (List.cons.inj hb).1]

theorem exists_cons_of_flatMap (hc : c.toNat < 128) {cs rest : List Char}
    (h : cs.flatMap encodedChar = c :: rest) : ∃ more, cs = c :: more := by
  cases cs with
  | nil => cases h
  | cons first cs =>
      obtain ⟨b, more, hb, -⟩ := exists_encodedChar_eq first
      rw [List.flatMap_cons, hb] at h
      obtain rfl : b = c := (List.cons.inj h).1
      obtain rfl : first = b := (mem_encodedChar_iff hc).mp (hb ▸ List.mem_cons_self)
      exact ⟨cs, rfl⟩

theorem exists_concat_of_flatMap (hc : c.toNat < 128) {cs front : List Char}
    (h : cs.flatMap encodedChar = front ++ [c]) : ∃ before, cs = before ++ [c] := by
  rcases List.eq_nil_or_concat' cs with rfl | ⟨before, last, rfl⟩
  · simp at h
  · obtain ⟨b, more, hb, -⟩ := exists_encodedChar_eq last
    have hmem : c ∈ encodedChar last := by
      rw [List.flatMap_append, List.flatMap_singleton, hb] at h
      have hlast := congrArg List.getLast? h
      rw [List.getLast?_append_of_ne_nil _ (List.cons_ne_nil _ _), List.getLast?_concat] at hlast
      rw [hb]
      exact List.mem_of_getLast? hlast
    obtain rfl : last = c := (mem_encodedChar_iff hc).mp hmem
    exact ⟨before, rfl⟩

/-- Characters of the first 128 are dropped from the front of a text as from the front of its
bytes. -/
theorem dropWhile_flatMap {p : Char → Bool} (hp : ∀ c, p c = true → c.toNat < 128)
    (cs : List Char) :
    (cs.flatMap encodedChar).dropWhile p = (cs.dropWhile p).flatMap encodedChar := by
  induction cs with
  | nil => rfl
  | cons c cs ih =>
      rw [List.flatMap_cons]
      cases hc : p c with
      | true =>
          rw [encodedChar_of_lt (hp c hc), List.singleton_append, List.dropWhile_cons_of_pos hc, ih,
            List.dropWhile_cons_of_pos hc]
      | false =>
          obtain ⟨b, more, hb, hsame⟩ := exists_encodedChar_eq c
          rw [List.dropWhile_cons_of_neg (by rw [hc]; exact Bool.false_ne_true), List.flatMap_cons,
            hb, List.cons_append,
            List.dropWhile_cons_of_neg (by rw [hsame p hp, hc]; exact Bool.false_ne_true)]

theorem any_head?_flatMap {p : Char → Bool} (hp : ∀ c, p c = true → c.toNat < 128)
    (cs : List Char) : (cs.flatMap encodedChar).head?.any p = cs.head?.any p := by
  cases cs with
  | nil => rfl
  | cons c cs =>
      obtain ⟨b, more, hb, hsame⟩ := exists_encodedChar_eq c
      rw [List.flatMap_cons, hb]
      exact hsame p hp

theorem isEmpty_flatMap (cs : List Char) : (cs.flatMap encodedChar).isEmpty = cs.isEmpty := by
  cases cs with
  | nil => rfl
  | cons c cs =>
      obtain ⟨b, more, hb, -⟩ := exists_encodedChar_eq c
      rw [List.flatMap_cons, hb]
      rfl

end Ascii

end EnvScout.Text.Utf8
