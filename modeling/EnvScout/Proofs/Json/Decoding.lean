import EnvScout.Proofs.Json.SyntaxTree

/-!
What the decoders make of a value, told by the value and not by its tokens: a decoder that accepts a
value takes its tokens and leaves what stands behind them.
-/

namespace EnvScout.Json

open SyntaxTree

theorem toOption_eq_some_iff {ε α : Type} {x : Except ε α} {a : α} :
    x.toOption = some a ↔ x = .ok a := by
  cases x <;> simp [Except.toOption]

theorem toOption_eq_none_iff {ε α : Type} {x : Except ε α} :
    x.toOption = none ↔ ∃ e, x = .error e := by
  cases x <;> simp [Except.toOption]

/-- The text of a string. -/
def SyntaxTree.text? : SyntaxTree → Option String
  | .string text => text
  | _ => none

/-- What a value or `null` comes to. -/
def SyntaxTree.orNull? {α : Type} (value? : SyntaxTree → Option α) : SyntaxTree → Option (Option α)
  | .null => some none
  | tree => (value? tree).map some

def SyntaxTree.items? {α : Type} (value? : SyntaxTree → Option α) : SyntaxTree → Option (List α)
  | .array items => items.mapM value?
  | _ => none

theorem SyntaxTree.text?_eq_some_iff {tree : SyntaxTree} {text : String} :
    tree.text? = some text ↔ tree = .string (some text) := by
  cases tree <;> simp [text?]

theorem SyntaxTree.mapM_text?_eq_some_iff {items : List SyntaxTree} {texts : List String} :
    items.mapM text? = some texts ↔ items = texts.map fun text => .string (some text) := by
  induction items generalizing texts with
  | nil => cases texts <;> simp
  | cons item rest ih =>
      rw [List.mapM_cons]
      simp only [Option.bind_eq_bind, Option.bind_eq_some_iff, text?_eq_some_iff, ih]
      constructor
      · rintro ⟨text, rfl, texts, rfl, hpure⟩
        cases hpure
        rfl
      · intro h
        cases texts with
        | nil => cases h
        | cons text texts =>
            cases h
            exact ⟨text, rfl, texts, rfl, rfl⟩

theorem SyntaxTree.items?_text?_eq_some_iff {tree : SyntaxTree} {texts : List String} :
    tree.items? text? = some texts ↔
      tree = .array (texts.map fun text => .string (some text)) := by
  cases tree <;> simp [items?, mapM_text?_eq_some_iff]

namespace Decoder

variable {α β : Type}

/-- The decoder makes of a value what `value?` says, whatever stands behind the value. -/
def Reads (item : Decoder α) (value? : SyntaxTree → Option α) : Prop :=
  ∀ (tree : SyntaxTree) (rest : List Token),
    (item (tree.tokens ++ rest)).toOption = (value? tree).map (·, rest)

/-- What a decoder makes of a value. -/
def on (item : Decoder α) (tree : SyntaxTree) : Option α :=
  (item tree.tokens).toOption.map Prod.fst

variable {item : Decoder α} {value? : SyntaxTree → Option α}

theorem Reads.on_eq (h : Reads item value?) : item.on = value? := by
  funext tree
  have htree := h tree []
  rw [List.append_nil] at htree
  rw [on, htree, Option.map_map]
  exact Option.map_id_fun' ▸ rfl

theorem Reads.eq_ok (h : Reads item value?) {tree : SyntaxTree} {value : α}
    (hvalue : value? tree = some value) (rest : List Token) :
    item (tree.tokens ++ rest) = .ok (value, rest) :=
  toOption_eq_some_iff.mp (by rw [h, hvalue]; rfl)

theorem Reads.eq_error (h : Reads item value?) {tree : SyntaxTree} (hvalue : value? tree = none)
    (rest : List Token) : ∃ e, item (tree.tokens ++ rest) = .error e :=
  toOption_eq_none_iff.mp (by rw [h, hvalue]; rfl)

theorem reads_string : Reads string text? := by
  intro tree rest
  cases tree with
  | string text => cases text <;> rfl
  | _ => rfl

theorem reads_into (h : Reads item value?) (put : α → β) :
    Reads (into item put) fun tree => (value? tree).map put := by
  intro tree rest
  rw [into]
  cases hvalue : value? tree with
  | none =>
      obtain ⟨e, he⟩ := h.eq_error hvalue rest
      simp only [he, hvalue]
      rfl
  | some value =>
      simp only [h.eq_ok hvalue rest, hvalue]
      rfl

theorem optional_of_ne_null {tree : SyntaxTree} (hnull : tree ≠ .null) (rest : List Token) :
    optional item (tree.tokens ++ rest) = into item some (tree.tokens ++ rest) := by
  cases tree with
  | null => exact absurd rfl hnull
  | _ => simp only [tokens, List.cons_append, optional, into]

theorem reads_optional (h : Reads item value?) : Reads (optional item) (orNull? value?) := by
  intro tree rest
  by_cases hnull : tree = .null
  · rw [hnull]
    rfl
  · rw [optional_of_ne_null hnull, reads_into h some tree rest, orNull?]
    exact fun h => hnull h

section Items

theorem toOption_next (h : Reads item value?) (tree : SyntaxTree) {trees : List SyntaxTree}
    {n : Nat} {rest : List Token}
    (hmore : (items item n true (moreItems trees ++ rest)).toOption =
      (trees.mapM value?).map (·, rest)) :
    (items.next item n (tree.tokens ++ (moreItems trees ++ rest))).toOption =
      ((tree :: trees).mapM value?).map (·, rest) := by
  rw [items.next, List.mapM_cons]
  cases hvalue : value? tree with
  | none =>
      obtain ⟨e, he⟩ := h.eq_error hvalue (moreItems trees ++ rest)
      rw [he]
      rfl
  | some value =>
      rw [h.eq_ok hvalue]
      cases hvalues : trees.mapM value? with
      | none =>
          rw [hvalues] at hmore
          obtain ⟨e, he⟩ := toOption_eq_none_iff.mp hmore
          simp only [he]
          rfl
      | some values =>
          rw [hvalues] at hmore
          simp only [toOption_eq_some_iff.mp hmore]
          rfl

theorem toOption_items (h : Reads item value?) (trees : List SyntaxTree) (rest : List Token) :
    ∀ n, trees.length < n →
      (items item n true (moreItems trees ++ rest)).toOption =
        (trees.mapM value?).map (·, rest) := by
  induction trees with
  | nil =>
      intro n hn
      obtain ⟨n, rfl⟩ := Nat.exists_eq_add_one_of_ne_zero (Nat.ne_zero_of_lt hn)
      rw [List.mapM_nil, moreItems, List.singleton_append, items]
      rfl
  | cons tree trees ih =>
      intro n hn
      obtain ⟨n, rfl⟩ := Nat.exists_eq_add_one_of_ne_zero (Nat.ne_zero_of_lt hn)
      rw [← toOption_next h tree (ih n (Nat.lt_of_succ_lt_succ hn)), moreItems]
      obtain ⟨first, more, htokens, hbegins⟩ := tree.exists_tokens_eq_cons
      rw [htokens]
      simp only [List.cons_append, List.append_assoc]
      cases first <;> first | exact absurd hbegins (by decide) | simp only [items]

theorem reads_list (h : Reads item value?) : Reads (list item) (items? value?) := by
  intro tree rest
  cases tree with
  | array trees =>
      rw [tokens, List.cons_append, list, items?]
      cases trees with
      | nil =>
          rw [List.mapM_nil, itemTokens, List.singleton_append, items]
          rfl
      | cons tree trees =>
          have hlength : trees.length < (itemTokens (tree :: trees) ++ rest).length := by
            have := length_lt_moreItems trees
            simp only [itemTokens, List.length_append]
            omega
          rw [← toOption_next h tree (toOption_items h trees rest _ hlength), itemTokens]
          obtain ⟨first, more, htokens, hbegins⟩ := tree.exists_tokens_eq_cons
          rw [htokens]
          simp only [List.cons_append, List.append_assoc]
          cases first <;> first | exact absurd hbegins (by decide) | simp only [items]
  | string text => cases text <;> rfl
  | _ => rfl

end Items

/-- Reading a whole text gives what the decoder makes of the value in it. -/
theorem toOption_decode (h : Reads item value?) {text : String} {tree : SyntaxTree}
    (htext : Token.ofText text = tree.tokens) : (decode item text).toOption = value? tree := by
  rw [decode, htext, ← List.append_nil tree.tokens]
  cases hvalue : value? tree with
  | none =>
      obtain ⟨e, he⟩ := h.eq_error hvalue []
      rw [he]
      rfl
  | some value =>
      rw [h.eq_ok hvalue]
      rfl

end Decoder

end EnvScout.Json
