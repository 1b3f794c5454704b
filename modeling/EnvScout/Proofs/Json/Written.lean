import EnvScout.Json.Value
import EnvScout.Proofs.Json.SyntaxTree

/-!
The text of a value, read back into tokens. A piece of text stands for some tokens if they are read
off its front whatever comes behind it, and pieces that stand one after the other stand for the
tokens of both. Of either form of the text of a value, the tokens are those of the value; numbers
are left out, since one of them has to know where it ends.
-/

namespace EnvScout.Json

namespace Token

/-- Reading a text that begins with this piece gives these tokens and goes on behind it, with
enough tokens left for all that comes. -/
def Spells (piece : List Char) (tokens : List Token) : Prop :=
  ∀ (rest : List Char) (n : Nat), (piece ++ rest).length < n →
    ∃ m, rest.length < m ∧ readSome n (piece ++ rest) = tokens ++ readSome m rest

variable {piece more : List Char} {tokens others : List Token}

theorem spells_nil : Spells [] [] :=
  fun _ n hn => ⟨n, hn, rfl⟩

theorem Spells.append (h : Spells piece tokens) (hmore : Spells more others) :
    Spells (piece ++ more) (tokens ++ others) := by
  intro rest n hn
  rw [List.append_assoc] at hn ⊢
  obtain ⟨m, hm, hpiece⟩ := h (more ++ rest) n hn
  obtain ⟨k, hk, hothers⟩ := hmore rest m hm
  exact ⟨k, hk, by rw [hpiece, hothers, List.append_assoc]⟩

/-- White space stands for no token. -/
theorem spells_white (h : ∀ c ∈ piece, isWhite c = true) : Spells piece [] := by
  intro rest n hn
  rw [List.length_append] at hn
  refine ⟨n, by omega, ?_⟩
  cases n with
  | zero => omega
  | succ n => rw [readSome, readSome, List.dropWhile_append_of_pos h, List.nil_append]

theorem spells_one {first : Char} {token : Token} (hwhite : isWhite first = false)
    (hone : ∀ rest, readOne (first :: (piece ++ rest)) = some (token, rest)) :
    Spells (first :: piece) [token] := by
  intro rest n hn
  rw [List.cons_append, List.length_cons, List.length_append] at hn
  cases n with
  | zero => omega
  | succ n =>
      refine ⟨n, by omega, ?_⟩
      rw [List.cons_append, readSome, List.dropWhile_cons_of_neg (by simp [hwhite])]
      simp only [hone, List.singleton_append]

/-- A text that stands for some tokens as a piece is read as them when nothing comes behind it. -/
theorem Spells.ofText_eq (h : Spells piece tokens) : ofText (String.ofList piece) = tokens := by
  obtain ⟨m, hm, hread⟩ := h [] (piece.length + 1) (by simp)
  rw [ofText, String.toList_ofList]
  rw [List.append_nil] at hread
  cases m with
  | zero => cases hm
  | succ m => rw [hread, readSome, List.dropWhile_nil, List.append_nil]

end Token

open Token

section Strings

theorem hexEscape_eq : ∀ n < 0x20,
    hexEscape n = ['\\', 'u', '0', '0', Nat.digitChar (n / 16), Nat.digitChar (n % 16)] ∧
      hexUnit? '0' '0' (Nat.digitChar (n / 16)) (Nat.digitChar (n % 16)) = some n := by
  decide

theorem assemble_unit {n : Nat} (h : n < 0xD800) (units : List Unit16) :
    assemble (.unit n :: units) = (assemble units).map (Char.ofNat n :: ·) := by
  rcases units with _ | ⟨_ | _, units⟩ <;> exact if_pos (.inl h)

/-- What is written for a character is read as one unit, which stands for that character. -/
theorem exists_readString_escapeChar (c : Char) :
    ∃ unit : Unit16,
      (∀ more : List Char, readString (escapeChar c ++ more) =
        (readString more).map fun (units, rest) => (unit :: units, rest)) ∧
      ∀ units, assemble (unit :: units) = (assemble units).map (c :: ·) := by
  have hsimple : ∀ e, e ≠ 'u' → simpleEscape? e = some c → ∀ more : List Char,
      readString ('\\' :: e :: more) =
        (readString more).map fun (units, rest) => (.char c :: units, rest) := by
    intro e hu he more
    rw [readString]
    · rw [he]
      cases readString more <;> rfl
    · intro _ _ _ _ _ h _
      exact hu h
  unfold escapeChar
  split
  · exact ⟨.char _, hsimple _ (by decide) rfl, fun _ => rfl⟩
  · exact ⟨.char _, hsimple _ (by decide) rfl, fun _ => rfl⟩
  · exact ⟨.char _, hsimple _ (by decide) rfl, fun _ => rfl⟩
  · exact ⟨.char _, hsimple _ (by decide) rfl, fun _ => rfl⟩
  · exact ⟨.char _, hsimple _ (by decide) rfl, fun _ => rfl⟩
  · exact ⟨.char _, hsimple _ (by decide) rfl, fun _ => rfl⟩
  · exact ⟨.char _, hsimple _ (by decide) rfl, fun _ => rfl⟩
  · next hquote hslash _ _ _ _ _ =>
    by_cases hcontrol : c.toNat < 0x20
    · rw [if_pos hcontrol]
      obtain ⟨hdigits, hunit⟩ := hexEscape_eq c.toNat hcontrol
      refine ⟨.unit c.toNat, fun more => ?_, fun units => ?_⟩
      · rw [hdigits]
        simp only [List.cons_append, List.nil_append, readString, hunit]
        cases readString more <;> rfl
      · rw [assemble_unit (by omega), Char.ofNat_toNat]
    · rw [if_neg hcontrol]
      refine ⟨.char c, fun more => ?_, fun _ => rfl⟩
      rw [List.singleton_append, readString]
      · rw [if_neg (not_or.mpr ⟨hslash, hcontrol⟩)]
        cases readString more <;> rfl
      · exact hquote
      · intro _ _ _ _ _ h _
        exact hslash h
      · intro _ _ h _
        exact hslash h

theorem exists_readString_flatMap (cs rest : List Char) :
    ∃ units, readString (cs.flatMap escapeChar ++ '"' :: rest) = some (units, rest) ∧
      assemble units = some cs := by
  induction cs with
  | nil => exact ⟨[], by rw [List.flatMap_nil, List.nil_append, readString], rfl⟩
  | cons c cs ih =>
      obtain ⟨units, hread, htext⟩ := ih
      obtain ⟨unit, hunit, hassemble⟩ := exists_readString_escapeChar c
      refine ⟨unit :: units, ?_, by rw [hassemble, htext, Option.map_some]⟩
      rw [List.flatMap_cons, List.append_assoc, hunit, hread, Option.map_some]

/-- A string is read as it was, whatever characters are in it. -/
theorem spells_writeString (s : String) : Spells (writeString s) [.string (some s)] := by
  rw [writeString, List.append_assoc, List.singleton_append]
  refine spells_one (by decide) fun rest => ?_
  obtain ⟨units, hread, htext⟩ := exists_readString_flatMap s.toList rest
  rw [List.append_assoc, List.singleton_append, readOne, hread, Option.map_some]
  simp only [htext, Option.map_some, String.ofList_toList]

end Strings

mutual

/-- A value as it is written. -/
def tree : Json → SyntaxTree
  | .null => .null
  | .bool value => .bool value
  | .number literal => .number literal
  | .string value => .string (some value)
  | .array items => .array (itemTrees items)
  | .object members => .object (memberTrees members)

def itemTrees : List Json → List SyntaxTree
  | [] => []
  | item :: rest => item.tree :: itemTrees rest

def memberTrees : List (String × Json) → List SyntaxTree.Member
  | [] => []
  | (key, value) :: rest => (some key, value.tree) :: memberTrees rest

end

/-- There is no number in a value. -/
inductive Numberless : Json → Prop
  | null : Numberless .null
  | bool (value : Bool) : Numberless (.bool value)
  | string (value : String) : Numberless (.string value)
  | array {items : List Json} (h : ∀ item ∈ items, Numberless item) : Numberless (.array items)
  | object {members : List (String × Json)} (h : ∀ member ∈ members, Numberless member.2) :
      Numberless (.object members)

section Joined

/-- The tokens of a member of an object. -/
def memberTokens (member : String × Json) : List Token :=
  [.string (some member.1)] ++ [.colon] ++ member.2.tree.tokens

theorem itemTokens_itemTrees (items : List Json) :
    SyntaxTree.itemTokens (itemTrees items) =
      [.comma].intercalate (items.map fun item => item.tree.tokens) ++ [.closeBracket] := by
  have hmore : ∀ (item : Json) (rest : List Json),
      item.tree.tokens ++ SyntaxTree.moreItems (itemTrees rest) =
        [.comma].intercalate ((item :: rest).map fun item => item.tree.tokens) ++
          [.closeBracket] := by
    intro item rest
    induction rest generalizing item with
    | nil => rw [itemTrees, SyntaxTree.moreItems, List.map_singleton, List.intercalate_singleton]
    | cons next rest ih =>
        rw [itemTrees, SyntaxTree.moreItems, ih]
        simp only [List.map_cons, List.intercalate_cons_cons, List.append_assoc,
          List.cons_append, List.nil_append]
  cases items with
  | nil => rfl
  | cons item rest => rw [itemTrees, SyntaxTree.itemTokens, hmore]

theorem memberTokens_memberTrees (members : List (String × Json)) :
    SyntaxTree.memberTokens (memberTrees members) =
      [.comma].intercalate (members.map memberTokens) ++ [.closeBrace] := by
  have hmore : ∀ (member : String × Json) (rest : List (String × Json)),
      memberTokens member ++ SyntaxTree.moreMembers (memberTrees rest) =
        [.comma].intercalate ((member :: rest).map memberTokens) ++ [.closeBrace] := by
    intro member rest
    induction rest generalizing member with
    | nil =>
        rw [memberTrees, SyntaxTree.moreMembers, List.map_singleton, List.intercalate_singleton]
    | cons next rest ih =>
        rw [List.map_cons, List.map_cons, List.intercalate_cons_cons, ← List.map_cons,
          List.append_assoc, ← ih next]
        simp [memberTrees, SyntaxTree.moreMembers, memberTokens]
  cases members with
  | nil => rfl
  | cons member rest =>
      rw [← hmore]
      simp [memberTrees, SyntaxTree.memberTokens, memberTokens]

/-- A writer that puts a separator behind every item but the last. -/
theorem eq_intercalate {α : Type} {separator : List Char} {write : α → List Char}
    {writeAll : List α → List Char} (hnil : writeAll [] = [])
    (hone : ∀ item, writeAll [item] = write item)
    (hmore : ∀ item next rest,
      writeAll (item :: next :: rest) = write item ++ separator ++ writeAll (next :: rest))
    (items : List α) : writeAll items = separator.intercalate (items.map write) := by
  induction items with
  | nil => exact hnil
  | cons item rest ih =>
      cases rest with
      | nil => rw [hone, List.map_singleton, List.intercalate_singleton]
      | cons next rest =>
          rw [hmore, ih]
          simp only [List.map_cons, List.intercalate_cons_cons]

theorem writeItems_eq (items : List Json) :
    writeItems items = [','].intercalate (items.map write) :=
  eq_intercalate (by rw [writeItems]) (fun _ => by rw [writeItems])
    (fun _ _ _ => by rw [writeItems]; exact List.cons_ne_nil _ _) items

theorem writeMembers_eq (members : List (String × Json)) :
    writeMembers members = [','].intercalate
      (members.map fun member => writeString member.1 ++ [':'] ++ write member.2) :=
  eq_intercalate (by rw [writeMembers]) (fun _ => by rw [writeMembers])
    (fun _ _ _ => by rw [writeMembers]; exact List.cons_ne_nil _ _) members

theorem layOutItems_eq (depth : Nat) (items : List Json) :
    layOutItems depth items = ([','] ++ newline depth).intercalate (items.map (layOut depth)) :=
  eq_intercalate (by rw [layOutItems]) (fun _ => by rw [layOutItems])
    (fun _ _ _ => by
      rw [layOutItems, List.append_assoc (layOut _ _)]
      exact List.cons_ne_nil _ _) items

theorem layOutMembers_eq (depth : Nat) (members : List (String × Json)) :
    layOutMembers depth members = ([','] ++ newline depth).intercalate
      (members.map fun member => writeString member.1 ++ [':', ' '] ++ layOut depth member.2) :=
  eq_intercalate (by rw [layOutMembers]) (fun _ => by rw [layOutMembers])
    (fun _ _ _ => by
      rw [layOutMembers, List.append_assoc _ [','] (newline depth)]
      exact List.cons_ne_nil _ _) members

/-- Pieces with separators between them stand for their tokens with separators between them. -/
theorem spells_intercalate {α : Type} {separator : List Char} {items : List α}
    {write : α → List Char} {tokens : α → List Token} (hseparator : Spells separator [.comma])
    (h : ∀ item ∈ items, Spells (write item) (tokens item)) :
    Spells (separator.intercalate (items.map write)) ([.comma].intercalate (items.map tokens)) := by
  induction items with
  | nil => exact spells_nil
  | cons item rest ih =>
      obtain ⟨hitem, hrest⟩ := List.forall_mem_cons.mp h
      cases rest with
      | nil =>
          simp only [List.map_singleton, List.intercalate_singleton]
          exact hitem
      | cons next rest =>
          simp only [List.map_cons, List.intercalate_cons_cons] at ih ⊢
          exact (hitem.append hseparator).append (ih hrest)

end Joined

section Text

variable {write : Json → List Char} {separator colon before behind : List Char}

/-- Each form of the text of an array, given what stands between the items and around them. -/
theorem spells_array (hseparator : Spells separator [.comma]) (hbefore : Spells before [])
    (hbehind : Spells behind []) {items : List Json}
    (h : ∀ item ∈ items, Spells (write item) item.tree.tokens) :
    Spells (['['] ++ before ++ separator.intercalate (items.map write) ++ behind ++ [']'])
      (Json.array items).tree.tokens := by
  have hopen : Spells ['['] [.openBracket] := spells_one (by decide) fun _ => rfl
  have hclose : Spells [']'] [.closeBracket] := spells_one (by decide) fun _ => rfl
  have hall := (((hopen.append hbefore).append (spells_intercalate hseparator h)).append
    hbehind).append hclose
  rw [tree, SyntaxTree.tokens, itemTokens_itemTrees]
  simpa only [List.append_nil, List.append_assoc, List.cons_append, List.nil_append]
    using hall

theorem spells_object (hseparator : Spells separator [.comma]) (hcolon : Spells colon [.colon])
    (hbefore : Spells before []) (hbehind : Spells behind []) {members : List (String × Json)}
    (h : ∀ member ∈ members, Spells (write member.2) member.2.tree.tokens) :
    Spells (['\x7b'] ++ before ++ separator.intercalate
        (members.map fun member => writeString member.1 ++ colon ++ write member.2) ++
        behind ++ ['\x7d'])
      (Json.object members).tree.tokens := by
  have hopen : Spells ['\x7b'] [.openBrace] := spells_one (by decide) fun _ => rfl
  have hclose : Spells ['\x7d'] [.closeBrace] := spells_one (by decide) fun _ => rfl
  have hmember : ∀ member ∈ members,
      Spells (writeString member.1 ++ colon ++ write member.2) (memberTokens member) :=
    fun member hmem => ((spells_writeString member.1).append hcolon).append (h member hmem)
  have hall := (((hopen.append hbefore).append (spells_intercalate hseparator hmember)).append
    hbehind).append hclose
  rw [tree, SyntaxTree.tokens, memberTokens_memberTrees]
  simpa only [List.append_nil, List.append_assoc, List.cons_append, List.nil_append]
    using hall

theorem spells_comma : Spells [','] [.comma] :=
  spells_one (by decide) fun _ => rfl

theorem spells_colon : Spells [':'] [.colon] :=
  spells_one (by decide) fun _ => rfl

theorem spells_newline (depth : Nat) : Spells (newline depth) [] := by
  refine spells_white (List.forall_mem_cons.mpr ⟨by decide, fun c hc => ?_⟩)
  rw [List.eq_of_mem_replicate hc]
  decide

/-- The compact text of a value is read as the value. -/
theorem Numberless.spells_write {value : Json} (h : Numberless value) :
    Spells value.write value.tree.tokens := by
  induction h with
  | null => exact spells_one (by decide) fun _ => rfl
  | bool value => cases value <;> exact spells_one (by decide) fun _ => rfl
  | string value => exact spells_writeString value
  | array _ ih =>
      have hall := spells_array spells_comma spells_nil spells_nil ih
      rw [write, writeItems_eq]
      simpa only [List.append_nil] using hall
  | object _ ih =>
      have hall := spells_object spells_comma spells_colon spells_nil spells_nil ih
      rw [write, writeMembers_eq]
      simpa only [List.append_nil] using hall

/-- The text of a value with each item on a line of its own is read as the value, however deep the
value stands. -/
theorem Numberless.spells_layOut {value : Json} (h : Numberless value) (depth : Nat) :
    Spells (layOut depth value) value.tree.tokens := by
  have hseparator : ∀ depth, Spells ([','] ++ newline depth) [.comma] := fun depth =>
    spells_comma.append (spells_newline depth)
  induction h generalizing depth with
  | null => exact spells_one (by decide) fun _ => rfl
  | bool value => cases value <;> exact spells_one (by decide) fun _ => rfl
  | string value => exact spells_writeString value
  | @array items _ ih =>
      replace ih := fun item hmem => ih item hmem (depth + 1)
      cases items with
      | nil => exact spells_array spells_comma spells_nil spells_nil ih
      | cons item rest =>
          rw [layOut, layOutItems_eq]
          exact spells_array (hseparator _) (spells_newline _) (spells_newline _) ih
  | @object members _ ih =>
      replace ih := fun member hmem => ih member hmem (depth + 1)
      cases members with
      | nil => exact spells_object spells_comma spells_colon spells_nil spells_nil ih
      | cons member rest =>
          have hcolon : Spells [':', ' '] [.colon] :=
            spells_colon.append (spells_white (List.forall_mem_singleton.mpr (by decide)))
          rw [layOut, layOutMembers_eq]
          exact spells_object (hseparator _) hcolon (spells_newline _) (spells_newline _) ih

theorem Numberless.ofText_text {value : Json} (h : Numberless value) :
    Token.ofText value.text = value.tree.tokens :=
  h.spells_write.ofText_eq

theorem Numberless.ofText_prettyText {value : Json} (h : Numberless value) :
    Token.ofText value.prettyText = value.tree.tokens :=
  (h.spells_layOut 0).ofText_eq

end Text

end EnvScout.Json
