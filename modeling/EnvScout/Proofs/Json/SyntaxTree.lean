import EnvScout.Json.Decode

/-!
The grammar of JSON over tokens: a tree for each value as it is written, with every member of an
object in its place, and the tokens that write it. A value of which only the form is checked is
skipped as far as its tokens go.
-/

namespace EnvScout.Json

/-- The tokens a value can begin with. -/
def Token.begins : Token → Bool
  | null | bool _ | number _ | string _ | openBrace | openBracket => true
  | closeBrace | closeBracket | colon | comma | invalid => false

/-- A value as it is written. The name of a member, like a string, has no text when its escapes
leave half of a surrogate pair. -/
inductive SyntaxTree where
  | null
  | bool (value : Bool)
  | number (literal : String)
  | string (text : Option String)
  | array (items : List SyntaxTree)
  | object (members : List (Option String × SyntaxTree))

namespace SyntaxTree

/-- A member of an object: its name and its value. -/
abbrev Member := Option String × SyntaxTree

mutual

/-- The tokens that write a value. -/
def tokens : SyntaxTree → List Token
  | null => [.null]
  | bool value => [.bool value]
  | number literal => [.number literal]
  | string text => [.string text]
  | array items => .openBracket :: itemTokens items
  | object members => .openBrace :: memberTokens members

/-- The tokens behind the opening bracket of an array. -/
def itemTokens : List SyntaxTree → List Token
  | [] => [.closeBracket]
  | item :: rest => item.tokens ++ moreItems rest

/-- The tokens behind an item of an array. -/
def moreItems : List SyntaxTree → List Token
  | [] => [.closeBracket]
  | item :: rest => .comma :: (item.tokens ++ moreItems rest)

/-- The tokens behind the opening brace of an object. -/
def memberTokens : List Member → List Token
  | [] => [.closeBrace]
  | (name, value) :: rest => .string name :: .colon :: (value.tokens ++ moreMembers rest)

/-- The tokens behind a member of an object. -/
def moreMembers : List Member → List Token
  | [] => [.closeBrace]
  | (name, value) :: rest => .comma :: .string name :: .colon :: (value.tokens ++ moreMembers rest)

end

theorem exists_tokens_eq_cons (tree : SyntaxTree) :
    ∃ first rest, tree.tokens = first :: rest ∧ first.begins = true := by
  cases tree <;> exact ⟨_, _, rfl, rfl⟩

theorem length_lt_moreItems (items : List SyntaxTree) :
    items.length < (moreItems items).length := by
  induction items with
  | nil => exact Nat.one_pos
  | cons item rest ih =>
      simp only [moreItems, List.length_cons, List.length_append]
      omega

theorem length_lt_moreMembers (members : List Member) :
    members.length < (moreMembers members).length := by
  induction members with
  | nil => exact Nat.one_pos
  | cons member rest ih =>
      obtain ⟨name, value⟩ := member
      simp only [moreMembers, List.length_cons, List.length_append]
      omega

open Decoder

theorem skip_itemOrEnd (tree : SyntaxTree) (outer : List Enclosure) (rest : List Token) :
    skip .itemOrEnd outer (tree.tokens ++ rest) = skip .value outer (tree.tokens ++ rest) := by
  obtain ⟨first, more, htokens, hbegins⟩ := tree.exists_tokens_eq_cons
  rw [htokens, List.cons_append]
  cases first <;> first | exact absurd hbegins (by decide) | simp only [skip]

mutual

/-- Skipping a value takes all its tokens and no others. -/
theorem skip_tokens : (tree : SyntaxTree) → (outer : List Enclosure) → (rest : List Token) →
    skip .value outer (tree.tokens ++ rest) = skip .after outer rest
  | null, _, _ => rfl
  | bool _, _, _ => rfl
  | number _, _, _ => rfl
  | string _, _, _ => rfl
  | array items, outer, rest => skip_itemTokens items outer rest
  | object members, outer, rest => skip_memberTokens members outer rest

theorem skip_itemTokens : (items : List SyntaxTree) → (outer : List Enclosure) →
    (rest : List Token) →
    skip .itemOrEnd (.array :: outer) (itemTokens items ++ rest) = skip .after outer rest
  | [], _, _ => rfl
  | item :: more, outer, rest => by
      rw [itemTokens, List.append_assoc, skip_itemOrEnd, skip_tokens item, skip_moreItems more]

theorem skip_moreItems : (items : List SyntaxTree) → (outer : List Enclosure) →
    (rest : List Token) →
    skip .after (.array :: outer) (moreItems items ++ rest) = skip .after outer rest
  | [], _, _ => rfl
  | item :: more, outer, rest => by
      simp only [moreItems, List.cons_append, List.append_assoc, skip]
      rw [skip_tokens item, skip_moreItems more]

theorem skip_memberTokens : (members : List Member) → (outer : List Enclosure) →
    (rest : List Token) →
    skip .keyOrEnd (.object :: outer) (memberTokens members ++ rest) = skip .after outer rest
  | [], _, _ => rfl
  | (name, value) :: more, outer, rest => by
      simp only [memberTokens, List.cons_append, List.append_assoc, skip]
      rw [skip_tokens value, skip_moreMembers more]

theorem skip_moreMembers : (members : List Member) → (outer : List Enclosure) →
    (rest : List Token) →
    skip .after (.object :: outer) (moreMembers members ++ rest) = skip .after outer rest
  | [], _, _ => rfl
  | (name, value) :: more, outer, rest => by
      simp only [moreMembers, List.cons_append, List.append_assoc, skip]
      rw [skip_tokens value, skip_moreMembers more]

end

end SyntaxTree

end EnvScout.Json
