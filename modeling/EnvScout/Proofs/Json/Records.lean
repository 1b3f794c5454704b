import EnvScout.Proofs.Json.Decoding

/-!
Records, told by the value that is read. One written as an object is put together member by member,
one written as an array field by field; a field that has been filled takes no second value, and
members with the names of no field are passed over.
-/

namespace EnvScout.Json

open SyntaxTree

namespace Decoder

variable {σ : Type}

/-- Each field makes something of a value on its own, whatever stands behind the value. -/
def ReadAlone (fields : List (Field σ)) : Prop :=
  ∀ field ∈ fields, ∀ state, Reads (field.read state) (field.read state).on

/-- The state with a member put in: a field takes its first value, a name of no field is passed
over. -/
def put (fields : List (Field σ)) (state : σ) (member : Member) : Option σ :=
  match member.1 with
  | none => none
  | some key =>
    match fields.find? fun field => field.answersTo key with
    | some field => if field.isSet state then none else (field.read state).on member.2
    | none => some state

def gather (fields : List (Field σ)) (state : σ) : List Member → Option σ
  | [] => some state
  | member :: rest => (put fields state member).bind fun state => gather fields state rest

/-- The state with items put into the fields in their order. -/
def place : List (Field σ) → σ → List SyntaxTree → Option σ
  | [], state, [] => some state
  | [], _, _ :: _ => none
  | field :: fields, state, [] => if field.isOptional then place fields state [] else none
  | field :: fields, state, item :: rest =>
    ((field.read state).on item).bind fun state => place fields state rest

/-- What a record comes to. -/
def recordOf? (fields : List (Field σ)) (start : σ) : SyntaxTree → Option σ
  | .object members => (gather fields start members).filter fun state =>
    (missing? fields state).isNone
  | .array items => place fields start items
  | _ => none

theorem Field.answersTo_iff {field : Field σ} {key : String} :
    field.answersTo key = true ↔ key ∈ field.name :: field.aliases := by
  simp [answersTo]

theorem put_nil (state : σ) (key : String) (tree : SyntaxTree) :
    put [] state (some key, tree) = some state :=
  rfl

theorem put_cons (field : Field σ) (fields : List (Field σ)) (state : σ) (key : String)
    (tree : SyntaxTree) :
    put (field :: fields) state (some key, tree) =
      if key ∈ field.name :: field.aliases then
        if field.isSet state then none else (field.read state).on tree
      else put fields state (some key, tree) := by
  by_cases h : key ∈ field.name :: field.aliases
  · have hanswers : field.answersTo key = true := Field.answersTo_iff.mpr h
    simp only [put, List.find?_cons, hanswers, if_pos h]
  · have hanswers : field.answersTo key = false :=
      Bool.eq_false_iff.mpr fun hanswers => h (Field.answersTo_iff.mp hanswers)
    simp only [put, List.find?_cons, hanswers, if_neg h]

variable {fields : List (Field σ)}

theorem toOption_member (hfields : ReadAlone fields) (n : Nat) (state : σ) (key : String)
    (tree : SyntaxTree) (rest : List Token) :
    (members.member fields n state key (.colon :: (tree.tokens ++ rest))).toOption =
      (put fields state (some key, tree)).bind fun state =>
        (members fields n true state rest).toOption := by
  rw [members.member, put]
  cases hfind : fields.find? fun field => field.answersTo key with
  | none =>
      simp only [hfind, skip_tokens, skip]
      rfl
  | some field =>
      have hread := hfields field (List.mem_of_find?_eq_some hfind) state
      cases hset : field.isSet state with
      | true =>
          simp only [hfind, hset]
          rfl
      | false =>
          cases hvalue : (field.read state).on tree with
          | none =>
              obtain ⟨e, he⟩ := hread.eq_error hvalue rest
              simp only [hfind, hset, he, hvalue]
              rfl
          | some next =>
              simp only [hfind, hset, hread.eq_ok hvalue rest, hvalue]
              rfl

/-- The members behind a first one are put in, if it could be. -/
theorem toOption_member_gather (hfields : ReadAlone fields) {more : List Member} {n : Nat}
    {rest : List Token}
    (hmore : ∀ state, (members fields n true state (moreMembers more ++ rest)).toOption =
      (gather fields state more).map (·, .closeBrace :: rest)) (state : σ) (key : String)
    (tree : SyntaxTree) :
    (members.member fields n state key
      (.colon :: (tree.tokens ++ (moreMembers more ++ rest)))).toOption =
      (gather fields state ((some key, tree) :: more)).map (·, .closeBrace :: rest) := by
  rw [toOption_member hfields, gather]
  cases put fields state (some key, tree) with
  | none => rfl
  | some next => exact hmore next

theorem toOption_members (hfields : ReadAlone fields) (members : List Member)
    (rest : List Token) :
    ∀ n state, members.length < n →
      (Decoder.members fields n true state (moreMembers members ++ rest)).toOption =
        (gather fields state members).map (·, .closeBrace :: rest) := by
  induction members with
  | nil =>
      intro n state hn
      obtain ⟨n, rfl⟩ := Nat.exists_eq_add_one_of_ne_zero (Nat.ne_zero_of_lt hn)
      rw [moreMembers, List.singleton_append, Decoder.members]
      rfl
  | cons member more ih =>
      intro n state hn
      obtain ⟨n, rfl⟩ := Nat.exists_eq_add_one_of_ne_zero (Nat.ne_zero_of_lt hn)
      obtain ⟨name, tree⟩ := member
      simp only [moreMembers, List.cons_append, List.append_assoc]
      cases name with
      | none =>
          simp only [Decoder.members, gather, put]
          rfl
      | some key =>
          rw [Decoder.members]
          exact toOption_member_gather hfields
            (fun state => ih n state (Nat.lt_of_succ_lt_succ hn)) state key tree

/-- All members of an object are put in, one after the other. -/
theorem toOption_memberTokens (hfields : ReadAlone fields) (members : List Member)
    (rest : List Token) (state : σ) :
    (Decoder.members fields ((memberTokens members ++ rest).length + 1) false state
      (memberTokens members ++ rest)).toOption =
      (gather fields state members).map (·, .closeBrace :: rest) := by
  cases members with
  | nil =>
      rw [memberTokens, List.singleton_append, Decoder.members]
      rfl
  | cons member more =>
      obtain ⟨name, tree⟩ := member
      have hlength : more.length < (memberTokens ((name, tree) :: more) ++ rest).length := by
        have := length_lt_moreMembers more
        simp only [memberTokens, List.length_cons, List.length_append]
        omega
      revert hlength
      generalize (memberTokens ((name, tree) :: more) ++ rest).length = n
      intro hlength
      simp only [memberTokens, List.cons_append, List.append_assoc]
      cases name with
      | none =>
          simp only [Decoder.members, gather, put]
          rfl
      | some key =>
          rw [Decoder.members]
          exact toOption_member_gather hfields
            (fun state => toOption_members hfields more rest n state hlength) state key tree

theorem toOption_record_object (hfields : ReadAlone fields) (title : String) (start : σ)
    (members : List Member) (rest : List Token) :
    (record title fields start ((SyntaxTree.object members).tokens ++ rest)).toOption =
      (recordOf? fields start (.object members)).map (·, rest) := by
  have hmembers := toOption_memberTokens hfields members rest start
  rw [tokens, List.cons_append, record, recordOf?]
  cases hgather : gather fields start members with
  | none =>
      rw [hgather] at hmembers
      obtain ⟨e, he⟩ := toOption_eq_none_iff.mp hmembers
      simp only [he]
      rfl
  | some state =>
      rw [hgather] at hmembers
      simp only [toOption_eq_some_iff.mp hmembers]
      cases hmissing : missing? fields state with
      | none => simp [Except.toOption, Option.filter_some, hmissing]
      | some name => simp [Except.toOption, Option.filter_some, hmissing]

/-- What follows the fields of a record that is written as an array has to be its end. -/
def closed (result : Except DecodeError (σ × List Token)) : Option (σ × List Token) :=
  match result with
  | .ok (state, .closeBracket :: rest) => some (state, rest)
  | _ => none

theorem closed_item {field : Field σ} {more : List (Field σ)} {state : σ} {tree : SyntaxTree}
    {items : List SyntaxTree} {rest : List Token} (expected : String) (index : Nat)
    (hread : Reads (field.read state) (field.read state).on)
    (hmore : ∀ state, closed (positions expected (index + 1) more state (moreItems items ++ rest)) =
      (place more state items).map (·, rest)) :
    closed (positions.item expected index field more state
      (tree.tokens ++ (moreItems items ++ rest))) =
      (place (field :: more) state (tree :: items)).map (·, rest) := by
  rw [positions.item, place]
  cases hvalue : (field.read state).on tree with
  | none =>
      obtain ⟨e, he⟩ := hread.eq_error hvalue (moreItems items ++ rest)
      simp only [he]
      rfl
  | some next =>
      simp only [hread.eq_ok hvalue]
      exact hmore next

theorem closed_positions_more (hfields : ReadAlone fields) (expected : String)
    (items : List SyntaxTree) (rest : List Token) (index : Nat) (state : σ) :
    closed (positions expected (index + 1) fields state (moreItems items ++ rest)) =
      (place fields state items).map (·, rest) := by
  induction fields generalizing items index state with
  | nil =>
      rw [positions]
      cases items <;> rfl
  | cons field more ih =>
      obtain ⟨hfield, hmore⟩ := List.forall_mem_cons.mp hfields
      cases items with
      | nil =>
          rw [moreItems, List.singleton_append, positions, place]
          cases field.isOptional with
          | true => exact ih hmore [] (index + 1) state
          | false => rfl
      | cons tree items =>
          rw [← closed_item expected (index + 1) (hfield state)
            (fun state => ih hmore items (index + 1) state), moreItems]
          obtain ⟨first, rest, htokens, hbegins⟩ := tree.exists_tokens_eq_cons
          rw [htokens]
          simp only [List.cons_append, List.append_assoc]
          cases first <;> first | exact absurd hbegins (by decide) | simp only [positions]

theorem closed_positions (hfields : ReadAlone fields) (expected : String) (items : List SyntaxTree)
    (rest : List Token) (state : σ) :
    closed (positions expected 0 fields state (itemTokens items ++ rest)) =
      (place fields state items).map (·, rest) := by
  cases fields with
  | nil =>
      rw [positions]
      cases items with
      | nil => rfl
      | cons tree items =>
          obtain ⟨first, more, htokens, hbegins⟩ := tree.exists_tokens_eq_cons
          rw [itemTokens, htokens]
          cases first <;> first | exact absurd hbegins (by decide) | rfl
  | cons field more =>
      obtain ⟨hfield, hmore⟩ := List.forall_mem_cons.mp hfields
      cases items with
      | nil =>
          rw [itemTokens, List.singleton_append, positions, place]
          cases field.isOptional with
          | true => exact closed_positions_more hmore expected [] rest 0 state
          | false => rfl
      | cons tree items =>
          rw [← closed_item expected 0 (hfield state)
            (fun state => closed_positions_more hmore expected items rest 0 state), itemTokens]
          obtain ⟨first, rest, htokens, hbegins⟩ := tree.exists_tokens_eq_cons
          rw [htokens]
          simp only [List.cons_append, List.append_assoc]
          cases first <;> first | exact absurd hbegins (by decide) | simp only [positions]

theorem toOption_record_array (hfields : ReadAlone fields) (title : String) (start : σ)
    (items : List SyntaxTree) (rest : List Token) :
    (record title fields start ((SyntaxTree.array items).tokens ++ rest)).toOption =
      (recordOf? fields start (.array items)).map (·, rest) := by
  have hclosed := closed_positions hfields
    ("struct " ++ title ++ " with " ++ elementCount fields.length) items rest start
  rw [tokens, List.cons_append, record, recordOf?, ← hclosed]
  generalize positions _ 0 fields start (itemTokens items ++ rest) = result
  rcases result with e | ⟨state, _ | ⟨token, more⟩⟩
  · rfl
  · rfl
  · cases token <;> rfl

theorem reads_record (hfields : ReadAlone fields) (title : String) (start : σ) :
    Reads (record title fields start) (recordOf? fields start) := by
  intro tree rest
  cases tree with
  | object members => exact toOption_record_object hfields title start members rest
  | array items => exact toOption_record_array hfields title start items rest
  | string text => cases text <;> rfl
  | _ => rfl

end Decoder

end EnvScout.Json
