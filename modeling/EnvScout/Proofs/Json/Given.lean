import EnvScout.Proofs.Json.SyntaxTree

/-!
The values that the members of an object give to the fields of a record. Objects with the same
members in another order, under other names of the same fields, or among others that no field goes
by, give the same values.
-/

namespace EnvScout.Json

/-- The values of the members that go by one of some names, in the order they come in. -/
def SyntaxTree.given (names : List String) (members : List Member) : List SyntaxTree :=
  members.filterMap fun member => if member.1.any (· ∈ names) then some member.2 else none

theorem SyntaxTree.given_cons (names : List String) (key : String) (tree : SyntaxTree)
    (members : List Member) :
    given names ((some key, tree) :: members) =
      if key ∈ names then tree :: given names members else given names members := by
  rw [given, List.filterMap_cons]
  by_cases h : key ∈ names <;> simp [h, given]

/-- How a field comes from one state to another by the values given to it: each of them has to find
it empty. -/
def Filled {α : Type} (value? : SyntaxTree → Option α) (start : Option α) :
    List SyntaxTree → Option α → Prop
  | [], final => final = start
  | tree :: rest, final =>
    start = none ∧ ∃ value, value? tree = some value ∧ Filled value? (some value) rest final

/-- A field that starts empty stays so or is given exactly one value. -/
theorem filled_none_iff {α : Type} {value? : SyntaxTree → Option α} {trees : List SyntaxTree}
    {final : Option α} :
    Filled value? none trees final ↔
      trees = [] ∧ final = none ∨
        ∃ tree value, trees = [tree] ∧ value? tree = some value ∧ final = some value := by
  rcases trees with _ | ⟨tree, _ | ⟨second, rest⟩⟩ <;> simp [Filled]

namespace SyntaxTree

theorem given_cons_of_mem {names : List String} {key : String} (h : key ∈ names) (tree : SyntaxTree)
    (members : List Member) :
    given names ((some key, tree) :: members) = tree :: given names members := by
  rw [given_cons, if_pos h]

theorem given_cons_of_not_mem {names : List String} {key : String} (h : key ∉ names)
    (tree : SyntaxTree) (members : List Member) :
    given names ((some key, tree) :: members) = given names members := by
  rw [given_cons, if_neg h]

/-- Every member has a name that is a text; an object with half of a surrogate pair in a name is
never read as a record. -/
def Named (members : List Member) : Prop :=
  ∀ member ∈ members, member.1.isSome

@[simp]
theorem named_nil : Named [] :=
  List.forall_mem_nil _

@[simp]
theorem not_named_none (value : SyntaxTree) (rest : List Member) : ¬Named ((none, value) :: rest) :=
  fun h => Bool.false_ne_true (h _ List.mem_cons_self)

@[simp]
theorem named_some (name : String) (value : SyntaxTree) (rest : List Member) :
    Named ((some name, value) :: rest) ↔ Named rest := by
  simp [Named]

/-- The members of two objects differ at most in their order, in which name of a field they go by,
and in those that go by no name of any field. -/
inductive Rearranged (fields : List (List String)) : List Member → List Member → Prop
  | reordered {members others : List Member} (h : members.Perm others) :
      Rearranged fields members others
  | renamed {names : List String} {name other : String} (hfield : names ∈ fields)
      (hname : name ∈ names) (hother : other ∈ names) (value : SyntaxTree) (rest : List Member) :
      Rearranged fields ((some name, value) :: rest) ((some other, value) :: rest)
  | added {name : String} (h : ∀ names ∈ fields, name ∉ names) (value : SyntaxTree)
      (members : List Member) : Rearranged fields members ((some name, value) :: members)
  | symm {members others : List Member} (h : Rearranged fields members others) :
      Rearranged fields others members
  | trans {members others more : List Member} (h : Rearranged fields members others)
      (hmore : Rearranged fields others more) : Rearranged fields members more

variable {fields : List (List String)} {members others : List Member}

theorem Rearranged.named_iff (h : Rearranged fields members others) :
    Named members ↔ Named others := by
  induction h with
  | reordered h => exact ⟨fun hnamed m hm => hnamed m (h.mem_iff.mpr hm),
      fun hnamed m hm => hnamed m (h.mem_iff.mp hm)⟩
  | renamed => simp
  | added => simp
  | symm _ ih => exact ih.symm
  | trans _ _ ih ihmore => exact ih.trans ihmore

/-- No name stands for two fields. -/
def Apart (fields : List (List String)) : Prop :=
  ∀ names ∈ fields, ∀ others ∈ fields, ∀ name ∈ names, name ∈ others → names = others

theorem Rearranged.given_perm (hapart : Apart fields) (h : Rearranged fields members others)
    {names : List String} (hnames : names ∈ fields) :
    (given names members).Perm (given names others) := by
  induction h with
  | reordered h => exact h.filterMap _
  | @renamed group name other hfield hname hother value rest =>
      by_cases hmem : name ∈ names
      · have hgroup : group = names := hapart group hfield names hnames name hname hmem
        rw [given_cons_of_mem hmem, given_cons_of_mem (hgroup ▸ hother)]
      · have hmem' : other ∉ names := fun hother' =>
          hmem (hapart group hfield names hnames other hother hother' ▸ hname)
        rw [given_cons_of_not_mem hmem, given_cons_of_not_mem hmem']
  | added h => rw [given_cons_of_not_mem (h names hnames)]
  | symm _ ih => exact ih.symm
  | trans _ _ ih ihmore => exact ih.trans ihmore

variable {names : List String}

theorem Rearranged.given_of_nil (hapart : Apart fields) (h : Rearranged fields members others)
    (hnames : names ∈ fields) (hnil : given names members = []) : given names others = [] :=
  List.nil_perm.mp (hnil ▸ h.given_perm hapart hnames)

/-- What a field is given exactly once it is given by every rearrangement of the members. -/
theorem Rearranged.given_of_singleton (hapart : Apart fields)
    (h : Rearranged fields members others) (hnames : names ∈ fields) {tree : SyntaxTree}
    (hone : given names members = [tree]) : given names others = [tree] :=
  (List.singleton_perm.mp (hone ▸ h.given_perm hapart hnames)).symm

end SyntaxTree

end EnvScout.Json
