import EnvScout.Proofs.Lookup
import EnvScout.Settings.Apply

/-!
What members say after one of them is set, and when settings say nothing of the interpreter.
-/

namespace EnvScout

theorem Json.lookup_setMember (key : String) (value : Json) (members : List (String × Json))
    (other : String) :
    (setMember key value members).lookup other =
      if other = key then some value else members.lookup other := by
  induction members with
  | nil => rw [setMember, lookup_cons_eq]
  | cons member rest ih =>
      rw [setMember]
      split
      · rename_i hkey
        rw [lookup_cons_eq, lookup_cons_eq, hkey]
        split <;> rfl
      · rename_i hkey
        rw [lookup_cons_eq, lookup_cons_eq, ih]
        split
        · rename_i hother
          rw [if_neg fun h => hkey (hother.symm.trans h)]
        · rfl

namespace Settings

/-- No interpreter is set: the member is missing, null or an empty text. -/
theorem hasPython_eq_false_iff {members : Members} :
    hasPython members = false ↔ members.lookup "pythonPath" = none ∨
      members.lookup "pythonPath" = some .null ∨
        members.lookup "pythonPath" = some (.string "") := by
  rw [hasPython]
  cases members.lookup "pythonPath" with
  | none => simp
  | some value => cases value <;> simp

end Settings

end EnvScout
